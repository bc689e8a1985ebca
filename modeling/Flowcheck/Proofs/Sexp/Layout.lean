import Flowcheck.Proofs.Sexp.Adequacy
import Flowcheck.Proofs.Sexp.Lines
import Mathlib.Data.List.Forall2

/-!
# The layout of printed values

The pretty printer works with a column that is handed down and never looked at in the text. That it
is the column where the value stands is shown in two ways. Line by line: a line is a part of the
value in its flat form, with spaces and opening parentheses in front of it and closing ones behind
it, and the part ends within the width if it could have been broken (`Row`). Parenthesis by
parenthesis: a list that goes over several lines would not have fitted where it stands (`Stands`).

Neither description mentions the printer. The lines are the ones that the text has, the columns are
counted in it, and which list stands at a parenthesis is what reading finds there.
-/

namespace Flowcheck.Sexp

/-! ## Lines -/

/-- The lines of a text. -/
def linesOf (text : List Char) : List (List Char) := text.splitOn '\n'

theorem linesOf_append_newline (text rest : List Char) :
    linesOf (text ++ '\n' :: rest) = linesOf text ++ linesOf rest :=
  List.splitOnP_append_cons text rest rfl

theorem linesOf_of_notMem {text : List Char} (h : '\n' ∉ text) : linesOf text = [text] := by
  refine List.splitOnP_eq_singleton fun c hc ↦ ?_
  rw [beq_eq_false_iff_ne]
  rintro rfl
  exact h hc

/-- What stands in front of a value on its line. -/
def margin (spaces opens : Nat) : List Char := List.replicate spaces ' ' ++ List.replicate opens '('

/-- What stands behind a value on its line. The space protects the line end from a backslash. -/
def ending (closes : Nat) (guarded : Bool) : List Char :=
  List.replicate closes ')' ++ if guarded then [' '] else []

/-- A line of a layout: spaces, opening parentheses, the flat form of a value, closing parentheses,
and a space if the line end needs one. -/
structure Row where
  spaces : Nat
  opens : Nat
  value : Sexp
  closes : Nat
  guarded : Bool

namespace Row

/-- The line up to the end of the value. -/
def front (r : Row) : List Char := margin r.spaces r.opens ++ flatChars r.value

/-- The whole line. -/
def text (r : Row) : List Char := r.front ++ ending r.closes r.guarded

/-- The line keeps to the width, unless its value has nowhere to break, and has a space at the end
only behind a backslash. -/
structure Keeps (width : Int) (r : Row) : Prop where
  fits : ∀ items, r.value = .list items → 2 ≤ items.length → (r.front.length : Int) ≤ width
  guarded : r.guarded = true →
    (r.front ++ List.replicate r.closes ')').getLast? = some '\\'

end Row

/-- The parts into which a value is cut when some of the lists in it with two or more items are
broken up. -/
inductive Cut : Sexp → List Sexp → Prop where
  | whole (v : Sexp) : Cut v [v]
  | items {vs : List Sexp} {parts : List (List Sexp)} (several : 2 ≤ vs.length)
    (each : List.Forall₂ Cut vs parts) : Cut (.list vs) parts.flatten

/-- The lines of a text are rows with the parts of a value, in their order. -/
def HasRows (width : Int) (v : Sexp) (text : List Char) : Prop :=
  ∃ rows : List Row, linesOf text = rows.map Row.text ∧ Cut v (rows.map Row.value) ∧
    ∀ r ∈ rows, r.Keeps width

/-! ### Flat values -/

theorem newline_notMem_flatChars (v : Sexp) : '\n' ∉ flatChars v :=
  fun mem ↦ (line_flatChars v _ mem).1 rfl

theorem Row.newline_notMem_text (r : Row) : '\n' ∉ r.text := by
  have flat := newline_notMem_flatChars r.value
  rw [text, front, margin, ending]
  split <;> simp [flat, List.mem_replicate]

theorem getLast?_flatChars_of_endsInBackslash {v : Sexp} (h : v.endsInBackslash = true) :
    (flatChars v).getLast? = some '\\' := by
  match v with
  | .atom a => exact of_decide_eq_true h

section Flat

variable {layout : Layout} {column : Int} {items : List Sexp}

theorem staysFlat_atom (layout : Layout) (column : Int) (a : Atom) :
    staysFlat layout column (.atom a) = true := by simp [staysFlat]

theorem staysFlat_nil (layout : Layout) (column : Int) :
    staysFlat layout column (.list []) = true := by simp [staysFlat]

/-- A list that is not written flat has two items at least, and is too long for its column. -/
theorem overflows_of_not_staysFlat (h : staysFlat layout column (.list items) = false) :
    2 ≤ items.length ∧ layout.width < column + (flatChars (.list items)).length := by
  simp only [staysFlat, Bool.or_eq_false_iff, decide_eq_false_iff_not] at h
  omega

theorem fits_of_staysFlat (h : staysFlat layout column (.list items) = true)
    (several : 2 ≤ items.length) : column + (flatChars (.list items)).length ≤ layout.width := by
  simp only [staysFlat, Bool.or_eq_true, decide_eq_true_eq] at h
  omega

theorem prettyChars_of_staysFlat {v : Sexp} (h : staysFlat layout column v = true) :
    prettyChars layout column v = flatChars v := by
  match v with
  | .atom a => rw [prettyChars, flatChars]
  | .list [] => rfl
  | .list (v :: vs) => rw [prettyChars, if_pos h]

/-- A value that is written flat is a line of its own. -/
theorem hasRows_flat {v : Sexp} {spaces opens closes : Nat} {guarded : Bool}
    (h : staysFlat layout (spaces + opens) v = true)
    (guards : guarded = true → closes = 0 ∧ v.endsInBackslash = true) :
    HasRows layout.width v
      (margin spaces opens ++ (flatChars v ++ ending closes guarded)) := by
  let r : Row := ⟨spaces, opens, v, closes, guarded⟩
  refine ⟨[r], ?_, .whole v, ?_⟩
  · rw [← List.append_assoc]
    exact linesOf_of_notMem r.newline_notMem_text
  · intro r' hr'
    obtain rfl := List.mem_singleton.1 hr'
    constructor
    · rintro items rfl several
      have fits := fits_of_staysFlat h several
      simp only [Row.front, r, margin, List.length_append, List.length_replicate]
      omega
    · intro guarded
      obtain ⟨rfl, last⟩ := guards guarded
      simp [Row.front, r, getLast?_flatChars_of_endsInBackslash last]

end Flat

/-! ### Broken lists

Behind the last item of a broken list comes its closing parenthesis, and behind every other one the
end of the line. -/

/-- How many lists close behind an item that others may follow. -/
def closesBehind (others : List Sexp) (closes : Nat) : Nat :=
  if others.isEmpty then closes + 1 else 0

/-- Whether the line end behind an item that others may follow is protected. -/
def guardedBehind (others : List Sexp) (item : List Char) : Bool :=
  !others.isEmpty && item.getLast? = some '\\'

theorem guards_guardedBehind {layout : Layout} {column : Int} {v : Sexp} {others : List Sexp}
    {closes : Nat} (h : guardedBehind others (prettyChars layout column v) = true) :
    closesBehind others closes = 0 ∧ v.endsInBackslash = true := by
  rw [guardedBehind, Bool.and_eq_true, decide_eq_true_eq, getLast?_prettyChars_iff] at h
  refine ⟨if_neg ?_, h.2⟩
  simpa using h.1

theorem margin_append_cons (spaces opens : Nat) (text : List Char) :
    margin spaces opens ++ '(' :: text = margin spaces (opens + 1) ++ text := by
  rw [margin, margin, List.replicate_succ']
  simp only [List.append_assoc, List.singleton_append]

theorem padding_eq_margin (column : Int) : padding column = margin column.toNat 0 :=
  (List.append_nil _).symm

theorem lineEnd_eq (item : List Char) (v : Sexp) (vs : List Sexp) (closes : Nat) :
    lineEnd item =
      ending (closesBehind (v :: vs) closes) (guardedBehind (v :: vs) item) ++ ['\n'] := by
  by_cases h : item.getLast? = some '\\'
  · simp [lineEnd, ending, closesBehind, guardedBehind, h]
  · simp [lineEnd, ending, closesBehind, guardedBehind, h]

/-- The lines of the items behind the first, given what is in front of them. -/
def HasMoreRows (layout : Layout) (column : Int) (item : List Char) (vs : List Sexp)
    (closes : Nat) : Prop :=
  ∃ (rows : List Row) (parts : List (List Sexp)),
    (∀ front, linesOf (front ++ (prettyMore layout column item vs ++ ending closes false)) =
      linesOf (front ++ ending (closesBehind vs closes) (guardedBehind vs item)) ++
        rows.map Row.text) ∧
    List.Forall₂ Cut vs parts ∧ rows.map Row.value = parts.flatten ∧
      ∀ r ∈ rows, r.Keeps layout.width

mutual

/-- **A value that is printed behind a margin of the width of its column has rows.** -/
theorem hasRows_prettyChars {layout : Layout} (step : 0 ≤ layout.indent) :
    ∀ (v : Sexp) (spaces opens : Nat) {closes : Nat} {guarded : Bool},
      (guarded = true → closes = 0 ∧ v.endsInBackslash = true) → HasRows layout.width v
        (margin spaces opens ++ (prettyChars layout (spaces + opens) v ++ ending closes guarded))
  | .atom a, spaces, opens, _, _, guards => by
    have flat := staysFlat_atom layout (spaces + opens) a
    rw [prettyChars_of_staysFlat flat]
    exact hasRows_flat flat guards
  | .list [], spaces, opens, _, _, guards => by
    have flat := staysFlat_nil layout (spaces + opens)
    rw [prettyChars_of_staysFlat flat]
    exact hasRows_flat flat guards
  | .list (v :: vs), spaces, opens, closes, guarded, guards => by
    by_cases flat : staysFlat layout (spaces + opens) (.list (v :: vs)) = true
    · rw [prettyChars_of_staysFlat flat]
      exact hasRows_flat flat guards
    · obtain rfl : guarded = false := by
        simpa [endsInBackslash] using fun h ↦ (guards h).2
      have several := (overflows_of_not_staysFlat (by simpa using flat)).1
      have next : ((spaces : Int) + opens + 1) = spaces + (opens + 1 : Nat) := by omega
      rw [prettyChars, if_neg flat, next]
      set item := prettyChars layout (spaces + (opens + 1 : Nat)) v
      have guards : guardedBehind vs item = true →
          closesBehind vs closes = 0 ∧ v.endsInBackslash = true := guards_guardedBehind
      obtain ⟨rows, lines, cut, keeps⟩ := hasRows_prettyChars step v spaces (opens + 1) guards
      have right : 0 ≤ (spaces : Int) + opens + layout.indent := by omega
      obtain ⟨rows', parts, lines', each, values, keeps'⟩ :=
        hasMoreRows_prettyMore step vs item closes right
      refine ⟨rows ++ rows', ?_, ?_, List.forall_mem_append.2 ⟨keeps, keeps'⟩⟩
      · rw [List.cons_append, margin_append_cons, List.append_assoc, ← List.append_assoc, lines',
          List.append_assoc, lines, List.map_append]
      · rw [List.map_append, values]
        exact .items several (.cons cut each)

theorem hasMoreRows_prettyMore {layout : Layout} (step : 0 ≤ layout.indent) :
    ∀ (vs : List Sexp) {column : Int} (item : List Char) (closes : Nat), 0 ≤ column →
      HasMoreRows layout column item vs closes
  | [], column, item, closes, _ => by
    refine ⟨[], [], fun front ↦ ?_, .nil, rfl, by simp⟩
    rw [List.map_nil, List.append_nil]
    rfl
  | v :: vs, column, item, closes, nonneg => by
    obtain ⟨n, rfl⟩ := Int.eq_ofNat_of_zero_le nonneg
    set text := prettyChars layout n v with htext
    have guards : guardedBehind vs text = true →
        closesBehind vs closes = 0 ∧ v.endsInBackslash = true := guards_guardedBehind
    obtain ⟨rows, lines, cut, keeps⟩ := hasRows_prettyChars step v n 0 guards
    rw [Int.natCast_zero, Int.add_zero, ← htext] at lines
    obtain ⟨rows', parts, lines', each, values, keeps'⟩ :=
      hasMoreRows_prettyMore step vs text closes nonneg
    refine ⟨rows ++ rows', rows.map Row.value :: parts, fun front ↦ ?_, .cons cut each, ?_,
      List.forall_mem_append.2 ⟨keeps, keeps'⟩⟩
    · have here : prettyMore layout n item (v :: vs) ++ ending closes false =
          ending (closesBehind (v :: vs) closes) (guardedBehind (v :: vs) item) ++
            '\n' :: (margin n 0 ++ text ++
              (prettyMore layout n text vs ++ ending closes false)) := by
        rw [prettyMore, lineEnd_eq item v vs closes, padding_eq_margin, Int.toNat_natCast]
        simp only [List.append_assoc, List.cons_append, List.nil_append]
        rfl
      rw [here, ← List.append_assoc, linesOf_append_newline, lines', List.append_assoc, lines,
        List.map_append]
    · rw [List.map_append, values, List.flatten_cons]

end

/-! ## Parentheses -/

/-- The column behind a text: how many characters its last line has. -/
def columnAfter (text : List Char) : Nat := (text.reverse.takeWhile (· ≠ '\n')).length

theorem columnAfter_append {text : List Char} (h : '\n' ∉ text) (before : List Char) :
    columnAfter (before ++ text) = columnAfter before + text.length := by
  have line : ∀ c ∈ text.reverse, decide (c ≠ '\n') = true := by
    intro c hc
    rw [decide_eq_true_eq]
    rintro rfl
    exact h (List.mem_reverse.1 hc)
  rw [columnAfter, List.reverse_append, List.takeWhile_append_of_pos line, List.length_append,
    List.length_reverse, Nat.add_comm, columnAfter]

theorem columnAfter_newline (before : List Char) : columnAfter (before ++ ['\n']) = 0 := by
  simp [columnAfter]

/-- The items of a broken list begin at the column that they are moved to. -/
theorem columnAfter_lineEnd_padding (before item : List Char) (n : Nat) :
    columnAfter (before ++ (lineEnd item ++ padding n)) = n := by
  obtain ⟨space, h⟩ : ∃ space, lineEnd item = space ++ ['\n'] := by
    rw [lineEnd]
    split
    · exact ⟨[' '], rfl⟩
    · exact ⟨[], rfl⟩
  have line : '\n' ∉ padding n := fun mem ↦ absurd (List.eq_of_mem_replicate mem) (by decide)
  rw [h, ← List.append_assoc, columnAfter_append line, ← List.append_assoc, columnAfter_newline,
    padding, List.length_replicate, Int.toNat_natCast, Nat.zero_add]

/-- Behind a text stands a list, written as `here`. If it goes over several lines it has two items
or more and would not have fitted there. -/
inductive Stands (width : Int) (before here : List Char) : Prop where
  | intro {items : List Sexp} (closed : here.getLast? = some ')')
    (reads : readAllChars here = .ok [.list items])
    (breaks : '\n' ∈ here → 2 ≤ items.length ∧
      width < columnAfter before + (flatChars (.list items)).length)

/-- At every opening parenthesis of a text, which comes behind another one, stands a list. -/
def ListsStand (width : Int) (before text : List Char) : Prop :=
  ∀ pre post, text = pre ++ '(' :: post →
    ∃ here rest, '(' :: post = here ++ rest ∧ Stands width (before ++ pre) here

namespace ListsStand

variable {width : Int} {before text rest : List Char}

theorem of_notMem (h : '(' ∉ text) : ListsStand width before text := by
  rintro pre post rfl
  exact absurd (List.mem_append_right pre List.mem_cons_self) h

theorem append (h : ListsStand width before text) (h' : ListsStand width (before ++ text) rest) :
    ListsStand width before (text ++ rest) := by
  intro pre post found
  rcases List.append_eq_append_iff.1 found with ⟨more, rfl, behind⟩ | ⟨more, rfl, behind⟩
  · obtain ⟨here, others, same, stands⟩ := h' more post behind
    exact ⟨here, others, same, List.append_assoc before text more ▸ stands⟩
  · match more, behind with
    | [], behind =>
      obtain ⟨here, others, same, stands⟩ := h' [] post behind.symm
      exact ⟨here, others, same, by simpa using stands⟩
    | c :: more, behind =>
      obtain ⟨rfl, rfl⟩ := List.cons.inj behind
      obtain ⟨here, others, same, stands⟩ := h pre more rfl
      refine ⟨here, others ++ rest, ?_, stands⟩
      rw [← List.append_assoc, ← same]
      rfl

/-- A list stands at its own parenthesis, and the others are behind that. -/
theorem list (whole : Stands width before ('(' :: text))
    (inner : ListsStand width (before ++ ['(']) text) : ListsStand width before ('(' :: text) := by
  intro pre post found
  match pre, found with
  | [], found =>
    refine ⟨'(' :: text, [], ?_, by simpa using whole⟩
    rw [found, List.append_nil, List.nil_append]
  | c :: pre, found =>
    obtain ⟨rfl, inside⟩ := List.cons.inj found
    obtain ⟨here, behind, same, stands⟩ := inner pre post inside
    exact ⟨here, behind, same, by simpa using stands⟩

end ListsStand

/-! ### The parentheses of printed values -/

theorem readAllChars_flatChars (v : Sexp) : readAllChars (flatChars v) = .ok [v] := by
  have tokens := sourceTokens_flat v
  rw [flat, String.toList_ofList] at tokens
  rw [readAllChars_eq_ok_iff, tokens, itemTokens_singleton]

theorem readAllChars_prettyChars (layout : Layout) (column : Int) (v : Sexp) :
    readAllChars (prettyChars layout column v) = .ok [v] := by
  rw [readAllChars_eq_ok_iff, sourceTokens_prettyChars, itemTokens_singleton]

theorem opening_notMem_atom (a : Atom) : '(' ∉ a.chars :=
  fun mem ↦ ne_of_isAtomChar (a.legal _ mem) (by decide) rfl

mutual

theorem listsStand_flatChars (width : Int) : ∀ (v : Sexp) (before : List Char),
    ListsStand width before (flatChars v)
  | .atom a, before => by
    rw [flatChars]
    exact .of_notMem (opening_notMem_atom a)
  | .list vs, before => by
    have reads := readAllChars_flatChars (.list vs)
    have closed := getLast?_flatChars_list vs
    have line := newline_notMem_flatChars (.list vs)
    rw [flatChars] at reads closed line ⊢
    refine .list ⟨closed, reads, fun mem ↦ absurd mem line⟩ ?_
    match vs with
    | [] =>
      rw [flatItems]
      exact .of_notMem (by decide)
    | v :: vs =>
      rw [flatItems]
      exact (listsStand_flatChars width v _).append (listsStand_flatMore width vs _)

theorem listsStand_flatMore (width : Int) : ∀ (vs : List Sexp) (before : List Char),
    ListsStand width before (flatMore vs)
  | [], before => by
    rw [flatMore]
    exact .of_notMem (by decide)
  | v :: vs, before => by
    rw [flatMore, ← List.singleton_append]
    refine ListsStand.append (.of_notMem (by decide)) ?_
    exact (listsStand_flatChars width v _).append (listsStand_flatMore width vs _)

end

mutual

/-- **A value that is printed at the column where it stands has its lists where they fit.** -/
theorem listsStand_prettyChars {layout : Layout} (step : 0 ≤ layout.indent) :
    ∀ (v : Sexp) (before : List Char),
      ListsStand layout.width before (prettyChars layout (columnAfter before) v)
  | .atom a, before => by
    rw [prettyChars_of_staysFlat (staysFlat_atom layout _ a)]
    exact listsStand_flatChars _ _ _
  | .list [], before => by
    rw [prettyChars_of_staysFlat (staysFlat_nil layout _)]
    exact listsStand_flatChars _ _ _
  | .list (v :: vs), before => by
    by_cases flat : staysFlat layout (columnAfter before) (.list (v :: vs)) = true
    · rw [prettyChars_of_staysFlat flat]
      exact listsStand_flatChars _ _ _
    · have stands : Stands layout.width before
          (prettyChars layout (columnAfter before) (.list (v :: vs))) :=
        ⟨getLast?_prettyChars_list _ _ _, readAllChars_prettyChars _ _ _,
          fun _ ↦ overflows_of_not_staysFlat (by simpa using flat)⟩
      have next : ((columnAfter before : Int) + 1) = (columnAfter (before ++ ['(']) : Nat) := by
        rw [columnAfter_append (by decide)]
        rfl
      rw [prettyChars, if_neg flat] at stands ⊢
      refine .list stands ?_
      rw [next]
      refine (listsStand_prettyChars step v _).append ?_
      exact listsStand_prettyMore step vs _ (by omega)

theorem listsStand_prettyMore {layout : Layout} (step : 0 ≤ layout.indent) :
    ∀ (vs : List Sexp) {column : Int} (item : List Char) {before : List Char}, 0 ≤ column →
      ListsStand layout.width before (prettyMore layout column item vs)
  | [], column, item, before, _ => by
    rw [prettyMore]
    exact .of_notMem (by decide)
  | v :: vs, column, item, before, nonneg => by
    obtain ⟨n, rfl⟩ := Int.eq_ofNat_of_zero_le nonneg
    have column : columnAfter (before ++ (lineEnd item ++ padding n)) = n :=
      columnAfter_lineEnd_padding before item n
    have margin : '(' ∉ lineEnd item ++ padding n := fun mem ↦
      absurd (isBlank_lineEnd_padding item n _ mem) (by decide)
    rw [prettyMore, List.append_assoc]
    refine ListsStand.append (.of_notMem margin) ?_
    have own := listsStand_prettyChars step v (before ++ (lineEnd item ++ padding n))
    rw [column] at own
    exact own.append (listsStand_prettyMore step vs _ (Int.natCast_nonneg n))

end

/-! ### Lists that end with a parenthesis

A list in a text ends where its parenthesis is closed. Of two texts that begin at the same place and
are read as one list each, the longer one would have further values in it. -/

theorem isAtomChar_closing : isAtomChar ')' = false := by decide

theorem Lexes.append_closing {text rest : List Char} {ts us : List Token} (h : Lexes text ts)
    (h' : Lexes rest us) : Lexes (text ++ ')' :: rest) (ts ++ .closing :: us) := by
  induction h with
  | done => exact .closing h'
  | opening _ ih => exact .opening ih
  | closing _ ih => exact .closing ih
  | blank hc _ ih => exact .blank hc ih
  | @atom a more ts maximal _ ih =>
    rw [List.append_assoc]
    refine .atom a ?_ ih
    match more, maximal with
    | [], _ => exact isAtomChar_closing
    | _ :: _, maximal => exact maximal

theorem sourceTokens_append_closing (text rest : List Char) :
    sourceTokens (text ++ ')' :: rest) = sourceTokens text ++ .closing :: sourceTokens rest := by
  have cut : startsLine (')' :: rest) = false := startsLine_of_ne (by decide) (by decide) rest
  rw [sourceTokens, spliceLines_append text cut, spliceLines_cons_of_ne (by decide)]
  exact lexes_iff.1 ((lexes_tokens _).append_closing (lexes_tokens _))

/-- Behind values there are values if there are some altogether. -/
theorem AreValues.of_append {ts us : List Token} (h : AreValues ts) (h' : AreValues (ts ++ us)) :
    AreValues us := by
  rw [areValues_iff_balanced] at h h' ⊢
  have total := h.total
  constructor
  · intro front hfront
    have early := h'.early (ts ++ front) ((List.prefix_append_right_inj ts).2 hfront)
    rw [List.count_append, List.count_append] at early
    omega
  · have total' := h'.total
    rw [List.count_append, List.count_append] at total'
    omega

theorem eq_nil_of_reads {text rest : List Char} {v w : Sexp} (closed : text.getLast? = some ')')
    (reads : readAllChars text = .ok [v]) (closed' : (text ++ rest).getLast? = some ')')
    (reads' : readAllChars (text ++ rest) = .ok [w]) : rest = [] := by
  by_contra ne
  rw [List.getLast?_append_of_ne_nil _ ne] at closed'
  obtain ⟨text, rfl⟩ := List.getLast?_eq_some_iff.1 closed
  obtain ⟨rest, rfl⟩ := List.getLast?_eq_some_iff.1 closed'
  rw [readAllChars_eq_ok_iff] at reads reads'
  set us := sourceTokens (rest ++ [')'])
  have front : sourceTokens (text ++ [')']) = sourceTokens text ++ [.closing] :=
    sourceTokens_append_closing text []
  have tokens : itemTokens [w] = itemTokens [v] ++ us := by
    rw [← reads, ← reads', front, List.append_assoc, List.append_assoc]
    exact sourceTokens_append_closing text (rest ++ [')'])
  have values : AreValues us :=
    (areValues_itemTokens [v]).of_append (tokens ▸ areValues_itemTokens [w])
  obtain ⟨ws, hws⟩ := areValues_iff.1 values
  rw [← hws, ← itemTokens_append] at tokens
  have none : ws = [] := (List.cons.inj (itemTokens_injective tokens)).2.symm
  have closes : us = sourceTokens rest ++ [.closing] := sourceTokens_append_closing rest []
  rw [← hws, none, itemTokens] at closes
  simp at closes

/-- Where a list begins decides where it ends. -/
theorem eq_of_reads {here here' rest rest' : List Char} {v w : Sexp}
    (same : here ++ rest = here' ++ rest') (closed : here.getLast? = some ')')
    (closed' : here'.getLast? = some ')') (reads : readAllChars here = .ok [v])
    (reads' : readAllChars here' = .ok [w]) : here = here' := by
  rcases List.append_eq_append_iff.1 same with ⟨more, rfl, -⟩ | ⟨more, rfl, -⟩
  · rw [eq_nil_of_reads closed reads closed' reads', List.append_nil]
  · rw [eq_nil_of_reads closed' reads' closed reads, List.append_nil]

/-! ## The layout -/

/-- How a value is laid out in a text: it has rows, and whatever list goes over several lines has
two items or more and would not have fitted at the column where it begins. -/
structure LaidOut (width : Int) (v : Sexp) (text : List Char) : Prop where
  rows : HasRows width v text
  broken : ∀ before here rest items, text = before ++ (here ++ rest) → here.head? = some '(' →
    here.getLast? = some ')' → readAllChars here = .ok [.list items] → '\n' ∈ here →
      2 ≤ items.length ∧ width < columnAfter before + (flatChars (.list items)).length

/-- **A printed value is laid out in its text**, in every layout that does not step to the left. -/
theorem laidOut_pretty {layout : Layout} (step : 0 ≤ layout.indent) (v : Sexp) :
    LaidOut layout.width v (pretty layout v).toList := by
  rw [pretty, String.toList_ofList]
  constructor
  case rows =>
    have guards : false = true → 0 = 0 ∧ v.endsInBackslash = true := by simp
    simpa [margin, ending] using hasRows_prettyChars step v 0 0 guards
  case broken =>
    intro before here rest items found opened closed reads several
    have stand : ListsStand layout.width [] (prettyChars layout 0 v) :=
      listsStand_prettyChars step v []
    obtain ⟨more, rfl⟩ := List.head?_eq_some_iff.1 opened
    obtain ⟨here, behind, same, closed', reads', breaks⟩ := stand before (more ++ rest) found
    obtain rfl := eq_of_reads same closed closed' reads reads'
    rw [reads] at reads'
    cases reads'
    exact breaks several

/-- A first item that is a list, and an atom whose backslash is kept from the line end. -/
theorem laidOut_pretty_backslash :
    ∃ a b : Atom, a.text = "a" ∧ b.text = "b\\" ∧
      let v : Sexp := .list [.list [.atom a, .atom a], .atom b, .list [.atom b, .list []]]
      pretty ⟨8, 2⟩ v = "((a a)\n  b\\ \n  (b\\ \n    ()))" ∧
        LaidOut 8 v (pretty ⟨8, 2⟩ v).toList := by
  let a : Atom := ⟨['a'], by decide, List.all_eq_true.mp (by decide)⟩
  let b : Atom := ⟨['b', '\\'], by decide, List.all_eq_true.mp (by decide)⟩
  have step : 0 ≤ (⟨8, 2⟩ : Layout).indent := by decide
  exact ⟨a, b, rfl, rfl, by decide, laidOut_pretty step _⟩

end Flowcheck.Sexp
