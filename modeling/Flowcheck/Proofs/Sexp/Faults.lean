import Flowcheck.Fault
import Flowcheck.Proofs.Checks
import Flowcheck.Proofs.Sexp.Descent
import Flowcheck.Proofs.Sexp.Surface
import Mathlib.Data.List.Induction

/-!
# Where a text cannot be read

A text that cannot be read closes a list that is not open, or it leaves one open at its end. Which
of the two it is, and where the first of such parentheses stands, is a matter of counting
parentheses in the fronts of the spliced text. Reading arrives at the same answer from its stack:
the height of the stack is what the text read so far has opened and not closed, and what goes on at
a place depends on the rest of the text and on that height alone.

A parenthesis that closes too much comes before everything else. Lists that are left open behind it
are never looked at.
-/

namespace Flowcheck.Sexp

/-! ## The height of the stack -/

/-- How many more lists a text opens than it closes. -/
def excess (text : List Char) : Int := text.count '(' - text.count ')'

/-- With `depth` lists open in front of it, a text closes none that is not open. -/
def StaysOpen (depth : Int) (text : List Char) : Prop :=
  ∀ front, front <+: text → 0 ≤ depth + excess front

/-- How reading a text fails, with `depth` lists open in front of it. -/
inductive FailsAt (depth : Int) (text : List Char) : ReadFault → Prop where
  | stray {front rest : List Char} (split : text = front ++ ')' :: rest)
      (opens : StaysOpen depth front) (level : depth + excess front = 0) :
      FailsAt depth text (.stray (')' :: rest))
  | unclosed (opens : StaysOpen depth text) (left : 0 < depth + excess text) :
      FailsAt depth text .unclosed

@[simp] theorem excess_nil : excess [] = 0 := rfl

theorem excess_cons (c : Char) (text : List Char) :
    excess (c :: text) = excess [c] + excess text := by
  simp only [excess, List.count_cons, List.count_nil]
  omega

theorem excess_append (front back : List Char) :
    excess (front ++ back) = excess front + excess back := by
  simp only [excess, List.count_append]
  omega

theorem excess_of_isBlank {c : Char} (h : Text.isBlank c = true) : excess [c] = 0 := by
  have hopen : c ≠ '(' := by rintro rfl; simp at h
  have hclose : c ≠ ')' := by rintro rfl; simp at h
  simp [excess, hopen, hclose]

theorem excess_of_isAtomChar {c : Char} (h : isAtomChar c = true) : excess [c] = 0 := by
  have hopen : c ≠ '(' := ne_of_isAtomChar h (by decide)
  have hclose : c ≠ ')' := ne_of_isAtomChar h (by decide)
  simp [excess, hopen, hclose]

theorem StaysOpen.nonneg {depth : Int} {text : List Char} (h : StaysOpen depth text) :
    0 ≤ depth := by
  simpa using h [] List.nil_prefix

theorem staysOpen_nil {depth : Int} : StaysOpen depth [] ↔ 0 ≤ depth := by
  refine ⟨StaysOpen.nonneg, fun h front hfront ↦ ?_⟩
  rw [List.prefix_nil.1 hfront, excess_nil]
  omega

theorem staysOpen_cons {depth : Int} {c : Char} {text : List Char} (h : 0 ≤ depth) :
    StaysOpen depth (c :: text) ↔ StaysOpen (depth + excess [c]) text := by
  constructor
  · intro opens front hfront
    have here := opens (c :: front) ((List.prefix_cons_inj c).2 hfront)
    rw [excess_cons] at here
    omega
  · intro opens front hfront
    rcases List.prefix_cons_iff.1 hfront with rfl | ⟨inner, rfl, hinner⟩
    · rw [excess_nil]
      omega
    · have here := opens inner hinner
      rw [excess_cons]
      omega

/-! ## One more character in front -/

theorem failsAt_nil {depth : Int} {fault : ReadFault} :
    FailsAt depth [] fault ↔ fault = .unclosed ∧ 0 < depth := by
  constructor
  · rintro (⟨split, -, -⟩ | ⟨-, left⟩)
    · simp at split
    · exact ⟨rfl, by simpa using left⟩
  · rintro ⟨rfl, left⟩
    exact .unclosed (staysOpen_nil.2 (Int.le_of_lt left)) (by simpa using left)

/-- A character that closes nothing too much changes the height, and the failure stays the same. -/
theorem failsAt_cons {depth : Int} {c : Char} {text : List Char} {fault : ReadFault}
    (h : 0 ≤ depth) (h' : 0 ≤ depth + excess [c]) :
    FailsAt depth (c :: text) fault ↔ FailsAt (depth + excess [c]) text fault := by
  constructor
  · rintro (⟨split, opens, level⟩ | ⟨opens, left⟩)
    · rcases List.append_eq_cons_iff.1 split.symm with ⟨rfl, closing⟩ | ⟨front, rfl, rfl⟩
      · -- The height would have fallen below zero.
        obtain ⟨rfl, rfl⟩ := List.cons.inj closing
        rw [excess_nil] at level
        have closes : excess [')'] = -1 := rfl
        omega
      · rw [excess_cons] at level
        exact .stray rfl ((staysOpen_cons h).1 opens) (by omega)
    · rw [excess_cons] at left
      exact .unclosed ((staysOpen_cons h).1 opens) (by omega)
  · rintro (⟨rfl, opens, level⟩ | ⟨opens, left⟩)
    · refine .stray rfl ((staysOpen_cons h).2 opens) ?_
      rw [excess_cons]
      omega
    · refine .unclosed ((staysOpen_cons h).2 opens) ?_
      rw [excess_cons]
      omega

theorem failsAt_append {depth : Int} (h : 0 ≤ depth) {run : List Char}
    (level : ∀ c ∈ run, excess [c] = 0) {text : List Char} {fault : ReadFault} :
    FailsAt depth (run ++ text) fault ↔ FailsAt depth text fault := by
  induction run with
  | nil => rw [List.nil_append]
  | cons c run ih =>
    obtain ⟨here, level⟩ := List.forall_mem_cons.1 level
    have same : depth + excess [c] = depth := by omega
    rw [List.cons_append, failsAt_cons h (by omega), same, ih level]

/-- With no list open, a closing parenthesis is the failure, whatever follows. -/
theorem failsAt_closing {text : List Char} {fault : ReadFault} :
    FailsAt 0 (')' :: text) fault ↔ fault = .stray (')' :: text) := by
  have low {front : List Char} (hfront : front <+: ')' :: text) (opens : StaysOpen 0 front) :
      front = [] := by
    rcases List.prefix_cons_iff.1 hfront with rfl | ⟨inner, rfl, -⟩
    · rfl
    · have first := opens [')'] ⟨inner, rfl⟩
      exact absurd first (by decide)
  constructor
  · rintro (@⟨front, rest, split, opens, -⟩ | ⟨opens, -⟩)
    · obtain rfl := low ⟨_, split.symm⟩ opens
      rw [split, List.nil_append]
    · exact absurd (low (List.prefix_refl _) opens) (List.cons_ne_nil _ _)
  · rintro rfl
    exact .stray rfl (staysOpen_nil.2 (Int.le_refl 0)) rfl

/-! ## Reading -/

/-- **How reading fails depends on the height of the stack alone.** -/
theorem assemble_eq_error_iff {text : List Char} {ts : List Token} (lexes : Lexes text ts)
    (outer : List (List Sexp)) (done : List Sexp) {fault : ReadFault} :
    assemble (lexemes text) outer done = .error fault ↔ FailsAt outer.length text fault := by
  induction lexes generalizing outer done with
  | done =>
    rw [failsAt_nil]
    cases outer <;> simp [lexemes, assemble, eq_comm]
  | @opening rest ts _ ih =>
    have opens : excess ['('] = 1 := rfl
    rw [lexemes_open, assemble, ih, failsAt_cons (Int.natCast_nonneg _) (by omega), opens,
      List.length_cons]
    rfl
  | @closing rest ts _ ih =>
    have closes : excess [')'] = -1 := rfl
    rw [lexemes_close]
    cases outer with
    | nil => simp [assemble, failsAt_closing, eq_comm]
    | cons around outer =>
      have level : ((around :: outer).length : Int) + excess [')'] = outer.length := by
        rw [closes, List.length_cons]
        omega
      have within : 0 ≤ ((around :: outer).length : Int) + excess [')'] := by omega
      rw [assemble, ih, failsAt_cons (Int.natCast_nonneg _) within, level]
  | @blank c rest ts hc _ ih =>
    have level : ∀ d ∈ [c], excess [d] = 0 := by simpa using excess_of_isBlank hc
    rw [lexemes_blank hc, ih, ← failsAt_append (Int.natCast_nonneg _) level,
      List.singleton_append]
  | @atom a rest ts maximal _ ih =>
    have level : ∀ c ∈ a.chars, excess [c] = 0 := fun c hc ↦ excess_of_isAtomChar (a.legal c hc)
    rw [lexemes_atom_append maximal, assemble, ih,
      failsAt_append (Int.natCast_nonneg _) level]

theorem assemble_lexemes_eq_error_iff {text : List Char} {fault : ReadFault} :
    assemble (lexemes text) [] [] = .error fault ↔ FailsAt 0 text fault :=
  assemble_eq_error_iff (lexes_tokens text) [] []

/-! ## The first parenthesis at fault -/

/-- Some front of the text closes more lists than it opens. -/
def Overcloses (text : List Char) : Prop :=
  ∃ front, front <+: text ∧ front.count '(' < front.count ')'

/-- The rest of the text begins with the first closing parenthesis by which a front closes more
lists than it opens. -/
def FirstStray (text rest : List Char) : Prop :=
  ∃ front, text = front ++ rest ∧ rest.head? = some ')' ∧ ¬ Overcloses front ∧
    Overcloses (front ++ [')'])

theorem staysOpen_zero_iff {text : List Char} : StaysOpen 0 text ↔ ¬ Overcloses text := by
  simp only [StaysOpen, Overcloses, excess, not_exists, not_and]
  refine forall_congr' fun front ↦ imp_congr_right fun _ ↦ ?_
  omega

theorem overcloses_concat_iff {front : List Char} (opens : ¬ Overcloses front) :
    Overcloses (front ++ [')']) ↔ excess front = 0 := by
  have here := staysOpen_zero_iff.2 opens front (List.prefix_refl front)
  have closes : excess [')'] = -1 := rfl
  constructor
  · rintro ⟨part, hpart, more⟩
    rcases List.prefix_concat_iff.1 hpart with rfl | hpart
    · have level := excess_append front [')']
      rw [excess] at level
      omega
    · exact absurd ⟨part, hpart, more⟩ opens
  · intro level
    refine ⟨front ++ [')'], List.prefix_refl _, ?_⟩
    have level' := excess_append front [')']
    rw [excess] at level'
    omega

theorem failsAt_stray_iff {text rest : List Char} :
    FailsAt 0 text (.stray rest) ↔ FirstStray text rest := by
  constructor
  · rintro ⟨split, opens, level⟩
    have opens' := staysOpen_zero_iff.1 opens
    exact ⟨_, split, rfl, opens', (overcloses_concat_iff opens').2 (by omega)⟩
  · rintro ⟨front, rfl, begins, opens, exceeds⟩
    obtain ⟨tail, rfl⟩ := List.head?_eq_some_iff.1 begins
    have level := (overcloses_concat_iff opens).1 exceeds
    exact .stray rfl (staysOpen_zero_iff.2 opens) (by omega)

theorem failsAt_unclosed_iff {text : List Char} :
    FailsAt 0 text .unclosed ↔ ¬ Overcloses text ∧ text.count ')' < text.count '(' := by
  constructor
  · intro fails
    cases fails with
    | unclosed opens left =>
      rw [excess] at left
      exact ⟨staysOpen_zero_iff.1 opens, by omega⟩
  · rintro ⟨opens, left⟩
    refine .unclosed (staysOpen_zero_iff.2 opens) ?_
    rw [excess]
    omega

theorem FirstStray.overcloses {text rest : List Char} (h : FirstStray text rest) :
    Overcloses text := by
  obtain ⟨front, rfl, begins, -, part, hpart, more⟩ := h
  obtain ⟨tail, rfl⟩ := List.head?_eq_some_iff.1 begins
  have within : front ++ [')'] <+: front ++ ')' :: tail := ⟨tail, (List.append_cons ..).symm⟩
  exact ⟨part, hpart.trans within, more⟩

/-- By a single character more, only a closing parenthesis can close too much. -/
theorem eq_closing_of_overcloses {text : List Char} {c : Char} (opens : ¬ Overcloses text)
    (exceeds : Overcloses (text ++ [c])) : c = ')' := by
  obtain ⟨part, hpart, more⟩ := exceeds
  rcases List.prefix_concat_iff.1 hpart with rfl | hpart
  · by_contra other
    have closes : (text ++ [c]).count ')' = text.count ')' := by
      rw [List.count_append, List.count_singleton, beq_false_of_ne other, if_neg (by simp),
        Nat.add_zero]
    rw [closes, List.count_append] at more
    exact opens ⟨text, List.prefix_refl text, by omega⟩
  · exact absurd ⟨part, hpart, more⟩ opens

theorem exists_firstStray_iff {text : List Char} :
    (∃ rest, FirstStray text rest) ↔ Overcloses text := by
  refine ⟨fun ⟨_, h⟩ ↦ h.overcloses, fun exceeds ↦ ?_⟩
  induction text using List.reverseRecOn with
  | nil =>
    obtain ⟨front, hfront, more⟩ := exceeds
    rw [List.prefix_nil.1 hfront] at more
    exact absurd more (Nat.lt_irrefl _)
  | append_singleton text c ih =>
    by_cases before : Overcloses text
    · obtain ⟨rest, front, rfl, begins, first⟩ := ih before
      obtain ⟨tail, rfl⟩ := List.head?_eq_some_iff.1 begins
      exact ⟨_, front, List.append_assoc _ _ _, rfl, first⟩
    · obtain rfl := eq_closing_of_overcloses before exceeds
      exact ⟨[')'], text, rfl, rfl, before, exceeds⟩

theorem firstStray_iff_of_firstStray {text rest : List Char} (h : FirstStray text rest)
    (rest' : List Char) : FirstStray text rest' ↔ rest' = rest := by
  have fails {rest : List Char} (h : FirstStray text rest) :
      assemble (lexemes text) [] [] = .error (.stray rest) :=
    assemble_lexemes_eq_error_iff.2 (failsAt_stray_iff.2 h)
  refine ⟨fun h' ↦ ?_, fun same ↦ same ▸ h⟩
  simpa using (fails h').symm.trans (fails h)

/-- A list that is left open is not looked at if too much is closed before. -/
theorem FailsAt.of_overcloses {text : List Char} {fault : ReadFault} (fails : FailsAt 0 text fault)
    (exceeds : Overcloses text) : ∃ rest, fault = .stray rest ∧ FirstStray text rest := by
  cases fails with
  | stray split opens level => exact ⟨_, rfl, failsAt_stray_iff.1 (.stray split opens level)⟩
  | unclosed opens _ => exact absurd exceeds (staysOpen_zero_iff.1 opens)

theorem FailsAt.of_not_overcloses {text : List Char} {fault : ReadFault}
    (fails : FailsAt 0 text fault) (opens : ¬ Overcloses text) : fault = .unclosed := by
  cases fails with
  | stray split opens' level =>
    exact absurd (failsAt_stray_iff.1 (.stray split opens' level)).overcloses opens
  | unclosed _ _ => rfl

/-! ## Whole texts -/

theorem readAll_eq_error_iff {text : String} {source? : Option String} {e : ReadError} :
    readAll text source? = .error e ↔
      e.source? = source? ∧ FailsAt 0 (spliceLines text.toList) e.fault := by
  obtain ⟨fault, given?⟩ := e
  rw [← assemble_lexemes_eq_error_iff, readAll, readAllChars]
  cases assemble (lexemes (spliceLines text.toList)) [] [] with
  | ok vs => simp [Except.mapError]
  | error fault' => simp [Except.mapError, eq_comm, and_comm]

theorem exists_readAll_eq_error_iff {text : String} {source? : Option String} :
    (∃ e, readAll text source? = .error e) ↔ Overcloses (spliceLines text.toList) ∨
      (spliceLines text.toList).count ')' < (spliceLines text.toList).count '(' := by
  simp only [readAll_eq_error_iff]
  constructor
  · rintro ⟨⟨fault, given?⟩, -, fails⟩
    by_cases exceeds : Overcloses (spliceLines text.toList)
    · exact .inl exceeds
    · obtain rfl := fails.of_not_overcloses exceeds
      exact .inr (failsAt_unclosed_iff.1 fails).2
  · intro bad
    by_cases exceeds : Overcloses (spliceLines text.toList)
    · obtain ⟨rest, first⟩ := exists_firstStray_iff.2 exceeds
      exact ⟨⟨.stray rest, source?⟩, rfl, failsAt_stray_iff.2 first⟩
    · have left := bad.resolve_left exceeds
      exact ⟨⟨.unclosed, source?⟩, rfl, failsAt_unclosed_iff.2 ⟨exceeds, left⟩⟩

theorem readByDescent_of_failsAt {text : List Char} {fault : ReadFault}
    (fails : FailsAt 0 text fault) :
    ∃ setback, readByDescent text = .error setback ∧ Tells setback fault := by
  have alike := alike_readByDescent text
  rw [assemble_lexemes_eq_error_iff.2 fails] at alike
  generalize readByDescent text = result at alike
  cases alike with
  | fault tells => exact ⟨_, rfl, tells⟩

theorem kind_report (e : ReadError) : e.report.kind = .reading := by
  rw [ReadError.report, Report.unreadable.eq_def]
  split <;> rfl

/-- What the error for a text tells, when `spliced` is the text without its escaped line ends. -/
structure Located (spliced : List Char) (source? : Option String) (e : ReadError) : Prop where
  reading : e.report.kind = .reading
  source : e.source? = source?
  /-- If too much is closed, the error shows the text from the first such parenthesis on. -/
  overclosed : Overcloses spliced → ∃ rest, (∀ rest', FirstStray spliced rest' ↔ rest' = rest) ∧
    e.fault = .stray rest ∧
    e.fault.message = "S-expression syntax error: Too many closing brackets. " ++
      "Expected no character left in the sexp. Got: " ++ Text.quoted (String.ofList rest)
  /-- Otherwise a list is left open, and the error shows the end of the text. -/
  unclosed : ¬ Overcloses spliced → e.fault = .unclosed ∧
    e.fault.message = "S-expression syntax error: Not enough closing brackets. " ++
      "Expected ')' to be the last letter in the sexp. Got: None"
  /-- Nothing else goes wrong on the way. -/
  alike : ∃ setback, readByDescent spliced = .error setback ∧ Tells setback e.fault

/-- **Errors are told apart and located.** A text is refused exactly if a front of it, its escaped
line ends left out, closes more lists than it opens, or all of it closes fewer. -/
theorem readAll_located (text : String) (source? : Option String) :
    ∃ spliced, (∀ kept, Splices text.toList kept ↔ kept = spliced) ∧
      ((∃ e, readAll text source? = .error e) ↔
        Overcloses spliced ∨ spliced.count ')' < spliced.count '(') ∧
      ∀ e, readAll text source? = .error e → Located spliced source? e := by
  refine ⟨spliceLines text.toList, fun kept ↦ by rw [splices_iff, eq_comm],
    exists_readAll_eq_error_iff, fun e refused ↦ ?_⟩
  obtain ⟨source, fails⟩ := readAll_eq_error_iff.1 refused
  refine ⟨kind_report e, source, fun exceeds ↦ ?_, fun opens ↦ ?_, readByDescent_of_failsAt fails⟩
  · obtain ⟨rest, told, first⟩ := fails.of_overcloses exceeds
    exact ⟨rest, firstStray_iff_of_firstStray first, told, told ▸ rfl⟩
  · have told := fails.of_not_overcloses opens
    exact ⟨told, told ▸ rfl⟩

example : readAll "(a)\\\n)((b" none = .error ⟨.stray [')', '(', '(', 'b'], none⟩ := by rfl

end Flowcheck.Sexp
