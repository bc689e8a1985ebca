import Flowcheck.Proofs.Sexp.Splicing
import Flowcheck.Sexp.Printer

/-!
# Printed values read back

Reading undoes both printers. For the flat form this holds of whole streams: any values, with any
blanks around them, read as these values, as long as no gap lets a final backslash escape a line
end. For the pretty form it holds in every layout, sensible or not.

Each printer is treated in two steps, after the two stages of reading. Splicing leaves what it wrote
as it is, and lexing finds the tokens of the value in it. Both are stated for a text that goes on
behind the value, which is what the induction over the value needs.
-/

namespace Flowcheck.Sexp

/-! ## The flat form -/

mutual

theorem line_flatChars : ∀ (v : Sexp), ∀ c ∈ flatChars v, c ≠ '\n' ∧ c ≠ '\r'
  | .atom a, c, hc => by
    rw [flatChars] at hc
    have legal := a.legal c hc
    exact ⟨ne_of_isAtomChar legal (by decide), ne_of_isAtomChar legal (by decide)⟩
  | .list [], c, hc => by
    rw [flatChars, flatItems, List.mem_cons, List.mem_singleton] at hc
    rcases hc with rfl | rfl <;> decide
  | .list (v :: vs), c, hc => by
    rw [flatChars, flatItems, List.mem_cons, List.mem_append] at hc
    rcases hc with rfl | hc | hc
    · decide
    · exact line_flatChars v c hc
    · exact line_flatMore vs c hc

theorem line_flatMore : ∀ (vs : List Sexp), ∀ c ∈ flatMore vs, c ≠ '\n' ∧ c ≠ '\r'
  | [], c, hc => by
    rw [flatMore, List.mem_singleton] at hc
    subst hc
    decide
  | v :: vs, c, hc => by
    rw [flatMore, List.mem_cons, List.mem_append] at hc
    rcases hc with rfl | hc | hc
    · decide
    · exact line_flatChars v c hc
    · exact line_flatMore vs c hc

end

/-- Splicing leaves the flat form as it is, unless its last backslash meets a line end. -/
theorem spliceLines_flatChars_append (v : Sexp) {rest : List Char}
    (h : (flatChars v).getLast? = some '\\' → startsLine rest = false) :
    spliceLines (flatChars v ++ rest) = flatChars v ++ spliceLines rest :=
  spliceLines_append_of_line (line_flatChars v) h

theorem startsAtom_flatMore_append (vs : List Sexp) (rest : List Char) :
    startsAtom (flatMore vs ++ rest) = false := by
  cases vs <;> rfl

theorem tokens_space (rest : List Char) : tokens (' ' :: rest) = tokens rest := by
  have h : tokens ([' '] ++ rest) = tokens rest := tokens_blanks (by simp) rest
  exact h

mutual

theorem tokens_flatChars_append : ∀ (v : Sexp) {rest : List Char}, startsAtom rest = false →
    tokens (flatChars v ++ rest) = valueTokens v ++ tokens rest
  | .atom a, rest, h => by
    rw [flatChars, valueTokens, tokens_atom_append h, List.singleton_append]
  | .list [], rest, _ => by
    rw [flatChars, flatItems, valueTokens, itemTokens, List.cons_append, tokens_open,
      List.singleton_append, tokens_close, List.nil_append, List.cons_append,
      List.singleton_append]
  | .list (v :: vs), rest, _ => by
    rw [flatChars, flatItems, List.cons_append, tokens_open, List.append_assoc,
      tokens_flatChars_append v (startsAtom_flatMore_append vs rest),
      tokens_flatMore_append vs rest, valueTokens, itemTokens]
    simp only [List.cons_append, List.nil_append, List.append_assoc]

theorem tokens_flatMore_append : ∀ (vs : List Sexp) (rest : List Char),
    tokens (flatMore vs ++ rest) = itemTokens vs ++ .closing :: tokens rest
  | [], rest => by
    rw [flatMore, List.singleton_append, tokens_close, itemTokens, List.nil_append]
  | v :: vs, rest => by
    rw [flatMore, List.cons_append, tokens_space, List.append_assoc,
      tokens_flatChars_append v (startsAtom_flatMore_append vs rest),
      tokens_flatMore_append vs rest, itemTokens, List.append_assoc]

end

/-- The flat form contributes the tokens of its value to a text that goes on behind it. -/
theorem sourceTokens_flatChars_append {v : Sexp} {rest : List Char} (hatom : startsAtom rest = false)
    (hline : (flatChars v).getLast? = some '\\' → startsLine rest = false) :
    sourceTokens (flatChars v ++ rest) = valueTokens v ++ sourceTokens rest := by
  rw [sourceTokens, spliceLines_flatChars_append v hline,
    tokens_flatChars_append v (startsAtom_spliceLines hatom), sourceTokens]

theorem flatChars_ne_nil (v : Sexp) : flatChars v ≠ [] := by
  cases v with
  | atom a => exact a.nonempty
  | list items => exact List.cons_ne_nil _ _

/-! ## Streams of values

`spaced` writes values in their flat form, each with a gap of its own behind it. -/

/-- The flat forms of values, each followed by its gap. -/
def spaced : List (Sexp × String) → String
  | [] => ""
  | (v, gap) :: more => flat v ++ gap ++ spaced more

/-- A gap of blanks that does not turn a backslash in front of it into an escape. -/
structure IsGap (v : Sexp) (gap : String) : Prop where
  blank : ∀ c ∈ gap.toList, Text.isBlank c = true
  unescaped : (flat v).toList.getLast? = some '\\' → startsLine gap.toList = false

theorem head?_spaced_ne_newline (parts : List (Sexp × String)) :
    (spaced parts).toList.head? ≠ some '\n' := by
  match parts with
  | [] => simp [spaced]
  | (v, gap) :: more =>
    obtain ⟨c, cs, hv⟩ := List.exists_cons_of_ne_nil (flatChars_ne_nil v)
    have hc := (line_flatChars v c (by simp [hv])).1
    simpa [spaced, flat, hv] using hc

theorem startsAtom_gap_append {gap : List Char} (hblank : ∀ c ∈ gap, Text.isBlank c = true)
    {rest : List Char} (hrest : gap = [] → startsAtom rest = false) :
    startsAtom (gap ++ rest) = false := by
  cases gap with
  | nil => exact hrest rfl
  | cons c gap => exact isAtomChar_of_isBlank (hblank c List.mem_cons_self)

theorem sourceTokens_spaced : ∀ {parts : List (Sexp × String)},
    (∀ p ∈ parts, IsGap p.1 p.2) → (∀ p ∈ parts.dropLast, p.2 ≠ "") →
    sourceTokens (spaced parts).toList = itemTokens (parts.map Prod.fst)
  | [], _, _ => rfl
  | (v, gap) :: more, hgap, hsep => by
    obtain ⟨hblank, hunescaped⟩ := hgap (v, gap) List.mem_cons_self
    rw [flat, String.toList_ofList] at hunescaped
    have hlast : gap.toList = [] → more = [] := by
      intro hnil
      cases more with
      | nil => rfl
      | cons q more => exact absurd (by simpa using hnil) (hsep (v, gap) (by simp))
    have hatom : startsAtom (gap.toList ++ (spaced more).toList) = false := by
      refine startsAtom_gap_append hblank fun hnil ↦ ?_
      rw [hlast hnil]
      rfl
    have hline : (flatChars v).getLast? = some '\\' →
        startsLine (gap.toList ++ (spaced more).toList) = false := by
      intro h
      by_cases hnil : gap.toList = []
      · rw [hnil, hlast hnil]
        rfl
      · rw [startsLine_append hnil (head?_spaced_ne_newline more), hunescaped h]
    have hmore : sourceTokens (spaced more).toList = itemTokens (more.map Prod.fst) := by
      refine sourceTokens_spaced (fun p hp ↦ hgap p (List.mem_cons_of_mem _ hp)) fun p hp ↦ hsep p ?_
      rw [List.dropLast_cons_of_ne_nil (by rintro rfl; simp at hp)]
      exact List.mem_cons_of_mem _ hp
    rw [spaced, flat, String.toList_append, String.toList_append, String.toList_ofList,
      List.append_assoc, sourceTokens_flatChars_append hatom hline, sourceTokens_blanks hblank, hmore,
      List.map_cons, itemTokens]

theorem sourceTokens_flat (v : Sexp) : sourceTokens (flat v).toList = valueTokens v := by
  have h : sourceTokens (flatChars v ++ []) = valueTokens v ++ sourceTokens [] :=
    sourceTokens_flatChars_append rfl fun _ ↦ rfl
  rw [List.append_nil] at h
  rw [flat, String.toList_ofList, h]
  exact List.append_nil _

/-- **Reading undoes the flat printer over whole streams**, and so it does for a single value. -/
theorem readAll_spaced {lead : String} {parts : List (Sexp × String)}
    (hlead : ∀ c ∈ lead.toList, Text.isBlank c = true) (hgap : ∀ p ∈ parts, IsGap p.1 p.2)
    (hsep : ∀ p ∈ parts.dropLast, p.2 ≠ "") (source? : Option String) :
    readAll (lead ++ spaced parts) source? = .ok (parts.map Prod.fst) ∧
      ∀ v : Sexp, read (flat v) source? = .ok (some v) := by
  constructor
  · refine readAll_of_sourceTokens source? ?_
    rw [String.toList_append, sourceTokens_blanks hlead, sourceTokens_spaced hgap hsep]
  · exact fun v ↦ read_of_sourceTokens source? (sourceTokens_flat v)

/-- A final backslash with a tab behind it, a list with a backslash inside it, and the end. -/
theorem readAll_spaced_backslashes :
    ∃ a b : Atom, a.text = "x\\" ∧ b.text = ";" ∧
      (∀ c ∈ "\n ".toList, Text.isBlank c = true) ∧
      (∀ p ∈ [(Sexp.atom a, "\t\n"), (.list [.atom a, .list []], "\r\n"), (.atom b, "")],
        IsGap p.1 p.2) ∧
      readAll ("\n " ++ spaced [(.atom a, "\t\n"), (.list [.atom a, .list []], "\r\n"),
        (.atom b, "")]) none = .ok [.atom a, .list [.atom a, .list []], .atom b] := by
  let a : Atom := ⟨['x', '\\'], by decide, List.all_eq_true.mp (by decide)⟩
  let b : Atom := ⟨[';'], by decide, List.all_eq_true.mp (by decide)⟩
  have hlead : ∀ c ∈ "\n ".toList, Text.isBlank c = true := by simp
  have hgap : ∀ p ∈ [(Sexp.atom a, "\t\n"), (.list [.atom a, .list []], "\r\n"), (.atom b, "")],
      IsGap p.1 p.2 := by
    rw [List.forall_mem_cons, List.forall_mem_cons, List.forall_mem_cons]
    refine ⟨⟨?_, by decide⟩, ⟨?_, by decide⟩, ⟨?_, by decide⟩, by simp⟩
    · exact List.all_eq_true.mp (by decide)
    · exact List.all_eq_true.mp (by decide)
    · exact List.all_eq_true.mp (by decide)
  exact ⟨a, b, rfl, rfl, hlead, hgap, (readAll_spaced hlead hgap (by simp) none).1⟩

/-! ## The pretty form

A broken list is the first item and, behind it, line ends with further items. A line end begins with
a space when a backslash stands in front of it, and that is all that keeps it from being escaped. -/

/-- What comes behind an item of a broken list continues no atom. -/
theorem startsAtom_prettyMore_append (layout : Layout) (column : Int) (previous : List Char)
    (vs : List Sexp) (rest : List Char) :
    startsAtom (prettyMore layout column previous vs ++ rest) = false := by
  cases vs with
  | nil => rfl
  | cons v vs =>
    rw [prettyMore, lineEnd]
    by_cases h : previous.getLast? = some '\\'
    · rw [if_pos h]
      rfl
    · rw [if_neg h]
      rfl

/-- What comes behind an item is no line end, if the item ends in a backslash. -/
theorem startsLine_prettyMore_append (layout : Layout) (column : Int) {previous : List Char}
    (h : previous.getLast? = some '\\') (vs : List Sexp) (rest : List Char) :
    startsLine (prettyMore layout column previous vs ++ rest) = false := by
  cases vs with
  | nil => rfl
  | cons v vs =>
    rw [prettyMore, lineEnd, if_pos h]
    rfl

theorem isBlank_lineEnd_padding (previous : List Char) (column : Int) :
    ∀ c ∈ lineEnd previous ++ padding column, Text.isBlank c = true := by
  intro c hc
  rcases List.mem_append.mp hc with hc | hc
  · rw [lineEnd] at hc
    split at hc <;> simp at hc
    · rcases hc with rfl | rfl <;> rfl
    · subst hc
      rfl
  · rw [List.eq_of_mem_replicate hc]
    rfl

mutual

theorem spliceLines_prettyChars_append (layout : Layout) : ∀ (v : Sexp) (column : Int)
    {rest : List Char}, ((prettyChars layout column v).getLast? = some '\\' → startsLine rest = false) →
    spliceLines (prettyChars layout column v ++ rest) =
      prettyChars layout column v ++ spliceLines rest
  | .atom a, column, rest, h => by
    rw [prettyChars] at h ⊢
    exact spliceLines_flatChars_append (.atom a) h
  | .list [], column, rest, h => by
    rw [prettyChars] at h ⊢
    exact spliceLines_flatChars_append (.list []) h
  | .list (v :: vs), column, rest, h => by
    rw [prettyChars] at h ⊢
    by_cases hflat : staysFlat layout column (.list (v :: vs)) = true
    · rw [if_pos hflat] at h ⊢
      exact spliceLines_flatChars_append _ h
    · rw [if_neg hflat] at h ⊢
      rw [List.cons_append, spliceLines_cons_of_ne (by decide), List.append_assoc,
        spliceLines_prettyChars_append layout v (column + 1) fun hlast ↦
          startsLine_prettyMore_append layout _ hlast vs rest,
        spliceLines_prettyMore_append layout vs, List.cons_append, List.append_assoc]

theorem spliceLines_prettyMore_append (layout : Layout) : ∀ (vs : List Sexp) (column : Int)
    (previous rest : List Char),
    spliceLines (prettyMore layout column previous vs ++ rest) =
      prettyMore layout column previous vs ++ spliceLines rest
  | [], column, previous, rest => by
    rw [prettyMore, List.singleton_append, spliceLines_cons_of_ne (by decide),
      List.singleton_append]
  | v :: vs, column, previous, rest => by
    have hblank := backslash_notMem_of_isBlank (isBlank_lineEnd_padding previous column)
    rw [prettyMore, List.append_assoc, List.append_assoc, spliceLines_append_of_notMem hblank,
      spliceLines_prettyChars_append layout v column fun hlast ↦
        startsLine_prettyMore_append layout _ hlast vs rest,
      spliceLines_prettyMore_append layout vs]
    simp only [List.append_assoc]

end

mutual

theorem tokens_prettyChars_append (layout : Layout) : ∀ (v : Sexp) (column : Int)
    {rest : List Char}, startsAtom rest = false →
    tokens (prettyChars layout column v ++ rest) = valueTokens v ++ tokens rest
  | .atom a, column, rest, h => by
    rw [prettyChars]
    exact tokens_flatChars_append (.atom a) h
  | .list [], column, rest, h => by
    rw [prettyChars]
    exact tokens_flatChars_append (.list []) h
  | .list (v :: vs), column, rest, h => by
    rw [prettyChars]
    by_cases hflat : staysFlat layout column (.list (v :: vs)) = true
    · rw [if_pos hflat]
      exact tokens_flatChars_append _ h
    · rw [if_neg hflat, List.cons_append, tokens_open, List.append_assoc,
        tokens_prettyChars_append layout v _ (startsAtom_prettyMore_append layout _ _ vs rest),
        tokens_prettyMore_append layout vs, valueTokens, itemTokens]
      simp only [List.cons_append, List.nil_append, List.append_assoc]

theorem tokens_prettyMore_append (layout : Layout) : ∀ (vs : List Sexp) (column : Int)
    (previous rest : List Char),
    tokens (prettyMore layout column previous vs ++ rest) = itemTokens vs ++ .closing :: tokens rest
  | [], column, previous, rest => by
    rw [prettyMore, List.singleton_append, tokens_close, itemTokens, List.nil_append]
  | v :: vs, column, previous, rest => by
    rw [prettyMore, List.append_assoc, List.append_assoc,
      tokens_blanks (isBlank_lineEnd_padding previous column),
      tokens_prettyChars_append layout v _ (startsAtom_prettyMore_append layout _ _ vs rest),
      tokens_prettyMore_append layout vs, itemTokens, List.append_assoc]

end

/-- **Reading undoes the pretty printer in every layout.** No line end of the printed text is an
escaped one: splicing finds nothing to remove. -/
theorem read_pretty (layout : Layout) (v : Sexp) (source? : Option String) :
    read (pretty layout v) source? = .ok (some v) ∧
      spliceLines (pretty layout v).toList = (pretty layout v).toList := by
  have hsplice : spliceLines (pretty layout v).toList = (pretty layout v).toList := by
    have h : spliceLines (prettyChars layout 0 v ++ []) = prettyChars layout 0 v ++ spliceLines [] :=
      spliceLines_prettyChars_append layout v 0 fun _ ↦ rfl
    rw [pretty, String.toList_ofList]
    rwa [List.append_nil, spliceLines, List.append_nil] at h
  have htokens : tokens (pretty layout v).toList = valueTokens v := by
    have h : tokens (prettyChars layout 0 v ++ []) = valueTokens v ++ tokens [] :=
      tokens_prettyChars_append layout v 0 rfl
    rw [pretty, String.toList_ofList]
    rwa [List.append_nil, tokens_nil, List.append_nil] at h
  refine ⟨read_of_sourceTokens source? ?_, hsplice⟩
  rw [sourceTokens, hsplice, htokens]

end Flowcheck.Sexp
