import Flowcheck.Proofs.Sexp.Tokens

/-!
# Escaped line ends

Splicing works on raw text, before there are tokens, so what it does at a place depends on the
characters around that place only. A backslash is removed exactly when a line end follows it. Text
in front of some other text is therefore spliced on its own, unless its last character is a
backslash and the other text begins with a line end.
-/

namespace Flowcheck.Sexp

/-- Whether a text begins with LF or with CR LF. -/
def startsLine : List Char → Bool
  | '\n' :: _ => true
  | '\r' :: '\n' :: _ => true
  | _ => false

theorem startsLine_of_ne {c : Char} (hlf : c ≠ '\n') (hcr : c ≠ '\r') (rest : List Char) :
    startsLine (c :: rest) = false := by
  unfold startsLine
  split <;> simp_all

/-- What follows a text decides about its beginning only when the text is a lone CR. -/
theorem startsLine_append_of_ne {text : List Char} (hne : text ≠ []) (hcr : text ≠ ['\r'])
    (rest : List Char) : startsLine (text ++ rest) = startsLine text := by
  match text with
  | [] => exact absurd rfl hne
  | [c] =>
    have hc : c ≠ '\r' := fun e ↦ hcr (by rw [e])
    by_cases hc' : c = '\n'
    · subst hc'
      rfl
    · rw [startsLine_of_ne hc' hc, List.singleton_append, startsLine_of_ne hc' hc]
  | c :: d :: text =>
    by_cases hc : c = '\r'
    · subst hc
      by_cases hd : d = '\n'
      · subst hd
        rfl
      · simp [startsLine, hd]
    · by_cases hc' : c = '\n'
      · subst hc'
        rfl
      · rw [startsLine_of_ne hc' hc, List.cons_append, startsLine_of_ne hc' hc]

theorem startsLine_append {text rest : List Char} (hne : text ≠ [])
    (hrest : rest.head? ≠ some '\n') : startsLine (text ++ rest) = startsLine text := by
  by_cases hcr : text = ['\r']
  · subst hcr
    cases rest with
    | nil => rfl
    | cons d rest =>
      have hd : d ≠ '\n' := by simpa using hrest
      simp [startsLine, hd]
  · exact startsLine_append_of_ne hne hcr rest

/-! ## One character in front -/

theorem spliceLines_cons_of_ne {c : Char} (h : c ≠ '\\') (rest : List Char) :
    spliceLines (c :: rest) = c :: spliceLines rest := by
  rw [spliceLines.eq_def]
  split <;> simp_all

theorem spliceLines_backslash {rest : List Char} (h : startsLine rest = false) :
    spliceLines ('\\' :: rest) = '\\' :: spliceLines rest := by
  rw [spliceLines]
  · rintro tail - rfl
    exact absurd h (by simp [startsLine])
  · rintro tail - rfl
    exact absurd h (by simp [startsLine])

theorem startsAtom_spliceLines {rest : List Char} (h : startsAtom rest = false) :
    startsAtom (spliceLines rest) = false := by
  cases rest with
  | nil => rfl
  | cons c rest =>
    have hc : c ≠ '\\' := (ne_of_isAtomChar isAtomChar_backslash h).symm
    rw [spliceLines_cons_of_ne hc]
    exact h

/-! ## Text in front -/

/-- A text without backslashes passes unchanged, whatever follows it. -/
theorem spliceLines_append_of_notMem {text : List Char} (h : '\\' ∉ text) (rest : List Char) :
    spliceLines (text ++ rest) = text ++ spliceLines rest := by
  induction text with
  | nil => rfl
  | cons c text ih =>
    have hc : c ≠ '\\' := fun e ↦ h (e ▸ List.mem_cons_self)
    rw [List.cons_append, spliceLines_cons_of_ne hc, ih fun m ↦ h (List.mem_cons_of_mem c m),
      List.cons_append]

theorem backslash_notMem_of_isBlank {gap : List Char} (h : ∀ c ∈ gap, Text.isBlank c = true) :
    '\\' ∉ gap := fun m ↦ by simpa using h _ m

/-- A text on one line passes unchanged, unless its last backslash meets a line end. -/
theorem spliceLines_append_of_line {text rest : List Char}
    (hline : ∀ c ∈ text, c ≠ '\n' ∧ c ≠ '\r')
    (hend : text.getLast? = some '\\' → startsLine rest = false) :
    spliceLines (text ++ rest) = text ++ spliceLines rest := by
  induction text with
  | nil => rfl
  | cons c text ih =>
    have hrest : spliceLines (text ++ rest) = text ++ spliceLines rest := by
      refine ih (fun d hd ↦ hline d (List.mem_cons_of_mem c hd)) fun hlast ↦ hend ?_
      rw [List.getLast?_cons, hlast]
      rfl
    by_cases hc : c = '\\'
    · subst hc
      have hstart : startsLine (text ++ rest) = false := by
        cases text with
        | nil => exact hend rfl
        | cons d text =>
          obtain ⟨hlf, hcr⟩ := hline d (by simp)
          exact startsLine_of_ne hlf hcr _
      rw [List.cons_append, spliceLines_backslash hstart, hrest, List.cons_append]
    · rw [List.cons_append, spliceLines_cons_of_ne hc, hrest, List.cons_append]

theorem startsLine_eq_false_of_not_spliced {c : Char} {rest : List Char}
    (hlf : ∀ tail, c = '\\' → rest = '\n' :: tail → False)
    (hcr : ∀ tail, c = '\\' → rest = '\r' :: '\n' :: tail → False) (hc : c = '\\') :
    startsLine rest = false := by
  unfold startsLine
  split
  · exact (hlf _ hc rfl).elim
  · exact (hcr _ hc rfl).elim
  · rfl

/-! ## Boundaries

A boundary between two texts matters to splicing only when it lies inside of an escaped line end. -/

/-- An escaped line end. It begins with the only backslash that it has, so no two of them overlap,
and each one that stands in a text is removed from it. -/
def IsEscape (text : List Char) : Prop := text = ['\\', '\n'] ∨ text = ['\\', '\r', '\n']

instance (text : List Char) : Decidable (IsEscape text) :=
  inferInstanceAs (Decidable (_ ∨ _))

/-- Whether an escaped line end begins in the first text and ends in the second one. -/
def Cuts (front back : List Char) : Prop :=
  ∃ head tail, head <:+ front ∧ tail <+: back ∧ head ≠ [] ∧ tail ≠ [] ∧ IsEscape (head ++ tail)

theorem Cuts.cons {front back : List Char} (h : Cuts front back) (c : Char) :
    Cuts (c :: front) back := by
  obtain ⟨head, tail, ending, parts⟩ := h
  exact ⟨head, tail, ending.trans (List.suffix_cons c front), parts⟩

theorem cuts_backslash {back : List Char} (h : startsLine back = true) : Cuts ['\\'] back := by
  unfold startsLine at h
  split at h
  · next tail => exact ⟨['\\'], ['\n'], List.suffix_rfl, ⟨tail, rfl⟩, by simp, by simp, .inl rfl⟩
  · next tail =>
    exact ⟨['\\'], ['\r', '\n'], List.suffix_rfl, ⟨tail, rfl⟩, by simp, by simp, .inr rfl⟩
  · cases h

theorem cuts_backslash_return (tail : List Char) : Cuts ['\\', '\r'] ('\n' :: tail) :=
  ⟨['\\', '\r'], ['\n'], List.suffix_rfl, ⟨tail, rfl⟩, by simp, by simp, .inr rfl⟩

/-- Behind a backslash a text begins with a line end only if it does so by itself. -/
theorem startsLine_append_of_not_cuts {text rest : List Char}
    (whole : ¬ Cuts ('\\' :: text) rest) (htext : startsLine text = false) :
    startsLine (text ++ rest) = false := by
  by_cases hnil : text = []
  · subst hnil
    exact Bool.eq_false_iff.2 fun h ↦ whole (cuts_backslash h)
  · by_cases hcr : text = ['\r']
    · subst hcr
      rw [startsLine_append hnil, htext]
      intro hhead
      obtain ⟨tail, rfl⟩ := List.head?_eq_some_iff.mp hhead
      exact whole (cuts_backslash_return tail)
    · rw [startsLine_append_of_ne hnil hcr, htext]

/-- **Splicing treats two texts separately**, unless an escaped line end is cut between them. -/
theorem spliceLines_append_of_not_cuts {text rest : List Char} (whole : ¬ Cuts text rest) :
    spliceLines (text ++ rest) = spliceLines text ++ spliceLines rest := by
  induction text using spliceLines.induct with
  | case1 => rfl
  | case2 text ih =>
    have inner : ¬ Cuts text rest := fun h ↦ whole ((h.cons _).cons _)
    rw [List.cons_append, List.cons_append, spliceLines, ih inner, spliceLines]
  | case3 text ih =>
    have inner : ¬ Cuts text rest := fun h ↦ whole (((h.cons _).cons _).cons _)
    rw [List.cons_append, List.cons_append, List.cons_append, spliceLines, ih inner, spliceLines]
  | case4 c text hlf hcr ih =>
    have inner : ¬ Cuts text rest := fun h ↦ whole (h.cons c)
    by_cases hc : c = '\\'
    · have htext := startsLine_eq_false_of_not_spliced hlf hcr hc
      subst hc
      rw [List.cons_append, spliceLines_backslash (startsLine_append_of_not_cuts whole htext),
        ih inner, spliceLines_backslash htext, List.cons_append]
    · rw [List.cons_append, spliceLines_cons_of_ne hc, ih inner, spliceLines_cons_of_ne hc,
        List.cons_append]

/-- The three ways in which an escaped line end can be cut in two. -/
theorem cuts_iff {front back : List Char} :
    Cuts front back ↔ (['\\'] <:+ front ∧ startsLine back = true) ∨
      (['\\', '\r'] <:+ front ∧ ['\n'] <+: back) := by
  constructor
  · rintro ⟨head, tail, ending, ⟨rest, rfl⟩, hhead, htail, escape⟩
    obtain ⟨c, head, rfl⟩ := List.exists_cons_of_ne_nil hhead
    obtain ⟨d, tail, rfl⟩ := List.exists_cons_of_ne_nil htail
    rcases escape with escape | escape
    · obtain ⟨rfl, rfl, rfl, rfl⟩ : c = '\\' ∧ head = [] ∧ d = '\n' ∧ tail = [] := by
        cases head <;> simp_all
      exact .inl ⟨ending, rfl⟩
    · rcases head with _ | ⟨c', head⟩
      · obtain ⟨rfl, rfl, rfl⟩ : c = '\\' ∧ d = '\r' ∧ tail = ['\n'] := by simpa using escape
        exact .inl ⟨ending, rfl⟩
      · obtain ⟨rfl, rfl, rfl, rfl, rfl⟩ :
            c = '\\' ∧ c' = '\r' ∧ head = [] ∧ d = '\n' ∧ tail = [] := by
          cases head <;> simp_all
        exact .inr ⟨ending, List.prefix_append _ _⟩
  · rintro (⟨ending, hback⟩ | ⟨ending, ⟨tail, rfl⟩⟩)
    · obtain ⟨head, tail, ending', parts⟩ := cuts_backslash hback
      exact ⟨head, tail, ending'.trans ending, parts⟩
    · obtain ⟨head, tail', ending', parts⟩ := cuts_backslash_return tail
      exact ⟨head, tail', ending'.trans ending, parts⟩

instance (front back : List Char) : Decidable (Cuts front back) :=
  decidable_of_iff _ cuts_iff.symm

theorem not_cuts_of_not_startsLine {front back : List Char} (h : startsLine back = false) :
    ¬ Cuts front back := by
  rw [cuts_iff]
  rintro (⟨-, hback⟩ | ⟨-, ⟨tail, rfl⟩⟩)
  · exact absurd hback (by simp [h])
  · exact absurd h (by simp [startsLine])

/-- Two texts are spliced separately, unless the second one begins with a line end. -/
theorem spliceLines_append (text : List Char) {rest : List Char} (h : startsLine rest = false) :
    spliceLines (text ++ rest) = spliceLines text ++ spliceLines rest :=
  spliceLines_append_of_not_cuts (not_cuts_of_not_startsLine h)

/-! ## What splicing removes

Every escaped line end takes one character of an atom with it. -/

theorem countP_spliceLines_le (text : List Char) :
    (spliceLines text).countP isAtomChar ≤ text.countP isAtomChar := by
  induction text using spliceLines.induct with
  | case1 => exact Nat.le_refl _
  | case2 text ih =>
    rw [spliceLines, List.countP_cons, List.countP_cons]
    omega
  | case3 text ih =>
    rw [spliceLines, List.countP_cons, List.countP_cons, List.countP_cons]
    omega
  | case4 c text hlf hcr ih =>
    rw [spliceLines.eq_4 c text hlf hcr, List.countP_cons, List.countP_cons]
    omega

/-- An escaped line end costs the text its backslash, wherever it stands. -/
theorem countP_spliceLines_lt (text : List Char) {rest : List Char} (h : startsLine rest = true) :
    (spliceLines (text ++ '\\' :: rest)).countP isAtomChar <
      (text ++ '\\' :: rest).countP isAtomChar := by
  have hbackslash : (spliceLines ('\\' :: rest)).countP isAtomChar <
      ('\\' :: rest).countP isAtomChar := by
    rw [List.countP_cons_of_pos isAtomChar_backslash]
    unfold startsLine at h
    split at h
    · rename_i tail
      have := countP_spliceLines_le tail
      rw [spliceLines, List.countP_cons_of_neg (by decide)]
      omega
    · rename_i tail
      have := countP_spliceLines_le tail
      rw [spliceLines, List.countP_cons_of_neg (by decide), List.countP_cons_of_neg (by decide)]
      omega
    · exact absurd h (by simp)
  have htext := countP_spliceLines_le text
  rw [spliceLines_append text (startsLine_of_ne (by decide) (by decide) rest),
    List.countP_append, List.countP_append]
  omega

/-! ## Tokens behind blanks and values -/

theorem sourceTokens_blanks {gap : List Char} (h : ∀ c ∈ gap, Text.isBlank c = true)
    (rest : List Char) : sourceTokens (gap ++ rest) = sourceTokens rest := by
  rw [sourceTokens, spliceLines_append_of_notMem (backslash_notMem_of_isBlank h), tokens_blanks h,
    sourceTokens]

end Flowcheck.Sexp
