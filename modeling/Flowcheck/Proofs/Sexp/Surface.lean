import Flowcheck.Proofs.Sexp.Splicing

/-!
# The tokens that a text has

Splicing and lexing run; the relations here say what they arrive at. A text is spliced in one pass
from the left, which leaves out each backslash with a line end directly behind it, and that line end
with it. What is left falls into parentheses, blanks, and the runs in between that no further
character would extend. Every text has exactly one sequence of tokens in this sense, and it is the
one that lexing the spliced text gives.
-/

namespace Flowcheck.Sexp

/-! ## One pass over the text -/

/-- What is left of a text when its escaped line ends are taken out of it. -/
inductive Splices : List Char → List Char → Prop where
  | done : Splices [] []
  | escapedLf {rest kept : List Char} (h : Splices rest kept) : Splices ('\\' :: '\n' :: rest) kept
  | escapedCrLf {rest kept : List Char} (h : Splices rest kept) :
      Splices ('\\' :: '\r' :: '\n' :: rest) kept
  | keep {c : Char} {rest kept : List Char} (unescaped : c = '\\' → startsLine rest = false)
      (h : Splices rest kept) : Splices (c :: rest) (c :: kept)

theorem splices_iff {text kept : List Char} : Splices text kept ↔ spliceLines text = kept := by
  constructor
  · intro h
    induction h with
    | done => rfl
    | escapedLf _ ih => rw [spliceLines, ih]
    | escapedCrLf _ ih => rw [spliceLines, ih]
    | @keep c rest kept unescaped _ ih =>
      by_cases hc : c = '\\'
      · have hrest := unescaped hc
        rw [hc, spliceLines_backslash hrest, ih]
      · rw [spliceLines_cons_of_ne hc, ih]
  · rintro rfl
    induction text using spliceLines.induct with
    | case1 => exact .done
    | case2 rest ih =>
      rw [spliceLines]
      exact .escapedLf ih
    | case3 rest ih =>
      rw [spliceLines]
      exact .escapedCrLf ih
    | case4 c rest hlf hcr ih =>
      rw [spliceLines.eq_4 c rest hlf hcr]
      exact .keep (startsLine_eq_false_of_not_spliced hlf hcr) ih

/-! ## Maximal runs -/

/-- How a text falls into tokens. An atom ends where no character of an atom follows, and it begins
behind a parenthesis, a blank, or the beginning of the text, since no other atom can end there. -/
inductive Lexes : List Char → List Token → Prop where
  | done : Lexes [] []
  | opening {rest : List Char} {ts : List Token} (h : Lexes rest ts) :
      Lexes ('(' :: rest) (.opening :: ts)
  | closing {rest : List Char} {ts : List Token} (h : Lexes rest ts) :
      Lexes (')' :: rest) (.closing :: ts)
  | blank {c : Char} {rest : List Char} {ts : List Token} (hc : Text.isBlank c = true)
      (h : Lexes rest ts) : Lexes (c :: rest) ts
  | atom (a : Atom) {rest : List Char} {ts : List Token} (maximal : startsAtom rest = false)
      (h : Lexes rest ts) : Lexes (a.chars ++ rest) (.atom a :: ts)

/-- A text that begins with an atom character begins with an atom. -/
theorem Lexes.exists_atom {text : List Char} {ts : List Token} (h : Lexes text ts)
    (starts : startsAtom text = true) : ∃ (a : Atom) (rest : List Char) (us : List Token),
      text = a.chars ++ rest ∧ ts = .atom a :: us ∧ startsAtom rest = false ∧ Lexes rest us := by
  cases h with
  | done => exact absurd starts (by decide)
  | opening _ => exact absurd starts (by simp [startsAtom, isAtomChar])
  | closing _ => exact absurd starts (by simp [startsAtom, isAtomChar])
  | blank hc _ =>
    rw [startsAtom, isAtomChar_of_isBlank hc] at starts
    exact absurd starts (by simp)
  | atom a maximal h => exact ⟨a, _, _, rfl, rfl, maximal, h⟩

/-- One more atom character in front is an atom of its own or belongs to the one behind it. -/
theorem Lexes.cons_atomChar {c : Char} (hc : isAtomChar c = true) {rest : List Char}
    (h : Lexes rest (tokens rest)) : Lexes (c :: rest) (tokens (c :: rest)) := by
  by_cases starts : startsAtom rest = true
  · -- The atom behind it would not be maximal any more.
    obtain ⟨a, more, us, rfl, hts, maximal, hmore⟩ := h.exists_atom starts
    have longer : tokens (c :: (a.chars ++ more)) = .atom (consAtom c hc a) :: tokens more :=
      tokens_atom_append maximal (consAtom c hc a)
    rw [tokens_atom_append maximal] at hts
    rw [longer, (List.cons.inj hts).2]
    exact .atom (consAtom c hc a) maximal hmore
  · have starts : startsAtom rest = false := by simpa using starts
    have single : tokens (c :: rest) = .atom (charAtom c hc) :: tokens rest :=
      tokens_atom_append starts (charAtom c hc)
    rw [single]
    exact .atom (charAtom c hc) starts h

theorem lexes_tokens (text : List Char) : Lexes text (tokens text) := by
  induction text with
  | nil => exact .done
  | cons c rest ih =>
    by_cases hopen : c = '('
    · subst hopen
      rw [tokens_open]
      exact .opening ih
    by_cases hclose : c = ')'
    · subst hclose
      rw [tokens_close]
      exact .closing ih
    by_cases hblank : Text.isBlank c = true
    · rw [tokens, lexemes_blank hblank, ← tokens]
      exact .blank hblank ih
    · exact ih.cons_atomChar (by simp [isAtomChar, hblank, hopen, hclose])

theorem lexes_iff {text : List Char} {ts : List Token} : Lexes text ts ↔ tokens text = ts := by
  constructor
  · intro h
    induction h with
    | done => rfl
    | opening _ ih => rw [tokens_open, ih]
    | closing _ ih => rw [tokens_close, ih]
    | blank hc _ ih => rw [tokens, lexemes_blank hc, ← tokens, ih]
    | atom a maximal _ ih => rw [tokens_atom_append maximal, ih]
  · rintro rfl
    exact lexes_tokens text

/-! ## Both together -/

/-- The tokens of a text, escaped line ends left out. -/
def HasTokens (text : List Char) (ts : List Token) : Prop :=
  ∃ kept, Splices text kept ∧ Lexes kept ts

/-- **A text has the tokens that reading finds in it, and no others.** -/
theorem hasTokens_iff {text : List Char} {ts : List Token} :
    HasTokens text ts ↔ sourceTokens text = ts := by
  constructor
  · rintro ⟨kept, hkept, hts⟩
    rw [sourceTokens, splices_iff.1 hkept, lexes_iff.1 hts]
  · rintro rfl
    exact ⟨spliceLines text, splices_iff.2 rfl, lexes_tokens _⟩

end Flowcheck.Sexp
