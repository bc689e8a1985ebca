import Flowcheck.Proofs.Checks
import Flowcheck.Proofs.Sexp.Splicing

/-!
# Texts and what is read from them

A text reads as some values exactly when its tokens are the tokens of these values. One direction
builds the values up from their tokens; the other one, shown here, says that assembling loses
nothing: at every moment the tokens used up are the ones of the items collected so far, with an
opening parenthesis for each list that is still open.

A rough measure of a text follows from it. The atoms that are read have as many characters together
as the spliced text has atom characters, and splicing only ever takes atom characters away.
-/

namespace Flowcheck.Sexp

/-! ## Tokens of lists -/

theorem itemTokens_append (vs ws : List Sexp) :
    itemTokens (vs ++ ws) = itemTokens vs ++ itemTokens ws := by
  induction vs with
  | nil => rfl
  | cons v vs ih => rw [List.cons_append, itemTokens, itemTokens, ih, List.append_assoc]

theorem itemTokens_reverse_cons (v : Sexp) (done : List Sexp) :
    itemTokens (v :: done).reverse = itemTokens done.reverse ++ valueTokens v := by
  rw [List.reverse_cons, itemTokens_append, itemTokens, itemTokens, List.append_nil]

/-! ## What assembling has used up -/

/-- The tokens in front of the current list, when `outer` are the lists open around it. -/
def openTokens : List (List Sexp) → List Token
  | [] => []
  | items :: outer => openTokens outer ++ itemTokens items.reverse ++ [.opening]

/-- **Assembling loses no token.** -/
theorem itemTokens_of_assemble {ls : List Lexeme} {outer : List (List Sexp)} {done vs : List Sexp}
    (h : assemble ls outer done = .ok vs) :
    openTokens outer ++ itemTokens done.reverse ++ ls.map Lexeme.token = itemTokens vs := by
  induction ls, outer, done using assemble.induct with
  | case1 done =>
    rw [assemble, Except.ok.injEq] at h
    rw [← h, openTokens, List.nil_append, List.map_nil, List.append_nil]
  | case2 => simp [assemble] at h
  | case3 outer done a _ more ih =>
    rw [assemble] at h
    rw [← ih h, itemTokens_reverse_cons, valueTokens, List.map_cons]
    simp only [List.append_assoc, List.singleton_append]
  | case4 outer done _ more ih =>
    rw [assemble] at h
    rw [← ih h, openTokens, List.reverse_nil, itemTokens, List.map_cons]
    simp only [List.append_assoc, List.append_nil, List.singleton_append]
  | case5 done _ more around outer ih =>
    rw [assemble] at h
    rw [← ih h, itemTokens_reverse_cons, valueTokens, openTokens, List.map_cons]
    simp only [List.append_assoc, List.cons_append, List.nil_append]
  | case6 => simp [assemble] at h

theorem assemble_eq_ok_iff {ls : List Lexeme} {vs : List Sexp} :
    assemble ls [] [] = .ok vs ↔ ls.map Lexeme.token = itemTokens vs :=
  ⟨itemTokens_of_assemble, assemble_of_map_token⟩

/-- **A text reads as some values exactly if it has their tokens.** -/
theorem readAllChars_eq_ok_iff {text : List Char} {vs : List Sexp} :
    readAllChars text = .ok vs ↔ sourceTokens text = itemTokens vs :=
  assemble_eq_ok_iff

theorem readAll_eq_ok_iff {text : String} {source? : Option String} {vs : List Sexp} :
    readAll text source? = .ok vs ↔ sourceTokens text.toList = itemTokens vs := by
  rw [readAll, mapError_eq_ok_iff, readAllChars_eq_ok_iff]

/-! ## Characters of atoms -/

/-- How many characters the atoms among the tokens have together. -/
def atomLength : List Token → Nat
  | [] => 0
  | .atom a :: ts => a.chars.length + atomLength ts
  | .opening :: ts | .closing :: ts => atomLength ts

theorem atomLength_consLexeme {c : Char} (h : isAtomChar c = true) (rest : List Char)
    (ls : List Lexeme) : atomLength ((consLexeme c h rest ls).map Lexeme.token) =
      atomLength (ls.map Lexeme.token) + 1 := by
  match ls with
  | [] | ⟨.opening, _⟩ :: _ | ⟨.closing, _⟩ :: _ =>
    simp [consLexeme, atomLength, charAtom, Nat.add_comm]
  | ⟨.atom a, site⟩ :: more =>
    by_cases hrest : startsAtom rest = true
    · simp [consLexeme, hrest, atomLength, consAtom]
      omega
    · simp [consLexeme, hrest, atomLength, charAtom, Nat.add_comm]

/-- The atoms of a text have all its atom characters. -/
theorem atomLength_tokens (text : List Char) :
    atomLength (tokens text) = text.countP isAtomChar := by
  induction text with
  | nil => rfl
  | cons c rest ih =>
    by_cases hopen : c = '('
    · subst hopen
      rw [tokens_open, atomLength, ih, List.countP_cons_of_neg (by decide)]
    by_cases hclose : c = ')'
    · subst hclose
      rw [tokens_close, atomLength, ih, List.countP_cons_of_neg (by decide)]
    by_cases hc : isAtomChar c = true
    · rw [tokens, lexemes_atomChar hc, atomLength_consLexeme, ← tokens, ih,
        List.countP_cons_of_pos hc]
    · rw [tokens, lexemes, if_neg hopen, if_neg hclose, dif_neg hc, ← tokens, ih,
        List.countP_cons_of_neg hc]

end Flowcheck.Sexp
