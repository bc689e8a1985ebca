import Flowcheck.Sexp.Reader

/-!
# The tokens of values

The grammar of texts is stated on tokens: a value is an atom, or a list of values between an opening
and a closing parenthesis, and `valueTokens` writes that out. The two stages of reading are related
to it one at a time. Lexing is described by what one more piece of text in front contributes, and
assembling by what a block of lexemes with the tokens of a value does to the stack.

Neither description mentions a printer. Whatever writes a text, it reads back as soon as its tokens
are the right ones.
-/

namespace Flowcheck.Sexp

/-! ## The grammar -/

mutual

/-- The tokens of a value. -/
def valueTokens : Sexp → List Token
  | .atom a => [.atom a]
  | .list items => .opening :: (itemTokens items ++ [.closing])

/-- The tokens of several values, one after the other. -/
def itemTokens : List Sexp → List Token
  | [] => []
  | v :: rest => valueTokens v ++ itemTokens rest

end

/-! ## Characters -/

theorem isAtomChar_backslash : isAtomChar '\\' = true := by decide

theorem isAtomChar_of_isBlank {c : Char} (h : Text.isBlank c = true) : isAtomChar c = false := by
  simp [isAtomChar, h]

theorem ne_of_isAtomChar {c d : Char} (h : isAtomChar c = true) (hd : isAtomChar d = false) :
    c ≠ d := by
  rintro rfl
  rw [h] at hd
  exact absurd hd (by simp)

theorem startsAtom_append {text : List Char} (h : text ≠ []) (rest : List Char) :
    startsAtom (text ++ rest) = startsAtom text := by
  cases text with
  | nil => exact absurd rfl h
  | cons c text => rfl

/-! ## Lexing

One more character in front of a text, or one more atom, and what it does to the tokens. -/

@[simp] theorem tokens_nil : tokens [] = [] := rfl

theorem lexemes_open (rest : List Char) :
    lexemes ('(' :: rest) = ⟨.opening, '(' :: rest⟩ :: lexemes rest := by
  rw [lexemes, if_pos rfl]

theorem lexemes_close (rest : List Char) :
    lexemes (')' :: rest) = ⟨.closing, ')' :: rest⟩ :: lexemes rest := by
  rw [lexemes, if_neg (by decide), if_pos rfl]

@[simp] theorem tokens_open (rest : List Char) : tokens ('(' :: rest) = .opening :: tokens rest := by
  rw [tokens, lexemes_open, List.map_cons, tokens]

@[simp] theorem tokens_close (rest : List Char) :
    tokens (')' :: rest) = .closing :: tokens rest := by
  rw [tokens, lexemes_close, List.map_cons, tokens]

theorem lexemes_blank {c : Char} (h : Text.isBlank c = true) (rest : List Char) :
    lexemes (c :: rest) = lexemes rest := by
  have hc := isAtomChar_of_isBlank h
  have hopen : c ≠ '(' := by rintro rfl; simp at h
  have hclose : c ≠ ')' := by rintro rfl; simp at h
  rw [lexemes, if_neg hopen, if_neg hclose, dif_neg (by simp [hc])]

theorem tokens_blanks {gap : List Char} (h : ∀ c ∈ gap, Text.isBlank c = true)
    (rest : List Char) : tokens (gap ++ rest) = tokens rest := by
  induction gap with
  | nil => rfl
  | cons c gap ih =>
    rw [List.cons_append, tokens, lexemes_blank (h c List.mem_cons_self), ← tokens]
    exact ih fun d hd ↦ h d (List.mem_cons_of_mem c hd)

theorem lexemes_atomChar {c : Char} (h : isAtomChar c = true) (rest : List Char) :
    lexemes (c :: rest) = consLexeme c h rest (lexemes rest) := by
  rw [lexemes, if_neg (ne_of_isAtomChar h (by decide)), if_neg (ne_of_isAtomChar h (by decide)),
    dif_pos h]

/-- A character in front of a text that does not begin with an atom is an atom of its own. -/
theorem consLexeme_of_not_startsAtom {c : Char} (h : isAtomChar c = true) {rest : List Char}
    (hrest : startsAtom rest = false) (ls : List Lexeme) :
    consLexeme c h rest ls = ⟨.atom (charAtom c h), c :: rest⟩ :: ls := by
  match ls with
  | [] | ⟨.opening, _⟩ :: _ | ⟨.closing, _⟩ :: _ => rfl
  | ⟨.atom a, site⟩ :: more => rw [consLexeme, if_neg (by simp [hrest])]

/-- **Maximal munch.** A run of atom characters is one atom if no further atom character follows. -/
theorem lexemes_atom_append {rest : List Char} (hrest : startsAtom rest = false) (a : Atom) :
    lexemes (a.chars ++ rest) = ⟨.atom a, a.chars ++ rest⟩ :: lexemes rest := by
  obtain ⟨chars, nonempty, legal⟩ := a
  induction chars with
  | nil => exact absurd rfl nonempty
  | cons c chars ih =>
    have hc : isAtomChar c = true := legal c List.mem_cons_self
    have hchars : ∀ d ∈ chars, isAtomChar d = true := fun d hd ↦ legal d (List.mem_cons_of_mem c hd)
    rw [List.cons_append, lexemes_atomChar hc]
    by_cases hnil : chars = []
    · subst hnil
      rw [List.nil_append, consLexeme_of_not_startsAtom hc hrest]
      rfl
    · have hstarts : startsAtom (chars ++ rest) = true := by
        rw [startsAtom_append hnil]
        obtain ⟨d, ds, rfl⟩ := List.exists_cons_of_ne_nil hnil
        exact hchars d List.mem_cons_self
      rw [ih hnil hchars, consLexeme, if_pos hstarts]
      rfl

theorem tokens_atom_append {rest : List Char} (hrest : startsAtom rest = false) (a : Atom) :
    tokens (a.chars ++ rest) = .atom a :: tokens rest := by
  rw [tokens, lexemes_atom_append hrest, List.map_cons, ← tokens]

/-! ## Assembling

A block of lexemes with the tokens of a value puts that value on the list being read, whatever lists
are open around it. -/

mutual

theorem assemble_value_append : ∀ (v : Sexp) (ls more : List Lexeme) (outer : List (List Sexp))
    (done : List Sexp), ls.map Lexeme.token = valueTokens v →
    assemble (ls ++ more) outer done = assemble more outer (v :: done)
  | .atom a, ls, more, outer, done, h => by
    rw [valueTokens, List.map_eq_singleton_iff] at h
    obtain ⟨⟨token, site⟩, rfl, rfl⟩ := h
    rw [List.singleton_append, assemble]
  | .list items, ls, more, outer, done, h => by
    rw [valueTokens, List.map_eq_cons_iff] at h
    obtain ⟨⟨token, site⟩, inner, rfl, rfl, h⟩ := h
    obtain ⟨ls, last, rfl, hls, hlast⟩ := List.map_eq_append_iff.mp h
    obtain ⟨⟨token, site'⟩, rfl, rfl⟩ := List.map_eq_singleton_iff.mp hlast
    rw [List.cons_append, assemble, List.append_assoc,
      assemble_items_append items ls _ (done :: outer) [] hls, List.append_nil,
      List.singleton_append, assemble, List.reverse_reverse]

theorem assemble_items_append : ∀ (vs : List Sexp) (ls more : List Lexeme)
    (outer : List (List Sexp)) (done : List Sexp), ls.map Lexeme.token = itemTokens vs →
    assemble (ls ++ more) outer done = assemble more outer (vs.reverse ++ done)
  | [], ls, more, outer, done, h => by
    rw [itemTokens, List.map_eq_nil_iff] at h
    rw [h, List.nil_append, List.reverse_nil, List.nil_append]
  | v :: vs, ls, more, outer, done, h => by
    rw [itemTokens] at h
    obtain ⟨first, others, rfl, hfirst, hothers⟩ := List.map_eq_append_iff.mp h
    rw [List.append_assoc, assemble_value_append v first _ outer done hfirst,
      assemble_items_append vs others more outer (v :: done) hothers, List.reverse_cons,
      List.append_assoc, List.singleton_append]

end

theorem assemble_of_map_token {ls : List Lexeme} {vs : List Sexp}
    (h : ls.map Lexeme.token = itemTokens vs) : assemble ls [] [] = .ok vs := by
  have hrun := assemble_items_append vs ls [] [] [] h
  rw [List.append_nil, List.append_nil] at hrun
  rw [hrun, assemble, List.reverse_reverse]

/-! ## Whole texts -/

/-- The tokens of a text whose escaped line ends have been removed. -/
def sourceTokens (text : List Char) : List Token := tokens (spliceLines text)

/-- A text with the tokens of some values reads as these values. -/
theorem readAllChars_of_sourceTokens {text : List Char} {vs : List Sexp}
    (h : sourceTokens text = itemTokens vs) : readAllChars text = .ok vs :=
  assemble_of_map_token h

theorem readAll_of_sourceTokens {text : String} {vs : List Sexp} (source? : Option String)
    (h : sourceTokens text.toList = itemTokens vs) : readAll text source? = .ok vs := by
  rw [readAll, readAllChars_of_sourceTokens h]
  rfl

theorem read_of_sourceTokens {text : String} {v : Sexp} (source? : Option String)
    (h : sourceTokens text.toList = valueTokens v) : read text source? = .ok (some v) := by
  have hall : readAll text source? = .ok [v] :=
    readAll_of_sourceTokens source? (by rw [h, itemTokens, itemTokens, List.append_nil])
  rw [read, hall]
  rfl

end Flowcheck.Sexp
