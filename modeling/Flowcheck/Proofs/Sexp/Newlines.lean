import Flowcheck.Proofs.Sexp.Grammar
import Flowcheck.Proofs.Text.Utf8
import Flowcheck.Sexp.File

/-!
# Ends of lines

A text that comes from a file has had its line ends unified, and splicing happens afterwards. Done
on the text itself, splicing meets CR LF and lone CRs, and it can bring a CR and a LF together that
did not belong to one line end. The two texts that are left differ, but only in blanks: they have
the same tokens, and what reading leads to is decided by the tokens alone.

One sequence is an exception, a backslash in front of a CR that no LF follows. It is no escaped
line end, but unifying turns it into one, and the backslash is lost. So the tokens are the same
exactly if it does not occur (`sourceTokens_unifyNewlines_iff`).
-/

namespace Flowcheck

/-! ## Texts with CR LF -/

namespace Text

/-- The text with a CR in front of every LF. -/
def returnNewlines : List Char → List Char
  | [] => []
  | c :: rest => if c = '\n' then '\r' :: '\n' :: returnNewlines rest else c :: returnNewlines rest

theorem unifyNewlines_cons_of_ne {c : Char} (h : c ≠ '\r') (rest : List Char) :
    unifyNewlines (c :: rest) = c :: unifyNewlines rest := by
  rw [unifyNewlines.eq_3 c rest fun _ hc ↦ absurd hc h, if_neg h]

theorem unifyNewlines_return {rest : List Char} (h : rest.head? ≠ some '\n') :
    unifyNewlines ('\r' :: rest) = '\n' :: unifyNewlines rest := by
  rw [unifyNewlines.eq_3 '\r' rest fun _ _ hrest ↦ h (by rw [hrest]; rfl), if_pos rfl]

/-- A text without CR is what unifying makes of its form with CR LF. -/
theorem unifyNewlines_returnNewlines {text : List Char} (h : '\r' ∉ text) :
    unifyNewlines (returnNewlines text) = text := by
  induction text with
  | nil => rfl
  | cons c rest ih =>
    obtain ⟨hc, hrest⟩ := List.ne_and_not_mem_of_not_mem_cons h
    rw [returnNewlines]
    split
    · next hlf => rw [unifyNewlines, ih hrest, hlf]
    · rw [unifyNewlines_cons_of_ne hc.symm, ih hrest]

end Text

namespace Sexp

open Text (unifyNewlines returnNewlines)

/-! ## The exception -/

/-- Whether a backslash stands in front of a CR that no LF follows. -/
def EscapesReturn (text : List Char) : Prop :=
  ∃ front back, text = front ++ '\\' :: '\r' :: back ∧ back.head? ≠ some '\n'

theorem escapesReturn_cons_iff {c : Char} {rest : List Char} :
    EscapesReturn (c :: rest) ↔
      (c = '\\' ∧ ∃ back, rest = '\r' :: back ∧ back.head? ≠ some '\n') ∨ EscapesReturn rest := by
  constructor
  · rintro ⟨_ | ⟨d, front⟩, back, split, hback⟩
    · obtain ⟨rfl, rfl⟩ := List.cons.inj split
      exact .inl ⟨rfl, back, rfl, hback⟩
    · obtain ⟨rfl, rfl⟩ := List.cons.inj split
      exact .inr ⟨front, back, rfl, hback⟩
  · rintro (⟨rfl, back, rfl, hback⟩ | ⟨front, back, rfl, hback⟩)
    · exact ⟨[], back, rfl, hback⟩
    · exact ⟨c :: front, back, rfl, hback⟩

theorem not_escapesReturn_nil : ¬ EscapesReturn [] := by
  rintro ⟨front, back, split, -⟩
  simp at split

theorem not_escapesReturn_returnNewlines {text : List Char} (h : '\r' ∉ text) :
    ¬ EscapesReturn (returnNewlines text) := by
  induction text with
  | nil => exact not_escapesReturn_nil
  | cons c rest ih =>
    obtain ⟨-, hrest⟩ := List.ne_and_not_mem_of_not_mem_cons h
    rw [returnNewlines]
    split
    · rw [escapesReturn_cons_iff, escapesReturn_cons_iff]
      rintro (⟨hc, -⟩ | ⟨hc, -⟩ | inner)
      · exact absurd hc (by decide)
      · exact absurd hc (by decide)
      · exact ih hrest inner
    · rw [escapesReturn_cons_iff]
      rintro (⟨-, back, split, hback⟩ | inner)
      · -- Where a CR comes first, the LF that it was put in front of comes second.
        match rest with
        | [] => simp [returnNewlines] at split
        | d :: rest =>
          rw [returnNewlines] at split
          split at split
          · obtain ⟨-, rfl⟩ := List.cons.inj split
            exact hback rfl
          · obtain ⟨rfl, -⟩ := List.cons.inj split
            exact hrest List.mem_cons_self
      · exact ih hrest inner

/-! ## Tokens -/

theorem tokens_blank {c : Char} (h : Text.isBlank c = true) (rest : List Char) :
    tokens (c :: rest) = tokens rest := by
  rw [tokens, lexemes_blank h, ← tokens]

theorem map_token_consLexeme_congr {c : Char} (h : isAtomChar c = true) {text text' : List Char}
    (starts : startsAtom text = startsAtom text') :
    ∀ {ls ls' : List Lexeme}, ls.map Lexeme.token = ls'.map Lexeme.token →
      (consLexeme c h text ls).map Lexeme.token = (consLexeme c h text' ls').map Lexeme.token
  | [], [], _ => rfl
  | ⟨.opening, _⟩ :: _, ⟨.opening, _⟩ :: _, same => by simpa [consLexeme] using same
  | ⟨.closing, _⟩ :: _, ⟨.closing, _⟩ :: _, same => by simpa [consLexeme] using same
  | ⟨.atom a, _⟩ :: more, ⟨.atom a', _⟩ :: more', same => by
    obtain ⟨rfl, rest⟩ : a = a' ∧ more.map Lexeme.token = more'.map Lexeme.token := by
      simpa using same
    rw [consLexeme, consLexeme, starts]
    split <;> simp [rest]

/-- The tokens behind a character, and whether one of them begins at once, decide about the tokens
with it. -/
theorem tokens_cons_congr (c : Char) {text text' : List Char} (same : tokens text = tokens text')
    (starts : startsAtom text = startsAtom text') : tokens (c :: text) = tokens (c :: text') := by
  by_cases hopen : c = '('
  · rw [hopen, tokens_open, tokens_open, same]
  by_cases hclose : c = ')'
  · rw [hclose, tokens_close, tokens_close, same]
  by_cases hblank : Text.isBlank c = true
  · rw [tokens_blank hblank, tokens_blank hblank, same]
  have hc : isAtomChar c = true := by simp [isAtomChar, hblank, hopen, hclose]
  rw [tokens, tokens, lexemes_atomChar hc, lexemes_atomChar hc]
  exact map_token_consLexeme_congr hc starts same

/-- Two texts that have the same tokens, wherever a further character is put in front of both. -/
structure LexAlike (text text' : List Char) : Prop where
  tokens : tokens text = tokens text'
  starts : startsAtom text = startsAtom text'

namespace LexAlike

variable {text text' : List Char}

theorem refl (text : List Char) : LexAlike text text := ⟨rfl, rfl⟩

theorem cons (h : LexAlike text text') (c : Char) : LexAlike (c :: text) (c :: text') :=
  ⟨tokens_cons_congr c h.tokens h.starts, rfl⟩

/-- Which blank it is does not matter, nor how many there are. -/
theorem blanks (h : LexAlike text text') {c d : Char} (hc : Text.isBlank c = true)
    (hd : Text.isBlank d = true) : LexAlike (c :: text) (d :: text') where
  tokens := by rw [tokens_blank hc, tokens_blank hd, h.tokens]
  starts := by rw [startsAtom, startsAtom, isAtomChar_of_isBlank hc, isAtomChar_of_isBlank hd]

/-- A further blank does not matter either. -/
theorem blank_right {c d : Char} (h : LexAlike (c :: text) text') (hc : Text.isBlank c = true)
    (hd : Text.isBlank d = true) : LexAlike (c :: text) (d :: text') where
  tokens := by rw [h.tokens, tokens_blank hd]
  starts := by rw [startsAtom, startsAtom, isAtomChar_of_isBlank hc, isAtomChar_of_isBlank hd]

end LexAlike

/-! ## Unifying, then splicing -/

/-- The text that reading a file looks at for tokens. -/
def unifiedSplice (text : List Char) : List Char := spliceLines (unifyNewlines text)

/-- What one more character in front does to a text whose line ends are unified before it is
spliced. -/
inductive Fronts (c : Char) (rest : List Char) : Prop where
  | kept (other : c = '\\' → rest.head? ≠ some '\r')
      (h : unifiedSplice (c :: rest) = c :: unifiedSplice rest)
  | replaced (hc : c = '\r') (h : unifiedSplice (c :: rest) = '\n' :: unifiedSplice rest)
  /-- The CR of a CR LF, which leaves no trace. -/
  | absorbed (hc : c = '\r') (next : rest.head? = some '\n')
      (h : unifiedSplice (c :: rest) = unifiedSplice rest)
  /-- A backslash in front of a CR, which is lost together with the line end. -/
  | lost (hc : c = '\\') (next : rest.head? = some '\r')
      (h : '\n' :: unifiedSplice (c :: rest) = unifiedSplice rest)

theorem unifiedSplice_newline (rest : List Char) :
    unifiedSplice ('\n' :: rest) = '\n' :: unifiedSplice rest := by
  rw [unifiedSplice, Text.unifyNewlines_cons_of_ne (by decide), spliceLines_cons_of_ne (by decide),
    unifiedSplice]

theorem fronts_return (rest : List Char) : Fronts '\r' rest := by
  by_cases next : rest.head? = some '\n'
  · refine .absorbed rfl next ?_
    obtain ⟨more, rfl⟩ := List.head?_eq_some_iff.1 next
    rw [unifiedSplice_newline, unifiedSplice, unifyNewlines, spliceLines_cons_of_ne (by decide),
      unifiedSplice]
  · refine .replaced rfl ?_
    rw [unifiedSplice, Text.unifyNewlines_return next, spliceLines_cons_of_ne (by decide),
      unifiedSplice]

theorem fronts_backslash {rest : List Char} (h : startsLine rest = false) : Fronts '\\' rest := by
  match rest with
  | [] => exact .kept (by simp) rfl
  | c :: rest =>
    by_cases hreturn : c = '\r'
    · -- The CR becomes an LF, and that is escaped.
      subst hreturn
      have next : rest.head? ≠ some '\n' := by
        intro next
        obtain ⟨more, rfl⟩ := List.head?_eq_some_iff.1 next
        exact absurd h (by simp [startsLine])
      refine .lost rfl rfl ?_
      rw [unifiedSplice, unifiedSplice, Text.unifyNewlines_cons_of_ne (by decide),
        Text.unifyNewlines_return next, spliceLines, spliceLines_cons_of_ne (by decide)]
    · have hnewline : c ≠ '\n' := by
        rintro rfl
        exact absurd h (by simp [startsLine])
      refine .kept (by simpa using hreturn) ?_
      rw [unifiedSplice, unifiedSplice, Text.unifyNewlines_cons_of_ne (by decide),
        Text.unifyNewlines_cons_of_ne hreturn,
        spliceLines_backslash (startsLine_of_ne hnewline hreturn _)]

theorem fronts {c : Char} {rest : List Char} (unescaped : c = '\\' → startsLine rest = false) :
    Fronts c rest := by
  by_cases hreturn : c = '\r'
  · exact hreturn ▸ fronts_return rest
  by_cases hbackslash : c = '\\'
  · exact hbackslash ▸ fronts_backslash (unescaped hbackslash)
  · refine .kept (fun hc ↦ absurd hc hbackslash) ?_
    rw [unifiedSplice, Text.unifyNewlines_cons_of_ne hreturn, spliceLines_cons_of_ne hbackslash,
      unifiedSplice]

theorem unifiedSplice_escapedLf (rest : List Char) :
    unifiedSplice ('\\' :: '\n' :: rest) = unifiedSplice rest := by
  rw [unifiedSplice, Text.unifyNewlines_cons_of_ne (by decide),
    Text.unifyNewlines_cons_of_ne (by decide), spliceLines, unifiedSplice]

theorem unifiedSplice_escapedCrLf (rest : List Char) :
    unifiedSplice ('\\' :: '\r' :: '\n' :: rest) = unifiedSplice rest := by
  rw [unifiedSplice, Text.unifyNewlines_cons_of_ne (by decide), unifyNewlines, spliceLines,
    unifiedSplice]

/-- **Unifying the line ends before splicing leaves other blanks and the same tokens.** -/
theorem lexAlike_unifiedSplice {text : List Char} (h : ¬ EscapesReturn text) :
    LexAlike (unifiedSplice text) (spliceLines text) := by
  induction text using spliceLines.induct with
  | case1 => exact .refl []
  | case2 rest ih =>
    rw [escapesReturn_cons_iff, escapesReturn_cons_iff] at h
    rw [unifiedSplice_escapedLf, spliceLines]
    exact ih fun deep ↦ h (.inr (.inr deep))
  | case3 rest ih =>
    rw [escapesReturn_cons_iff, escapesReturn_cons_iff, escapesReturn_cons_iff] at h
    rw [unifiedSplice_escapedCrLf, spliceLines]
    exact ih fun deep ↦ h (.inr (.inr (.inr deep)))
  | case4 c rest hlf hcr ih =>
    rw [escapesReturn_cons_iff, not_or] at h
    have inner := ih h.2
    rw [spliceLines.eq_4 c rest hlf hcr]
    rcases fronts (startsLine_eq_false_of_not_spliced hlf hcr) with
      ⟨-, same⟩ | ⟨rfl, same⟩ | ⟨rfl, next, same⟩ | ⟨rfl, next, -⟩
    · exact same ▸ inner.cons c
    · exact same ▸ inner.blanks (by decide) (by decide)
    · obtain ⟨more, rfl⟩ := List.head?_eq_some_iff.1 next
      rw [same]
      rw [unifiedSplice_newline] at inner ⊢
      exact inner.blank_right (by decide) (by decide)
    · -- This backslash is the exception.
      obtain ⟨back, rfl⟩ := List.head?_eq_some_iff.1 next
      refine absurd ⟨rfl, back, rfl, fun hback ↦ ?_⟩ h.1
      obtain ⟨more, rfl⟩ := List.head?_eq_some_iff.1 hback
      exact hcr more rfl rfl

/-- Unifying first never keeps an atom character that splicing alone takes away, and it takes one
more away where a lone CR is escaped. -/
theorem countP_unifiedSplice (text : List Char) :
    (unifiedSplice text).countP isAtomChar ≤ (spliceLines text).countP isAtomChar ∧
      (EscapesReturn text →
        (unifiedSplice text).countP isAtomChar < (spliceLines text).countP isAtomChar) := by
  induction text using spliceLines.induct with
  | case1 => exact ⟨Nat.le_refl _, fun h ↦ absurd h not_escapesReturn_nil⟩
  | case2 rest ih =>
    rw [unifiedSplice_escapedLf, spliceLines, escapesReturn_cons_iff, escapesReturn_cons_iff]
    exact ⟨ih.1, fun h ↦ ih.2 (by simpa using h)⟩
  | case3 rest ih =>
    rw [unifiedSplice_escapedCrLf, spliceLines, escapesReturn_cons_iff, escapesReturn_cons_iff,
      escapesReturn_cons_iff]
    exact ⟨ih.1, fun h ↦ ih.2 (by simpa using h)⟩
  | case4 c rest hlf hcr ih =>
    rw [spliceLines.eq_4 c rest hlf hcr, escapesReturn_cons_iff, List.countP_cons]
    rcases fronts (startsLine_eq_false_of_not_spliced hlf hcr) with
      ⟨other, same⟩ | ⟨rfl, same⟩ | ⟨rfl, -, same⟩ | ⟨rfl, -, same⟩
    · rw [same, List.countP_cons]
      refine ⟨Nat.add_le_add_right ih.1 _, fun h ↦ Nat.add_lt_add_right (ih.2 ?_) _⟩
      refine h.resolve_left ?_
      rintro ⟨hc, back, rfl, -⟩
      exact other hc rfl
    · rw [same, List.countP_cons]
      simpa [isAtomChar_of_isBlank] using ih
    · rw [same]
      simpa [isAtomChar_of_isBlank] using ih
    · have kept : (unifiedSplice ('\\' :: rest)).countP isAtomChar =
          (unifiedSplice rest).countP isAtomChar := by
        rw [← same, List.countP_cons_of_neg (by decide)]
      have least := ih.1
      rw [kept, if_pos isAtomChar_backslash]
      exact ⟨by omega, fun _ ↦ by omega⟩

/-- **A text from a file has the tokens of the text itself**, unless a lone CR is escaped. -/
theorem sourceTokens_unifyNewlines_iff {text : List Char} :
    sourceTokens (unifyNewlines text) = sourceTokens text ↔ ¬ EscapesReturn text := by
  refine ⟨fun same escaped ↦ ?_, fun h ↦ (lexAlike_unifiedSplice h).tokens⟩
  have fewer := (countP_unifiedSplice text).2 escaped
  rw [← atomLength_tokens, ← atomLength_tokens] at fewer
  exact Nat.ne_of_lt fewer (congrArg atomLength same)

/-! ## What reading leads to -/

/-- Two faults for the same reason. Where too much is closed, the texts from there on may differ. -/
inductive ReadFault.SameReason : ReadFault → ReadFault → Prop where
  | unclosed : SameReason .unclosed .unclosed
  | stray (rest rest' : List Char) : SameReason (.stray rest) (.stray rest')
  | several (count : Nat) : SameReason (.several count) (.several count)

/-- The same answer, or a refusal for the same reason, under whatever names the texts go. -/
inductive SameOutcome {α : Type} : Except ReadError α → Except ReadError α → Prop where
  | answer (a : α) : SameOutcome (.ok a) (.ok a)
  | refusal {e e' : ReadError} (same : e.fault.SameReason e'.fault) :
    SameOutcome (.error e) (.error e')

theorem SameOutcome.of_readFault {α : Type} {fault fault' : ReadFault}
    (same : fault.SameReason fault') (source? source?' : Option String) :
    SameOutcome ((.error fault : Except ReadFault α).mapError (⟨·, source?⟩))
      ((.error fault' : Except ReadFault α).mapError (⟨·, source?'⟩)) := .refusal same

theorem SameOutcome.of_ok {α : Type} (a : α) (source? source?' : Option String) :
    SameOutcome ((.ok a : Except ReadFault α).mapError (⟨·, source?⟩))
      ((.ok a : Except ReadFault α).mapError (⟨·, source?'⟩)) := .answer a

/-- Assembling looks at tokens only. -/
theorem sameOutcome_assemble {ls ls' : List Lexeme}
    (same : ls.map Lexeme.token = ls'.map Lexeme.token) (outer : List (List Sexp))
    (done : List Sexp) (source? source?' : Option String) :
    SameOutcome ((assemble ls outer done).mapError (⟨·, source?⟩))
      ((assemble ls' outer done).mapError (⟨·, source?'⟩)) := by
  induction ls, outer, done using assemble.induct generalizing ls' with
  | case1 done =>
    obtain rfl : ls' = [] := by simpa using same.symm
    exact .of_ok done.reverse source? source?'
  | case2 around outer done =>
    obtain rfl : ls' = [] := by simpa using same.symm
    exact .of_readFault .unclosed source? source?'
  | case3 outer done a _ more ih =>
    obtain ⟨⟨_, _⟩, more', rfl, rfl, rest⟩ := List.map_eq_cons_iff.1 same.symm
    exact ih rest.symm
  | case4 outer done _ more ih =>
    obtain ⟨⟨_, _⟩, more', rfl, rfl, rest⟩ := List.map_eq_cons_iff.1 same.symm
    exact ih rest.symm
  | case5 done _ more around outer ih =>
    obtain ⟨⟨_, _⟩, more', rfl, rfl, rest⟩ := List.map_eq_cons_iff.1 same.symm
    exact ih rest.symm
  | case6 done more site =>
    obtain ⟨⟨_, site'⟩, more', rfl, rfl, -⟩ := List.map_eq_cons_iff.1 same.symm
    exact .of_readFault (.stray _ _) source? source?'

/-- Two texts that lead to the same, read as many values or as one. -/
structure ReadAlike (text text' : String) (source? source?' : Option String) : Prop where
  all : SameOutcome (readAll text source?) (readAll text' source?')
  one : SameOutcome (read text source?) (read text' source?')

/-- **Texts with the same tokens lead to the same.** -/
theorem readAlike_of_sourceTokens {text text' : String}
    (same : sourceTokens text.toList = sourceTokens text'.toList)
    (source? source?' : Option String) : ReadAlike text text' source? source?' := by
  have all : SameOutcome (readAll text source?) (readAll text' source?') :=
    sameOutcome_assemble same [] [] source? source?'
  refine ⟨all, ?_⟩
  rw [read, read]
  generalize readAll text source? = result at all ⊢
  generalize readAll text' source?' = result' at all ⊢
  rcases all with ⟨vs⟩ | ⟨reason⟩
  · rcases vs with _ | ⟨v, _ | ⟨w, more⟩⟩
    · exact .of_ok none source? source?'
    · exact .of_ok (some v) source? source?'
    · exact .of_readFault (.several (v :: w :: more).length) source? source?'
  · exact .refusal reason

theorem readBytes_encodeUtf8 (text name : String) :
    readBytes (Text.encodeUtf8 text) name =
      (read (String.ofList (unifyNewlines text.toList)) (some name)).mapError .unreadable := by
  rw [readBytes, Text.readText_encodeUtf8]
  rfl

/-- **How the lines of a text end does not matter** to what reading leads to, be it read from a file
or directly, and be its ends LF or CR LF. It does matter if a lone CR is escaped. -/
theorem read_newlines (text name : String) (source? : Option String) :
    (¬ EscapesReturn text.toList →
      ReadAlike (String.ofList (unifyNewlines text.toList)) text (some name) source? ∧
        ∃ result, readBytes (Text.encodeUtf8 text) name = result.mapError .unreadable ∧
          SameOutcome result (read text source?)) ∧
      (EscapesReturn text.toList → ∀ vs, readAll text source? = .ok vs →
        readAll (String.ofList (unifyNewlines text.toList)) (some name) ≠ .ok vs) ∧
      ('\r' ∉ text.toList →
        ReadAlike (String.ofList (returnNewlines text.toList)) text source? source?) := by
  refine ⟨fun h ↦ ?_, fun escaped vs answered unified ↦ ?_, fun plain ↦ ?_⟩
  · have alike :
        ReadAlike (String.ofList (unifyNewlines text.toList)) text (some name) source? := by
      apply readAlike_of_sourceTokens
      rw [String.toList_ofList]
      exact sourceTokens_unifyNewlines_iff.2 h
    exact ⟨alike, _, readBytes_encodeUtf8 text name, alike.one⟩
  · rw [readAll_eq_ok_iff] at answered unified
    rw [String.toList_ofList] at unified
    exact sourceTokens_unifyNewlines_iff.1 (unified.trans answered.symm) escaped
  · -- Unified, the form with CR LF is the text again.
    have same := sourceTokens_unifyNewlines_iff.2 (not_escapesReturn_returnNewlines plain)
    rw [Text.unifyNewlines_returnNewlines plain] at same
    apply readAlike_of_sourceTokens
    rw [String.toList_ofList, same]

/-- A file with all three line ends, one of them escaped, and a text with an escaped LF. -/
theorem read_newlines_mixed :
    let mixed := "(a\\\r\nb\rc)\r\n"
    let plain := "(a\\\nb c)\n"
    ¬ EscapesReturn mixed.toList ∧ '\r' ∉ plain.toList ∧
      (∃ result, readBytes (Text.encodeUtf8 mixed) "f" = result.mapError .unreadable ∧
        SameOutcome result (read mixed none)) ∧
      ReadAlike (String.ofList (returnNewlines plain.toList)) plain none none := by
  intro mixed plain
  have fits : ¬ EscapesReturn mixed.toList := by
    simp [mixed, escapesReturn_cons_iff, not_escapesReturn_nil]
  have noReturn : '\r' ∉ plain.toList := by decide
  exact ⟨fits, noReturn, ((read_newlines mixed "f" none).1 fits).2,
    (read_newlines plain "f" none).2.2 noReturn⟩

-- The lone CR separates two atoms; once it has become an LF the backslash joins them.
example :
    (readAllChars "a\\\rb".toList).toOption.map List.length = some 2 ∧
      (readAllChars (unifyNewlines "a\\\rb".toList)).toOption.map List.length = some 1 := by
  decide

end Sexp

end Flowcheck
