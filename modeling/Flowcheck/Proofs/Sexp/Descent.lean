import Flowcheck.Proofs.Sexp.Tokens
import Mathlib.Data.List.TakeWhile

/-!
# Reading by descent

A reader can follow the grammar instead of keeping a stack. It reads values up to the first closing
parenthesis, and for each list that is opened it calls itself and looks at where that call stopped.
Such a reader has four places to fail: there is no closing parenthesis behind the items of a list,
there is another character in its place, a run of characters is not the text of an atom, and, at the
top, not all of the text has been used up.

It reads every text as the reader with the stack does. Two of the four failures do not occur: a call
stops at a closing parenthesis or at the end of the text, and what lies between blanks and
parentheses is the text of an atom.
-/

namespace Flowcheck.Sexp

/-! ## The reader -/

/-- How reading by descent can fail. A list that is not closed tells what stands in the place of its
closing parenthesis, if the text has not ended there. -/
inductive Setback where
  | leftOver (rest : List Char)
  | notClosed (found? : Option Char)
  | illegalAtom (text : List Char)
  deriving DecidableEq

/-- Values from the beginning of a text, and the rest of it that was not used up. -/
structure Progress (text : List Char) where
  values : List Sexp
  rest : List Char
  shorter : rest.length ≤ text.length

/-- Progress in the last part of a text, with the values from in front of that part. -/
def Progress.behind {text part : List Char} (values : List Sexp) (h : part.length ≤ text.length)
    (p : Progress part) : Progress text :=
  ⟨values ++ p.values, p.rest, Nat.le_trans p.shorter h⟩

theorem length_dropWhile_le_cons (p : Char → Bool) (c : Char) (text : List Char) :
    (text.dropWhile p).length ≤ (c :: text).length :=
  Nat.le_succ_of_le (List.dropWhile_suffix p).length_le

/-- Reads values up to a closing parenthesis that belongs to none of them, or to the end. -/
def descend (text : List Char) : Except Setback (Progress text) :=
  match text with
  | [] => .ok ⟨[], [], Nat.le_refl _⟩
  | c :: more =>
    if Text.isBlank c then (descend more).map (.behind [] (Nat.le_succ _))
    else if c = '(' then
      match descend more with
      | .error e => .error e
      | .ok inner =>
        match hrest : inner.rest with
        | [] => .error (.notClosed none)
        | d :: rest =>
          if d = ')' then
            have shorter : rest.length < more.length := by
              have h := inner.shorter
              rwa [hrest, List.length_cons] at h
            (descend rest).map
              (.behind [.list inner.values] (Nat.le_succ_of_le (Nat.le_of_lt shorter)))
          else .error (.notClosed (some d))
    else if c = ')' then .ok ⟨[], c :: more, Nat.le_refl _⟩
    else
      match Atom.ofText? (String.ofList (c :: more.takeWhile isAtomChar)) with
      | none => .error (.illegalAtom (c :: more.takeWhile isAtomChar))
      | some a =>
        (descend (more.dropWhile isAtomChar)).map
          (.behind [.atom a] (length_dropWhile_le_cons isAtomChar c more))
termination_by text.length
decreasing_by
  · exact Nat.lt_succ_self _
  · exact Nat.lt_succ_self _
  · exact Nat.lt_succ_of_lt shorter
  · exact Nat.lt_succ_of_le (List.dropWhile_suffix isAtomChar).length_le

/-- All values of a text, which has to be used up. -/
def readByDescent (text : List Char) : Except Setback (List Sexp) :=
  match descend text with
  | .error e => .error e
  | .ok p => if p.rest = [] then .ok p.values else .error (.leftOver p.rest)

/-! ## One call

A call that ends has read items of the list that is open; the reader with the stack goes on behind
them, whatever lists are open around it. A call that fails has come to the end of the text inside of
a list, and there the other reader fails as well. -/

/-- What the reader with the stack does on a text when a call on it has the given result. -/
inductive Follows (text : List Char) : Except Setback (Progress text) → Prop where
  | reached {p : Progress text} (stop : p.rest = [] ∨ ∃ tail, p.rest = ')' :: tail)
      (run : ∀ outer done, assemble (lexemes text) outer done =
        assemble (lexemes p.rest) outer (p.values.reverse ++ done)) : Follows text (.ok p)
  | unclosed (run : ∀ outer done, assemble (lexemes text) outer done = .error .unclosed) :
      Follows text (.error (.notClosed none))

/-- Values in front of a part of a text are added by both readers. -/
theorem Follows.behind {text part : List Char} {result : Except Setback (Progress part)}
    (follows : Follows part result) (values : List Sexp) (h : part.length ≤ text.length)
    (added : ∀ outer done, assemble (lexemes text) outer done =
      assemble (lexemes part) outer (values.reverse ++ done)) :
    Follows text (result.map (.behind values h)) := by
  cases follows with
  | @reached p stop run =>
    refine .reached stop fun outer done ↦ ?_
    rw [added, run, Progress.behind, List.reverse_append, List.append_assoc]
  | unclosed run => exact .unclosed fun outer done ↦ by rw [added, run]

theorem lexemes_word {c : Char} {more : List Char} {a : Atom}
    (word : Atom.ofText? (String.ofList (c :: more.takeWhile isAtomChar)) = some a) :
    lexemes (c :: more) = ⟨.atom a, c :: more⟩ :: lexemes (more.dropWhile isAtomChar) := by
  have chars : a.chars = c :: more.takeWhile isAtomChar := by
    rw [← Atom.toList_text, Atom.ofText?_eq_some_iff.1 word, String.toList_ofList]
  have split : c :: more = a.chars ++ more.dropWhile isAtomChar := by
    rw [chars, List.cons_append, List.takeWhile_append_dropWhile]
  have maximal : startsAtom (more.dropWhile isAtomChar) = false := by
    have ending := List.head?_dropWhile_not isAtomChar more
    cases hrest : more.dropWhile isAtomChar with
    | nil => rfl
    | cons d rest =>
      rw [hrest] at ending
      exact ending
  rw [split, lexemes_atom_append maximal]

/-- What lies between blanks and parentheses is the text of an atom. -/
theorem isSome_ofText?_word {c : Char} (hblank : ¬ Text.isBlank c = true) (hopen : c ≠ '(')
    (hclose : c ≠ ')') (more : List Char) :
    (Atom.ofText? (String.ofList (c :: more.takeWhile isAtomChar))).isSome = true := by
  have hc : isAtomChar c = true := by simp [isAtomChar, hblank, hopen, hclose]
  rw [Atom.ofText?_isSome_iff, Atom.IsLegalText, String.toList_ofList]
  refine ⟨List.cons_ne_nil _ _, List.forall_mem_cons.2 ⟨hc, fun d hd ↦ ?_⟩⟩
  exact List.mem_takeWhile_imp hd

theorem follows_descend (text : List Char) : Follows text (descend text) := by
  induction text using descend.induct with
  | case1 =>
    rw [descend]
    exact .reached (.inl rfl) fun _ _ ↦ rfl
  | case2 c more blank ih =>
    rw [descend, if_pos blank]
    exact ih.behind [] _ fun outer done ↦ by
      rw [lexemes_blank blank, List.reverse_nil, List.nil_append]
  | case3 more e failed nonblank ih =>
    rw [descend, if_neg nonblank, if_pos rfl, failed]
    rw [failed] at ih
    cases ih with
    | unclosed run => exact .unclosed fun outer done ↦ by rw [lexemes_open, assemble, run]
  | case4 more inner ended atEnd nonblank ih =>
    obtain ⟨items, rest, shorter⟩ := inner
    obtain rfl : rest = [] := atEnd
    rw [descend, if_neg nonblank, if_pos rfl, ended]
    rw [ended] at ih
    cases ih with
    | reached _ run => exact .unclosed fun outer done ↦ by rw [lexemes_open, assemble, run]; rfl
  | case5 more inner ended rest nonblank closed _ ih ihrest =>
    obtain ⟨items, rest', shorter⟩ := inner
    obtain rfl : rest' = ')' :: rest := closed
    rw [descend, if_neg nonblank, if_pos rfl, ended]
    rw [ended] at ih
    cases ih with
    | reached _ run =>
      refine ihrest.behind [.list items] _ fun outer done ↦ ?_
      rw [lexemes_open, assemble, run, lexemes_close, assemble, List.append_nil,
        List.reverse_reverse, List.reverse_singleton, List.singleton_append]
  | case6 more inner ended d rest other notClosing nonblank ih =>
    -- The call has stopped at a closing parenthesis or at the end.
    rw [ended] at ih
    cases ih with
    | reached stop _ =>
      rcases stop with stop | ⟨tail, stop⟩
      · rw [stop] at other
        cases other
      · rw [stop] at other
        exact absurd (List.cons.inj other).1.symm notClosing
  | case7 more nonblank notOpening =>
    rw [descend, if_neg nonblank, if_neg notOpening, if_pos rfl]
    exact .reached (.inr ⟨more, rfl⟩) fun _ _ ↦ rfl
  | case8 c more nonblank notOpening notClosing illegal =>
    have legal := isSome_ofText?_word nonblank notOpening notClosing more
    rw [illegal] at legal
    cases legal
  | case9 c more nonblank notOpening notClosing a word ih =>
    rw [descend, if_neg nonblank, if_neg notOpening, if_neg notClosing, word]
    refine ih.behind [.atom a] _ fun outer done ↦ ?_
    rw [lexemes_word word, assemble, List.reverse_singleton, List.singleton_append]

/-! ## Whole texts -/

/-- What reading by descent makes of a fault. -/
inductive Tells : Setback → ReadFault → Prop where
  | leftOver (rest : List Char) : Tells (.leftOver rest) (.stray rest)
  | notClosed : Tells (.notClosed none) .unclosed

/-- Both readers read the same values, or both fail for the same reason. -/
inductive Alike : Except Setback (List Sexp) → Except ReadFault (List Sexp) → Prop where
  | values (vs : List Sexp) : Alike (.ok vs) (.ok vs)
  | fault {e : Setback} {fault : ReadFault} (tells : Tells e fault) : Alike (.error e) (.error fault)

/-- **Reading by descent and reading with a stack are alike.** In particular no list is closed by a
wrong character and no atom has an illegal text. -/
theorem alike_readByDescent (text : List Char) :
    Alike (readByDescent text) (assemble (lexemes text) [] []) := by
  have follows := follows_descend text
  rw [readByDescent]
  cases hresult : descend text with
  | error e =>
    rw [hresult] at follows
    cases follows with
    | unclosed run =>
      rw [run]
      exact .fault .notClosed
  | ok p =>
    rw [hresult] at follows
    cases follows with
    | reached stop run =>
      rw [run]
      rcases stop with stop | ⟨tail, stop⟩
      · simp only [stop, lexemes, assemble, List.append_nil, List.reverse_reverse, if_true]
        exact .values p.values
      · simp only [stop, lexemes_close, assemble, List.cons_ne_nil, if_false]
        exact .fault (.leftOver _)

end Flowcheck.Sexp
