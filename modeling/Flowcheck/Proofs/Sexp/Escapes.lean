import Flowcheck.Proofs.Sexp.Splicing

/-!
# Escaped line ends are invisible

An escaped line end may be put anywhere into a text, within an atom, behind a backslash or next to a
line end that is there already, and the text reads as before. The one place where it may not be put
is the inside of another escaped line end, which it would destroy: what splicing brings together is
not looked at again, so the two halves stay in the text.

Splicing is therefore the whole argument. It treats what stands in front of the new line end, the
new line end, and what stands behind it separately, because no escaped line end is cut by either
boundary; and what it makes of the parts in front and behind is what it made of them together.
-/

namespace Flowcheck.Sexp

/-! ## One more escaped line end -/

/-- The boundary in front of an escaped line end lies inside of none. -/
theorem not_cuts_of_escape {front escape : List Char} (h : IsEscape escape) (back : List Char) :
    ¬ Cuts front (escape ++ back) := by
  apply not_cuts_of_not_startsLine
  rcases h with rfl | rfl <;> rfl

/-- The boundary behind an escaped line end lies inside of none. -/
theorem not_cuts_escape {escape : List Char} (h : IsEscape escape) (back : List Char) :
    ¬ Cuts escape back := by
  rw [cuts_iff]
  rcases h with rfl | rfl <;> rintro (⟨ending, -⟩ | ⟨ending, -⟩) <;> revert ending <;> decide

theorem spliceLines_escape {escape : List Char} (h : IsEscape escape) :
    spliceLines escape = [] := by
  rcases h with rfl | rfl <;> rfl

/-- Between any two texts an escaped line end is removed and holds them apart. -/
theorem spliceLines_escape_between {escape : List Char} (h : IsEscape escape)
    (front back : List Char) :
    spliceLines (front ++ escape ++ back) = spliceLines front ++ spliceLines back := by
  calc spliceLines (front ++ escape ++ back)
      = spliceLines front ++ spliceLines (escape ++ back) := by
        rw [List.append_assoc, spliceLines_append_of_not_cuts (not_cuts_of_escape h back)]
    _ = spliceLines front ++ (spliceLines escape ++ spliceLines back) := by
        rw [spliceLines_append_of_not_cuts (not_cuts_escape h back)]
    _ = spliceLines front ++ spliceLines back := by
        rw [spliceLines_escape h, List.nil_append]

/-- Cut in two, an escaped line end stays in the texts. -/
theorem length_spliceLines_of_cuts {front back : List Char} (cut : Cuts front back) :
    (spliceLines (front ++ back)).length < (spliceLines front ++ spliceLines back).length := by
  rcases cuts_iff.1 cut with ⟨⟨before, rfl⟩, hback⟩ | ⟨⟨before, rfl⟩, ⟨after, rfl⟩⟩
  · have hfront : spliceLines (before ++ ['\\']) = spliceLines before ++ ['\\'] :=
      spliceLines_append before rfl
    have htogether : spliceLines (before ++ ['\\'] ++ back) =
        spliceLines before ++ spliceLines ('\\' :: back) := by
      rw [List.append_assoc]
      exact spliceLines_append before rfl
    have hlost : (spliceLines ('\\' :: back)).length ≤ (spliceLines back).length := by
      unfold startsLine at hback
      split at hback
      · rw [spliceLines, spliceLines_cons_of_ne (by decide), List.length_cons]
        omega
      · rw [spliceLines, spliceLines_cons_of_ne (by decide), spliceLines_cons_of_ne (by decide),
          List.length_cons, List.length_cons]
        omega
      · cases hback
    rw [hfront, htogether]
    simp only [List.length_append, List.length_singleton]
    omega
  · have hfront : spliceLines (before ++ ['\\', '\r']) = spliceLines before ++ ['\\', '\r'] :=
      spliceLines_append before rfl
    have htogether : spliceLines (before ++ ['\\', '\r'] ++ ('\n' :: after)) =
        spliceLines before ++ spliceLines after := by
      rw [List.append_assoc]
      exact spliceLines_append before rfl
    rw [hfront, List.singleton_append, htogether, spliceLines_cons_of_ne (by decide)]
    simp only [List.length_append, List.length_cons]
    omega

/-- **Where an escaped line end may be put.** It leaves no trace exactly at the places that are not
inside of another one. -/
theorem spliceLines_insert_iff {escape : List Char} (h : IsEscape escape)
    {front back : List Char} :
    spliceLines (front ++ escape ++ back) = spliceLines (front ++ back) ↔ ¬ Cuts front back := by
  rw [spliceLines_escape_between h]
  constructor
  · intro same cut
    have shorter := length_spliceLines_of_cuts cut
    rw [same] at shorter
    exact Nat.lt_irrefl _ shorter
  · intro whole
    rw [spliceLines_append_of_not_cuts whole]

/-! ## Any number of escaped line ends -/

/-- The text with any number of escaped line ends put in, one after the other, none of them inside
of one that is already there. -/
inductive Broken (text : String) : String → Prop where
  | unbroken : Broken text text
  | insert {front back escape : String} (h : Broken text (front ++ back))
      (isEscape : IsEscape escape.toList) (whole : ¬ Cuts front.toList back.toList) :
      Broken text (front ++ escape ++ back)

theorem Broken.spliceLines_eq {text broken : String} (h : Broken text broken) :
    spliceLines broken.toList = spliceLines text.toList := by
  induction h with
  | unbroken => rfl
  | insert _ isEscape whole ih =>
    rw [String.toList_append] at ih
    rw [String.toList_append, String.toList_append, ← ih]
    exact (spliceLines_insert_iff isEscape).2 whole

/-- **Escaped line ends are invisible.** With any number of them put in, a text has the values that
it has without them, or it fails with the same error. -/
theorem readAll_broken {text broken : String} (h : Broken text broken)
    (source? : Option String) :
    readAll broken source? = readAll text source? ∧ read broken source? = read text source? := by
  have all : readAll broken source? = readAll text source? := by
    rw [readAll, readAll, readAllChars, readAllChars, h.spliceLines_eq]
  exact ⟨all, by rw [read, read, all]⟩

/-- Two atoms, the first with a backslash in front of a lone CR. An escaped line end goes between
these two characters, and another one behind the backslash again, in front of the new one. -/
theorem readAll_broken_return :
    ∃ a b : Atom, a.text = "x\\" ∧ b.text = "y" ∧
      Broken "x\\\ry" "x\\\\\n\\\r\n\ry" ∧
      readAll "x\\\\\n\\\r\n\ry" none = .ok [.atom a, .atom b] := by
  let a : Atom := ⟨['x', '\\'], by decide, List.all_eq_true.mp (by decide)⟩
  let b : Atom := ⟨['y'], by decide, List.all_eq_true.mp (by decide)⟩
  have once : Broken "x\\\ry" ("x\\" ++ "\\\r\n" ++ "\ry") :=
    .insert .unbroken (by decide) (by decide)
  have twice : Broken "x\\\ry" ("x\\" ++ "\\\n" ++ "\\\r\n\ry") :=
    .insert once (by decide) (by decide)
  have unbroken : readAll "x\\\ry" none = .ok [.atom a, .atom b] := by rfl
  exact ⟨a, b, rfl, rfl, twice, (readAll_broken twice none).1.trans unbroken⟩

end Flowcheck.Sexp
