import Flowcheck.Proofs.Command.Outcome
import Flowcheck.Proofs.Sexp.Lines
import Mathlib

/-!
# Printing the values of a file

Parsing a file writes each of its values in the pretty form, with a line end behind it. The text is
meant to be read again, and mostly it can be: it reads as the same values unless one of them is an
atom with a backslash at its end. The pretty printer puts a space in front of a line end that such
an atom would escape; the command, which writes line ends of its own, does not.
-/

namespace Flowcheck.Command

variable {setting : Setting} {s : Session}

/-! ## The text that is written -/

theorem toList_formatted (values : List Sexp) :
    (formatted values .text).toList = Sexp.prettyLines {} values := by
  rw [formatted, String.toList_join]
  induction values with
  | nil => rfl
  | cons v values ih =>
    rw [List.map_cons, List.flatMap_cons, ih, String.toList_append, Sexp.pretty,
      String.toList_ofList, Sexp.prettyLines, List.append_assoc]
    rfl

/-- The values of a text do not depend on what its source is called. -/
theorem readAll_source {text : String} {values : List Sexp} {source? : Option String}
    (h : Sexp.readAll text source? = .ok values) (source?' : Option String) :
    Sexp.readAll text source?' = .ok values :=
  Sexp.readAll_eq_ok_iff.mpr (Sexp.readAll_eq_ok_iff.mp h)

/-- Whatever the output is, one text is written to it. -/
theorem outcome_performParse {source text : String} {values : List Sexp}
    (hread : outcome setting s (locateExisting "source file" source >>= readFile) = (.ok text, s))
    (hvalues : Sexp.readAll text none = .ok values) (output? : Option String) :
    outcome setting s (performParse source .text output?) =
      outcome setting s (do
        (← openSink output?).write (formatted values .text)
        return .success) := by
  obtain ⟨l, s₁, hlocate, hfile⟩ := exists_of_outcome_bind hread
  have hreadValues : outcome setting s₁ (readValues l) = (.ok values, s) := by
    rw [readValues, outcome_bind_of_ok hfile, readAll_source hvalues]
    rfl
  rw [performParse, outcome_bind_of_ok hlocate, outcome_bind_of_ok hreadValues]

/-- **The text that parsing a file writes reads back exactly if no value ends in a backslash.** The
command succeeds in either case and writes the same text wherever the output goes. -/
theorem performParse_reads_back_iff {source text : String} {values : List Sexp}
    (hread : outcome setting s (locateExisting "source file" source >>= readFile) = (.ok text, s))
    (hvalues : Sexp.readAll text none = .ok values) (source? : Option String) :
    ∃ written,
      (∀ output?, outcome setting s (performParse source .text output?) =
        outcome setting s (do (← openSink output?).write written; return .success)) ∧
      outcome setting s (performParse source .text none) =
        (.ok .success, { s with output := s.output ++ written }) ∧
      (Sexp.readAll written source? = .ok values ↔
        ∀ v ∈ values, v.endsInBackslash = false) := by
  refine ⟨formatted values .text, outcome_performParse hread hvalues, ?_, ?_⟩
  · rw [outcome_performParse hread hvalues none]
    rfl
  · rw [Sexp.readAll_eq_ok_iff, toList_formatted, Sexp.sourceTokens_prettyLines_iff]

/-- No line end follows the backslash of `a (b\)`. -/
theorem performParse_reads_back_list :
    ∃ a b : Atom, a.text = "a" ∧ b.text = "b\\" ∧
      outcome { workingDirectory := [] } (fileWith "a (b\\)")
        (locateExisting "source file" "f" >>= readFile) = (.ok "a (b\\)", fileWith "a (b\\)") ∧
      Sexp.readAll "a (b\\)" none = .ok [.atom a, .list [.atom b]] ∧
      ∃ written,
        outcome { workingDirectory := [] } (fileWith "a (b\\)") (performParse "f" .text none) =
          (.ok .success, { fileWith "a (b\\)" with output := written }) ∧
        Sexp.readAll written none = .ok [.atom a, .list [.atom b]] := by
  let a : Atom := .ofText "a" (by decide)
  let b : Atom := .ofText "b\\" (by decide)
  have hread : outcome { workingDirectory := [] } (fileWith "a (b\\)")
      (locateExisting "source file" "f" >>= readFile) =
        (.ok "a (b\\)", fileWith "a (b\\)") := by cbv
  have hvalues : Sexp.readAll "a (b\\)" none = .ok [.atom a, .list [.atom b]] := by cbv
  obtain ⟨written, -, hprinted, hback⟩ := performParse_reads_back_iff hread hvalues none
  rw [show (fileWith "a (b\\)").output = "" from rfl, String.empty_append] at hprinted
  exact ⟨a, b, rfl, rfl, hread, hvalues, written, hprinted, hback.mpr (by decide)⟩

/-- The values `a\` and `b` stand on two lines of the output, and these read as one value. -/
theorem performParse_joins_values :
    ∃ a b ab : Atom, a.text = "a\\" ∧ b.text = "b" ∧ ab.text = "ab" ∧
      Sexp.readAll "a\\ b" none = .ok [.atom a, .atom b] ∧
      outcome { workingDirectory := [] } (fileWith "a\\ b") (performParse "f" .text none) =
        (.ok .success, { fileWith "a\\ b" with output := "a\\\nb\n" }) ∧
      Sexp.readAll "a\\\nb\n" none = .ok [.atom ab] ∧
      Sexp.readAll "a\\\nb\n" none ≠ .ok [.atom a, .atom b] := by
  let a : Atom := .ofText "a\\" (by decide)
  let b : Atom := .ofText "b" (by decide)
  let ab : Atom := .ofText "ab" (by decide)
  have hjoined : Sexp.readAll "a\\\nb\n" none = .ok [.atom ab] := by cbv
  refine ⟨a, b, ab, rfl, rfl, rfl, by cbv, by cbv, hjoined, ?_⟩
  rw [hjoined]
  simp

end Flowcheck.Command
