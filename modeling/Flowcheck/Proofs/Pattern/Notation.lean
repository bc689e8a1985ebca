import Flowcheck.Proofs.Pattern.Formation
import Flowcheck.Proofs.Sexp.RoundTrip

/-!
# Text notation and parts

A pattern can be written as a text or put together from parts, texts of single atoms and patterns
that are there already. Both ways make the same patterns. What they share is a value: a text holds
one, each part stands for one, and the pattern that is made is the one that the value denotes, or
the list of the values of the parts.

Writing a pattern gives the flat form of that value, so a written pattern reads as the value again
and makes the same pattern. A name that would be taken for something else when it is read again,
such as one that begins with three dots behind a question mark, does not come up, since each name
was read from the notation in the first place.
-/

namespace Flowcheck

/-! ## The flat form of a list -/

namespace Sexp

theorem flat_atom (a : Atom) : flat (.atom a) = a.text := rfl

theorem toList_intercalate_flat (v : Sexp) (vs : List Sexp) :
    (" ".intercalate ((v :: vs).map flat)).toList ++ [')'] = flatChars v ++ flatMore vs := by
  induction vs generalizing v with
  | nil =>
    rw [List.map_singleton, String.intercalate_singleton, flat, String.toList_ofList, flatMore]
  | cons w ws ih =>
    rw [List.map_cons, List.map_cons, String.intercalate_cons_cons, ← List.map_cons,
      String.toList_append, String.toList_append, List.append_assoc, ih, flat,
      String.toList_ofList, List.append_assoc, flatMore]
    rfl

/-- A list is written as its items with a space between two of them, in parentheses. -/
theorem flat_list (vs : List Sexp) :
    flat (.list vs) = "(" ++ " ".intercalate (vs.map flat) ++ ")" := by
  rw [← String.toList_inj, flat, String.toList_ofList, String.toList_append, String.toList_append,
    List.append_assoc, flatChars]
  cases vs with
  | nil => rfl
  | cons v vs =>
    rw [flatItems, ← toList_intercalate_flat]
    rfl

end Sexp

/-! ## Writing nodes -/

namespace PatternNode

theorem notationText_of_marks {text : String} {n : PatternNode} (marks : Marks text n) :
    n.notationText = text := by
  cases marks <;> rw [notationText]

mutual

/-- A node is written as the value that denotes it. -/
theorem notationText_of_denotes : ∀ {v : Sexp} {n : PatternNode}, Denotes v n →
    n.notationText = v.flat
  | _, _, .atom marks => by rw [notationText_of_marks marks, Sexp.flat_atom]
  | _, _, .list each => by rw [notationText, notationTexts_of_denotesAll each, Sexp.flat_list]

theorem notationTexts_of_denotesAll : ∀ {vs : List Sexp} {ns : List PatternNode},
    DenotesAll vs ns → notationTexts ns = vs.map Sexp.flat
  | _, _, .nil => rfl
  | _, _, .cons first others => by
    rw [notationTexts, notationText_of_denotes first, notationTexts_of_denotesAll others,
      List.map_cons]

end

theorem notationText_of_ofSexp {v : Sexp} {n : PatternNode} (h : ofSexp v = .ok n) :
    n.notationText = v.flat :=
  notationText_of_denotes (ofSexp_eq_ok_iff.1 h).2

end PatternNode

namespace Pattern

open PatternNode

/-! ## Making patterns -/

/-- A written value makes the pattern of the tree that it denotes. -/
theorem compile_flat (v : Sexp) : compile v.flat = ofSexp v >>= ofNode := by
  have read : Sexp.read v.flat none = .ok (some v) :=
    Sexp.read_of_sourceTokens none (Sexp.sourceTokens_flat v)
  rw [compile, read]

/-- A pattern is made of its own tree. -/
theorem ofNode_root (p : Pattern) : ofNode p.root = .ok p := by
  obtain ⟨isPattern, captures⟩ := captures?_eq_ok_iff.1 p.checked
  exact ofNode_eq_ok_iff.2 ⟨isPattern, rfl, captures⟩

/-- The part in text notation. -/
def Part.notated : Part → String
  | .text notated => notated
  | .pattern p => p.text
  | .node n => n.notationText
  | .data given => given.shown

/-- The list of the parts in text notation. -/
def listText (parts : List Part) : String :=
  "(" ++ " ".intercalate (parts.map Part.notated) ++ ")"

mutual

/-- The patterns that are made from texts, at once or from parts. -/
inductive FromText : Pattern → Prop where
  | compiled {text : String} {p : Pattern} (h : compile text = .ok p) : FromText p
  | built {parts : List Part} {p : Pattern} (each : ∀ part ∈ parts, FromTextPart part)
      (h : ofParts parts = .ok p) : FromText p

/-- The parts of such patterns: texts of atoms, and patterns that are made from texts. -/
inductive FromTextPart : Part → Prop where
  | text {notated : String} (legal : Atom.IsLegalText notated) : FromTextPart (.text notated)
  | pattern {p : Pattern} (h : FromText p) : FromTextPart (.pattern p)

end

/-! ## The value of a part -/

/-- The part is written as the value and stands for the node that the value denotes. -/
structure Part.StandsFor (part : Part) (v : Sexp) : Prop where
  element : part.element = ofSexp v
  notated : part.notated = v.flat

theorem exists_values {parts : List Part} (each : ∀ part ∈ parts, ∃ v, part.StandsFor v) :
    ∃ vs, parts.mapM Part.element = ofItems vs ∧ parts.map Part.notated = vs.map Sexp.flat := by
  induction parts with
  | nil => exact ⟨[], rfl, rfl⟩
  | cons part parts ih =>
    obtain ⟨⟨v, element, notated⟩, each⟩ := List.forall_mem_cons.1 each
    obtain ⟨vs, elements, notateds⟩ := ih each
    refine ⟨v :: vs, ?_, ?_⟩
    · rw [List.mapM_cons, element, elements, ofItems]
    · rw [List.map_cons, List.map_cons, notated, notateds]

/-- **Parts and the text of their list make the same pattern**, or fail with the same error. -/
theorem compile_listText_of_standsFor {parts : List Part}
    (each : ∀ part ∈ parts, ∃ v, part.StandsFor v) : compile (listText parts) = ofParts parts := by
  obtain ⟨vs, elements, notateds⟩ := exists_values each
  rw [listText, notateds, ← Sexp.flat_list, compile_flat, ofSexp, ofParts, elements, bind_assoc]
  rfl

theorem exists_ofSexp_of_compile {text : String} {p : Pattern} (h : compile text = .ok p) :
    ∃ v, Sexp.read text none = .ok (some v) ∧ ofSexp v = .ok p.root := by
  obtain ⟨v, one, root, denoted, formed⟩ := compile_eq_ok_iff.1 h
  obtain ⟨-, rfl, -⟩ := ofNode_eq_ok_iff.1 formed
  exact ⟨v, Sexp.read_eq_ok_iff.2 one, denoted⟩

theorem standsFor_text {notated : String} (legal : Atom.IsLegalText notated) :
    (Part.text notated).StandsFor (.atom (Atom.ofText notated legal)) where
  element := by rw [Part.element, ofSexp, Atom.text_ofText]
  notated := by rw [Part.notated, Sexp.flat_atom, Atom.text_ofText]

theorem standsFor_pattern {p : Pattern} {v : Sexp} (denoted : ofSexp v = .ok p.root) :
    (Part.pattern p).StandsFor v where
  element := denoted.symm
  notated := notationText_of_ofSexp denoted

mutual

/-- What is made from texts has a value that denotes it. -/
theorem FromText.exists_value : ∀ {p : Pattern}, FromText p → ∃ v, ofSexp v = .ok p.root
  | _, .compiled h => by
    obtain ⟨v, -, denoted⟩ := exists_ofSexp_of_compile h
    exact ⟨v, denoted⟩
  | _, .built each h => by
    rw [← compile_listText_of_standsFor fun part hpart ↦ (each part hpart).exists_standsFor] at h
    obtain ⟨v, -, denoted⟩ := exists_ofSexp_of_compile h
    exact ⟨v, denoted⟩

theorem FromTextPart.exists_standsFor : ∀ {part : Part}, FromTextPart part →
    ∃ v, part.StandsFor v
  | _, .text legal => ⟨_, standsFor_text legal⟩
  | _, .pattern h => by
    obtain ⟨v, denoted⟩ := h.exists_value
    exact ⟨v, standsFor_pattern denoted⟩

end

theorem FromText.compile_text {p : Pattern} (h : FromText p) : compile p.text = .ok p := by
  obtain ⟨v, denoted⟩ := h.exists_value
  calc compile p.text
      = compile v.flat := by rw [text, notationText_of_ofSexp denoted]
    _ = ofNode p.root := by rw [compile_flat, denoted]; rfl
    _ = .ok p := ofNode_root p

theorem text_of_compile {text : String} {p : Pattern} (h : compile text = .ok p) :
    ∃ v, Sexp.read text none = .ok (some v) ∧ p.text = v.flat := by
  obtain ⟨v, read, denoted⟩ := exists_ofSexp_of_compile h
  exact ⟨v, read, notationText_of_ofSexp denoted⟩

/-- **The two notations agree.** A pattern that is made from texts is made from its own text again,
and the text of a pattern that was made from one text is the flat form of what that text holds.
Parts make a pattern exactly if the text of their list does, the same one, and otherwise both fail
with the same error. -/
theorem notations_agree :
    (∀ p, FromText p → compile p.text = .ok p) ∧
    (∀ text p, compile text = .ok p →
      ∃ v, Sexp.read text none = .ok (some v) ∧ p.text = v.flat) ∧
    ∀ parts, (∀ part ∈ parts, FromTextPart part) → compile (listText parts) = ofParts parts :=
  ⟨fun _ h ↦ h.compile_text, fun _ _ h ↦ text_of_compile h, fun _ each ↦
    compile_listText_of_standsFor fun part hpart ↦ (each part hpart).exists_standsFor⟩

example : (compile " (_ ?..x\n\\ __ ?....y\\)").toOption.map text =
    some "(_ ?..x \\ __ ?....y\\)" := by
  cbv

end Pattern

end Flowcheck
