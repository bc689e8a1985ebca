import Flowcheck.Text.Blank
import Flowcheck.Text.Quoted

/-!
# S-expressions

A value is an atom or a list of values. An atom is a non-empty run of characters that are neither
blank nor a parenthesis; quotes, semicolons, backslashes and brackets are ordinary characters of an
atom, and nothing in an atom is ever interpreted. The legality of the characters is a field of the
type, so a printed value can always be read again.

Besides its list structure a list has a reading as a call: the first item, when it is an atom, is
the *tag*, and the items after it are the *arguments*, counted from one.
-/

namespace Flowcheck

/-! ## Atoms -/

/-- The characters an atom is made of. -/
def isAtomChar (c : Char) : Bool := !Text.isBlank c && c ≠ '(' && c ≠ ')'

/-- A non-empty run of atom characters. -/
structure Atom where
  chars : List Char
  nonempty : chars ≠ []
  legal : ∀ c ∈ chars, isAtomChar c = true
  deriving DecidableEq

namespace Atom

/-- The text of an atom. -/
def text (a : Atom) : String := String.ofList a.chars

/-- The texts that atoms have. -/
def IsLegalText (s : String) : Prop := s.toList ≠ [] ∧ ∀ c ∈ s.toList, isAtomChar c = true

instance (s : String) : Decidable (IsLegalText s) :=
  decidable_of_iff ((!s.toList.isEmpty && s.toList.all isAtomChar) = true)
    (by simp [IsLegalText])

/-- The atom of a legal text. -/
def ofText (s : String) (h : IsLegalText s) : Atom := ⟨s.toList, h.1, h.2⟩

/-- The atom of a text, if the text is legal. -/
def ofText? (s : String) : Option Atom :=
  if h : IsLegalText s then some (ofText s h) else none

@[ext] theorem ext {a b : Atom} (h : a.chars = b.chars) : a = b := by
  cases a; cases b; simpa using h

@[simp] theorem toList_text (a : Atom) : a.text.toList = a.chars := by simp [text]

@[simp] theorem text_ofText (s : String) (h : IsLegalText s) : (ofText s h).text = s := by
  simp [text, ofText]

theorem isLegalText_text (a : Atom) : IsLegalText a.text := by
  simpa [IsLegalText] using And.intro a.nonempty a.legal

@[simp] theorem ofText?_text (a : Atom) : ofText? a.text = some a := by
  rw [ofText?, dif_pos a.isLegalText_text]
  congr 1
  ext1
  simp [ofText]

theorem text_inj {a b : Atom} : a.text = b.text ↔ a = b :=
  ⟨fun h ↦ by ext1; simpa using congrArg String.toList h, fun h ↦ h ▸ rfl⟩

theorem ofText?_eq_some_iff {s : String} {a : Atom} : ofText? s = some a ↔ a.text = s := by
  constructor
  · intro h
    unfold ofText? at h
    split at h
    · injection h with h
      simp [← h]
    · cases h
  · rintro rfl
    simp

theorem ofText?_isSome_iff {s : String} : (ofText? s).isSome = true ↔ IsLegalText s := by
  by_cases h : IsLegalText s <;> simp [ofText?, h]

end Atom

/-! ## Values -/

/-- An s-expression. -/
inductive Sexp where
  | atom (a : Atom)
  | list (items : List Sexp)

namespace Sexp

instance : Inhabited Sexp := ⟨.list []⟩

mutual

private def decideEq : (v w : Sexp) → Decidable (v = w)
  | .atom a, .atom b => decidable_of_iff (a = b) (by simp)
  | .list vs, .list ws =>
    match decideEqItems vs ws with
    | isTrue h => isTrue (by rw [h])
    | isFalse h => isFalse (by simpa using h)
  | .atom _, .list _ => isFalse (by simp)
  | .list _, .atom _ => isFalse (by simp)

private def decideEqItems : (vs ws : List Sexp) → Decidable (vs = ws)
  | [], [] => isTrue rfl
  | [], _ :: _ => isFalse (by simp)
  | _ :: _, [] => isFalse (by simp)
  | v :: vs, w :: ws =>
    match decideEq v w, decideEqItems vs ws with
    | isTrue h, isTrue h' => isTrue (by rw [h, h'])
    | isFalse h, _ => isFalse (by simp [h])
    | isTrue _, isFalse h => isFalse (by simp [h])

end

instance : DecidableEq Sexp := decideEq

/-- The text of an atom; nothing for a list. -/
def atomText? : Sexp → Option String
  | .atom a => some a.text
  | .list _ => none

/-! ## The reading as a call -/

/-- The items of a list; nothing for an atom. -/
def items? : Sexp → Option (List Sexp)
  | .atom _ => none
  | .list items => some items

/-- The text of the first item when it is an atom. -/
def tag? : List Sexp → Option String
  | .atom a :: _ => some a.text
  | _ => none

/-- The item at an index from the front, or, for a negative index, from the end. -/
def item? (items : List Sexp) (index : Int) : Option Sexp :=
  let place := if index < 0 then index + items.length else index
  if place < 0 then none else items[place.toNat]?

/-- The argument at an index counted from one. -/
def arg? (items : List Sexp) (index : Int) : Option Sexp :=
  if 1 ≤ index ∧ index ≤ (items.length - 1 : Nat) then items[index.toNat]? else none

/-! ## Constructor form -/

mutual

/-- The value spelled out as constructor calls, for inspection. -/
def shown : Sexp → String
  | .atom a => "Atom(text=" ++ Text.quoted a.text ++ ")"
  | .list [] => "SList(items=())"
  | .list [v] => "SList(items=(" ++ shown v ++ ",))"
  | .list (v :: w :: rest) => "SList(items=(" ++ shown v ++ shownAfter (w :: rest) ++ "))"

/-- The constructor calls of further items, each after a comma. -/
def shownAfter : List Sexp → String
  | [] => ""
  | v :: rest => ", " ++ shown v ++ shownAfter rest

end

end Sexp

end Flowcheck
