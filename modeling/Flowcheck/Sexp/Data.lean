import Flowcheck.Json.Basic
import Flowcheck.Sexp.Basic

/-!
# S-expressions as data

A value corresponds to a tree of texts and lists. Going to JSON is total. Coming back from
arbitrary data can fail: an atom needs a legal text, and a list takes values only, where a plain
text counts as the atom of that text.
-/

namespace Flowcheck.Sexp

mutual

/-- An atom as its text, a list as a list. -/
def toJson : Sexp → Json
  | .atom a => .str a.text
  | .list items => .list (toJsonItems items)

/-- The items as data. -/
def toJsonItems : List Sexp → List Json
  | [] => []
  | v :: rest => toJson v :: toJsonItems rest

end

/-! ## Building -/

/-- Why a value cannot be built. -/
inductive BuildError where
  | emptyAtom (given : Json)
  | illegalAtom (text : String)
  | badItem (given : Json)

/-- What is wrong with the datum. -/
def BuildError.message : BuildError → String
  | .emptyAtom given => "Atom text must be a non-empty string, got " ++ given.shown
  | .illegalAtom text =>
    "Atom text may not contain whitespace or parentheses: " ++ Text.quoted text
  | .badItem given =>
    "SList items must be Atom or SList, got " ++ given.typeName ++ ": " ++ given.shown

/-- The atom of a text. -/
def atomOfText (s : String) : Except BuildError Atom :=
  match Atom.ofText? s with
  | some a => .ok a
  | none => .error (if s = "" then .emptyAtom (.str s) else .illegalAtom s)

/-- The atom of a datum, which has to be a text. -/
def atomOfJson : Json → Except BuildError Atom
  | .str s => atomOfText s
  | given => .error (.emptyAtom given)

/-- Something offered as an item of a list: a value, or data of another kind. -/
inductive Offer where
  | value (v : Sexp)
  | data (given : Json)

/-- Turns a plain text into its atom. -/
def Offer.resolve : Offer → Except BuildError Offer
  | .data (.str s) => (fun a ↦ .value (.atom a)) <$> atomOfText s
  | offer => .ok offer

/-- Accepts values only. -/
def Offer.accept : Offer → Except BuildError Sexp
  | .value v => .ok v
  | .data given => .error (.badItem given)

/-- The list of the offered items. All texts become atoms before any item is refused. -/
def listOf (offers : List Offer) : Except BuildError Sexp := do
  let resolved ← offers.mapM Offer.resolve
  return .list (← resolved.mapM Offer.accept)

end Flowcheck.Sexp
