import Flowcheck.Pattern.Basic

/-!
# Matching

A list matches a list of the same length item by item; with a rest capture at the end, of at least
the length without it. There is no choice anywhere, so a match is unique and its bindings come in
the order in which the captures stand in the pattern.
-/

namespace Flowcheck

/-- Values bound to capture names, in the order of the pattern. -/
abbrev Bindings := List (String × Sexp)

namespace PatternNode

mutual

/-- The bindings under which the value is an instance of the node. -/
def bind? : PatternNode → Sexp → Option Bindings
  | .literal text, .atom a => if a.text = text then some [] else none
  | .literal _, .list _ => none
  | .capture name, v => some [(name, v)]
  | .wildcard, _ => some []
  | .rest _, _ => none
  | .list elements, .list items => bindAll? elements items
  | .list _, .atom _ => none
  | .foreign _, _ => none

/-- The bindings under which the items are instances of the elements. -/
def bindAll? : List PatternNode → List Sexp → Option Bindings
  | [], [] => some []
  | [], _ :: _ => none
  | [.rest name], items => some [(name, .list items)]
  | _ :: _, [] => none
  | e :: es, v :: vs => do
    let here ← bind? e v
    let there ← bindAll? es vs
    return here ++ there

end

end PatternNode

/-- A successful match: the values of the captures. -/
structure Match where
  bindings : Bindings

namespace Match

/-- The value bound to a name. -/
def get? (m : Match) (name : String) : Option Sexp :=
  (m.bindings.find? fun b ↦ b.1 = name).map Prod.snd

/-- The names in the order of the pattern. -/
def names (m : Match) : List String := m.bindings.map Prod.fst

/-- The match as messages show it. -/
def shown (m : Match) : String :=
  let entry (b : String × Sexp) := Text.quoted b.1 ++ ": " ++ b.2.shown
  "Match(\x7b" ++ ", ".intercalate (m.bindings.map entry) ++ "\x7d)"

end Match

namespace Pattern

/-- Matches a value. -/
def match? (p : Pattern) (v : Sexp) : Option Match := (p.root.bind? v).map Match.mk

/-- Matches what a text holds; no value matches nothing. -/
def matchOption? (p : Pattern) (v? : Option Sexp) : Option Match := v? >>= p.match?

/-- Matches each value, numbered from `start`. -/
def matchEachFrom (p : Pattern) (start : Nat) : List Sexp → List (Nat × Sexp × Option Match)
  | [] => []
  | v :: vs => (start, v, p.match? v) :: p.matchEachFrom (start + 1) vs

/-- Matches each value, numbered from one. -/
def matchEach (p : Pattern) (vs : List Sexp) : List (Nat × Sexp × Option Match) :=
  p.matchEachFrom 1 vs

end Pattern

end Flowcheck
