import Flowcheck.Sexp.Data
import Flowcheck.Sexp.Reader

/-!
# Patterns

A pattern has the shape of an s-expression. Its leaves are literals, captures and wildcards, and the
last element of a list may be a rest capture, which stands for all items that remain. A tree of such
nodes is a pattern when no capture name is used twice and every rest capture is last in a list; the
check runs once, when the pattern is made, and matching relies on it.

In text notation `_` is the wildcard, `?x` a capture, `?...x` a rest capture, and every other atom a
literal.
-/

namespace Flowcheck

/-! ## Nodes -/

/-- A node of a pattern. A `foreign` node stands for something that is no node at all; it never
passes the check. -/
inductive PatternNode where
  | literal (text : String)
  | capture (name : String)
  | wildcard
  | rest (name : String)
  | list (elements : List PatternNode)
  | foreign (shown : String)
  deriving Inhabited

/-- Why something is not a pattern. -/
inductive PatternError where
  | emptyCapture
  | emptyRest
  | invalidLiteral (given : Json) (cause : Sexp.BuildError)
  | topLevelRest (name : String)
  | misplacedRest (name : String)
  | repeatedCapture (name : String)
  | notANode (shown : String)
  | notAnElement (shown : String)
  | unreadable (text : String) (cause : Sexp.ReadError)
  | empty

/-- What is wrong. -/
def PatternError.message : PatternError → String
  | .emptyCapture => "capture name may not be empty"
  | .emptyRest => "rest capture name may not be empty"
  | .invalidLiteral given cause => "invalid literal " ++ given.shown ++ ": " ++ cause.message
  | .topLevelRest name => "rest capture ?..." ++ name ++ " must be inside a list"
  | .misplacedRest name =>
    "rest capture ?..." ++ name ++ " must be the last element of its list"
  | .repeatedCapture name => "capture name " ++ Text.quoted name ++ " is bound more than once"
  | .notANode shown => "not a pattern node: " ++ shown
  | .notAnElement shown => "cannot use " ++ shown ++ " as a pattern element"
  | .unreadable text cause =>
    "invalid pattern text " ++ Text.quoted text ++ ": " ++ cause.message
  | .empty => "empty pattern"

namespace PatternNode

/-! ## Notation -/

mutual

/-- A node in text notation. -/
def notationText : PatternNode → String
  | .literal text => text
  | .capture name => "?" ++ name
  | .wildcard => "_"
  | .rest name => "?..." ++ name
  | .list elements => "(" ++ " ".intercalate (notationTexts elements) ++ ")"
  | .foreign shown => shown

/-- The elements in text notation. -/
def notationTexts : List PatternNode → List String
  | [] => []
  | e :: es => notationText e :: notationTexts es

end

/-- A literal node; its text has to be that of an atom. -/
def ofLiteral (given : Json) : Except PatternError PatternNode :=
  match Sexp.atomOfJson given with
  | .ok a => .ok (.literal a.text)
  | .error cause => .error (.invalidLiteral given cause)

/-- A capture node; its name may be any non-empty text. -/
def ofCapture (name : String) : Except PatternError PatternNode :=
  if name = "" then .error .emptyCapture else .ok (.capture name)

/-- A rest capture node; its name may be any non-empty text. -/
def ofRest (name : String) : Except PatternError PatternNode :=
  if name = "" then .error .emptyRest else .ok (.rest name)

/-- The node that one atom of the notation stands for. The longest mark decides. -/
def ofAtomText (text : String) : Except PatternError PatternNode :=
  match text.toList with
  | ['_'] => .ok .wildcard
  | '?' :: '.' :: '.' :: '.' :: name => ofRest (String.ofList name)
  | '?' :: name => ofCapture (String.ofList name)
  | _ => ofLiteral (.str text)

mutual

/-- The node that a value of the notation stands for. -/
def ofSexp : Sexp → Except PatternError PatternNode
  | .atom a => ofAtomText a.text
  | .list items => do return .list (← ofItems items)

/-- The nodes that the items of a list stand for. -/
def ofItems : List Sexp → Except PatternError (List PatternNode)
  | [] => .ok []
  | v :: vs => do
    let e ← ofSexp v
    return e :: (← ofItems vs)

end

/-! ## The check -/

/-- Adds a capture name to the names in use. -/
def addName (names : List String) (name : String) : Except PatternError (List String) :=
  if name ∈ names then .error (.repeatedCapture name) else .ok (names ++ [name])

mutual

/-- Extends `names` by the capture names below a node, from left to right. -/
def collect (names : List String) : PatternNode → Except PatternError (List String)
  | .literal _ => .ok names
  | .capture name => addName names name
  | .wildcard => .ok names
  | .rest name => addName names name
  | .list elements => collectAll names elements
  | .foreign shown => .error (.notANode shown)

/-- Extends `names` by the capture names below the elements of a list. A rest capture with another
element after it is refused before its name is looked at. -/
def collectAll (names : List String) : List PatternNode → Except PatternError (List String)
  | [] => .ok names
  | .rest name :: _ :: _ => .error (.misplacedRest name)
  | e :: es => do collectAll (← collect names e) es

end

/-- The capture names of a whole tree, if it is a pattern. -/
def captures? (root : PatternNode) : Except PatternError (List String) :=
  match root with
  | .rest name => .error (.topLevelRest name)
  | root => collect [] root

end PatternNode

/-! ## Patterns -/

/-- A tree of nodes that passed the check, with its capture names from left to right. -/
structure Pattern where
  root : PatternNode
  captures : List String
  checked : root.captures? = .ok captures

namespace Pattern

/-- The pattern of a tree of nodes. -/
def ofNode (root : PatternNode) : Except PatternError Pattern :=
  match h : root.captures? with
  | .ok captures => .ok ⟨root, captures, h⟩
  | .error e => .error e

/-- The pattern in text notation. -/
def text (p : Pattern) : String := p.root.notationText

/-- The pattern as messages show it. -/
def shown (p : Pattern) : String := "Pattern(" ++ Text.quoted p.text ++ ")"

/-- Reads a pattern in text notation. -/
def compile (text : String) : Except PatternError Pattern := do
  match Sexp.read text none with
  | .error cause => .error (.unreadable text cause)
  | .ok none => .error .empty
  | .ok (some v) => ofNode (← PatternNode.ofSexp v)

/-! ## Building from parts -/

/-- What may be offered as an element of a list pattern. -/
inductive Part where
  | text (notated : String)
  | pattern (p : Pattern)
  | node (n : PatternNode)
  | data (given : Json)

/-- The node of a part: a text is read as one atom of the notation, a pattern is embedded. -/
def Part.element : Part → Except PatternError PatternNode
  | .text notated => PatternNode.ofAtomText notated
  | .pattern p => .ok p.root
  | .node n => .ok n
  | .data given => .error (.notAnElement given.shown)

/-- The part as an unchecked node: only a node is one. -/
def Part.unchecked : Part → PatternNode
  | .text notated => .foreign (Text.quoted notated)
  | .pattern p => .foreign p.shown
  | .node n => n
  | .data given => .foreign given.shown

/-- The list pattern of the parts. -/
def ofParts (parts : List Part) : Except PatternError Pattern := do
  ofNode (.list (← parts.mapM Part.element))

end Pattern

end Flowcheck
