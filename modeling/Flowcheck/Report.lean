import Flowcheck.Json.Basic

/-!
# Error reports

Every cause of failure in this library ends as a report: a kind, a message, the code under which
manuals list it, an optional hint, and the data that the message was made from, so that a program
need not read them out of the text. The kinds form a small hierarchy. A kind may have two parents:
a failed look-up of a pass is a pass error and a failed look-up.

The kinds without a code come from outside the framework: from the query language, from data of the
wrong kind, or from a defect in a pass.
-/

namespace Flowcheck

/-! ## Kinds -/

/-- What sort of failure a report describes. -/
inductive ErrorKind where
  | query
  | value
  | reading
  | pattern
  | framework
  | graph
  | notFound
  | blockNotFound
  | functionNotFound
  | verification
  | verificationFailed
  | malformedOracle
  | pass
  | duplicatePass
  | passNotFound
  | pluginLoad
  | wrongType
  | wrongLookup
  | outOfRange
  | missingKey
  | fixedAttribute
  | assertion
  | arithmetic
  | wrongValue
  | undecodable
  deriving DecidableEq, Repr, Inhabited

namespace ErrorKind

/-- The kinds directly above a kind. -/
def parents : ErrorKind → List ErrorKind
  | .value | .pattern => [.query]
  | .reading => [.value]
  | .graph | .verification | .pass => [.framework]
  | .notFound => [.framework, .wrongLookup]
  | .blockNotFound | .functionNotFound => [.notFound]
  | .verificationFailed => [.verification, .assertion]
  | .malformedOracle => [.verification]
  | .duplicatePass | .pluginLoad => [.pass]
  | .passNotFound => [.pass, .notFound]
  | .outOfRange | .missingKey => [.wrongLookup]
  | .undecodable => [.wrongValue]
  | _ => []

/-- The kinds at most `n` levels above a kind, itself included. -/
def ancestorsWithin : Nat → ErrorKind → List ErrorKind
  | 0, k => [k]
  | n + 1, k => k :: k.parents.flatMap (ancestorsWithin n)

/-- All kinds above a kind, itself included. The hierarchy is four levels high. -/
def ancestors (k : ErrorKind) : List ErrorKind := (ancestorsWithin 4 k).eraseDups

/-- Whether a kind is below another one or the same. -/
def isA (k above : ErrorKind) : Bool := above ∈ k.ancestors

/-- The noun by which a failed look-up calls what it did not find. -/
def noun : ErrorKind → String
  | .blockNotFound => "basic block"
  | .functionNotFound => "function"
  | .passNotFound => "pass"
  | _ => "entity"

end ErrorKind

/-! ## Codes -/

/-- A code of a family: its letters and a number. -/
structure ErrorCode where
  family : String
  number : Int
  deriving DecidableEq, Repr

namespace ErrorCode

/-- The letters and the number, padded with zeros to four places. -/
def text (c : ErrorCode) : String :=
  let digits := toString c.number.natAbs
  let sign := if c.number < 0 then "-" else ""
  let zeros := String.ofList (List.replicate (4 - sign.length - digits.length) '0')
  c.family ++ "-" ++ sign ++ zeros ++ digits

/-- A code of this framework. -/
def ofNumber (n : Nat) : ErrorCode := ⟨"ARB", n⟩

end ErrorCode

/-- The code that reports of a kind carry unless they say otherwise. -/
def ErrorKind.code? : ErrorKind → Option ErrorCode
  | .framework => some (.ofNumber 9000)
  | .graph => some (.ofNumber 1000)
  | .notFound => some (.ofNumber 2000)
  | .blockNotFound => some (.ofNumber 2001)
  | .functionNotFound => some (.ofNumber 2002)
  | .verification => some (.ofNumber 3000)
  | .verificationFailed => some (.ofNumber 3001)
  | .malformedOracle => some (.ofNumber 3002)
  | .pass => some (.ofNumber 4000)
  | .duplicatePass => some (.ofNumber 4001)
  | .passNotFound => some (.ofNumber 4002)
  | .pluginLoad => some (.ofNumber 4003)
  | _ => none

/-- The code of a change to something read-only. -/
def ErrorCode.readOnly : ErrorCode := .ofNumber 1001

/-- The code of a name that is taken. -/
def ErrorCode.nameTaken : ErrorCode := .ofNumber 1002

/-- The code of a malformed description of a graph. -/
def ErrorCode.badInput : ErrorCode := .ofNumber 1003

/-! ## Reports -/

/-- A failure as it is shown and logged. -/
structure Report where
  kind : ErrorKind
  message : String
  code? : Option ErrorCode := none
  hint : String := ""
  attributes : List (String × Json) := []
  deriving Inhabited

namespace Report

/-- The code in force. -/
def effectiveCode? (r : Report) : Option ErrorCode :=
  match r.code? with
  | some c => some c
  | none => r.kind.code?

/-- The whole text: the code in brackets, the message and the hint. -/
def text (r : Report) : String :=
  match r.effectiveCode? with
  | none => r.message
  | some c =>
    "[" ++ c.text ++ "] " ++ r.message ++
      (if r.hint = "" then "" else " (hint: " ++ r.hint ++ ")")

/-- A report of a message alone. -/
def plain (kind : ErrorKind) (message : String) : Report := { kind, message }

/-- A report with a code of its own and a hint. -/
def coded (kind : ErrorKind) (message : String) (code? : Option ErrorCode) (hint : String) :
    Report :=
  { kind, message, code?, hint, attributes := [("hint", .str hint)] }

/-- A failed look-up of a name, in a scope if there is one to tell. -/
def lookup (kind : ErrorKind) (name : Json) (scope hint : String) : Report :=
  let place := if scope = "" then "" else " in " ++ scope
  { kind, message := kind.noun ++ " " ++ name.shown ++ " not found" ++ place, hint
    attributes := [("name", name), ("scope", .str scope), ("hint", .str hint)] }

/-- A failed look-up of a pass, with the names that would have been found. -/
def passLookup (name : Json) (available : List String) : Report :=
  let hint := if available.isEmpty then "" else "available: " ++ ", ".intercalate available
  let base := lookup .passNotFound name "" hint
  { base with attributes := base.attributes ++ [("available", .list (available.map .str))] }

/-- A graph that does not have the expected shape. -/
def failedVerification (message : String) (function position expected actual : Json) : Report :=
  { kind := .verificationFailed, message
    attributes := [("function", function), ("position", position), ("expected", expected),
      ("actual", actual)] }

/-- An oracle that says nothing, with the entry at fault and its position if there is one. -/
def badOracle (message : String) (position : Option Int) (entry : String) : Report :=
  let place := match position with
    | some p => "entry #" ++ toString p ++ ": "
    | none => ""
  let detail := if entry = "" then "" else ": " ++ entry
  { kind := .malformedOracle, message := place ++ message ++ detail
    attributes := [("position", (position.map Json.int).getD .null), ("entry", .str entry)] }

/-- A unit of passes that cannot be used. -/
def unusableUnit (unit reason : String) : Report :=
  { kind := .pluginLoad
    message := "cannot load pass unit " ++ Text.quoted unit ++ ": " ++ reason
    attributes := [("unit", .str unit), ("reason", .str reason)] }

/-- A text that cannot be read, with the name of its source. -/
def unreadable (message : String) (source? : Option String) : Report :=
  match source? with
  | none => plain .reading message
  | some source =>
    { kind := .reading, message := source ++ ": " ++ message
      attributes := [("source", .str source)] }

/-- Data of the wrong kind where something else was expected. -/
def mistyped (expected : String) (given : Json) : Report :=
  plain .wrongType ("expected " ++ expected ++ ", got " ++ given.typeName)

end Report

end Flowcheck
