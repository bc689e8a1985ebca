import Flowcheck.Json.Reader
import Flowcheck.Report

/-!
# Errors of the graph

Each constructor is one cause with the data its message needs. A `scope` is the name of a body as
messages give it: its function, or its number while no function owns it.
-/

namespace Flowcheck.Ir

/-- How a block is called in the message about its belonging to another body. -/
inductive BlockRole where
  | plain
  | entry
  | exit
  deriving DecidableEq, Repr

/-- The role as the beginning of a message. -/
def BlockRole.phrase : BlockRole → String
  | .plain => "block"
  | .entry => "entry block"
  | .exit => "exit block"

/-- A block as consistency reports name it: by its name, or by its number when it is not one of the
body's blocks. -/
inductive BlockLabel where
  | named (name : String)
  | unknown (uid : Nat)
  deriving DecidableEq, Repr

/-- The label as text. -/
def BlockLabel.text : BlockLabel → String
  | .named name => Text.quoted name
  | .unknown uid => s!"<uid {uid}>"

/-! ## Places in a document -/

/-- One step from a JSON value to a part of it. -/
inductive PathStep where
  | field (name : String)
  | item (list : String) (index : Nat)
  deriving DecidableEq, Repr

/-- A place in a document, from the outermost step on. -/
abbrev Path := List PathStep

/-- The steps with points between them; the document itself is written `$`. -/
def Path.text (p : Path) : String :=
  let step : PathStep → String
    | .field name => name
    | .item list index => s!"{list}[{index}]"
  if p.isEmpty then "$" else ".".intercalate (p.map step)

/-- What is wrong at a place of a document. -/
inductive FieldFault where
  | mistyped (expected got : String)
  | emptyText
  | unknownBlock (shown : String)
  deriving DecidableEq, Repr

/-- What is wrong, as a phrase. -/
def FieldFault.phrase : FieldFault → String
  | .mistyped expected got => s!"expected {expected}, got {got}"
  | .emptyText => "expected a non-empty string"
  | .unknownBlock shown => s!"unknown block {shown}"

/-! ## Causes -/

/-- Why an operation on a graph fails. -/
inductive Error where
  | frozenBody (scope : String)
  | frozenBundle (name : String)
  | alreadyBuilt
  | emptyBlockName
  | emptyFunctionName
  | emptyOpcode
  | duplicateBlock (name scope : String)
  | duplicateFunction (name bundle : String)
  | foreignBlock (role : BlockRole) (name scope : String)
  | statementTaken (uid : Nat) (block : String)
  | bodyTaken (uid : Nat) (function : String)
  | unknownBlock (name function : String)
  | missingPredecessor (src dst : BlockLabel) (scope : String)
  | missingSuccessor (src dst : BlockLabel) (scope : String)
  | openEdge (scope : String) (uid : Nat)
  | blockNotFound (name scope : String)
  | functionNotFound (name bundle : String)
  | danglingUid (uid : Nat)
  | noSuchNode (uid : Nat)
  | statementIndex
  | badJson (cause : Json.ReadError)
  | badField (path : Path) (fault : FieldFault)
  deriving DecidableEq, Repr

namespace Error

/-- The message without its code. -/
def message : Error → String
  | .frozenBody scope => s!"code body of {scope} is read-only"
  | .frozenBundle name => s!"bundle {Text.quoted name} is read-only"
  | .alreadyBuilt => "bundle already built"
  | .emptyBlockName => "basic block name may not be empty"
  | .emptyFunctionName => "function name may not be empty"
  | .emptyOpcode => "statement opcode may not be empty"
  | .duplicateBlock name scope => s!"duplicate basic block {Text.quoted name} in {scope}"
  | .duplicateFunction name bundle =>
    s!"duplicate function {Text.quoted name} in bundle {Text.quoted bundle}"
  | .foreignBlock role name scope =>
    s!"{role.phrase} {Text.quoted name} does not belong to {scope}"
  | .statementTaken uid block => s!"statement {uid} already belongs to block {Text.quoted block}"
  | .bodyTaken uid function => s!"code body {uid} already belongs to {Text.quoted function}"
  | .unknownBlock name function =>
    s!"edge or statement names unknown block {Text.quoted name} in function " ++
      Text.quoted function
  | .missingPredecessor src dst scope =>
    s!"{src.text} -> {dst.text} has no matching predecessor entry in {scope}"
  | .missingSuccessor src dst scope =>
    s!"{dst.text} lists predecessor {src.text} without the matching successor entry in {scope}"
  | .openEdge scope uid => s!"edge leaves {scope}: unknown block uid {uid}"
  | .blockNotFound name scope => s!"basic block {Text.quoted name} not found in {scope}"
  | .functionNotFound name bundle =>
    s!"function {Text.quoted name} not found in bundle {Text.quoted bundle}"
  | .danglingUid uid => toString uid
  | .noSuchNode uid => s!"no node with uid {uid}"
  | .statementIndex => "tuple index out of range"
  | .badJson cause => s!"bundle is not valid JSON: {cause.message}"
  | .badField path fault => s!"{path.text}: {fault.phrase}"

/-- The code where it is not the one of the kind. -/
def code? : Error → Option ErrorCode
  | .frozenBody _ | .frozenBundle _ | .alreadyBuilt => some .readOnly
  | .duplicateBlock _ _ | .duplicateFunction _ _ => some .nameTaken
  | .badJson _ | .badField _ _ => some .badInput
  | _ => none

/-- The error as a report. -/
def report : Error → Report
  | .blockNotFound name scope => .lookup .blockNotFound (.str name) scope ""
  | .functionNotFound name bundle =>
    .lookup .functionNotFound (.str name) ("bundle " ++ Text.quoted bundle) ""
  | e@(.danglingUid _) => .plain .missingKey e.message
  | e@.statementIndex => .plain .outOfRange e.message
  | e => { kind := .graph, message := e.message, code? := e.code? }

end Error

end Flowcheck.Ir
