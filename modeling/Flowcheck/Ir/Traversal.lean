import Flowcheck.Ir.Node
import Flowcheck.Report

/-!
# Traversal

A visitor is a collection of named attributes. An attribute named `enter_` or `leave_` and a kind is
called before or after the children of every node of that kind; an attribute with any other name may
be tagged with kinds and is then called on entering them. The attributes are sorted once into a
table of handlers, and the walk consults the table alone.

The walk is written for an arbitrary monad, so a handler may keep state and may fail; a failure ends
the walk where it happens. It descends no deeper than it has to: the depth still allowed goes down
by one with each level, and by default it is the depth of the innermost kind with a handler.
-/

namespace Flowcheck.Ir

/-! ## Handlers -/

/-- What a handler asks for on entering a node. -/
inductive Action where
  | proceed
  | skip
  deriving DecidableEq, Repr

/-- A handler sees the node; its answer counts on entering only. -/
abbrev Handler (m : Type → Type) := Node → m Action

/-- The handlers of a visitor by kind, each list in calling order. -/
structure HandlerTable (m : Type → Type) where
  enter : Kind → List (Handler m)
  leave : Kind → List (Handler m)

namespace HandlerTable

variable {m : Type → Type}

/-- Whether a kind has any handler. -/
def concerns (t : HandlerTable m) (k : Kind) : Bool := !(t.enter k).isEmpty || !(t.leave k).isEmpty

/-- The innermost kind with a handler. -/
def deepest? (t : HandlerTable m) : Option Kind := Kind.all.reverse.find? t.concerns

end HandlerTable

/-! ## Visitors -/

/-- The name of the handler called on entering a kind. -/
def enterName (k : Kind) : String := "enter_" ++ k.name

/-- The name of the handler called on leaving a kind. -/
def leaveName (k : Kind) : String := "leave_" ++ k.name

/-- The names with a meaning of their own, in ascending order. -/
def hookNames : List String :=
  (Kind.all.map enterName ++ Kind.all.map leaveName).mergeSort fun a b ↦ decide (a ≤ b)

theorem mem_hookNames_iff {name : String} :
    name ∈ hookNames ↔ ∃ k, name = enterName k ∨ name = leaveName k := by
  simp only [hookNames, List.mem_mergeSort, List.mem_append, List.mem_map, Kind.mem_all, true_and,
    exists_or, eq_comm]

/-- A named part of a visitor. One without a handler is there but cannot be called, which makes no
difference to a hook: it is passed over. A tag is entered for whatever stands under the name,
though, and the walk fails when it comes to call it. So a tagged attribute always has a handler
here; where something that cannot be called stands under its name, it is the handler that raises. -/
structure Attribute (m : Type → Type) where
  name : String
  handler? : Option (Handler m)
  tags : List Kind := []

/-- A visitor: attributes with distinct names. -/
structure Visitor (m : Type → Type) where
  attributes : List (Attribute m)

/-- Why a visitor cannot be made. -/
inductive VisitorError where
  | unknownHook (name : String)
  | notCallable (name : String)
  | notAKind (shown : String)
  deriving DecidableEq, Repr

/-- The error as a report. -/
def VisitorError.report : VisitorError → Report
  | .unknownHook name =>
    .plain .wrongType <| "unknown visitor hook " ++ Text.quoted name ++ "; expected one of " ++
      (Json.list (hookNames.map .str)).shown
  | .notCallable name => .plain .wrongType s!"visitor hook {Text.quoted name} is not callable"
  | .notAKind shown => .plain .wrongType s!"visiting() expects NodeKind members, got {shown}"

/-- The kinds to tag an attribute with, each given by its name. -/
def tagKinds (given : List Json) : Except VisitorError (List Kind) :=
  given.mapM fun j ↦
    match j with
    | .str s =>
      match Kind.ofName? s with
      | some k => .ok k
      | none => .error (.notAKind j.shown)
    | _ => .error (.notAKind j.shown)

namespace Visitor

variable {m : Type → Type}

/-- A visitor of hooks alone: only the names with a meaning are accepted, each with a handler. -/
def ofHooks (hooks : List (Attribute m)) : Except VisitorError (Visitor m) := do
  hooks.forM fun a ↦ do
    if a.name ∉ hookNames then throw (.unknownHook a.name)
    if a.handler?.isNone then throw (.notCallable a.name)
  return ⟨hooks.map fun a ↦ { a with tags := [] }⟩

/-- The handler of an attribute. -/
def handler? (v : Visitor m) (name : String) : Option (Handler m) :=
  v.attributes.find? (fun a ↦ a.name = name) >>= Attribute.handler?

/-- The attributes whose tags count, in ascending order of their names: those without a meaning of
their own whose names do not begin with two underscores. -/
def tagged (v : Visitor m) : List (Attribute m) :=
  (v.attributes.filter fun a ↦ a.name ∉ hookNames && !"__".toList.isPrefixOf a.name.toList).mergeSort
    fun a b ↦ decide (a.name ≤ b.name)

/-- The handlers that a kind gets from tags, one for each time the kind is in a tag. They are not
looked at before they are called: one that only raises is a handler like any other. -/
def taggedHandlers (v : Visitor m) (k : Kind) : List (Handler m) :=
  v.tagged.flatMap fun a ↦ (a.tags.filter (· = k)).flatMap fun _ ↦ a.handler?.toList

/-- The table of a visitor: a kind's own hook comes before tagged attributes. -/
def table (v : Visitor m) : HandlerTable m where
  enter k := (v.handler? (enterName k)).toList ++ v.taggedHandlers k
  leave k := (v.handler? (leaveName k)).toList

end Visitor

/-! ## The walk -/

namespace HandlerTable

variable {m : Type → Type} [Monad m]

/-- Calls the handlers for entering a node; one request to skip suffices. -/
def runEnter (t : HandlerTable m) (n : Node) : m Action :=
  (t.enter n.kind).foldlM
    (fun asked handler ↦ do
      match ← handler n with
      | .skip => return .skip
      | .proceed => return asked)
    .proceed

/-- Calls the handlers for leaving a node. -/
def runLeave (t : HandlerTable m) (n : Node) : m Unit :=
  (t.leave n.kind).forM fun handler ↦ do
    let _ ← handler n

/-- Visits a node and, unless a handler asks to skip, everything inside it down to `levels` levels
below. -/
def visit (t : HandlerTable m) : Nat → Node → m Unit
  | 0, n => do
    let _ ← t.runEnter n
    t.runLeave n
  | levels + 1, n => do
    match ← t.runEnter n with
    | .proceed => n.children.forM fun c ↦ visit t levels c
    | .skip => pure ()
    t.runLeave n

/-- Walks from a node down to the kind `limit?`, or as deep as there are handlers. -/
def walk (t : HandlerTable m) (root : Node) (limit? : Option Kind) : m Unit :=
  match limit?.or t.deepest? with
  | none => pure ()
  | some limit => t.visit (limit.depth - root.kind.depth) root

end HandlerTable

/-- Walks from a node with the handlers of a visitor. -/
def walk {m : Type → Type} [Monad m] (root : Node) (v : Visitor m) (limit? : Option Kind) : m Unit :=
  v.table.walk root limit?

end Flowcheck.Ir
