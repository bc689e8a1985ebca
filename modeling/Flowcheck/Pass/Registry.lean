import Flowcheck.Assoc
import Flowcheck.Log
import Flowcheck.Pass.Unit

/-!
# The registry of passes

A registry binds names to factories and remembers where each factory came from. Bindings and origins
are two maps over the same names, written together and by registering alone. A name is bound once
and for ever: there is no operation that rebinds or releases it, and a sealed registry takes no more
names.

The operations on a registry are pure, and one that fails has no registry to give. Only registering
a whole group can stop half-way; it and the log therefore live in a state.
-/

namespace Flowcheck

/-- The factory and the origin of each name, in the order of registration, and whether more names
may come. -/
structure Registry where
  bindings : Assoc String Factory := ∅
  origins : Assoc String String := ∅
  isSealed : Bool := false

/-- The pass that a call has given. Some calls give something else, and some fail. -/
def Product.asPass (product : Product) (origin : String) : Except PassError Pass :=
  match product with
  | .pass p => .ok p
  | .other typeName => .error (.notAPass origin typeName)
  | .raises r => .error (.raised r)

/-- Builds a pass. -/
def Factory.build (f : Factory) (origin : String) : Except PassError Pass := f.product.asPass origin

namespace Registry

/-! ## Looking up -/

/-- The registered names in ascending order. -/
def names (r : Registry) : List String := r.bindings.keys.mergeSort fun a b ↦ decide (a ≤ b)

/-- The factory of a name. -/
def get (r : Registry) (name : String) : Except PassError Factory :=
  match r.bindings.get? name with
  | some f => .ok f
  | none => .error (.notFound name r.names)

/-- The origin recorded for a name that is bound. -/
def recordedOrigin (r : Registry) (name : String) : Except PassError String :=
  match r.origins.get? name with
  | some origin => .ok origin
  | none => .error (.raised (.plain .missingKey (Text.quoted name)))

/-- Where the factory of a name came from. -/
def origin (r : Registry) (name : String) : Except PassError String := do
  let _ ← r.get name
  r.recordedOrigin name

/-- Builds a pass by name, where `call` says what calling a factory gives. The pass must have the
name that its factory is registered under. -/
def createFrom (r : Registry) (call : Factory → Product) (name : String) :
    Except PassError Pass := do
  let f ← r.get name
  let origin ← r.recordedOrigin name
  let p ← (call f).asPass origin
  if p.name = name then return p else throw (.misnamed origin name p.name)

/-- Builds a pass by name. -/
def create (r : Registry) (name : String) : Except PassError Pass :=
  r.createFrom Factory.product name

/-! ## Registering -/

/-- The registry with one more name. -/
def bind (r : Registry) (name : String) (f : Factory) (origin : String) : Registry :=
  { r with bindings := r.bindings.insert name f, origins := r.origins.insert name origin }

/-- Binds a name to a factory. -/
def register (r : Registry) (name : String) (c : Candidate) (origin : String) :
    Except PassError Registry :=
  if r.isSealed then .error (.registrySealed name)
  else if name = "" then .error .emptyName
  else
    match c.factory? with
    | none => .error (.notCallable name)
    | some f =>
      if r.bindings.contains name then do throw (.duplicate name (← r.recordedOrigin name))
      else .ok (r.bind name f origin)

/-- Binds the name of a class of passes to the class. -/
def registerClass (r : Registry) (c : Candidate) : Except PassError Registry :=
  match c.passClass? with
  | none => .error (.notAClass c.shown)
  | some k => r.register k.passName c k.origin

/-- Binds the name of the pass that a factory builds to the factory. -/
def registerBuilt (r : Registry) (f : Factory) (p : Pass) (origin : String) :
    Except PassError Registry :=
  r.register p.name { shown := f.identity, factory? := some f } origin

/-- Takes no more names from now on. -/
def close (r : Registry) : Registry := { r with isSealed := true }

/-! ## Units and groups -/

/-- The factory of a unit and a first pass from it. -/
def unitPass (s : Surroundings) (ref : String) : Except PassError (Factory × Pass) := do
  let (_, u) ← (s.findUnit ref).mapError (.unusable ref)
  let f ← u.factory.mapError (.unusable ref)
  let p ← f.build ref
  return (f, p)

/-- Builds one pass from a unit. -/
def loadPass (s : Surroundings) (ref : String) : Except PassError Pass :=
  (·.2) <$> unitPass s ref

/-- Registers the factory of a unit under the name of the pass it builds. -/
def addUnit (r : Registry) (s : Surroundings) (ref : String) :
    Except PassError (Pass × Registry) := do
  let (f, p) ← unitPass s ref
  return (p, ← r.registerBuilt f p ref)

/-- Registers what an entry point leads to, unless the very same factory is already there under the
name; tells the name if it is new. -/
def addEntryPoint (r : Registry) (e : EntryPoint) :
    Except PassError (Option String × Registry) := do
  let f ← e.target.factory.mapError (.unusable e.origin)
  let p ← f.build e.origin
  -- The same factory under its name is no news; another one is refused as a duplicate.
  let known := (r.bindings.get? p.name).map (·.identity)
  if known = some f.identity then return (none, r)
  return (some p.name, ← r.registerBuilt f p e.origin)

/-! ## Building a registry -/

/-- Registers as it goes: what was done before a failure stays. -/
abbrev BuildM := ExceptT PassError (StateM (Registry × List LogEntry))

/-- The name under which a registry logs. -/
def logSource : String := "arbos.passes"

/-- Writes an entry of the log. -/
def note (level : LogLevel) (message : String) : BuildM Unit :=
  modify fun (r, log) ↦ (r, log ++ [{ level, source := logSource, message }])

/-- The registry as it is. -/
def current : BuildM Registry := Prod.fst <$> getThe (Registry × List LogEntry)

/-- Goes on with another registry. -/
def advance (r : Registry) : BuildM Unit := modify fun (_, log) ↦ (r, log)

/-- The message about a new name. -/
def registeredMessage (name origin : String) : String :=
  "registered pass " ++ name ++ " (" ++ (if origin = "" then "<direct>" else origin) ++ ")"

/-- Registers a name and logs it. -/
def enter (name : String) (c : Candidate) (origin : String) : BuildM Unit := do
  advance (← liftM ((← current).register name c origin))
  note .debug (registeredMessage name origin)

/-- Registers a class and logs it. -/
def enterClass (c : Candidate) : BuildM Unit := do
  advance (← liftM ((← current).registerClass c))
  if let some k := c.passClass? then note .debug (registeredMessage k.passName k.origin)

/-- Logs where a unit was found, if it was. -/
def noteUnit (s : Surroundings) (ref : String) : BuildM Unit :=
  match s.findUnit ref with
  | .ok (place, _) => note .debug s!"loaded pass unit {ref} from {place}"
  | .error _ => return

/-- Registers a unit and logs it; gives the pass that it built. -/
def enterUnit (s : Surroundings) (ref : String) : BuildM Pass := do
  noteUnit s ref
  let (p, r) ← liftM ((← current).addUnit s ref)
  advance r
  note .debug (registeredMessage p.name ref)
  return p

/-- Registers what entry points lead to, one after the other; gives the new names. -/
def enterPoints : List EntryPoint → BuildM (List String)
  | [] => return []
  | e :: rest => do
    let (name?, r) ← liftM ((← current).addEntryPoint e)
    advance r
    match name? with
    | some name =>
      note .debug (registeredMessage name e.origin)
      return name :: (← enterPoints rest)
    | none =>
      note .debug s!"entry point {e.origin} already registered"
      enterPoints rest

/-- Registers the passes advertised in a group; gives the new names. -/
def discover (points : List EntryPoint) (group : String) : BuildM (List String) := do
  let added ← enterPoints points
  note .info s!"discovered {added.length} pass(es) in entry-point group {group}"
  return added

end Registry

end Flowcheck
