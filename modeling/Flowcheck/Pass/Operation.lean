import Flowcheck.Pass.Registry

/-!
# Sequences of calls on a registry

Everything that a caller can do to a registry, as data. A caller goes on after a call that was
refused, so a sequence is performed to its end, each call on the registry that the one before it
left behind.
-/

namespace Flowcheck.Registry

/-- A call on a registry. The first four may change it, the others ask. Units are looked for in the
surroundings as they are at the time of the call; in the same way, what a registered factory gives
may differ from one call to the next. -/
inductive Operation where
  | register (name : String) (c : Candidate) (origin : String)
  | registerClass (c : Candidate)
  | addUnit (s : Surroundings) (ref : String)
  | close
  | get (name : String)
  | create (name : String) (call : Factory → Product)
  | origin (name : String)

/-- What a call answers. -/
inductive Answer where
  | done
  | candidate (c : Candidate)
  | factory (f : Factory)
  | pass (p : Pass)
  | origin (text : String)

/-- Performs a call. -/
def Operation.perform : Operation → BuildM Answer
  | register name c place => do
    enter name c place
    return .done
  | registerClass c => do
    enterClass c
    return .candidate c
  | addUnit s ref => return .pass (← enterUnit s ref)
  | close => do
    advance (← current).close
    return .done
  | get name => return .factory (← liftM ((← current).get name))
  | create name call => return .pass (← liftM ((← current).createFrom call name))
  | origin name => return .origin (← liftM ((← current).origin name))

/-- How a call ends: its answer or error, and the registry after it. -/
def exec {α : Type} (r : Registry) (m : BuildM α) : Except PassError α × Registry :=
  let (result, r, _) := m.run.run (r, [])
  (result, r)

/-- The answer of a call, or its error. -/
def answer (r : Registry) (op : Operation) : Except PassError Answer := (r.exec op.perform).1

/-- The registry after a call, whether or not it was refused. -/
def after (r : Registry) (op : Operation) : Registry := (r.exec op.perform).2

/-- The registry after a sequence of calls. -/
def run (r : Registry) : List Operation → Registry
  | [] => r
  | op :: ops => (r.after op).run ops

end Flowcheck.Registry
