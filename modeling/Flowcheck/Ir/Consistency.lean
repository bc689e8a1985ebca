import Flowcheck.Ir.Body
import Flowcheck.Ir.Search

/-!
# Reachability and consistency

Two properties make a body fit for use. Its maps are *dual* when one lists an edge exactly where the
other does. It is *closed* when no edge that can be reached from the entry leads to a number that is
none of its blocks. Both are checked by looking at the maps alone, and a violation is reported at
the first place where it shows.
-/

namespace Flowcheck.Ir

namespace Body

/-! ## Reachability -/

/-- The recorded successors of a number, none without an entry. -/
def recorded (m : Assoc Nat (List Nat)) (uid : Nat) : List Nat := (m.get? uid).getD []

/-- The blocks that a path of edges reaches from `start`, or from the entry when no start is given,
in the order in which the search meets them. -/
def reachableFrom (b : Body) (start? : Option Block) : Except Error (List Block) :=
  match start?.or b.entry? with
  | none => .ok []
  | some start => do
    b.checkOwn .plain start
    match search b.succ.keys (recorded b.succ) [start.uid] [] with
    | .ok seen => b.blocksOf seen.reverse
    | .error uid => throw (.danglingUid uid)

/-! ## Duality -/

/-- The first entry of `m` without its counterpart in `m'`. -/
def firstUnmatched (m m' : Assoc Nat (List Nat)) : Option (Nat × Nat) :=
  m.entries.findSome? fun (key, uids) ↦
    (uids.find? fun uid ↦ key ∉ recorded m' uid).map fun uid ↦ (key, uid)

/-- Refuses maps that are not dual. -/
def checkAdjacency (b : Body) : Except Error Unit :=
  match firstUnmatched b.succ b.pred with
  | some (src, dst) => .error (.missingPredecessor (b.label src) (b.label dst) b.scope)
  | none =>
    match firstUnmatched b.pred b.succ with
    | some (dst, src) => .error (.missingSuccessor (b.label src) (b.label dst) b.scope)
    | none => .ok ()

/-! ## Closure -/

/-- Refuses a body from whose entry a foreign number can be reached. -/
def checkClosed (b : Body) : Except Error Unit :=
  match b.entry? with
  | none => .ok ()
  | some entry =>
    match search (b.blocks.map Block.uid) (recorded b.succ) [entry.uid] [] with
    | .ok _ => .ok ()
    | .error uid => .error (.openEdge b.scope uid)

/-- Both checks. -/
def check (b : Body) : Except Error Unit := do
  b.checkAdjacency
  b.checkClosed

end Body

namespace Bundle

/-- The function with a name. -/
def function? (b : Bundle) (name : String) : Option Function :=
  b.functions.find? fun f ↦ f.name = name

/-- The function with a name, or the failure to find it. -/
def function (b : Bundle) (name : String) : Except Error Function :=
  match b.function? name with
  | some f => .ok f
  | none => .error (.functionNotFound name b.name)

/-- Checks every body in declaration order. -/
def validate (b : Bundle) : Except Error Unit := b.functions.forM fun f ↦ f.body.check

/-- The bundle with everything in it closed to changes. -/
def freeze (b : Bundle) : Bundle :=
  { b with
    functions := b.functions.map fun f ↦ { f with body := f.body.freeze }
    frozen := true }

end Bundle

end Flowcheck.Ir
