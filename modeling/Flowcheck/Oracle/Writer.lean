import Flowcheck.Ir.Body
import Flowcheck.Sexp.Data
import Flowcheck.Sexp.Printer

/-!
# Writing oracles

The oracle that a function's own graph satisfies: one entry for each edge, in the order of the names
of the two ends. The order of declaration leaves no trace, so equal graphs give equal oracles. A
block whose name is no atom's text cannot be written.
-/

namespace Flowcheck.Oracle

/-- The order of pairs of names: by the first, then by the second. -/
def pairLe (p q : String × String) : Bool := decide (p.1 < q.1 ∨ p.1 = q.1 ∧ p.2 ≤ q.2)

/-- The named edges of a function in ascending order. -/
def namedEdges (f : Ir.Function) : List (String × String) :=
  (f.body.edges.map fun (src, dst) ↦ (src.name, dst.name)).mergeSort pairLe

/-- The tag of an oracle. -/
def transTag : Atom := .ofText "trans" (by decide)

/-- The tag of an entry. -/
def edgeTag : Atom := .ofText "edge" (by decide)

/-- The entry of an edge. -/
def entryOf (src dst : String) : Except Sexp.BuildError Sexp := do
  let s ← Sexp.atomOfText src
  let d ← Sexp.atomOfText dst
  return .list [.atom edgeTag, .list [.atom s], .list [.atom d]]

/-- The entries of edges in order. -/
def entriesOf : List (String × String) → Except Sexp.BuildError (List Sexp)
  | [] => .ok []
  | (src, dst) :: rest => do
    let entry ← entryOf src dst
    return entry :: (← entriesOf rest)

/-- The oracle of a function. -/
def ofFunction (f : Ir.Function) : Except Sexp.BuildError Sexp := do
  return .list (.atom transTag :: (← entriesOf (namedEdges f)))

/-- The oracle of a function as text of a given width. -/
def format (width : Int) (f : Ir.Function) : Except Sexp.BuildError String :=
  (Sexp.pretty { width }) <$> ofFunction f

end Flowcheck.Oracle
