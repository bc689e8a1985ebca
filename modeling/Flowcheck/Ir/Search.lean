/-!
# Exhaustive search in a finite graph

A depth-first search over numbered nodes. The work list is a stack: the neighbours of a node go on
top of it, the last of them uppermost. A number outside the graph stops the search. What has been
seen is a set of nodes of the graph, and it grows with every step that adds work; that bounds the
search.
-/

namespace Flowcheck.Ir

/-- The work still to come from the unseen nodes: one for the node, one for each neighbour. -/
def pendingWork (next : Nat → List Nat) (seen : List Nat) : List Nat → Nat
  | [] => 0
  | n :: ns => (if n ∈ seen then 0 else (next n).length + 1) + pendingWork next seen ns

theorem pendingWork_cons_le (next : Nat → List Nat) (seen nodes : List Nat) (u : Nat) :
    pendingWork next (u :: seen) nodes ≤ pendingWork next seen nodes := by
  induction nodes with
  | nil => simp [pendingWork]
  | cons n ns ih =>
    by_cases hs : n ∈ seen <;> by_cases hu : n = u <;> simp [pendingWork, hs, hu] <;> omega

/-- Seeing a new node of the graph takes its share out of the pending work. -/
theorem pendingWork_cons_lt (next : Nat → List Nat) {seen nodes : List Nat} {u : Nat}
    (mem : u ∈ nodes) (new : u ∉ seen) :
    pendingWork next (u :: seen) nodes + (next u).length < pendingWork next seen nodes := by
  induction nodes with
  | nil => simp at mem
  | cons n ns ih =>
    by_cases hn : n = u
    · subst hn
      have := pendingWork_cons_le next seen ns n
      simp [pendingWork, new]
      omega
    · have := ih ((List.mem_cons.1 mem).resolve_left (Ne.symm hn))
      by_cases hs : n ∈ seen <;> simp [pendingWork, hn, hs] <;> omega

/-- Searches from the numbers on the stack `work`. The answer is what has been seen, latest first,
or the first number met that is no node. -/
def search (nodes : List Nat) (next : Nat → List Nat) (work seen : List Nat) :
    Except Nat (List Nat) :=
  match work with
  | [] => .ok seen
  | u :: rest =>
    -- A number that was pushed twice is dropped when it comes up again.
    if _new : u ∈ seen then search nodes next rest seen
    else if _mem : u ∈ nodes then search nodes next ((next u).reverse ++ rest) (u :: seen)
    else .error u
termination_by pendingWork next seen nodes + work.length
decreasing_by
  · simp
  · have := pendingWork_cons_lt next _mem _new
    simp only [List.length_append, List.length_reverse, List.length_cons]
    omega

end Flowcheck.Ir
