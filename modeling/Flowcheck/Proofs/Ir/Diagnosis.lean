import Flowcheck.Proofs.Ir.Consistency

/-!
# What the checks decide

The changes of a body keep its two maps in step, so the checks never fail on a body that was made by
them. The checks are there for maps that were written in another way, and about such maps nothing is
known: a set may hold numbers of other bodies, numbers of nothing at all, or numbers that the other
map does not know of. Still each check decides a property of the maps, whatever they hold, and when
it fails it names a place where the property fails.

The checks are not independent. An edge that leads out of the body has to be listed among the
predecessors as well if the maps are dual, and it is, under the number that is not the body's own.
-/

namespace Flowcheck.Ir.Body

variable {b : Body}

/-! ## Properties and their violations -/

/-- The two maps list the same edges. -/
def Dual (b : Body) : Prop := ∀ src dst, dst ∈ recorded b.succ src ↔ src ∈ recorded b.pred dst

/-- No path leads from the entry to a number that is none of the body's blocks. -/
def Closed (b : Body) : Prop :=
  ∀ entry, b.entry? = some entry → ∀ uid, Reaches (recorded b.succ) entry.uid uid → uid ∈ b.uids

/-- An edge that one map lists and the other one does not, as it is reported. -/
inductive Mismatch (b : Body) : Error → Prop where
  | predecessor {src dst : Nat} (listed : dst ∈ recorded b.succ src)
      (missing : src ∉ recorded b.pred dst) :
      Mismatch b (.missingPredecessor (b.label src) (b.label dst) b.scope)
  | successor {src dst : Nat} (listed : src ∈ recorded b.pred dst)
      (missing : dst ∉ recorded b.succ src) :
      Mismatch b (.missingSuccessor (b.label src) (b.label dst) b.scope)

/-- A number that can be reached from the entry and is none of the body's blocks, as it is
reported. -/
inductive Leak (b : Body) : Error → Prop where
  | number {entry : Block} {uid : Nat} (start : b.entry? = some entry)
      (path : Reaches (recorded b.succ) entry.uid uid) (foreign : uid ∉ b.uids) :
      Leak b (.openEdge b.scope uid)

theorem Mismatch.not_dual {e : Error} (h : b.Mismatch e) : ¬ b.Dual := by
  intro dual
  cases h with
  | predecessor listed missing => exact missing ((dual _ _).1 listed)
  | successor listed missing => exact missing ((dual _ _).2 listed)

theorem Leak.not_closed {e : Error} (h : b.Leak e) : ¬ b.Closed := by
  intro closed
  cases h with
  | number start path foreign => exact foreign (closed _ start _ path)

/-! ## Decisions -/

/-- A check accepts exactly what has a property, and otherwise fails with an error of the graph that
is one of its violations. -/
structure Decides (check : Except Error Unit) (Holds : Prop) (Violation : Error → Prop) : Prop where
  accepts : check = .ok () ↔ Holds
  refuses : ¬ Holds → ∃ e, check = .error e ∧ Violation e ∧ e.report.kind = .graph

/-- It is enough that what is accepted has the property and that what is reported is a violation,
if violations and the property exclude each other. -/
theorem Decides.of_cases {check : Except Error Unit} {Holds : Prop} {Violation : Error → Prop}
    (excluded : ∀ e, Violation e → ¬ Holds)
    (decided : check = .ok () ∧ Holds ∨
      ∃ e, check = .error e ∧ Violation e ∧ e.report.kind = .graph) :
    Decides check Holds Violation := by
  rcases decided with ⟨passed, holds⟩ | ⟨e, failed, violation, kind⟩
  · exact ⟨iff_of_true passed holds, fun fails ↦ absurd holds fails⟩
  · have fails := excluded e violation
    exact ⟨iff_of_false (by simp [failed]) fails, fun _ ↦ ⟨e, failed, violation, kind⟩⟩

theorem unmatched_of_firstUnmatched {m m' : Assoc Nat (List Nat)} {key uid : Nat}
    (first : firstUnmatched m m' = some (key, uid)) :
    uid ∈ recorded m key ∧ key ∉ recorded m' uid := by
  obtain ⟨⟨k, uids⟩, entry, found⟩ := List.exists_of_findSome?_eq_some first
  obtain ⟨u, hu, same⟩ := Option.map_eq_some_iff.1 found
  obtain ⟨rfl, rfl⟩ := Prod.mk.inj same
  have unmatched := List.find?_some hu
  rw [decide_eq_true_eq] at unmatched
  exact ⟨mem_recorded_iff.2 ⟨uids, entry, List.mem_of_find?_eq_some hu⟩, unmatched⟩

/-- The check of the maps looks through one of them and then through the other, and so finds
everything that is in one of them only. -/
theorem decides_checkAdjacency (b : Body) : Decides b.checkAdjacency b.Dual b.Mismatch := by
  refine .of_cases (fun e ↦ Mismatch.not_dual) ?_
  cases forward : firstUnmatched b.succ b.pred with
  | some edge =>
    obtain ⟨src, dst⟩ := edge
    obtain ⟨listed, missing⟩ := unmatched_of_firstUnmatched forward
    refine .inr ⟨_, ?_, .predecessor listed missing, rfl⟩
    simp only [checkAdjacency, forward]
  | none =>
    cases backward : firstUnmatched b.pred b.succ with
    | some edge =>
      obtain ⟨dst, src⟩ := edge
      obtain ⟨listed, missing⟩ := unmatched_of_firstUnmatched backward
      refine .inr ⟨_, ?_, .successor listed missing, rfl⟩
      simp only [checkAdjacency, forward, backward]
    | none =>
      have passed : b.checkAdjacency = .ok () := by
        simp only [checkAdjacency, forward, backward]
      exact .inl ⟨passed, checkAdjacency_eq_ok_iff.1 passed⟩

/-- The check of the closure is a search from the entry. -/
theorem decides_checkClosed (b : Body) : Decides b.checkClosed b.Closed b.Leak := by
  refine .of_cases (fun e ↦ Leak.not_closed) ?_
  rw [checkClosed]
  cases start : b.entry? with
  | none => exact .inl ⟨rfl, fun entry he ↦ by simp [start] at he⟩
  | some entry =>
    rcases search_from b.uids (recorded b.succ) entry.uid with
      ⟨found, answered, -, -, own⟩ | ⟨uid, stopped, path, foreign⟩
    · rw [uids] at answered
      refine .inl ⟨by simp only [answered], fun entry' he ↦ ?_⟩
      rw [start] at he
      rwa [← Option.some.inj he]
    · rw [uids] at stopped
      exact .inr ⟨_, by simp only [stopped], .number start path foreign, rfl⟩

/-- Where the predecessors know own numbers only, dual maps lead nowhere else. -/
theorem Dual.closed (h : b.Dual) (own : ∀ uid ∈ b.pred.keys, uid ∈ b.uids) : b.Closed := by
  intro entry start uid path
  have step (u : Nat) (_ : u ∈ b.uids) (v : Nat) (edge : v ∈ recorded b.succ u) : v ∈ b.uids :=
    own v (mem_keys_of_mem_recorded ((h u v).1 edge))
  exact path.of_closed (S := (· ∈ b.uids)) step (List.mem_map_of_mem (mem_of_isEntry start))

/-- What the checks say about a body. -/
structure Diagnosed (b : Body) : Prop where
  adjacency : Decides b.checkAdjacency b.Dual b.Mismatch
  closure : Decides b.checkClosed b.Closed b.Leak
  /-- Where the predecessors know own numbers only, the second check has nothing to add. -/
  implied : (∀ uid ∈ b.pred.keys, uid ∈ b.uids) → b.checkAdjacency = .ok () →
    b.checkClosed = .ok ()

/-- **The checks decide duality and closure, whatever is in the maps.** -/
theorem diagnosed (b : Body) : b.Diagnosed where
  adjacency := b.decides_checkAdjacency
  closure := b.decides_checkClosed
  implied own passed := by
    have dual : b.Dual := b.decides_checkAdjacency.accepts.1 passed
    exact b.decides_checkClosed.accepts.2 (dual.closed own)

-- A number of no block that is in both maps makes no mismatch, but there is a way out of the body.
example :
    let b : Body :=
      { uid := 1
        blocks := [⟨2, "a", []⟩]
        succ := .ofList [(2, [2, 9])]
        pred := .ofList [(2, [2]), (9, [2])] }
    b.checkAdjacency = .ok () ∧ b.checkClosed = .error (.openEdge "code 1" 9) := by
  constructor <;> cbv

end Flowcheck.Ir.Body
