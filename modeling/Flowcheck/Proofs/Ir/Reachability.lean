import Flowcheck.Proofs.Ir.Soundness
import Mathlib

/-!
# What can be reached

The blocks that can be reached from a block are those at the ends of paths of edges, and a path may
have no edge at all. The body answers by searching among numbers; a path of numbers is one of blocks
since no edge leads out of the body and a number stands for one block only.
-/

namespace Flowcheck.Ir

namespace Body

variable {b : Body} {start s d : Block} {start? : Option Block}

/-! ## Paths of blocks -/

/-- The second block is listed among the successors of the first. -/
def Edge (b : Body) (s d : Block) : Prop := ∃ ds, b.successors s = .ok ds ∧ d ∈ ds

/-- A path of edges, possibly of none, leads from the first block to the second. -/
def Path (b : Body) : Block → Block → Prop := Relation.ReflTransGen b.Edge

/-- The answer has exactly the blocks that a path from `start` leads to, each of them once. -/
def ReachedFrom (b : Body) (start : Block) (answer : Except Error (List Block)) : Prop :=
  ∃ found, answer = .ok found ∧ found.Nodup ∧ ∀ bb, bb ∈ found ↔ b.Path start bb

namespace WellFormed

variable (h : b.WellFormed)

include h

theorem edge_iff (own : s ∈ b.blocks) :
    b.Edge s d ↔ d ∈ b.blocks ∧ d.uid ∈ recorded b.succ s.uid := by
  have mem_iff : d ∈ (recorded b.succ s.uid).filterMap b.block? ↔
      d ∈ b.blocks ∧ d.uid ∈ recorded b.succ s.uid := by
    rw [List.mem_filterMap]
    constructor
    · rintro ⟨uid, hu, found⟩
      obtain ⟨hd, rfl⟩ := (block?_eq_some_iff h.uids_nodup).1 found
      exact ⟨hd, hu⟩
    · rintro ⟨hd, edge⟩
      exact ⟨d.uid, edge, (block?_eq_some_iff h.uids_nodup).2 ⟨hd, rfl⟩⟩
  rw [Edge, h.successors_ok (List.mem_map_of_mem own), ← mem_iff]
  simp

/-- Paths of own blocks are paths of their numbers. -/
theorem path_iff (own : start ∈ b.blocks) :
    b.Path start d ↔ d ∈ b.blocks ∧ Reaches (recorded b.succ) start.uid d.uid := by
  constructor
  · intro path
    induction path with
    | refl => exact ⟨own, .refl⟩
    | tail _ step ih =>
      obtain ⟨hd, edge⟩ := (h.edge_iff ih.1).1 step
      exact ⟨hd, ih.2.tail edge⟩
  · rintro ⟨hd, path⟩
    -- Every number on the way is that of an own block.
    generalize ends : d.uid = v at path
    induction path generalizing d with
    | refl =>
      obtain rfl := List.inj_on_of_nodup_map h.uids_nodup hd own ends
      exact .refl
    | @tail u v before edge ih =>
      have ownU := h.own_of_reaches (List.mem_map_of_mem own) before
      obtain ⟨s, hs, rfl⟩ := mem_uids_iff.1 ownU
      have step : b.Edge s d := (h.edge_iff hs).2 ⟨hd, ends ▸ edge⟩
      exact (ih hs rfl).tail step

/-- **What is found from an own block is what paths lead to.** -/
theorem reachedFrom (hstart : start?.or b.entry? = some start) (own : start ∈ b.blocks) :
    b.ReachedFrom start (b.reachableFrom start?) := by
  have ownUid : start.uid ∈ b.uids := List.mem_map_of_mem own
  obtain ⟨found, answered, nodup, mem_iff⟩ := h.reachableFrom_of_own hstart ownUid
  have inside (u : Nat) (hu : u ∈ found) : u ∈ b.uids :=
    h.own_of_reaches ownUid ((mem_iff u).1 hu)
  refine ⟨found.filterMap b.block?, answered, ?_, fun bb ↦ ?_⟩
  · refine List.Nodup.of_map Block.uid ?_
    rwa [map_uid_filterMap_block? inside]
  · rw [h.path_iff own, ← mem_iff, List.mem_filterMap]
    constructor
    · rintro ⟨u, hu, numbered⟩
      obtain ⟨hbb, rfl⟩ := (block?_eq_some_iff h.uids_nodup).1 numbered
      exact ⟨hbb, hu⟩
    · rintro ⟨hbb, hu⟩
      exact ⟨bb.uid, hu, (block?_eq_some_iff h.uids_nodup).2 ⟨hbb, rfl⟩⟩

theorem entry?_eq_none_iff : b.entry? = none ↔ b.blocks = [] := by
  constructor
  · exact h.blocks_eq_nil
  · intro empty
    rw [Option.eq_none_iff_forall_ne_some]
    intro entry he
    have own := mem_of_isEntry he
    rw [empty] at own
    exact absurd own List.not_mem_nil

end WellFormed

end Body

/-! ## Bodies of a store -/

/-- Blocks of a store with numbers of a body are the blocks of that body. -/
theorem Store.WellFormed.mem_blocks_of_uid {s : Store} (h : s.WellFormed) {body : Nat} {b : Body}
    (hb : s.bodies.get? body = some b) {bb : Block} (there : s.block? bb.uid = some bb)
    (hu : bb.uid ∈ b.uids) : bb ∈ b.blocks := by
  obtain ⟨own, hown, same⟩ := Body.mem_uids_iff.1 hu
  have held : s.Holds own := .inl ⟨body, by rwa [blocksOf_eq hb]⟩
  have found := h.block?_eq_some_iff.2 ⟨held, same⟩
  rw [there] at found
  rwa [Option.some.inj found]

/-- What a body of a store answers when it is asked which blocks can be reached. -/
structure Store.Reachability (s : Store) (b : Body) : Prop where
  given : ∀ start ∈ b.blocks, b.ReachedFrom start (b.reachableFrom (some start))
  /-- Without a start the entry is the start. -/
  entry : ∀ start, b.entry? = some start → b.ReachedFrom start (b.reachableFrom none)
  nothing : b.entry? = none → b.reachableFrom none = .ok []
  /-- Only a body without blocks has no entry. -/
  empty : b.entry? = none ↔ b.blocks = []
  /-- A block of another body, or of none, is refused. -/
  foreign : ∀ start, s.block? start.uid = some start → start ∉ b.blocks →
    b.reachableFrom (some start) = .error (.foreignBlock .plain start.name b.scope)

/-- **Reachability is exact in every body of every run.** -/
theorem Store.reachability_run (nextUid : Nat) (ops : List Operation) {body : Nat} {b : Body}
    (hb : (run { nextUid } ops).bodies.get? body = some b) :
    Reachability (run { nextUid } ops) b := by
  have wf := (wellFormed_empty nextUid).run ops
  have h := wf.body body b hb
  constructor
  case given => exact fun start own ↦ h.reachedFrom (Option.some_or ..) own
  case entry => exact fun start he ↦ h.reachedFrom he (Body.mem_of_isEntry he)
  case nothing =>
    intro missing
    rw [Body.reachableFrom, missing]
    rfl
  case empty => exact h.entry?_eq_none_iff
  case foreign =>
    intro start there foreign
    exact Body.reachableFrom_foreign fun hu ↦ foreign (wf.mem_blocks_of_uid hb there hu)

/-- A loop, an edge that is added twice, a block that no path leads to, and a second body. -/
theorem Store.reachability_run_loop :
    let ops : List Operation :=
      [.newBody, .addBlock 1 "a", .addBlock 1 "b", .addBlock 1 "c", .addBlock 1 "d",
        .addEdge 1 2 4, .addEdge 1 2 3, .addEdge 1 2 4, .addEdge 1 3 3, .addEdge 1 3 2,
        .addEdge 1 5 2, .newBody, .addBlock 6 "e"]
    ∃ b, (run {} ops).bodies.get? 1 = some b ∧ Reachability (run {} ops) b ∧
      (b.reachableFrom none).toOption.map (List.map Block.name) = some ["a", "b", "c"] := by
  intro ops
  have found : ((run {} ops).bodies.get? 1).map
      (fun b ↦ (b.reachableFrom none).toOption.map (List.map Block.name)) =
        some (some ["a", "b", "c"]) := by cbv
  obtain ⟨b, hb, reached⟩ := Option.map_eq_some_iff.1 found
  exact ⟨b, hb, reachability_run 1 ops hb, reached⟩

end Flowcheck.Ir
