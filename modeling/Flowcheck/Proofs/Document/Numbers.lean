import Flowcheck.Proofs.Document.Building
import Flowcheck.Proofs.Ir.Renumbering
import Mathlib.Data.List.Intervals

/-!
# The numbers of what is made

A bundle is made with numbers from one number on. Making it from a number that is larger by some
offset does the same steps on nodes whose numbers are larger by it, so the offset is all that the
two bundles differ in. The numbers that are used are the ones from the first number up to the first
one that is left over, each for one node, in the order in which a reader of the bundle meets the
nodes.
-/

namespace Flowcheck.Ir

/-! ## Offsets -/

/-- Numbers larger by an offset. -/
def shift (k : Nat) : Nat ↪ Nat := ⟨(· + k), fun _ _ same ↦ Nat.add_right_cancel same⟩

theorem shift_add (k n m : Nat) : shift k (n + m) = shift k n + m := Nat.add_right_comm n m k

namespace Body

variable {r : Nat ↪ Nat} {b : Body}

theorem linkNames_renumber (b : Body) (src dst : String) :
    (b.renumber r).linkNames src dst = (b.linkNames src dst).renumber r := by
  rw [linkNames, linkNames, named?_renumber, named?_renumber]
  cases b.named? src with
  | none => rfl
  | some s =>
    cases b.named? dst with
    | none => rfl
    | some d => exact link_renumber b s.uid d.uid

theorem uidOf?_renumber (b : Body) (name : String) :
    (b.renumber r).uidOf? name = (b.uidOf? name).map r := by
  rw [uidOf?, uidOf?, named?_renumber, Option.map_map, Option.map_map]
  rfl

end Body

/-! ## Making from an offset -/

/-- A node and the first number left over, both moved by an offset. -/
def shifted {α : Type} (renumber : (Nat ↪ Nat) → α → α) (k : Nat) : α × Nat → α × Nat :=
  Prod.map (renumber (shift k)) (shift k)

theorem BlockSpec.addTo_shift (spec : BlockSpec) (k : Nat) (b : Body) (next : Nat) :
    spec.addTo (b.renumber (shift k)) (shift k next) =
      shifted Body.renumber k (spec.addTo b next) := by
  rw [addTo, addTo, Body.pushBlock_renumber, ← shift_add]
  show List.foldl _ (shifted Body.renumber k (b.pushBlock next spec.name, next + 1)) _ = _
  refine List.foldl_hom _ fun ⟨b, n⟩ s ↦ Prod.ext ?_ (shift_add k n 1).symm
  exact Body.pushStatement_renumber b next ⟨n, s.opcode, s.operands⟩

theorem BlockSpec.addAll_shift (specs : List BlockSpec) (k : Nat) (b : Body) (next : Nat) :
    addAll specs (b.renumber (shift k)) (shift k next) =
      shifted Body.renumber k (addAll specs b next) := by
  rw [addAll, addAll]
  show List.foldl _ (shifted Body.renumber k (b, next)) _ = _
  exact List.foldl_hom _ fun made block ↦ block.addTo_shift k made.1 made.2

theorem FunctionSpec.linkAll_renumber (spec : FunctionSpec) (r : Nat ↪ Nat) (b : Body) :
    spec.linkAll (b.renumber r) = (spec.linkAll b).renumber r :=
  List.foldl_hom _ fun b p ↦ b.linkNames_renumber p.1 p.2

theorem FunctionSpec.finish_renumber (spec : FunctionSpec) (r : Nat ↪ Nat) (b : Body) :
    spec.finish (b.renumber r) = (spec.finish b).renumber r := by
  have pointer (name? : Option String) :
      (name? >>= (b.renumber r).uidOf?) = (name? >>= b.uidOf?).map r := by
    cases name? with
    | none => rfl
    | some name => exact b.uidOf?_renumber name
  rw [finish, finish, pointer, pointer]
  rfl

theorem FunctionSpec.build_shift (spec : FunctionSpec) (k next : Nat) :
    spec.build (shift k next) = shifted Function.renumber k (spec.build next) := by
  have bare : spec.bare (shift k next) = (spec.bare next).renumber (shift k) := by
    rw [FunctionSpec.bare, ← shift_add]
    rfl
  rw [build_eq, build_eq, bare, ← shift_add, BlockSpec.addAll_shift]
  refine Prod.ext ?_ rfl
  show Function.mk _ _ (spec.finish (spec.linkAll (Body.renumber _ _))) = _
  rw [linkAll_renumber, finish_renumber]
  rfl

theorem FunctionSpec.buildAll_shift (specs : List FunctionSpec) (k next : Nat) :
    buildAll specs (shift k next) =
      shifted (fun r ↦ List.map (Function.renumber r)) k (buildAll specs next) := by
  induction specs generalizing next with
  | nil => rfl
  | cons spec specs ih =>
    rw [buildAll_cons, buildAll_cons, build_shift]
    show (_ :: (buildAll specs (shift k (spec.build next).2)).1,
      (buildAll specs (shift k (spec.build next).2)).2) = _
    rw [ih]
    rfl

theorem Document.build_eq (d : Document) (next : Nat) :
    d.build next =
      (⟨next, d.name, (FunctionSpec.buildAll d.functions (next + 1)).1, true⟩,
        (FunctionSpec.buildAll d.functions (next + 1)).2) := rfl

/-- **What is made from a larger number differs by the offset alone.** -/
theorem Document.build_shift (d : Document) (k next : Nat) :
    d.build (shift k next) = shifted Bundle.renumber k (d.build next) := by
  rw [build_eq, build_eq, ← shift_add, FunctionSpec.buildAll_shift]
  rfl

/-! ## The numbers in a bundle -/

/-- The number of a block and those of its statements. -/
def Block.numbers (bb : Block) : List Nat := bb.uid :: bb.statements.map Statement.uid

/-- The number of a body and all numbers inside it. -/
def Body.numbers (b : Body) : List Nat := b.uid :: b.blocks.flatMap Block.numbers

/-- The number of a function and all numbers inside it. -/
def Function.numbers (f : Function) : List Nat := f.uid :: f.body.numbers

/-- The number of a bundle and all numbers inside it, each node before what is in it. -/
def Bundle.numbers (b : Bundle) : List Nat := b.uid :: b.functions.flatMap Function.numbers

theorem flatMap_renumber {α : Type} {renumber : α → α} {numbers : α → List Nat} {r : Nat ↪ Nat}
    (each : ∀ a, numbers (renumber a) = (numbers a).map r) (as : List α) :
    (as.map renumber).flatMap numbers = (as.flatMap numbers).map r := by
  rw [List.flatMap_map, List.map_flatMap]
  exact List.flatMap_congr fun a _ ↦ each a

section

variable (r : Nat ↪ Nat)

theorem Block.numbers_renumber (bb : Block) : (bb.renumber r).numbers = bb.numbers.map r := by
  rw [numbers, numbers, renumber, List.map_cons, List.map_map, List.map_map]
  rfl

theorem Body.numbers_renumber (b : Body) : (b.renumber r).numbers = b.numbers.map r := by
  rw [numbers, numbers, renumber, List.map_cons, flatMap_renumber (Block.numbers_renumber r)]

theorem Function.numbers_renumber (f : Function) : (f.renumber r).numbers = f.numbers.map r := by
  rw [numbers, numbers, renumber, List.map_cons, Body.numbers_renumber]

theorem Bundle.numbers_renumber (b : Bundle) : (b.renumber r).numbers = b.numbers.map r := by
  rw [numbers, numbers, renumber, List.map_cons, flatMap_renumber (Function.numbers_renumber r)]

end

/-- The blocks and statements of a body have the numbers from `first` up to `next`; a change keeps
the number and the owner of the body. -/
structure Body.Numbered (uid : Nat) (owner? : Option Owner) (first : Nat) (b : Body) (next : Nat) :
    Prop where
  uid : b.uid = uid
  owner : b.owner? = owner?
  le : first ≤ next
  numbers : b.blocks.flatMap Block.numbers = List.Ico first next

/-- The last block has the number and no other one has it. -/
def Body.Ends (b : Body) (uid : Nat) : Prop :=
  ∃ old name sts, b.blocks = old ++ [⟨uid, name, sts⟩] ∧ ∀ bb ∈ old, bb.uid ≠ uid

section

variable {uid first next block : Nat} {owner? : Option Owner} {b : Body}

theorem Body.Numbered.pushBlock (h : b.Numbered uid owner? first next) (name : String) :
    (b.pushBlock next name).Numbered uid owner? first (next + 1) ∧
      (b.pushBlock next name).Ends next := by
  have used : ∀ bb ∈ b.blocks, bb.uid ∈ List.Ico first next := fun bb hbb ↦
    h.numbers ▸ List.mem_flatMap.2 ⟨bb, hbb, List.mem_cons_self⟩
  refine ⟨⟨h.uid, h.owner, Nat.le_succ_of_le h.le, ?_⟩, b.blocks, name, [], rfl, ?_⟩
  · rw [Body.pushBlock, List.flatMap_append, h.numbers, List.Ico.succ_top h.le]
    rfl
  · intro bb hbb same
    exact Nat.lt_irrefl next (same ▸ (List.Ico.mem.1 (used bb hbb)).2)

theorem Body.Numbered.pushStatement (h : b.Numbered uid owner? first next) (last : b.Ends block)
    (opcode : String) (operands : List String) :
    (b.pushStatement block ⟨next, opcode, operands⟩).Numbered uid owner? first (next + 1) ∧
      (b.pushStatement block ⟨next, opcode, operands⟩).Ends block := by
  obtain ⟨old, name, sts, blocks, others⟩ := last
  have pushed : (b.pushStatement block ⟨next, opcode, operands⟩).blocks =
      old ++ [⟨block, name, sts ++ [⟨next, opcode, operands⟩]⟩] := by
    rw [Body.pushStatement, blocks]
    exact Body.appendStatement_last others name sts _
  have before := h.numbers
  refine ⟨⟨h.uid, h.owner, Nat.le_succ_of_le h.le, ?_⟩, old, name, _, pushed, others⟩
  rw [blocks, List.flatMap_append, List.flatMap_singleton, Block.numbers] at before
  rw [pushed, List.flatMap_append, List.flatMap_singleton, Block.numbers, List.map_append,
    List.map_singleton, ← List.cons_append, ← List.append_assoc, before, List.Ico.succ_top h.le]

theorem StatementSpec.numbered_addAll (specs : List StatementSpec)
    (h : b.Numbered uid owner? first next) (last : b.Ends block) :
    (addAll block specs b next).1.Numbered uid owner? first (addAll block specs b next).2 := by
  induction specs generalizing b next with
  | nil => exact h
  | cons s specs ih =>
    obtain ⟨pushed, last⟩ := h.pushStatement last s.opcode s.operands
    exact ih pushed last

theorem BlockSpec.numbered_addAll (specs : List BlockSpec)
    (h : b.Numbered uid owner? first next) :
    (addAll specs b next).1.Numbered uid owner? first (addAll specs b next).2 := by
  induction specs generalizing b next with
  | nil => exact h
  | cons spec specs ih =>
    obtain ⟨pushed, last⟩ := h.pushBlock spec.name
    exact ih (StatementSpec.numbered_addAll spec.statements pushed last)

theorem Body.Numbered.linkNames (h : b.Numbered uid owner? first next) (src dst : String) :
    (b.linkNames src dst).Numbered uid owner? first next := by
  rw [Body.linkNames]
  split
  · exact ⟨h.uid, h.owner, h.le, h.numbers⟩
  · exact h

theorem FunctionSpec.numbered_linkAll (spec : FunctionSpec)
    (h : b.Numbered uid owner? first next) : (spec.linkAll b).Numbered uid owner? first next := by
  refine List.foldlRecOn (motive := fun b ↦ Body.Numbered uid owner? first b next) _ _ h ?_
  exact fun b h p _ ↦ h.linkNames p.1 p.2

end

theorem FunctionSpec.numbered_build (spec : FunctionSpec) (next : Nat) :
    (spec.build next).1.body.Numbered (next + 1) (some ⟨next, spec.name⟩) (next + 2)
      (spec.build next).2 := by
  have bare : (spec.bare next).Numbered (next + 1) (some ⟨next, spec.name⟩) (next + 2)
      (next + 2) := by
    refine ⟨rfl, rfl, Nat.le_refl _, ?_⟩
    rw [List.Ico.self_empty]
    rfl
  obtain ⟨uid, owner, le, numbers⟩ :=
    spec.numbered_linkAll (BlockSpec.numbered_addAll spec.blocks bare)
  rw [build_eq]
  exact ⟨uid, owner, le, numbers⟩

theorem FunctionSpec.numbers_build (spec : FunctionSpec) (next : Nat) :
    next < (spec.build next).2 ∧
      (spec.build next).1.numbers = List.Ico next (spec.build next).2 := by
  obtain ⟨uid, -, le, numbers⟩ := spec.numbered_build next
  have first : next < (spec.build next).2 := by omega
  have second : next + 1 < (spec.build next).2 := by omega
  refine ⟨first, ?_⟩
  rw [Function.numbers, Body.numbers, numbers, uid, List.Ico.eq_cons first,
    List.Ico.eq_cons second]
  rfl

theorem FunctionSpec.numbers_buildAll (specs : List FunctionSpec) (next : Nat) :
    next ≤ (buildAll specs next).2 ∧
      (buildAll specs next).1.flatMap Function.numbers = List.Ico next (buildAll specs next).2 := by
  induction specs generalizing next with
  | nil => exact ⟨Nat.le_refl _, List.Ico.self_empty.symm⟩
  | cons spec specs ih =>
    obtain ⟨lt, here⟩ := spec.numbers_build next
    obtain ⟨le, there⟩ := ih (spec.build next).2
    rw [buildAll_cons]
    refine ⟨Nat.le_trans (Nat.le_of_lt lt) le, ?_⟩
    rw [List.flatMap_cons, here, there, List.Ico.append_consecutive (Nat.le_of_lt lt) le]

/-- The body of every function knows the function. -/
theorem FunctionSpec.owned_buildAll (specs : List FunctionSpec) (next : Nat) :
    ∀ f ∈ (buildAll specs next).1, f.body.owner? = some ⟨f.uid, f.name⟩ := by
  induction specs generalizing next with
  | nil => simp [buildAll]
  | cons spec specs ih =>
    rw [buildAll_cons]
    exact List.forall_mem_cons.2 ⟨(spec.numbered_build next).owner, ih _⟩

/-- **The nodes of a bundle have consecutive numbers**, in the order in which they are met. -/
theorem Document.numbers_build (d : Document) (next : Nat) :
    next < (d.build next).2 ∧ (d.build next).1.numbers = List.Ico next (d.build next).2 := by
  obtain ⟨le, numbers⟩ := FunctionSpec.numbers_buildAll d.functions (next + 1)
  have lt : next < (d.build next).2 := le
  refine ⟨lt, ?_⟩
  rw [Bundle.numbers, List.Ico.eq_cons lt, build_eq, numbers]

example :
    let d : Document :=
      ⟨"m", [⟨"f", none, none, [⟨"a", [⟨"nop", []⟩], ["a"]⟩]⟩, ⟨"g", none, none, []⟩]⟩
    (d.build 7).1.numbers = [7, 8, 9, 10, 11, 12, 13] := by
  decide

end Flowcheck.Ir
