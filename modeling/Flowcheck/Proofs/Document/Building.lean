import Flowcheck.Proofs.Document.Reading
import Flowcheck.Proofs.Ir.Neighbours

/-!
# Making what a document describes

A function is made in two passes: first all blocks with their statements, then all edges, so that a
successor may be a later block. What holds during the first pass is `Declares`, and the second pass
adds the listed pairs of names to the edges and changes nothing else. What comes out is described by
the document that went in.
-/

namespace Flowcheck.Ir

/-! ## Outlines -/

/-- The name and the statements of a block without any number. -/
def Block.outline (bb : Block) : String × List StatementSpec :=
  (bb.name, bb.statements.map Statement.spec)

/-- The name and the statements that a description asks for. -/
def BlockSpec.outline (b : BlockSpec) : String × List StatementSpec := (b.name, b.statements)

theorem map_fst_outline (bbs : List Block) :
    (bbs.map Block.outline).map Prod.fst = bbs.map Block.name :=
  List.map_map

theorem map_name_of_outlines {bbs : List Block} {specs : List BlockSpec}
    (h : bbs.map Block.outline = specs.map BlockSpec.outline) :
    bbs.map Block.name = specs.map BlockSpec.name := by
  rw [← map_fst_outline, h, List.map_map]
  rfl

/-- Every statement comes from one of a description. -/
theorem exists_spec_of_outlines {bbs : List Block} {specs : List BlockSpec}
    (h : bbs.map Block.outline = specs.map BlockSpec.outline) {bb : Block} (hbb : bb ∈ bbs)
    {st : Statement} (hst : st ∈ bb.statements) : ∃ spec ∈ specs, st.spec ∈ spec.statements := by
  have described : bb.outline ∈ specs.map BlockSpec.outline := h ▸ List.mem_map_of_mem hbb
  obtain ⟨spec, hs, same⟩ := List.mem_map.1 described
  have statements : spec.statements = bb.statements.map Statement.spec := congrArg Prod.snd same
  exact ⟨spec, hs, statements ▸ List.mem_map_of_mem hst⟩

/-! ## Blocks -/

/-- A statement for the last block goes to the last block alone. -/
theorem Body.appendStatement_last {old : List Block} {uid : Nat} (new : ∀ bb ∈ old, bb.uid ≠ uid)
    (name : String) (sts : List Statement) (st : Statement) :
    appendStatement (old ++ [⟨uid, name, sts⟩]) uid st = old ++ [⟨uid, name, sts ++ [st]⟩] := by
  have others : old.map (Block.receive uid st) = old := by
    refine (List.map_congr_left fun bb hbb ↦ ?_).trans (List.map_id old)
    exact receive_of_ne (new bb hbb) st
  rw [appendStatement, List.map_append, others, List.map_singleton, Block.receive, if_pos rfl]

/-- The body with the statements of a description at the end of a block, numbered from `next`. -/
def StatementSpec.addAll (block : Nat) (specs : List StatementSpec) (b : Body) (next : Nat) :
    Body × Nat :=
  specs.foldl (fun (b, n) s ↦ (b.pushStatement block ⟨n, s.opcode, s.operands⟩, n + 1)) (b, next)

/-- Statements for the last block come to stand there in their order. -/
theorem StatementSpec.addAll_spec (specs : List StatementSpec) {b : Body} (h : b.WellFormed)
    {old : List Block} {uid : Nat} {name : String} {before : List Statement}
    (blocks : b.blocks = old ++ [⟨uid, name, before⟩]) (new : ∀ bb ∈ old, bb.uid ≠ uid)
    (next : Nat) :
    (addAll uid specs b next).1.WellFormed ∧ (addAll uid specs b next).1.succ = b.succ ∧
      next ≤ (addAll uid specs b next).2 ∧
      ∃ sts, (addAll uid specs b next).1.blocks = old ++ [⟨uid, name, before ++ sts⟩] ∧
        sts.map Statement.spec = specs := by
  induction specs generalizing b before next with
  | nil =>
    refine ⟨h, rfl, Nat.le_refl _, [], ?_, rfl⟩
    rw [List.append_nil]
    exact blocks
  | cons s specs ih =>
    let st : Statement := ⟨next, s.opcode, s.operands⟩
    have pushed : (b.pushStatement uid st).blocks = old ++ [⟨uid, name, before ++ [st]⟩] := by
      rw [Body.pushStatement, blocks]
      exact Body.appendStatement_last new name before st
    obtain ⟨wf, succ, le, sts, hblocks, hsts⟩ := ih (h.pushStatement uid st) pushed (next + 1)
    refine ⟨wf, succ, Nat.le_of_succ_le le, st :: sts, ?_, ?_⟩
    · rw [List.append_cons before]
      exact hblocks
    · rw [List.map_cons, hsts]
      rfl

/-- The blocks of a body while it is made: those of the descriptions so far, without edges. -/
structure Declares (specs : List BlockSpec) (b : Body) (next : Nat) : Prop where
  wellFormed : b.WellFormed
  lt : ∀ uid ∈ b.uids, uid < next
  outlines : b.blocks.map Block.outline = specs.map BlockSpec.outline
  unlinked : ∀ uid, Body.recorded b.succ uid = []

theorem declares_empty (uid : Nat) (owner? : Option Owner) (next : Nat) :
    Declares [] { uid, owner? } next where
  wellFormed := Body.wellFormed_empty uid owner?
  lt := by simp [Body.uids]
  outlines := rfl
  unlinked := Body.recorded_empty

theorem Declares.hasBlock_eq_false {specs : List BlockSpec} {b : Body} {next : Nat}
    (h : Declares specs b next) {name : String} (new : name ∉ specs.map BlockSpec.name) :
    b.hasBlock name = false := by
  have names : b.byName.keys = specs.map BlockSpec.name := by
    rw [← map_name_of_outlines h.outlines, Assoc.keys, h.wellFormed.index, List.map_map]
    rfl
  rwa [Body.hasBlock_eq_false_iff, names]

/-- One more block is declared. -/
theorem Declares.addTo {specs : List BlockSpec} {b : Body} {next : Nat}
    (h : Declares specs b next) {spec : BlockSpec} (ne : spec.name ≠ "")
    (new : spec.name ∉ specs.map BlockSpec.name) :
    Declares (specs ++ [spec]) (spec.addTo b next).1 (spec.addTo b next).2 := by
  have unused : next ∉ b.uids := fun used ↦ Nat.lt_irrefl next (h.lt next used)
  have others : ∀ bb ∈ b.blocks, bb.uid ≠ next := fun bb hbb same ↦
    unused (same ▸ List.mem_map_of_mem hbb)
  have pushed := h.wellFormed.pushBlock unused ne (h.hasBlock_eq_false new)
  obtain ⟨wf, succ, le, sts, blocks, hsts⟩ :=
    StatementSpec.addAll_spec spec.statements pushed rfl others (next + 1)
  have made : spec.addTo b next =
    StatementSpec.addAll next spec.statements (b.pushBlock next spec.name) (next + 1) := rfl
  rw [made]
  constructor
  case wellFormed => exact wf
  case lt =>
    intro uid hu
    rw [Body.uids, blocks, List.map_append, List.mem_append, List.map_singleton,
      List.mem_singleton] at hu
    rcases hu with hu | rfl
    · exact Nat.lt_of_lt_of_le (Nat.lt_succ_of_lt (h.lt uid hu)) le
    · exact le
  case outlines =>
    rw [blocks, List.map_append, List.map_append, h.outlines, List.map_singleton,
      List.map_singleton, Block.outline, List.nil_append, hsts]
    rfl
  case unlinked =>
    intro uid
    have key : next ∉ b.succ.keys := by rwa [h.wellFormed.succ_keys]
    rw [succ, Body.pushBlock, Body.recorded_insert_nil key, h.unlinked]

/-- The first pass: all blocks with their statements, and the first number not used by them. -/
def BlockSpec.addAll (specs : List BlockSpec) (b : Body) (next : Nat) : Body × Nat :=
  specs.foldl (fun (b, n) spec ↦ spec.addTo b n) (b, next)

/-- The first pass declares all blocks. -/
theorem Declares.addAll {done specs : List BlockSpec} {b : Body} {next : Nat}
    (h : Declares done b next) (ne : ∀ spec ∈ specs, spec.name ≠ "")
    (nodup : ((done ++ specs).map BlockSpec.name).Nodup) :
    Declares (done ++ specs) (BlockSpec.addAll specs b next).1
      (BlockSpec.addAll specs b next).2 := by
  induction specs generalizing done b next with
  | nil =>
    rw [List.append_nil]
    exact h
  | cons spec specs ih =>
    obtain ⟨hspec, hspecs⟩ := List.forall_mem_cons.1 ne
    have new : spec.name ∉ done.map BlockSpec.name := fun old ↦ by
      rw [List.map_append] at nodup
      exact List.disjoint_of_nodup_append nodup old List.mem_cons_self
    rw [List.append_cons] at nodup ⊢
    exact ih (h.addTo hspec new) hspecs nodup

/-! ## Edges -/

namespace Body

variable {b : Body}

theorem WellFormed.named?_of_mem (h : b.WellFormed) {name : String}
    (hn : name ∈ b.blocks.map Block.name) :
    ∃ bb ∈ b.blocks, bb.name = name ∧ b.named? name = some bb := by
  obtain ⟨bb, hbb, rfl⟩ := List.mem_map.1 hn
  exact ⟨bb, hbb, rfl, h.named?_eq_some_iff.2 ⟨hbb, rfl⟩⟩

/-- Linking two names adds the edge between them. -/
theorem WellFormed.linkNames (h : b.WellFormed) {src dst : String}
    (hs : src ∈ b.blocks.map Block.name) (hd : dst ∈ b.blocks.map Block.name) :
    (b.linkNames src dst).WellFormed ∧ (b.linkNames src dst).blocks = b.blocks ∧
      ∀ s d, (b.linkNames src dst).NamedEdge s d ↔ b.NamedEdge s d ∨ (s = src ∧ d = dst) := by
  obtain ⟨bs, ownS, rfl, foundS⟩ := h.named?_of_mem hs
  obtain ⟨bd, ownD, rfl, foundD⟩ := h.named?_of_mem hd
  have linked : b.linkNames bs.name bd.name = b.link bs.uid bd.uid := by
    simp only [Body.linkNames, foundS, foundD]
  have uidS : bs.uid ∈ b.uids := List.mem_map_of_mem ownS
  have key : bs.uid ∈ b.succ.keys := by rwa [h.succ_keys]
  rw [linked]
  refine ⟨h.link uidS (List.mem_map_of_mem ownD), rfl, fun s d ↦ ?_⟩
  constructor
  · rintro ⟨x, hx, y, hy, rfl, rfl, edge⟩
    rw [Body.link, mem_recorded_modify_adjoin key] at edge
    rcases edge with edge | ⟨sameS, sameD⟩
    · exact .inl ⟨x, hx, y, hy, rfl, rfl, edge⟩
    · rw [List.inj_on_of_nodup_map h.uids_nodup ownS hx sameS,
        List.inj_on_of_nodup_map h.uids_nodup hy ownD sameD]
      exact .inr ⟨rfl, rfl⟩
  · rintro (⟨x, hx, y, hy, rfl, rfl, edge⟩ | ⟨rfl, rfl⟩)
    · refine ⟨x, hx, y, hy, rfl, rfl, ?_⟩
      rw [Body.link, mem_recorded_modify_adjoin key]
      exact .inl edge
    · refine ⟨bs, ownS, bd, ownD, rfl, rfl, ?_⟩
      rw [Body.link, mem_recorded_modify_adjoin key]
      exact .inr ⟨rfl, rfl⟩

/-- Linking pairs of names adds the edges between them. -/
theorem WellFormed.foldl_linkNames (h : b.WellFormed) {pairs : List (String × String)}
    (own : ∀ p ∈ pairs, p.1 ∈ b.blocks.map Block.name ∧ p.2 ∈ b.blocks.map Block.name) :
    (pairs.foldl (fun b p ↦ b.linkNames p.1 p.2) b).WellFormed ∧
      (pairs.foldl (fun b p ↦ b.linkNames p.1 p.2) b).blocks = b.blocks ∧
      ∀ s d, (pairs.foldl (fun b p ↦ b.linkNames p.1 p.2) b).NamedEdge s d ↔
        b.NamedEdge s d ∨ (s, d) ∈ pairs := by
  induction pairs generalizing b with
  | nil => exact ⟨h, rfl, fun s d ↦ by simp⟩
  | cons p pairs ih =>
    obtain ⟨⟨hs, hd⟩, rest⟩ := List.forall_mem_cons.1 own
    obtain ⟨wf, blocks, edges⟩ := h.linkNames hs hd
    rw [← blocks] at rest
    obtain ⟨wf', blocks', edges'⟩ := ih wf rest
    refine ⟨wf', blocks'.trans blocks, fun s d ↦ ?_⟩
    rw [List.foldl_cons, edges', edges, List.mem_cons, Prod.ext_iff, or_assoc]

theorem uidOf?_own {name : String} {uid : Nat} (h : b.uidOf? name = some uid) : uid ∈ b.uids := by
  obtain ⟨bb, found, rfl⟩ := Option.map_eq_some_iff.1 h
  obtain ⟨_, _, found⟩ := Option.bind_eq_some_iff.1 found
  exact List.mem_map_of_mem (mem_of_block? found)

theorem WellFormed.block?_of_uidOf? (h : b.WellFormed) {name : String}
    (hn : name ∈ b.blocks.map Block.name) :
    ∃ bb ∈ b.blocks, bb.name = name ∧ b.uidOf? name = some bb.uid ∧ b.block? bb.uid = some bb := by
  obtain ⟨bb, own, same, found⟩ := h.named?_of_mem hn
  refine ⟨bb, own, same, ?_, (block?_eq_some_iff h.uids_nodup).2 ⟨own, rfl⟩⟩
  rw [uidOf?, found, Option.map_some]

/-- The name of the entry. -/
def entryName? (b : Body) : Option String := b.entry?.map Block.name

/-- The name of the exit. -/
def exitName? (b : Body) : Option String := b.exit?.map Block.name

end Body

/-! ## Functions -/

/-- The pairs of names that a description lists as edges. -/
def FunctionSpec.pairs (spec : FunctionSpec) : List (String × String) :=
  spec.blocks.flatMap fun b ↦ b.successors.map fun dst ↦ (b.name, dst)

theorem FunctionSpec.mem_pairs_iff {spec : FunctionSpec} {src dst : String} :
    (src, dst) ∈ spec.pairs ↔ ∃ b ∈ spec.blocks, b.name = src ∧ dst ∈ b.successors := by
  simp only [pairs, List.mem_flatMap, List.mem_map, Prod.mk.injEq]
  constructor
  · rintro ⟨b, hb, dst, hd, rfl, rfl⟩
    exact ⟨b, hb, rfl, hd⟩
  · rintro ⟨b, hb, rfl, hd⟩
    exact ⟨b, hb, dst, hd, rfl, rfl⟩

/-- The second pass: the body with all listed edges. -/
def FunctionSpec.linkAll (spec : FunctionSpec) (b : Body) : Body :=
  spec.pairs.foldl (fun b p ↦ b.linkNames p.1 p.2) b

/-- What a description says about a function, without any number. -/
structure FunctionSpec.Describes (spec : FunctionSpec) (f : Function) : Prop where
  name : f.name = spec.name
  outlines : f.body.blocks.map Block.outline = spec.blocks.map BlockSpec.outline
  edge : ∀ src dst, f.body.NamedEdge src dst ↔ (src, dst) ∈ spec.pairs
  /-- Unless another one is named the first block is the entry. -/
  entry : f.body.entryName? = spec.entry?.or (spec.blocks.head?.map BlockSpec.name)
  exit : f.body.exitName? = spec.exit?

/-- The last touches to a body: its entry, its exit, and that it is frozen. -/
def FunctionSpec.finish (spec : FunctionSpec) (b : Body) : Body :=
  { b with
    entryUid? := spec.entry? >>= b.uidOf?
    exitUid? := spec.exit? >>= b.uidOf?
    frozen := true }

theorem FunctionSpec.finish_wellFormed (spec : FunctionSpec) {b : Body} (h : b.WellFormed) :
    (spec.finish b).WellFormed := by
  have own (name? : Option String) (uid : Nat) (hu : (name? >>= b.uidOf?) = some uid) :
      uid ∈ b.uids := by
    obtain ⟨name, -, hu⟩ := Option.bind_eq_some_iff.1 hu
    exact Body.uidOf?_own hu
  exact { h with entry_own := own spec.entry?, exit_own := own spec.exit? }

theorem FunctionSpec.finish_entryName? {spec : FunctionSpec} {b : Body} (h : b.WellFormed)
    (names : b.blocks.map Block.name = spec.names) (own : ∀ name ∈ spec.entry?, name ∈ spec.names) :
    (spec.finish b).entryName? = spec.entry?.or (spec.blocks.head?.map BlockSpec.name) := by
  rw [Body.entryName?]
  cases hentry : spec.entry? with
  | none =>
    have first : Body.entry? (spec.finish b) = b.blocks.head? := by
      unfold Body.entry?
      rw [finish, hentry]
      rfl
    rw [first, Option.none_or, ← List.head?_map, ← List.head?_map, names, FunctionSpec.names]
  | some name =>
    have hn : name ∈ b.blocks.map Block.name := names ▸ own name hentry
    obtain ⟨bb, -, rfl, numbered, found⟩ := h.block?_of_uidOf? hn
    have pointer : (spec.finish b).entryUid? = some bb.uid := by
      rw [← numbered, finish, hentry]
      rfl
    have entry : Body.entry? (spec.finish b) = some bb := by
      unfold Body.entry?
      rw [pointer]
      exact found
    rw [entry]
    rfl

theorem FunctionSpec.finish_exitName? {spec : FunctionSpec} {b : Body} (h : b.WellFormed)
    (names : b.blocks.map Block.name = spec.names) (own : ∀ name ∈ spec.exit?, name ∈ spec.names) :
    (spec.finish b).exitName? = spec.exit? := by
  rw [Body.exitName?]
  cases hexit : spec.exit? with
  | none =>
    have missing : (spec.finish b).exit? = none := by
      rw [Body.exit?, finish, hexit]
      rfl
    rw [missing]
    rfl
  | some name =>
    have hn : name ∈ b.blocks.map Block.name := names ▸ own name hexit
    obtain ⟨bb, -, rfl, numbered, found⟩ := h.block?_of_uidOf? hn
    have pointer : (spec.finish b).exitUid? = some bb.uid := by
      rw [← numbered, finish, hexit]
      rfl
    have exit : (spec.finish b).exit? = some bb := by
      rw [Body.exit?, pointer]
      exact found
    rw [exit]
    rfl

/-- The body of a function before the first pass. -/
def FunctionSpec.bare (spec : FunctionSpec) (next : Nat) : Body :=
  { uid := next + 1, owner? := some ⟨next, spec.name⟩ }

/-- A function is made in two passes and then finished. -/
theorem FunctionSpec.build_eq (spec : FunctionSpec) (next : Nat) :
    spec.build next =
      (⟨next, spec.name, spec.finish (spec.linkAll
          (BlockSpec.addAll spec.blocks (spec.bare next) (next + 2)).1)⟩,
        (BlockSpec.addAll spec.blocks (spec.bare next) (next + 2)).2) := by
  rw [linkAll, pairs, List.foldl_flatMap]
  simp only [List.foldl_map]
  rfl

/-- Every listed edge leads from a block to a block. -/
theorem FunctionSpec.WellFormed.mem_names_of_pairs {spec : FunctionSpec} (h : spec.WellFormed)
    {p : String × String} (hp : p ∈ spec.pairs) : p.1 ∈ spec.names ∧ p.2 ∈ spec.names := by
  obtain ⟨src, dst⟩ := p
  obtain ⟨block, hb, rfl, hd⟩ := mem_pairs_iff.1 hp
  exact ⟨List.mem_map_of_mem hb, (h.block block hb).successors dst hd⟩

/-- What the first pass makes of a function without blocks. -/
theorem FunctionSpec.WellFormed.declares {spec : FunctionSpec} (h : spec.WellFormed) (next : Nat) :
    Declares spec.blocks (BlockSpec.addAll spec.blocks (spec.bare next) (next + 2)).1
      (BlockSpec.addAll spec.blocks (spec.bare next) (next + 2)).2 :=
  (declares_empty (next + 1) (some ⟨next, spec.name⟩) (next + 2)).addAll
    (fun block hb ↦ (h.block block hb).name_ne) h.names_nodup

/-- A function as a description asks for it. -/
structure FunctionSpec.Builds (spec : FunctionSpec) (f : Function) : Prop where
  describes : spec.Describes f
  wellFormed : f.body.WellFormed
  frozen : f.body.frozen = true
  opcode_ne : ∀ bb ∈ f.body.blocks, ∀ st ∈ bb.statements, st.opcode ≠ ""

/-- **A well-formed description is followed to the letter.** -/
theorem FunctionSpec.builds_build {spec : FunctionSpec} (h : spec.WellFormed) (next : Nat) :
    spec.Builds (spec.build next).1 := by
  have declared := h.declares next
  rcases made : BlockSpec.addAll spec.blocks (spec.bare next) (next + 2) with ⟨b, after⟩
  rw [made] at declared
  have names : b.blocks.map Block.name = spec.names := map_name_of_outlines declared.outlines
  have own : ∀ p ∈ spec.pairs, p.1 ∈ b.blocks.map Block.name ∧ p.2 ∈ b.blocks.map Block.name := by
    rw [names]
    exact fun _ hp ↦ h.mem_names_of_pairs hp
  obtain ⟨wf, blocks, edges⟩ := declared.wellFormed.foldl_linkNames own
  have built : (spec.build next).1 = ⟨next, spec.name, spec.finish (spec.linkAll b)⟩ := by
    rw [build_eq, made]
  have outlines := declared.outlines
  rw [← blocks] at outlines names
  -- The first pass leaves no edge behind, so in the end the edges are the listed pairs.
  have unlinked (src dst : String) : ¬ b.NamedEdge src dst := by
    rintro ⟨s, _, d, _, _, _, edge⟩
    rw [declared.unlinked] at edge
    cases edge
  rw [built]
  constructor
  case describes =>
    constructor
    case name => rfl
    case outlines => exact outlines
    case edge => exact fun src dst ↦ (edges src dst).trans (or_iff_right (unlinked src dst))
    case entry => exact finish_entryName? wf names h.entry
    case exit => exact finish_exitName? wf names h.exit
  case wellFormed => exact spec.finish_wellFormed wf
  case frozen => rfl
  case opcode_ne =>
    intro bb hbb st hst
    obtain ⟨block, hb, listed⟩ := exists_spec_of_outlines outlines hbb hst
    exact (h.block block hb).opcode_ne st.spec listed

theorem FunctionSpec.buildAll_cons (spec : FunctionSpec) (specs : List FunctionSpec) (next : Nat) :
    buildAll (spec :: specs) next =
      ((spec.build next).1 :: (buildAll specs (spec.build next).2).1,
        (buildAll specs (spec.build next).2).2) := rfl

theorem FunctionSpec.builds_buildAll {specs : List FunctionSpec}
    (h : ∀ spec ∈ specs, spec.WellFormed) (next : Nat) :
    List.Forall₂ FunctionSpec.Builds specs (buildAll specs next).1 := by
  induction specs generalizing next with
  | nil => exact .nil
  | cons spec specs ih =>
    obtain ⟨hspec, hspecs⟩ := List.forall_mem_cons.1 h
    exact .cons (builds_build hspec next) (ih hspecs _)

end Flowcheck.Ir
