import Flowcheck.Proofs.Document.Building
import Flowcheck.Proofs.Ir.Bundles
import Mathlib

/-!
# Exporting and loading

The document of a bundle says everything about it but the numbers. So loading what was exported
gives a bundle that differs in its numbers only, and exporting that one gives the same again. The
edges are put in another order on the way; which successors a block has does not depend on it.
-/

namespace Flowcheck.Ir

/-! ## Related lists -/

/-- Equal images are images of related lists. -/
theorem map_eq_map_iff {α β γ : Type} {f : α → γ} {g : β → γ} {as : List α} {bs : List β} :
    as.map f = bs.map g ↔ List.Forall₂ (fun a b ↦ f a = g b) as bs := by
  rw [← List.forall₂_eq_eq_eq, List.forall₂_map_left_iff, List.forall₂_map_right_iff]

theorem exists_of_mem_right {α β : Type} {R : α → β → Prop} {as : List α} {bs : List β}
    (h : List.Forall₂ R as bs) {b : β} (hb : b ∈ bs) : ∃ a ∈ as, R a b := by
  induction h with
  | nil => cases hb
  | cons related _ ih =>
    rcases List.mem_cons.1 hb with rfl | hb
    · exact ⟨_, List.mem_cons_self, related⟩
    · obtain ⟨a, ha, related⟩ := ih hb
      exact ⟨a, List.mem_cons_of_mem _ ha, related⟩

theorem forall₂_congr_of_mem {α β : Type} {R S : α → β → Prop} {as : List α} {bs : List β}
    (h : ∀ a ∈ as, ∀ b ∈ bs, (R a b ↔ S a b)) : List.Forall₂ R as bs ↔ List.Forall₂ S as bs := by
  rw [List.forall₂_iff_get, List.forall₂_iff_get]
  refine and_congr_right fun _ ↦ forall_congr' fun i ↦ ?_
  exact forall_congr' fun ha ↦ forall_congr' fun hb ↦ h _ (List.get_mem _ _) _ (List.get_mem _ _)

/-! ## Isomorphism -/

/-- The same operation. -/
structure Statement.Same (st st' : Statement) : Prop where
  opcode : st.opcode = st'.opcode
  operands : st.operands = st'.operands

/-- The same name and the same statements in their order. -/
structure Block.Same (bb bb' : Block) : Prop where
  name : bb.name = bb'.name
  statements : List.Forall₂ Statement.Same bb.statements bb'.statements

/-- Two functions that differ in their numbers only. Names tell the blocks of a function apart, so
the edges by name are the successors of each block. -/
structure Function.Isomorphic (f g : Function) : Prop where
  name : f.name = g.name
  blocks : List.Forall₂ Block.Same f.body.blocks g.body.blocks
  edge : ∀ src dst, f.body.NamedEdge src dst ↔ g.body.NamedEdge src dst
  entry : f.body.entryName? = g.body.entryName?
  exit : f.body.exitName? = g.body.exitName?

/-- Two bundles that differ in their numbers only. -/
structure Bundle.Isomorphic (b c : Bundle) : Prop where
  name : b.name = c.name
  functions : List.Forall₂ Function.Isomorphic b.functions c.functions

theorem Statement.spec_eq_iff {st st' : Statement} : st.spec = st'.spec ↔ st.Same st' := by
  rw [spec, spec, StatementSpec.mk.injEq]
  exact ⟨fun h ↦ ⟨h.1, h.2⟩, fun h ↦ ⟨h.opcode, h.operands⟩⟩

theorem Block.outline_eq_iff {bb bb' : Block} : bb.outline = bb'.outline ↔ bb.Same bb' := by
  have statements : bb.statements.map Statement.spec = bb'.statements.map Statement.spec ↔
      List.Forall₂ Statement.Same bb.statements bb'.statements := by
    rw [map_eq_map_iff]
    simp only [Statement.spec_eq_iff]
  rw [outline, outline, Prod.mk.injEq, statements]
  exact ⟨fun h ↦ ⟨h.1, h.2⟩, fun h ↦ ⟨h.name, h.statements⟩⟩

theorem map_outline_eq_iff {bbs bbs' : List Block} :
    bbs.map Block.outline = bbs'.map Block.outline ↔ List.Forall₂ Block.Same bbs bbs' := by
  rw [map_eq_map_iff]
  simp only [Block.outline_eq_iff]

namespace Function

variable {f g : Function}

/-- Whatever the same document describes is the same. -/
theorem isomorphic_of_describes {spec : FunctionSpec} (hf : spec.Describes f)
    (hg : spec.Describes g) : f.Isomorphic g where
  name := hf.name.trans hg.name.symm
  blocks := map_outline_eq_iff.1 (hf.outlines.trans hg.outlines.symm)
  edge src dst := (hf.edge src dst).trans (hg.edge src dst).symm
  entry := hf.entry.trans hg.entry.symm
  exit := hf.exit.trans hg.exit.symm

/-! ## Documents of functions -/

theorem names_spec (f : Function) : f.spec.names = f.body.blocks.map Block.name := by
  rw [FunctionSpec.names, spec, List.map_map]
  rfl

theorem outlines_spec (f : Function) :
    f.body.blocks.map Block.outline = f.spec.blocks.map BlockSpec.outline := by
  rw [spec, List.map_map]
  rfl

theorem mem_pairs_spec_iff (h : f.body.WellFormed) {src dst : String} :
    (src, dst) ∈ f.spec.pairs ↔ f.body.NamedEdge src dst := by
  have listed (s : Block) (hs : s ∈ f.body.blocks) :
      dst ∈ (f.body.targets s.uid).map Block.name ↔ f.body.NamedEdge s.name dst :=
    Body.mem_map_targets_iff h.names_nodup hs
  rw [FunctionSpec.mem_pairs_iff, spec]
  constructor
  · rintro ⟨block, hb, rfl, hd⟩
    obtain ⟨s, hs, rfl⟩ := List.mem_map.1 hb
    exact (listed s hs).1 hd
  · intro edge
    obtain ⟨s, hs, -, -, rfl, -, -⟩ := id edge
    exact ⟨_, List.mem_map_of_mem hs, rfl, (listed s hs).2 edge⟩

/-- The entry that a document of a function leaves out is that of a function without blocks. -/
theorem or_entry_spec (h : f.body.WellFormed) :
    f.spec.entry?.or (f.spec.blocks.head?.map BlockSpec.name) = f.body.entryName? := by
  rw [Body.entryName?]
  cases he : f.body.entry? with
  | some bb =>
    rw [spec, he]
    rfl
  | none =>
    rw [spec, he, h.blocks_eq_nil he]
    rfl

/-- A well-formed function is described by its own document. -/
theorem describes_spec (h : f.body.WellFormed) : f.spec.Describes f where
  name := rfl
  outlines := outlines_spec f
  edge _ _ := (mem_pairs_spec_iff h).symm
  entry := (or_entry_spec h).symm
  exit := rfl

theorem wellFormed_spec (ne : f.name ≠ "") (h : f.body.WellFormed)
    (opcode_ne : ∀ bb ∈ f.body.blocks, ∀ st ∈ bb.statements, st.opcode ≠ "") :
    f.spec.WellFormed := by
  have own (bb : Block) (hbb : bb ∈ f.body.blocks) : bb.name ∈ f.spec.names :=
    f.names_spec ▸ List.mem_map_of_mem hbb
  constructor
  case name_ne => exact ne
  case names_nodup => exact f.names_spec ▸ h.names_nodup
  case block =>
    intro block hb
    obtain ⟨bb, hbb, rfl⟩ := List.mem_map.1 hb
    constructor
    case name_ne => exact h.name_ne bb hbb
    case opcode_ne =>
      intro s hs
      obtain ⟨st, hst, rfl⟩ := List.mem_map.1 hs
      exact opcode_ne bb hbb st hst
    case successors =>
      intro name hn
      obtain ⟨d, hd, rfl⟩ := List.mem_map.1 hn
      exact own d (Body.mem_targets_iff.1 hd).1
  case entry =>
    intro name hn
    obtain ⟨bb, entry, rfl⟩ := Option.map_eq_some_iff.1 hn
    exact own bb (Body.mem_of_isEntry entry)
  case exit =>
    intro name hn
    obtain ⟨bb, exit, rfl⟩ := Option.map_eq_some_iff.1 hn
    obtain ⟨uid, -, found⟩ := Option.bind_eq_some_iff.1 exit
    exact own bb (Body.mem_of_block? found)

open scoped Classical in
/-- The blocks of a document depend on outlines and edges by name only. -/
theorem blocks_spec (h : f.body.WellFormed) :
    f.spec.blocks = (f.body.blocks.map Block.outline).map fun o ↦
      ⟨o.1, o.2, (f.body.blocks.map Block.name).filter fun dst ↦ f.body.NamedEdge o.1 dst⟩ := by
  rw [spec, List.map_map]
  refine List.map_congr_left fun bb hbb ↦ ?_
  rw [Body.map_targets_eq_filter h.names_nodup hbb]
  rfl

/-- **The document of a function determines it up to numbers.** -/
theorem spec_eq_iff (hf : f.body.WellFormed) (hg : g.body.WellFormed) :
    f.spec = g.spec ↔ f.Isomorphic g := by
  constructor
  · intro same
    exact isomorphic_of_describes (describes_spec hf) (same ▸ describes_spec hg)
  · intro h
    have edges : f.body.NamedEdge = g.body.NamedEdge :=
      funext fun src ↦ funext fun dst ↦ propext (h.edge src dst)
    have outlines := map_outline_eq_iff.2 h.blocks
    have names : f.body.blocks.map Block.name = g.body.blocks.map Block.name := by
      rw [← map_fst_outline, outlines, map_fst_outline]
    -- The sets of successors may have been filled in another order, which no document shows.
    have blocks : f.spec.blocks = g.spec.blocks := by
      rw [blocks_spec hf, blocks_spec hg, outlines, names, edges]
    rw [FunctionSpec.mk.injEq]
    exact ⟨h.name, h.entry, h.exit, blocks⟩

end Function

/-! ## Documents of bundles -/

namespace Bundle

variable {b c : Bundle}

theorem WellFormed.document (h : b.WellFormed) : b.document.WellFormed where
  names_nodup := by
    rw [Bundle.document, List.map_map]
    exact h.names_nodup
  function spec hs := by
    obtain ⟨f, hf, rfl⟩ := List.mem_map.1 hs
    exact Function.wellFormed_spec (h.name_ne f hf) (h.body f hf) (h.opcode_ne f hf)

/-- **The document of a bundle determines it up to numbers.** -/
theorem document_eq_iff (hb : b.WellFormed) (hc : c.WellFormed) :
    b.document = c.document ↔ b.Isomorphic c := by
  have functions : b.functions.map Function.spec = c.functions.map Function.spec ↔
      List.Forall₂ Function.Isomorphic b.functions c.functions := by
    rw [map_eq_map_iff]
    exact forall₂_congr_of_mem fun f hf g hg ↦ Function.spec_eq_iff (hb.body f hf) (hc.body g hg)
  rw [document, document, Document.mk.injEq, functions]
  exact ⟨fun h ↦ ⟨h.1, h.2⟩, fun h ↦ ⟨h.name, h.functions⟩⟩

end Bundle

/-! ## Made bundles -/

/-- A bundle that is closed to changes, and so are the bodies in it. -/
structure Bundle.Frozen (b : Bundle) : Prop where
  bundle : b.frozen = true
  body : ∀ f ∈ b.functions, f.body.frozen = true

namespace Document

variable {d : Document}

theorem builds_build (h : d.WellFormed) (next : Nat) :
    List.Forall₂ FunctionSpec.Builds d.functions (d.build next).1.functions :=
  FunctionSpec.builds_buildAll h.function (next + 1)

theorem wellFormed_build (h : d.WellFormed) (next : Nat) : (d.build next).1.WellFormed := by
  have names : d.functions.map FunctionSpec.name = (d.build next).1.functions.map Function.name :=
    map_eq_map_iff.2 ((builds_build h next).imp fun _ _ made ↦ made.describes.name.symm)
  constructor
  case names_nodup => exact names ▸ h.names_nodup
  case name_ne =>
    intro f hf
    obtain ⟨spec, hs, made⟩ := exists_of_mem_right (builds_build h next) hf
    rw [made.describes.name]
    exact (h.function spec hs).name_ne
  case body =>
    intro f hf
    obtain ⟨spec, -, made⟩ := exists_of_mem_right (builds_build h next) hf
    exact made.wellFormed
  case opcode_ne =>
    intro f hf
    obtain ⟨spec, -, made⟩ := exists_of_mem_right (builds_build h next) hf
    exact made.opcode_ne

theorem frozen_build (h : d.WellFormed) (next : Nat) : (d.build next).1.Frozen where
  bundle := rfl
  body f hf := by
    obtain ⟨spec, -, made⟩ := exists_of_mem_right (builds_build h next) hf
    exact made.frozen

end Document

/-- What is loaded from the document of a bundle differs from the bundle in its numbers only. -/
theorem Bundle.WellFormed.isomorphic_build {b : Bundle} (h : b.WellFormed) (next : Nat) :
    b.Isomorphic (b.document.build next).1 where
  name := rfl
  functions := by
    have made := Document.builds_build h.document next
    rw [Bundle.document, List.forall₂_map_left_iff] at made
    refine ((List.forall₂_and_left _ _).2 ⟨h.body, made⟩).imp fun f g ⟨hf, made⟩ ↦ ?_
    exact Function.isomorphic_of_describes (Function.describes_spec hf) made.describes

/-! ## There and back -/

/-- **Loading undoes exporting.** What is loaded is accepted by the checks and frozen, whichever
numbers it gets. -/
theorem Bundle.load_toJson {b : Bundle} (hb : b.Reachable) (next : Nat) :
    ∃ d, Document.ofJson b.toJson = .ok d ∧ (d.build next).1.validate = .ok () ∧
      (d.build next).1.Frozen ∧ b.Isomorphic (d.build next).1 ∧
      (d.build next).1.toJson = b.toJson := by
  have wf := hb.wellFormed
  have loaded := Document.wellFormed_build wf.document next
  have iso := wf.isomorphic_build next
  refine ⟨b.document, Document.ofJson_toJson wf.document, loaded.validate_ok,
    Document.frozen_build wf.document next, iso, ?_⟩
  rw [Bundle.toJson, ← (document_eq_iff wf loaded).2 iso]
  rfl

/-- Two functions: one whose second block is the entry, with an edge to itself and one to a later
block, which is the exit; and one without blocks. -/
def loopAndEmpty : Store :=
  .run {} [.startBundle "pair", .buildFunction 1 "f",
    .buildBlock 2 "a" [("inc", ["i", "1"]), ("nop", [])], .buildBlocks 2 ["b", "c"],
    .buildEdges 2 [("b", "c"), ("b", "b"), ("b", "b"), ("a", "b")], .buildEntry 2 "b",
    .buildExit 2 "c", .buildFunction 1 "g"]

theorem Bundle.load_loopAndEmpty : ∃ b, loopAndEmpty.bundle? 1 = some b ∧ b.Reachable ∧
    b.document = ⟨"pair", [
      ⟨"f", some "b", some "c", [⟨"a", [⟨"inc", ["i", "1"]⟩, ⟨"nop", []⟩], ["b"]⟩,
        ⟨"b", [], ["b", "c"]⟩, ⟨"c", [], []⟩]⟩,
      ⟨"g", none, none, []⟩]⟩ ∧
    ∃ d, Document.ofJson b.toJson = .ok d ∧ b.Isomorphic (d.build 1).1 ∧
      (d.build 1).1.toJson = b.toJson := by
  have there : (loopAndEmpty.bundle? 1).isSome := by cbv
  have found := (Option.some_get there).symm
  have reachable : ((loopAndEmpty.bundle? 1).get there).Reachable := ⟨1, _, 1, found⟩
  obtain ⟨d, loaded, -, -, same, again⟩ := load_toJson reachable 1
  refine ⟨_, found, reachable, ?_, d, loaded, same, again⟩
  cbv

end Flowcheck.Ir
