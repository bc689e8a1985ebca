import Flowcheck.Proofs.Ir.Bundles
import Mathlib.Data.List.Pairwise

/-!
# Bundles are trees

A function is listed by a bundle, a body by a function, a block by a body and a statement by a
block, and each of these lists says what is inside. That a bundle with everything in it is a tree is
not said by any one of them: a number could be listed by two owners or twice by one, and two nodes
of different kinds could have the same number. `Node.Tree` says that nothing of the kind happens.

In a well-formed store it does not happen, since every node that is listed records its owner.
-/

namespace Flowcheck.Ir

variable {root n n' p p' c c' x : Node}

/-! ## What is inside a node -/

theorem Kind.depth_inj {k k' : Kind} (h : k.depth = k'.depth) : k = k' := by
  cases k <;> cases k' <;> first | rfl | exact absurd h (by decide)

theorem Kind.depth_le (k : Kind) : k.depth ≤ Kind.statement.depth := by
  cases k <;> decide

/-- What holds of a node if it holds of its children holds of every node. -/
theorem Node.inside_out {P : Node → Prop} (step : ∀ n : Node, (∀ c ∈ n.children, P c) → P n)
    (n : Node) : P n :=
  step n fun c hc ↦
    have := Node.depth_of_mem_children hc
    have := c.kind.depth_le
    inside_out step c
termination_by Kind.statement.depth - n.kind.depth

/-- The second node is the first or inside it, at any depth. -/
def Node.Contains (root n : Node) : Prop :=
  Relation.ReflTransGen (fun p c ↦ c ∈ p.children) root n

namespace Node.Contains

theorem refl (root : Node) : root.Contains root := Relation.ReflTransGen.refl

theorem child (h : root.Contains p) (hc : c ∈ p.children) : root.Contains c := h.tail hc

theorem of_mem_children (hc : c ∈ p.children) : p.Contains c := .single hc

theorem trans (h : root.Contains p) (h' : p.Contains n) : root.Contains n :=
  Relation.ReflTransGen.trans h h'

theorem depth_le (h : root.Contains n) : root.kind.depth ≤ n.kind.depth := by
  induction h with
  | refl => exact Nat.le_refl _
  | tail _ hc ih =>
    have inner := Node.depth_of_mem_children hc
    omega

/-- Nothing inside a node is of its kind. -/
theorem eq_of_depth_le (h : root.Contains n) (le : n.kind.depth ≤ root.kind.depth) : n = root := by
  rcases Relation.ReflTransGen.cases_tail h with rfl | ⟨p, above, hc⟩
  · rfl
  · have outer := depth_le above
    have inner := Node.depth_of_mem_children hc
    omega

end Node.Contains

/-! ## Trees -/

/-- No number and no place is taken twice. -/
structure Node.Tree (root : Node) : Prop where
  unique : ∀ n n', root.Contains n → root.Contains n' → n.uid = n'.uid → n = n'
  parent : ∀ p p' c, root.Contains p → root.Contains p' → c ∈ p.children → c ∈ p'.children → p = p'
  siblings : ∀ p, root.Contains p → (p.children.map Node.uid).Nodup

theorem Node.Tree.of_contains (h : root.Tree) (hn : root.Contains n) : n.Tree where
  unique x x' hx hx' := h.unique x x' (hn.trans hx) (hn.trans hx')
  parent p p' c hp hp' := h.parent p p' c (hn.trans hp) (hn.trans hp')
  siblings p hp := h.siblings p (hn.trans hp)

/-- What is inside one child is not inside another. -/
theorem Node.Tree.eq_of_contains (h : root.Tree) (hn : root.Contains n) (hc : c ∈ n.children)
    (hc' : c' ∈ n.children) (below : c.Contains x) (below' : c'.Contains x) : c = c' := by
  have level : c.kind.depth = c'.kind.depth :=
    (Node.depth_of_mem_children hc).trans (Node.depth_of_mem_children hc').symm
  -- From `x` upwards both ways are the same, level by level, until one of them ends; then the other
  -- one is as long.
  induction below with
  | refl => exact below'.eq_of_depth_le (Nat.le_of_eq level)
  | @tail p x above hx ih =>
    have deeper := Node.depth_of_mem_children hx
    have inner := Node.Contains.depth_le above
    rcases Relation.ReflTransGen.cases_tail below' with rfl | ⟨p', above', hx'⟩
    · omega
    · have hp : root.Contains p := (hn.child hc).trans above
      have hp' : root.Contains p' := (hn.child hc').trans above'
      obtain rfl := h.parent p p' x hp hp' hx hx'
      exact ih above'

/-! ## Nodes of a store -/

namespace Store

variable {s : Store}

/-- The numbers of the nodes of one kind. -/
def keys (s : Store) : Kind → List Nat
  | .bundle => s.bundles.keys
  | .function => s.functions.keys
  | .code => s.bodies.keys
  | .block => s.homes.keys
  | .statement => s.statements.keys

/-- The node of one kind with a number. -/
def nodeOf? (s : Store) (k : Kind) (uid : Nat) : Option Node :=
  match k with
  | .bundle => (s.bundle? uid).map .bundle
  | .function => (s.function? uid).map .function
  | .code => (s.bodies.get? uid).map .code
  | .block => (s.block? uid).map .block
  | .statement => (s.statements.get? uid).map fun e ↦ .statement e.statement

/-- The node is in the store as it is. -/
def Has (s : Store) (n : Node) : Prop := s.nodeOf? n.kind n.uid = some n

theorem has_bundle_iff {b : Bundle} : s.Has (.bundle b) ↔ s.bundle? b.uid = some b := by
  simp [Has, nodeOf?, Node.kind, Node.uid]

theorem has_function_iff {f : Function} : s.Has (.function f) ↔ s.function? f.uid = some f := by
  simp [Has, nodeOf?, Node.kind, Node.uid]

theorem has_code_iff {b : Body} : s.Has (.code b) ↔ s.bodies.get? b.uid = some b := by
  simp [Has, nodeOf?, Node.kind, Node.uid]

theorem has_block_iff {bb : Block} : s.Has (.block bb) ↔ s.block? bb.uid = some bb := by
  simp [Has, nodeOf?, Node.kind, Node.uid]

theorem has_statement_iff {st : Statement} :
    s.Has (.statement st) ↔ ∃ e, s.statements.get? st.uid = some e ∧ e.statement = st := by
  simp [Has, nodeOf?, Node.kind, Node.uid]

theorem mem_keys_of_nodeOf? {k : Kind} {uid : Nat} (found : s.nodeOf? k uid = some n) :
    uid ∈ s.keys k := by
  cases k with
  | bundle =>
    obtain ⟨b, hb, -⟩ := Option.map_eq_some_iff.1 found
    obtain ⟨entry, he, -⟩ := Option.bind_eq_some_iff.1 hb
    exact Assoc.mem_keys_of_get? he
  | function =>
    obtain ⟨f, hf, -⟩ := Option.map_eq_some_iff.1 found
    obtain ⟨-, entry, he, -⟩ := entries_of_function? hf
    exact Assoc.mem_keys_of_get? he
  | code =>
    obtain ⟨b, hb, -⟩ := Option.map_eq_some_iff.1 found
    exact Assoc.mem_keys_of_get? hb
  | block =>
    obtain ⟨bb, hbb, -⟩ := Option.map_eq_some_iff.1 found
    obtain ⟨body, home, -⟩ := Option.bind_eq_some_iff.1 hbb
    exact Assoc.mem_keys_of_get? home
  | statement =>
    obtain ⟨e, he, -⟩ := Option.map_eq_some_iff.1 found
    exact Assoc.mem_keys_of_get? he

namespace WellFormed

variable (h : s.WellFormed)

include h

/-- A number of one kind is not a number of another. -/
theorem notMem_keys {k k' : Kind} {uid : Nat} (hk : uid ∈ s.keys k) (ne : k ≠ k') :
    uid ∉ s.keys k' := by
  have all : s.uids = Kind.all.flatMap s.keys := by
    simp only [uids, Kind.all, keys, List.flatMap_cons, List.flatMap_nil, List.append_nil,
      List.append_assoc]
  have nodup := h.numbered.nodup
  rw [all, List.nodup_flatMap] at nodup
  have symm : Std.Symm (Function.onFun List.Disjoint s.keys) :=
    ⟨fun _ _ apart uid hu hu' ↦ apart hu' hu⟩
  exact nodup.2.forall k.mem_all k'.mem_all ne hk

/-- A node of the store is what is found under its number. -/
theorem node?_of_has (has : s.Has n) : s.node? n.uid = some n := by
  have other (k : Kind) (ne : n.kind ≠ k) : s.nodeOf? k n.uid = none := by
    by_contra found
    obtain ⟨n', found⟩ := Option.ne_none_iff_exists'.1 found
    exact h.notMem_keys (mem_keys_of_nodeOf? has) ne (mem_keys_of_nodeOf? found)
  have found : s.nodeOf? n.kind n.uid = some n := has
  have split : s.node? n.uid = (s.nodeOf? .bundle n.uid <|> s.nodeOf? .function n.uid <|>
      s.nodeOf? .code n.uid <|> s.nodeOf? .block n.uid <|> s.nodeOf? .statement n.uid) := rfl
  rw [split]
  cases kind : n.kind <;> rw [kind] at found other <;> simp [found, other]

/-- **Nodes of a store with the same number are the same.** -/
theorem eq_of_uid (has : s.Has n) (has' : s.Has n') (same : n.uid = n'.uid) : n = n' := by
  have found := h.node?_of_has has
  rw [same, h.node?_of_has has'] at found
  exact (Option.some.inj found).symm

/-- What is in a node of the store is in the store. -/
theorem has_child (has : s.Has p) (hc : c ∈ p.children) : s.Has c := by
  cases p with
  | bundle b =>
    obtain ⟨f, hf, rfl⟩ := List.mem_map.1 hc
    obtain ⟨entry, -, hb⟩ := Option.bind_eq_some_iff.1 (has_bundle_iff.1 has)
    rw [← Option.some.inj hb] at hf
    obtain ⟨uid, -, found⟩ := List.mem_filterMap.1 hf
    obtain ⟨rfl, -⟩ := entries_of_function? found
    exact has_function_iff.2 found
  | function f =>
    obtain rfl := List.mem_singleton.1 hc
    obtain ⟨-, entry, -, -, hb⟩ := entries_of_function? (has_function_iff.1 has)
    rw [has_code_iff, h.uid_eq _ _ hb]
    exact hb
  | code b =>
    obtain ⟨bb, hbb, rfl⟩ := List.mem_map.1 hc
    rw [← blocksOf_eq (has_code_iff.1 has)] at hbb
    exact has_block_iff.2 (h.block?_eq_some_iff.2 ⟨.inl ⟨b.uid, hbb⟩, rfl⟩)
  | block bb =>
    obtain ⟨st, hst, rfl⟩ := List.mem_map.1 hc
    obtain ⟨held, -⟩ := h.block?_eq_some_iff.1 (has_block_iff.1 has)
    exact has_statement_iff.2 ⟨_, h.placed.listed bb held st hst, rfl⟩
  | statement st => cases hc

theorem has_of_contains (has : s.Has root) (below : root.Contains n) : s.Has n := by
  induction below with
  | refl => exact has
  | tail _ hc ih => exact h.has_child ih hc

/-- Below a bundle, whatever lists a node is what the node was added to. -/
theorem owner?_of_mem_children (has : s.Has p) (below : p.kind ≠ .bundle) (hc : c ∈ p.children) :
    s.owner? c.uid = some p.uid := by
  have key := mem_keys_of_nodeOf? (h.has_child has hc)
  have noFunction (ne : c.kind ≠ .function) : s.functions.get? c.uid = none :=
    Assoc.get?_eq_none_iff.2 (h.notMem_keys key ne)
  have noBody (ne : c.kind ≠ .code) : s.bodies.get? c.uid = none :=
    Assoc.get?_eq_none_iff.2 (h.notMem_keys key ne)
  have noBlock (ne : c.kind ≠ .block) : s.homes.get? c.uid = none :=
    Assoc.get?_eq_none_iff.2 (h.notMem_keys key ne)
  cases p with
  | bundle b => exact absurd rfl below
  | function f =>
    obtain rfl := List.mem_singleton.1 hc
    obtain ⟨-, entry, hentry, -, hb⟩ := entries_of_function? (has_function_iff.1 has)
    have owner : s.ownerOf entry.body = some ⟨f.uid, entry.name⟩ := h.owned.body _ _ hentry
    rw [ownerOf_eq hb] at owner
    have found : s.bodies.get? (Node.code f.body).uid = some f.body := by
      rwa [← h.uid_eq _ _ hb] at hb
    rw [owner?, noFunction nofun, found, Option.bind_some, owner]
    rfl
  | code b =>
    obtain ⟨bb, hbb, rfl⟩ := List.mem_map.1 hc
    rw [← blocksOf_eq (has_code_iff.1 has)] at hbb
    have home : s.homes.get? (Node.block bb).uid = some b.uid := h.housed.listed _ bb hbb
    rw [owner?, noFunction nofun, noBody nofun, home]
    rfl
  | block bb =>
    obtain ⟨st, hst, rfl⟩ := List.mem_map.1 hc
    obtain ⟨held, -⟩ := h.block?_eq_some_iff.1 (has_block_iff.1 has)
    have found : s.statements.get? (Node.statement st).uid = some ⟨st, some bb.uid⟩ :=
      h.placed.listed bb held st hst
    rw [owner?, noFunction nofun, noBody nofun, noBlock nofun, found]
    rfl
  | statement st => cases hc

theorem siblings_nodup (has : s.Has p) : (p.children.map Node.uid).Nodup := by
  cases p with
  | bundle b =>
    -- Functions of a bundle are told apart by their names, and what is told apart by anything has
    -- different numbers.
    have names := (h.bundle (has_bundle_iff.1 has)).names_nodup
    rw [List.Nodup, List.pairwise_map] at names
    rw [List.Nodup, Node.children, List.map_map, List.pairwise_map]
    refine names.imp_of_mem fun hf hg ne same ↦ ne ?_
    have hf := h.has_child has (List.mem_map_of_mem hf)
    have hg := h.has_child has (List.mem_map_of_mem hg)
    rw [Node.function.inj (h.eq_of_uid hf hg same)]
  | function f => exact List.nodup_singleton _
  | code b =>
    rw [Node.children, List.map_map]
    exact (h.body _ _ (has_code_iff.1 has)).uids_nodup
  | block bb =>
    obtain ⟨held, -⟩ := h.block?_eq_some_iff.1 (has_block_iff.1 has)
    rw [Node.children, List.map_map]
    exact h.placed.nodup bb held
  | statement st => exact List.nodup_nil

/-- **A bundle is a tree.** -/
theorem tree {uid : Nat} {b : Bundle} (hb : s.bundle? uid = some b) : (Node.bundle b).Tree := by
  have hasRoot : s.Has (.bundle b) := by
    obtain ⟨entry, -, made⟩ := Option.bind_eq_some_iff.1 hb
    have number := congrArg Bundle.uid (Option.some.inj made)
    rw [has_bundle_iff, ← number]
    exact hb
  have has {n : Node} (below : (Node.bundle b).Contains n) : s.Has n :=
    h.has_of_contains hasRoot below
  constructor
  case unique => exact fun n n' below below' same ↦ h.eq_of_uid (has below) (has below') same
  case siblings => exact fun p below ↦ h.siblings_nodup (has below)
  case parent =>
    intro p p' c below below' hc hc'
    have level : p.kind.depth = p'.kind.depth := by
      have inner := Node.depth_of_mem_children hc
      have inner' := Node.depth_of_mem_children hc'
      omega
    by_cases outermost : p.kind = .bundle
    · have le : p.kind.depth ≤ (Node.bundle b).kind.depth := by rw [outermost]; exact Nat.le_refl _
      rw [below.eq_of_depth_le le, below'.eq_of_depth_le (level ▸ le)]
    · have outermost' : p'.kind ≠ .bundle := Kind.depth_inj level ▸ outermost
      have owner := h.owner?_of_mem_children (has below) outermost hc
      have owner' := h.owner?_of_mem_children (has below') outermost' hc'
      exact h.eq_of_uid (has below) (has below') (Option.some.inj (owner.symm.trans owner'))

end WellFormed

end Store

theorem Bundle.Reachable.tree {b : Bundle} (h : b.Reachable) : (Node.bundle b).Tree := by
  obtain ⟨nextUid, ops, uid, hb⟩ := h
  exact ((Store.wellFormed_empty nextUid).run ops).tree hb

end Flowcheck.Ir
