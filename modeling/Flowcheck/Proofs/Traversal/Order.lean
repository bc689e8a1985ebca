import Flowcheck.Ir.Traversal
import Flowcheck.Proofs.Ir.Tree

/-!
# The order of calls

Hooks are known by names here, so that one can say which of them is called and how often. Given what
every call answers, the calls of a walk are known beforehand: those on entering a node, those for
what is inside it unless one of the first asked to skip, and those on leaving it.

In a tree no call comes twice in this sequence, and all calls for a node and for what is inside it
are next to each other. `Nested` says so, and says in terms of the tree alone which nodes the walk
reaches.
-/

namespace Flowcheck.Ir

/-! ## Calls -/

/-- When a hook is called. -/
inductive Moment where
  | enter
  | leave
  deriving DecidableEq, Repr

/-- A hook is called for a node. -/
structure HookCall (ι : Type) where
  moment : Moment
  hook : ι
  node : Node

/-- What tells calls apart; nodes are told apart by their numbers. -/
def HookCall.key {ι : Type} (c : HookCall ι) : Moment × ι × Nat := (c.moment, c.hook, c.node.uid)

/-- The names of the hooks for each kind, in calling order. -/
abbrev Hooks (ι : Type) : Type := Moment → Kind → List ι

namespace Hooks

variable {ι : Type}

/-- No hook is there twice for one kind. It may be there for several kinds, and for leaving as well
as for entering. -/
def Distinct (hooks : Hooks ι) : Prop := ∀ moment kind, (hooks moment kind).Nodup

variable (hooks : Hooks ι) (answer : HookCall ι → Action)

/-- The calls for one node at one moment. -/
def calls (moment : Moment) (n : Node) : List (HookCall ι) :=
  (hooks moment n.kind).map fun hook ↦ ⟨moment, hook, n⟩

/-- Whether a hook asks to skip what is inside a node. -/
def Skips (n : Node) : Prop := ∃ c ∈ hooks.calls .enter n, answer c = .skip

instance (n : Node) : Decidable (hooks.Skips answer n) :=
  inferInstanceAs (Decidable (∃ c ∈ hooks.calls .enter n, answer c = .skip))

/-- The calls for a node and for what is inside it down to `levels` levels below. -/
def script : Nat → Node → List (HookCall ι)
  | 0, n => hooks.calls .enter n ++ hooks.calls .leave n
  | levels + 1, n =>
    hooks.calls .enter n ++
      (if hooks.Skips answer n then [] else n.children.flatMap (script levels)) ++
      hooks.calls .leave n

/-- The calls for a node and for what is inside it down to the kind `limit`. -/
def stretch (limit : Kind) (n : Node) : List (HookCall ι) :=
  hooks.script answer (limit.depth - n.kind.depth) n

/-- The calls for what is inside a node, child by child. -/
def inside (limit : Kind) (n : Node) : List (HookCall ι) :=
  if hooks.Skips answer n ∨ limit.depth ≤ n.kind.depth then []
  else n.children.flatMap (hooks.stretch answer limit)

/-- Whether a walk from `root` down to the kind `limit` gets to a node: no hook asks to skip a node
on the way. -/
structure Reaches (limit : Kind) (root n : Node) : Prop where
  inside : root.Contains n
  shallow : n = root ∨ n.kind.depth ≤ limit.depth
  unskipped : ∀ p, root.Contains p → p.Contains n → p ≠ n → ¬ hooks.Skips answer p

/-- A walk makes its calls once and in nested stretches. -/
structure Nested (limit : Kind) (root : Node) : Prop where
  once : ((hooks.stretch answer limit root).map HookCall.key).Nodup
  /-- The hooks of the nodes that the walk gets to are called, and no others. -/
  mem_iff : ∀ c, c ∈ hooks.stretch answer limit root ↔
    hooks.Reaches answer limit root c.node ∧ c.hook ∈ hooks c.moment c.node.kind
  /-- A stretch is made of the stretches of the children, in their order, between the hooks for
  entering and those for leaving. -/
  stretch_eq : ∀ n, hooks.stretch answer limit n =
    hooks.calls .enter n ++ hooks.inside answer limit n ++ hooks.calls .leave n
  /-- Every node has its stretch, and what is before and after is not for anything inside it. -/
  placed : ∀ n, hooks.Reaches answer limit root n → ∃ before after,
    hooks.stretch answer limit root = before ++ hooks.stretch answer limit n ++ after ∧
      ∀ c ∈ before ++ after, ¬ n.Contains c.node

variable {hooks answer} {limit : Kind} {root n c c' p x : Node} {call call' : HookCall ι}

/-! ## Stretches -/

theorem mem_calls_iff {moment : Moment} : call ∈ hooks.calls moment n ↔
    call.moment = moment ∧ call.node = n ∧ call.hook ∈ hooks moment n.kind := by
  rw [calls, List.mem_map]
  constructor
  · rintro ⟨hook, mem, rfl⟩
    exact ⟨rfl, rfl, mem⟩
  · rintro ⟨rfl, rfl, mem⟩
    exact ⟨call.hook, mem, rfl⟩

theorem stretch_eq (hooks : Hooks ι) (answer : HookCall ι → Action) (limit : Kind) (n : Node) :
    hooks.stretch answer limit n =
      hooks.calls .enter n ++ hooks.inside answer limit n ++ hooks.calls .leave n := by
  rw [stretch, inside]
  rcases h : limit.depth - n.kind.depth with _ | levels
  · have deep : limit.depth ≤ n.kind.depth := by omega
    rw [if_pos (.inr deep), script, List.append_nil]
  · have shallow : ¬ limit.depth ≤ n.kind.depth := by omega
    have inside : n.children.flatMap (hooks.script answer levels) =
        n.children.flatMap (hooks.stretch answer limit) := by
      refine List.flatMap_congr fun c hc ↦ ?_
      have inner := Node.depth_of_mem_children hc
      have fewer : limit.depth - c.kind.depth = levels := by omega
      rw [stretch, fewer]
    rw [script, inside]
    simp only [shallow, or_false]

theorem mem_inside_iff : call ∈ hooks.inside answer limit n ↔
    (¬ hooks.Skips answer n ∧ n.kind.depth < limit.depth) ∧
      ∃ c ∈ n.children, call ∈ hooks.stretch answer limit c := by
  rw [inside]
  split
  · rename_i closed
    refine iff_of_false List.not_mem_nil fun ⟨⟨unskipped, shallow⟩, _⟩ ↦ ?_
    exact closed.elim unskipped (Nat.not_le.2 shallow)
  · rename_i opened
    rw [not_or, Nat.not_le] at opened
    rw [List.mem_flatMap]
    exact (and_iff_right opened).symm

theorem mem_stretch_iff : call ∈ hooks.stretch answer limit n ↔
    call ∈ hooks.calls call.moment n ∨ call ∈ hooks.inside answer limit n := by
  rw [stretch_eq, List.mem_append, List.mem_append, or_right_comm]
  refine or_congr_left ?_
  constructor
  · rintro (enter | leave)
    · rwa [(mem_calls_iff.1 enter).1]
    · rwa [(mem_calls_iff.1 leave).1]
  · cases call.moment with
    | enter => exact .inl
    | leave => exact .inr

/-- All calls of a stretch are for the node or for something inside it. -/
theorem contains_of_mem (h : call ∈ hooks.stretch answer limit n) : n.Contains call.node := by
  induction n using Node.inside_out with
  | step n ih =>
    rcases mem_stretch_iff.1 h with own | inner
    · rw [(mem_calls_iff.1 own).2.1]
      exact .refl n
    · obtain ⟨-, c, hc, inner⟩ := mem_inside_iff.1 inner
      exact (Node.Contains.of_mem_children hc).trans (ih c hc inner)

/-! ### No call twice -/

theorem uid_eq_of_key (h : call.key = call'.key) : call.node.uid = call'.node.uid :=
  congrArg (fun key ↦ key.2.2) h

theorem pairwise_calls (distinct : hooks.Distinct) (moment : Moment) (n : Node) :
    (hooks.calls moment n).Pairwise fun c c' ↦ c.key ≠ c'.key := by
  rw [calls, List.pairwise_map]
  exact (distinct moment n.kind).imp fun ne same ↦ ne (congrArg (fun key ↦ key.2.1) same)

section Tree

variable (tree : root.Tree)

include tree

theorem key_ne_of_mem_inside {moment : Moment} (hn : root.Contains n)
    (own : call ∈ hooks.calls moment n) (inner : call' ∈ hooks.inside answer limit n) :
    call.key ≠ call'.key := by
  intro same
  obtain ⟨-, c, hc, inner⟩ := mem_inside_iff.1 inner
  have below := contains_of_mem inner
  have uid := uid_eq_of_key same
  rw [(mem_calls_iff.1 own).2.1] at uid
  have node := tree.unique n call'.node hn ((hn.child hc).trans below) uid
  have deeper := Node.depth_of_mem_children hc
  have outer := below.depth_le
  rw [← node] at outer
  omega

theorem key_ne_of_siblings (hn : root.Contains n) (hc : c ∈ n.children) (hc' : c' ∈ n.children)
    (ne : c.uid ≠ c'.uid) (h : call ∈ hooks.stretch answer limit c)
    (h' : call' ∈ hooks.stretch answer limit c') : call.key ≠ call'.key := by
  intro same
  have below := contains_of_mem h
  have below' := contains_of_mem h'
  have node := tree.unique call.node call'.node ((hn.child hc).trans below)
    ((hn.child hc').trans below') (uid_eq_of_key same)
  rw [← node] at below'
  exact ne (congrArg Node.uid (tree.eq_of_contains hn hc hc' below below'))

/-- **No call comes twice.** -/
theorem nodup_stretch (distinct : hooks.Distinct) (hn : root.Contains n) :
    ((hooks.stretch answer limit n).map HookCall.key).Nodup := by
  rw [List.Nodup, List.pairwise_map]
  induction n using Node.inside_out with
  | step n ih =>
    have inside : (hooks.inside answer limit n).Pairwise fun c c' ↦ c.key ≠ c'.key := by
      rw [Hooks.inside]
      split
      · exact .nil
      · rw [List.pairwise_flatMap]
        refine ⟨fun c hc ↦ ih c hc (hn.child hc), ?_⟩
        have siblings := tree.siblings n hn
        rw [List.Nodup, List.pairwise_map] at siblings
        exact siblings.imp_of_mem fun hc hc' ne call h call' h' ↦
          key_ne_of_siblings tree hn hc hc' ne h h'
    rw [stretch_eq, List.pairwise_append, List.pairwise_append]
    refine ⟨⟨pairwise_calls distinct .enter n, inside, fun call own call' inner ↦ ?_⟩,
      pairwise_calls distinct .leave n, fun call h call' own ↦ ?_⟩
    · exact key_ne_of_mem_inside tree hn own inner
    · rcases List.mem_append.1 h with enter | inner
      · have moments : call.moment ≠ call'.moment := by
          rw [(mem_calls_iff.1 enter).1, (mem_calls_iff.1 own).1]
          decide
        exact fun same ↦ moments (congrArg Prod.fst same)
      · exact (key_ne_of_mem_inside tree hn own inner).symm

end Tree

/-! ### Which nodes are reached -/

theorem reaches_root (hooks : Hooks ι) (answer : HookCall ι → Action) (limit : Kind) (root : Node) :
    hooks.Reaches answer limit root root where
  inside := .refl root
  shallow := .inl rfl
  unskipped _ below above ne := absurd (below.eq_of_depth_le above.depth_le) ne

namespace Reaches

/-- The walk gets to a node by way of everything that the node is inside of. -/
theorem of_contains (h : hooks.Reaches answer limit root x) (hn : root.Contains n)
    (below : n.Contains x) : hooks.Reaches answer limit root n where
  inside := hn
  shallow := by
    rcases h.shallow with rfl | shallow
    · exact .inl (hn.eq_of_depth_le below.depth_le)
    · exact .inr (Nat.le_trans below.depth_le shallow)
  unskipped p hp above ne := by
    refine h.unskipped p hp (above.trans below) ?_
    rintro rfl
    exact ne (below.eq_of_depth_le above.depth_le)

/-- What lets a walk get from a node to its children. -/
theorem opened (h : hooks.Reaches answer limit root c) (hp : root.Contains p)
    (hc : c ∈ p.children) : ¬ hooks.Skips answer p ∧ p.kind.depth < limit.depth := by
  have deeper := Node.depth_of_mem_children hc
  have outer := hp.depth_le
  constructor
  · refine h.unskipped p hp (.of_mem_children hc) ?_
    rintro rfl
    omega
  · rcases h.shallow with rfl | shallow
    · omega
    · omega

theorem child (h : hooks.Reaches answer limit root p) (tree : root.Tree) (hc : c ∈ p.children)
    (unskipped : ¬ hooks.Skips answer p) (shallow : p.kind.depth < limit.depth) :
    hooks.Reaches answer limit root c where
  inside := h.inside.child hc
  shallow := by
    have deeper := Node.depth_of_mem_children hc
    exact .inr (by omega)
  unskipped q hq above ne := by
    -- In a tree every way to the child leads through its parent.
    rcases Relation.ReflTransGen.cases_tail above with rfl | ⟨p', above, hc'⟩
    · exact absurd rfl ne
    · obtain rfl := tree.parent p p' c h.inside (hq.trans above) hc hc'
      by_cases same : q = p
      · rwa [same]
      · exact h.unskipped q hq above same

end Reaches

theorem mem_of_reaches (h : hooks.Reaches answer limit root call.node)
    (mem : call.hook ∈ hooks call.moment call.node.kind) (hn : root.Contains n)
    (below : n.Contains call.node) : call ∈ hooks.stretch answer limit n := by
  -- The induction goes outwards from the node that the call is for.
  induction below using Relation.ReflTransGen.head_induction_on with
  | refl => exact mem_stretch_iff.2 (.inl (mem_calls_iff.2 ⟨rfl, rfl, mem⟩))
  | @head n c hc below ih =>
    have reached := h.of_contains (hn.child hc) below
    have inner := mem_inside_iff.2 ⟨reached.opened hn hc, c, hc, ih (hn.child hc)⟩
    exact mem_stretch_iff.2 (.inr inner)

section Tree

variable (tree : root.Tree)

include tree

theorem reaches_of_mem (hn : hooks.Reaches answer limit root n)
    (h : call ∈ hooks.stretch answer limit n) :
    hooks.Reaches answer limit root call.node ∧ call.hook ∈ hooks call.moment call.node.kind := by
  induction n using Node.inside_out with
  | step n ih =>
    rcases mem_stretch_iff.1 h with own | inner
    · obtain ⟨-, node, mem⟩ := mem_calls_iff.1 own
      rw [node]
      exact ⟨hn, mem⟩
    · obtain ⟨⟨unskipped, shallow⟩, c, hc, inner⟩ := mem_inside_iff.1 inner
      exact ih c hc (hn.child tree hc unskipped shallow) inner

/-! ### Where stretches are -/

/-- The stretch of a child is part of the stretch of its parent. -/
theorem exists_stretch_child (hc : hooks.Reaches answer limit root c) (hp : root.Contains p)
    (mem : c ∈ p.children) : ∃ before after,
      hooks.stretch answer limit p = before ++ hooks.stretch answer limit c ++ after ∧
        ∀ call ∈ before ++ after, ¬ c.Contains call.node := by
  obtain ⟨earlier, later, split⟩ := List.append_of_mem mem
  obtain ⟨unskipped, shallow⟩ := hc.opened hp mem
  have goesInside : ¬ (hooks.Skips answer p ∨ limit.depth ≤ p.kind.depth) :=
    not_or.2 ⟨unskipped, Nat.not_le.2 shallow⟩
  have once : c ∉ earlier ++ later := by
    have siblings : p.children.Nodup := (tree.siblings p hp).of_map
    rw [split, List.nodup_middle] at siblings
    exact (List.nodup_cons.1 siblings).1
  have own {call : HookCall ι} {moment : Moment} (h : call ∈ hooks.calls moment p) :
      ¬ c.Contains call.node := by
    rw [(mem_calls_iff.1 h).2.1]
    intro below
    have deeper := Node.depth_of_mem_children mem
    have outer := below.depth_le
    omega
  have other {call : HookCall ι} {c' : Node} (hc' : c' ∈ earlier ++ later)
      (h : call ∈ hooks.stretch answer limit c') : ¬ c.Contains call.node := by
    intro below
    have listed : c' ∈ p.children := split ▸ List.perm_middle.symm.subset (.tail c hc')
    rw [tree.eq_of_contains hp mem listed below (contains_of_mem h)] at once
    exact once hc'
  refine ⟨hooks.calls .enter p ++ earlier.flatMap (hooks.stretch answer limit),
    later.flatMap (hooks.stretch answer limit) ++ hooks.calls .leave p, ?_, fun call h ↦ ?_⟩
  · rw [stretch_eq, inside, if_neg goesInside, split, List.flatMap_append, List.flatMap_cons]
    simp only [List.append_assoc]
  · rcases List.mem_append.1 h with h | h
    · rcases List.mem_append.1 h with h | h
      · exact own h
      · obtain ⟨c', hc', h⟩ := List.mem_flatMap.1 h
        exact other (List.mem_append_left later hc') h
    · rcases List.mem_append.1 h with h | h
      · obtain ⟨c', hc', h⟩ := List.mem_flatMap.1 h
        exact other (List.mem_append_right earlier hc') h
      · exact own h

theorem exists_stretch (h : hooks.Reaches answer limit root n) : ∃ before after,
    hooks.stretch answer limit root = before ++ hooks.stretch answer limit n ++ after ∧
      ∀ call ∈ before ++ after, ¬ n.Contains call.node := by
  have inside := h.inside
  induction inside with
  | refl => exact ⟨[], [], by simp, by simp⟩
  | @tail p c hp hc ih =>
    obtain ⟨before, after, split, apart⟩ := ih (h.of_contains hp (.of_mem_children hc))
    obtain ⟨before', after', split', apart'⟩ := exists_stretch_child tree h hp hc
    refine ⟨before ++ before', after' ++ after, ?_, fun call mem ↦ ?_⟩
    · rw [split, split']
      simp only [List.append_assoc]
    · have outsideOrBeside : call ∈ before ++ after ∨ call ∈ before' ++ after' := by
        simp only [List.mem_append] at mem ⊢
        grind
      rcases outsideOrBeside with outside | beside
      · exact fun below ↦ apart call outside ((Node.Contains.of_mem_children hc).trans below)
      · exact apart' call beside

end Tree

/-- **The calls of a walk are nested.** -/
theorem nested (tree : root.Tree) (distinct : hooks.Distinct) (answer : HookCall ι → Action)
    (limit : Kind) : hooks.Nested answer limit root where
  once := nodup_stretch tree distinct (.refl root)
  mem_iff c := by
    refine ⟨reaches_of_mem tree (reaches_root hooks answer limit root), fun ⟨h, mem⟩ ↦ ?_⟩
    exact mem_of_reaches h mem (.refl root) h.inside
  stretch_eq := stretch_eq hooks answer limit
  placed n h := exists_stretch tree h

end Hooks

end Flowcheck.Ir
