import Flowcheck.Ir.Traversal
import Mathlib.Logic.Basic

/-!
# How deep a walk has to go

A walk may be told how deep to go, and left alone it goes as deep as there are handlers. Neither
matters to what is called. Below the innermost kind with a handler there is nothing to call, so a
walk that stops there is a walk down to the statements; and a walk that stops earlier is a walk of
the same visitor without its handlers for deeper kinds.

Both are equations between programs in an arbitrary lawful monad. Whatever the handlers keep, ask
for or fail with is therefore the same on both sides, call by call.
-/

namespace Flowcheck.Ir

variable {m : Type → Type}

/-! ## Kinds without handlers -/

namespace HandlerTable

variable {t t' : HandlerTable m}

/-- There is no handler for a kind. -/
structure Silent (t : HandlerTable m) (k : Kind) : Prop where
  enter : t.enter k = []
  leave : t.leave k = []

/-- There is no handler for a kind deeper than `depth`. -/
def SilentBelow (t : HandlerTable m) (depth : Nat) : Prop :=
  ∀ k : Kind, depth < k.depth → t.Silent k

theorem SilentBelow.mono {depth depth' : Nat} (h : t.SilentBelow depth) (le : depth ≤ depth') :
    t.SilentBelow depth' :=
  fun k deeper ↦ h k (Nat.lt_of_le_of_lt le deeper)

theorem concerns_eq_false_iff {k : Kind} : t.concerns k = false ↔ t.Silent k := by
  rw [concerns, Bool.or_eq_false_iff, Bool.not_eq_false', Bool.not_eq_false', List.isEmpty_iff,
    List.isEmpty_iff]
  exact ⟨fun h ↦ ⟨h.1, h.2⟩, fun h ↦ ⟨h.enter, h.leave⟩⟩

/-- Kinds are looked through from the inside, so all deeper ones have been passed over. -/
theorem silentBelow_of_deepest? {k : Kind} (h : t.deepest? = some k) : t.SilentBelow k.depth := by
  have inwards : Kind.all.reverse.Pairwise fun k k' ↦ k'.depth < k.depth := by decide
  obtain ⟨-, before, after, split, passed⟩ := List.find?_eq_some_iff_append.1 h
  intro k' deeper
  have listed : k' ∈ before ++ k :: after := split ▸ List.mem_reverse.2 k'.mem_all
  rw [split] at inwards
  rcases List.mem_append.1 listed with hk' | hk'
  · exact concerns_eq_false_iff.1 (by simpa using passed k' hk')
  · rcases List.mem_cons.1 hk' with rfl | hk'
    · exact absurd deeper (Nat.lt_irrefl _)
    · have outer := (List.pairwise_cons.1 (List.pairwise_append.1 inwards).2.1).1 k' hk'
      exact absurd deeper (Nat.lt_asymm outer)

theorem silent_of_deepest? (h : t.deepest? = none) (k : Kind) : t.Silent k := by
  have unconcerned := List.find?_eq_none.1 h k (List.mem_reverse.2 k.mem_all)
  exact concerns_eq_false_iff.1 (by simpa using unconcerned)

/-! ## Lists of visits -/

section Lists

variable {α : Type} {as : List α} {f g : α → m Unit} [Monad m]

theorem forM_congr (h : ∀ a ∈ as, f a = g a) : as.forM f = as.forM g := by
  induction as with
  | nil => rfl
  | cons a as ih =>
    obtain ⟨ha, has⟩ := List.forall_mem_cons.1 h
    show (f a >>= fun _ ↦ as.forM f) = (g a >>= fun _ ↦ as.forM g)
    rw [ha, ih has]

theorem forM_eq_pure [LawfulMonad m] (h : ∀ a ∈ as, f a = pure ()) : as.forM f = pure () := by
  induction as with
  | nil => rfl
  | cons a as ih =>
    obtain ⟨ha, has⟩ := List.forall_mem_cons.1 h
    show (f a >>= fun _ ↦ as.forM f) = pure ()
    rw [ha, pure_bind, ih has]

end Lists

/-! ## Visits -/

variable [Monad m]

theorem runEnter_of_silent {n : Node} (h : t.Silent n.kind) : t.runEnter n = pure .proceed := by
  rw [runEnter, h.enter]
  rfl

theorem runLeave_of_silent {n : Node} (h : t.Silent n.kind) : t.runLeave n = pure () := by
  rw [runLeave, h.leave]
  rfl

variable [LawfulMonad m]

/-- A visit enters the node, goes through what is inside unless it is asked not to, and leaves. -/
theorem visit_succ (t : HandlerTable m) (levels : Nat) (n : Node) :
    t.visit (levels + 1) n = t.runEnter n >>= fun asked ↦
      (if asked = .proceed then n.children.forM (t.visit levels) else pure ()) >>= fun _ ↦
        t.runLeave n := by
  rw [visit]
  refine bind_congr fun asked ↦ ?_
  cases asked with
  | proceed => rfl
  | skip => exact (pure_bind () fun _ ↦ t.runLeave n).symm

/-- Two visits are the same if the handlers of the node are and so are the visits inside it. -/
theorem visit_succ_congr {n : Node} {levels levels' : Nat}
    (enter : t.enter n.kind = t'.enter n.kind) (leave : t.leave n.kind = t'.leave n.kind)
    (inside : ∀ c ∈ n.children, t.visit levels c = t'.visit levels' c) :
    t.visit (levels + 1) n = t'.visit (levels' + 1) n := by
  rw [visit_succ, visit_succ, forM_congr inside, runEnter, runEnter, enter, runLeave, runLeave,
    leave]

/-- A visit that goes inside without anything happening there may as well not go inside. -/
theorem visit_succ_of_pure {n : Node} {levels : Nat}
    (inside : ∀ c ∈ n.children, t.visit levels c = pure ()) :
    t.visit (levels + 1) n = t.visit 0 n := by
  rw [visit_succ, visit, forM_eq_pure inside]
  refine bind_congr fun asked ↦ ?_
  rw [ite_self, pure_bind]

/-- Tables that agree on the kinds within reach make the same visit. -/
theorem visit_congr {levels : Nat} {n : Node}
    (h : ∀ k : Kind, k.depth ≤ n.kind.depth + levels →
      t.enter k = t'.enter k ∧ t.leave k = t'.leave k) :
    t.visit levels n = t'.visit levels n := by
  obtain ⟨enter, leave⟩ := h n.kind (Nat.le_add_right _ _)
  -- One level down the kinds are deeper and fewer levels are left, so no more kinds are in reach.
  induction levels generalizing n with
  | zero => rw [visit, visit, runEnter, runEnter, enter, runLeave, runLeave, leave]
  | succ levels ih =>
    refine visit_succ_congr enter leave fun c hc ↦ ?_
    have inner := Node.depth_of_mem_children hc
    have reach : ∀ k : Kind, k.depth ≤ c.kind.depth + levels →
        t.enter k = t'.enter k ∧ t.leave k = t'.leave k := fun k le ↦ h k (by omega)
    obtain ⟨enter, leave⟩ := reach c.kind (Nat.le_add_right _ _)
    exact ih reach enter leave

/-- Nothing happens at and inside a node if there is no handler for its kind and the deeper ones. -/
theorem visit_of_silent {n : Node} (h : ∀ k : Kind, n.kind.depth ≤ k.depth → t.Silent k)
    (levels : Nat) : t.visit levels n = pure () := by
  induction levels generalizing n with
  | zero =>
    have here := h n.kind (Nat.le_refl _)
    rw [visit, runEnter_of_silent here, runLeave_of_silent here, pure_bind]
  | succ levels ih =>
    have inside : ∀ c ∈ n.children, t.visit levels c = pure () := fun c hc ↦ by
      have inner := Node.depth_of_mem_children hc
      exact ih fun k le ↦ h k (by omega)
    have here := h n.kind (Nat.le_refl _)
    rw [visit_succ_of_pure inside, visit, runEnter_of_silent here, runLeave_of_silent here,
      pure_bind]

/-- Going further down than there are handlers makes no difference. -/
theorem visit_add {levels : Nat} {n : Node} (h : t.SilentBelow (n.kind.depth + levels))
    (more : Nat) : t.visit (levels + more) n = t.visit levels n := by
  induction levels generalizing n with
  | zero =>
    cases more with
    | zero => rfl
    | succ more =>
      rw [Nat.zero_add]
      refine visit_succ_of_pure fun c hc ↦ visit_of_silent (fun k le ↦ h k ?_) more
      have inner := Node.depth_of_mem_children hc
      omega
  | succ levels ih =>
    rw [Nat.succ_add]
    refine visit_succ_congr rfl rfl fun c hc ↦ ih ?_
    have inner := Node.depth_of_mem_children hc
    exact h.mono (by omega)

/-- A walk down to the statements goes no further than there are handlers. -/
theorem walk_statement {depth : Nat} (h : t.SilentBelow depth)
    (le : depth ≤ Kind.statement.depth) (root : Node) :
    t.walk root (some .statement) = t.visit (depth - root.kind.depth) root := by
  have further : Kind.statement.depth - root.kind.depth = (depth - root.kind.depth) +
      (Kind.statement.depth - root.kind.depth - (depth - root.kind.depth)) := by omega
  show t.visit (Kind.statement.depth - root.kind.depth) root = _
  rw [further]
  exact visit_add (h.mono (by omega)) _

/-- **A walk that stops at the innermost kind with a handler is a walk to the end.** -/
theorem walk_none (t : HandlerTable m) (root : Node) :
    t.walk root none = t.walk root (some .statement) := by
  cases deepest : t.deepest? with
  | none =>
    have nothing : t.walk root none = pure () := by rw [walk, deepest]; rfl
    rw [nothing]
    exact (visit_of_silent (fun k _ ↦ silent_of_deepest? deepest k) _).symm
  | some k =>
    have stops : t.walk root none = t.visit (k.depth - root.kind.depth) root := by
      rw [walk, deepest]
      rfl
    have le : k.depth ≤ Kind.statement.depth := by cases k <;> decide
    rw [stops, walk_statement (silentBelow_of_deepest? deepest) le]

end HandlerTable

/-! ## Visitors without their handlers for deeper kinds -/

theorem enterName_inj {k k' : Kind} (h : enterName k = enterName k') : k = k' := by
  cases k <;> cases k' <;> first | rfl | exact absurd h (by decide)

theorem leaveName_inj {k k' : Kind} (h : leaveName k = leaveName k') : k = k' := by
  cases k <;> cases k' <;> first | rfl | exact absurd h (by decide)

theorem enterName_ne_leaveName (k k' : Kind) : enterName k ≠ leaveName k' := by
  cases k <;> cases k' <;> decide

/-- The names of the handlers for kinds deeper than `d`. -/
def deeperNames (d : Kind) : List String :=
  (Kind.all.filter fun k ↦ d.depth < k.depth).flatMap fun k ↦ [enterName k, leaveName k]

theorem mem_deeperNames_iff {d : Kind} {name : String} : name ∈ deeperNames d ↔
    ∃ k : Kind, d.depth < k.depth ∧ (name = enterName k ∨ name = leaveName k) := by
  simp only [deeperNames, List.mem_flatMap, List.mem_filter, Kind.mem_all, true_and,
    decide_eq_true_eq, List.mem_cons, List.not_mem_nil, or_false]

theorem enterName_mem_deeperNames_iff {d k : Kind} :
    enterName k ∈ deeperNames d ↔ d.depth < k.depth := by
  rw [mem_deeperNames_iff]
  constructor
  · rintro ⟨k', deeper, same | same⟩
    · rwa [enterName_inj same]
    · exact absurd same (enterName_ne_leaveName k k')
  · exact fun deeper ↦ ⟨k, deeper, .inl rfl⟩

theorem leaveName_mem_deeperNames_iff {d k : Kind} :
    leaveName k ∈ deeperNames d ↔ d.depth < k.depth := by
  rw [mem_deeperNames_iff]
  constructor
  · rintro ⟨k', deeper, same | same⟩
    · exact absurd same.symm (enterName_ne_leaveName k' k)
    · rwa [leaveName_inj same]
  · exact fun deeper ↦ ⟨k, deeper, .inr rfl⟩

theorem mem_hookNames_of_deeper {d : Kind} {name : String} (h : name ∈ deeperNames d) :
    name ∈ hookNames := by
  obtain ⟨k, -, named⟩ := mem_deeperNames_iff.1 h
  exact mem_hookNames_iff.2 ⟨k, named⟩

/-- Whether the tags of an attribute count. -/
def Attribute.counts (a : Attribute m) : Bool :=
  a.name ∉ hookNames && !"__".toList.isPrefixOf a.name.toList

theorem notMem_hookNames_of_counts {a : Attribute m} (h : a.counts = true) :
    a.name ∉ hookNames :=
  of_decide_eq_true (Bool.and_eq_true_iff.1 h).1

theorem Visitor.tagged_eq (v : Visitor m) : v.tagged =
    (v.attributes.filter Attribute.counts).mergeSort fun a b ↦ decide (a.name ≤ b.name) := rfl

/-- The attribute without its tags for kinds deeper than `d`. -/
def Attribute.upTo (d : Kind) (a : Attribute m) : Attribute m :=
  { a with tags := a.tags.filter fun k ↦ k.depth ≤ d.depth }

namespace Visitor

/-- The visitor without its handlers for kinds deeper than `d`: no attribute is named for such a
kind, and none is tagged with one. -/
def upTo (d : Kind) (v : Visitor m) : Visitor m where
  attributes := (v.attributes.filter fun a ↦ a.name ∉ deeperNames d).map (Attribute.upTo d)

variable {d : Kind} {v : Visitor m}

/-- A name that was taken away leads nowhere, and any other leads where it led before. -/
theorem handler?_upTo (name : String) :
    (v.upTo d).handler? name = if name ∈ deeperNames d then none else v.handler? name := by
  have found : (v.upTo d).attributes.find? (fun a ↦ a.name = name) =
      (v.attributes.find? fun a ↦ a.name ∉ deeperNames d ∧ a.name = name).map
        (Attribute.upTo d) := by
    rw [upTo, List.find?_map, List.find?_filter]
    congr 2
    funext a
    rw [decide_eq_decide]
    exact and_congr decide_eq_true_iff decide_eq_true_iff
  rw [handler?, found]
  split
  · rename_i deeper
    have missing : v.attributes.find? (fun a ↦ a.name ∉ deeperNames d ∧ a.name = name) = none := by
      rw [List.find?_eq_none]
      intro a _ both
      obtain ⟨kept, rfl⟩ := of_decide_eq_true both
      exact kept deeper
    rw [missing]
    rfl
  · rename_i kept
    have same : (fun a : Attribute m ↦ decide (a.name ∉ deeperNames d ∧ a.name = name)) =
        fun a ↦ decide (a.name = name) := by
      funext a
      rw [decide_eq_decide]
      refine and_iff_right_of_imp ?_
      rintro rfl
      exact kept
    rw [same, handler?]
    cases v.attributes.find? fun a ↦ decide (a.name = name) <;> rfl

/-- The tagged attributes stay, in their order, with fewer tags. -/
theorem tagged_upTo (d : Kind) (v : Visitor m) :
    (v.upTo d).tagged = v.tagged.map (Attribute.upTo d) := by
  -- A name that counts is no hook, and only hooks have been taken away.
  have stays (a : Attribute m) : (a.counts && decide (a.name ∉ deeperNames d)) = a.counts := by
    rw [Bool.and_eq_left_iff_imp, decide_eq_true_eq]
    exact fun counts deeper ↦ notMem_hookNames_of_counts counts (mem_hookNames_of_deeper deeper)
  have untagged : (v.attributes.filter fun a ↦ a.name ∉ deeperNames d).filter Attribute.counts =
      v.attributes.filter Attribute.counts := by
    rw [List.filter_filter]
    exact List.filter_congr fun a _ ↦ stays a
  rw [tagged_eq, tagged_eq, upTo, List.filter_map, ← untagged]
  refine (List.map_mergeSort fun a _ b _ ↦ ?_).symm
  rfl

theorem taggedHandlers_upTo (d : Kind) (v : Visitor m) (k : Kind) :
    (v.upTo d).taggedHandlers k = if k.depth ≤ d.depth then v.taggedHandlers k else [] := by
  have tags (a : Attribute m) : (a.upTo d).tags.filter (· = k) =
      if k.depth ≤ d.depth then a.tags.filter (· = k) else [] := by
    rw [Attribute.upTo, List.filter_filter]
    split
    · rename_i le
      refine List.filter_congr fun k' _ ↦ ?_
      by_cases h : k' = k <;> simp [h, le]
    · rename_i deeper
      rw [List.filter_eq_nil_iff]
      intro k' _ both
      obtain ⟨rfl, le⟩ : k' = k ∧ k'.depth ≤ d.depth := by simpa using both
      exact deeper le
  rw [taggedHandlers, tagged_upTo, List.flatMap_map]
  split
  · rename_i le
    rw [taggedHandlers]
    congr 1
    funext a
    rw [tags, if_pos le]
    rfl
  · rename_i deeper
    rw [List.flatMap_eq_nil_iff]
    intro a _
    rw [tags, if_neg deeper]
    rfl

theorem table_upTo (d : Kind) (v : Visitor m) (k : Kind) :
    (v.upTo d).table.enter k = (if k.depth ≤ d.depth then v.table.enter k else []) ∧
      (v.upTo d).table.leave k = if k.depth ≤ d.depth then v.table.leave k else [] := by
  by_cases le : k.depth ≤ d.depth
  · have keepsEnter := enterName_mem_deeperNames_iff.not.2 (Nat.not_lt.2 le)
    have keepsLeave := leaveName_mem_deeperNames_iff.not.2 (Nat.not_lt.2 le)
    simp only [table, handler?_upTo, taggedHandlers_upTo, keepsEnter, keepsLeave, le, ↓reduceIte,
      and_self]
  · have dropsEnter := enterName_mem_deeperNames_iff.2 (Nat.lt_of_not_le le)
    have dropsLeave := leaveName_mem_deeperNames_iff.2 (Nat.lt_of_not_le le)
    simp only [table, handler?_upTo, taggedHandlers_upTo, dropsEnter, dropsLeave, le, ↓reduceIte,
      Option.toList_none, List.append_nil, and_self]

theorem silentBelow_upTo (d : Kind) (v : Visitor m) :
    (v.upTo d).table.SilentBelow d.depth := by
  intro k deeper
  obtain ⟨enter, leave⟩ := table_upTo d v k
  rw [if_neg (Nat.not_le.2 deeper)] at enter leave
  exact ⟨enter, leave⟩

end Visitor

/-! ## Walks of limited depth -/

/-- **Where a walk stops matters only to the handlers below.** Left alone it makes the calls of a
walk to the end, and stopped at some kind those of the visitor without its handlers for deeper
kinds. -/
theorem walk_limit [Monad m] [LawfulMonad m] (root : Node) (v : Visitor m) :
    walk root v none = walk root v (some .statement) ∧
      ∀ d : Kind, root.kind.depth ≤ d.depth →
        walk root v (some d) = walk root (v.upTo d) (some .statement) := by
  refine ⟨v.table.walk_none root, fun d le ↦ ?_⟩
  have inner : d.depth ≤ Kind.statement.depth := by cases d <;> decide
  show v.table.visit (d.depth - root.kind.depth) root = (v.upTo d).table.walk root (some .statement)
  rw [HandlerTable.walk_statement (v.silentBelow_upTo d) inner]
  refine HandlerTable.visit_congr fun k reached ↦ ?_
  have kept : k.depth ≤ d.depth := by omega
  obtain ⟨enter, leave⟩ := v.table_upTo d k
  rw [if_pos kept] at enter leave
  exact ⟨enter.symm, leave.symm⟩

/-! ### A walk that fails half-way -/

/-- Handlers note what they are called for before they answer. -/
def noted (note : String) (answer : ExceptT String (StateM (List String)) Action) :
    Handler (ExceptT String (StateM (List String))) := fun n ↦ do
  modify (· ++ [note ++ " " ++ n.label?.getD ""])
  answer

/-- A visitor that looks at functions and blocks and gives up on leaving a function. -/
def impatient : Visitor (ExceptT String (StateM (List String))) where
  attributes :=
    [{ name := "look", handler? := some (noted "saw" (pure .proceed)),
        tags := [.function, .block] },
      { name := leaveName .function, handler? := some (noted "left" (throw "enough")) }]

/-- A function with a block and one without. -/
def unlinked : Bundle where
  uid := 1
  name := "m"
  functions :=
    [⟨2, "f", { uid := 3, blocks := [⟨4, "a", [⟨5, "nop", []⟩]⟩] }⟩, ⟨6, "g", { uid := 7 }⟩]
  frozen := true

theorem tagged_impatient : impatient.tagged = impatient.attributes.take 1 := by
  have unnamed : "look" ∉ hookNames := by
    rw [mem_hookNames_iff]
    rintro ⟨k, same | same⟩ <;> cases k <;> exact absurd same (by decide)
  have named : leaveName .function ∈ hookNames := mem_hookNames_iff.2 ⟨.function, .inr rfl⟩
  have kept : impatient.attributes.filter Attribute.counts = impatient.attributes.take 1 := by
    rw [impatient, List.filter_cons_of_pos, List.filter_cons_of_neg]
    · rfl
    · exact fun counts ↦ notMem_hookNames_of_counts counts named
    · rw [Attribute.counts, decide_eq_true unnamed]
      rfl
  rw [Visitor.tagged_eq, kept]
  exact List.mergeSort_singleton _

/-- Left alone the walk sees the function and its block and fails on the way out; stopped at the
functions it does not see the block. -/
theorem walk_limit_impatient :
    (walk (.bundle unlinked) impatient none).run.run [] =
        (.error "enough", ["saw f", "saw a", "left f"]) ∧
      Kind.bundle.depth ≤ Kind.function.depth ∧
      (walk (.bundle unlinked) (impatient.upTo .function) (some .statement)).run.run [] =
        (.error "enough", ["saw f", "left f"]) := by
  have le : Kind.bundle.depth ≤ Kind.function.depth := by decide
  obtain ⟨toTheEnd, stopped⟩ := walk_limit (.bundle unlinked) impatient
  refine ⟨?_, le, ?_⟩
  · rw [toTheEnd, walk, Visitor.table]
    simp only [Visitor.taggedHandlers, tagged_impatient]
    rfl
  · rw [← stopped .function le, walk, Visitor.table]
    simp only [Visitor.taggedHandlers, tagged_impatient]
    rfl

end Flowcheck.Ir
