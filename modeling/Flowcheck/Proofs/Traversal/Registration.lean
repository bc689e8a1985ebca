import Flowcheck.Proofs.Traversal.Coverage

/-!
# What a visitor is called for

A visitor says by the names and the tags of its attributes what it is to be called for, and its
table is made of the handlers of these attributes. Here the entries of the table are known by the
names of their attributes: `Visitor.hooks` lists them, so that it can be said which attribute is
there, for which kind, and how often.

Two sorts of names are special. A name with a meaning of its own stands for that meaning and no
more, and a name that begins with two underscores is not looked at; tags of neither count. Of an
attribute that lists a kind more than once it is only said that it is there.
-/

namespace Flowcheck.Ir

variable {σ ε α β : Type} {m : Type → Type}

/-! ## Attributes by name -/

/-- An attribute is to be called at a moment for a kind: it has the name of the hook for that, or it
is tagged with the kind under a name that is not special. -/
def Attribute.Serves (a : Attribute m) (moment : Moment) (k : Kind) : Prop :=
  a.handler?.isSome = true ∧
    match moment with
    | .enter => a.name = enterName k ∨ a.counts = true ∧ k ∈ a.tags
    | .leave => a.name = leaveName k

theorem Attribute.counts_iff {a : Attribute m} : a.counts = true ↔
    (∀ k, a.name ≠ enterName k ∧ a.name ≠ leaveName k) ∧
      "__".toList.isPrefixOf a.name.toList = false := by
  rw [counts, Bool.and_eq_true, decide_eq_true_eq, Bool.not_eq_true', mem_hookNames_iff]
  simp only [not_exists, not_or, ne_eq]

namespace Visitor

/-- No two attributes have the same name. -/
def Distinct (v : Visitor m) : Prop := (v.attributes.map Attribute.name).Nodup

variable {v : Visitor m} {a : Attribute m} {k : Kind} {name : String}

theorem handler?_of_mem (distinct : v.Distinct) (ha : a ∈ v.attributes) :
    v.handler? a.name = a.handler? := by
  have found : v.attributes.find? (fun b ↦ b.name = a.name) = some a := by
    obtain ⟨before, after, split⟩ := List.append_of_mem ha
    rw [Distinct, split, List.map_append, List.map_cons, List.nodup_middle,
      List.nodup_cons] at distinct
    have passed : ∀ b ∈ before, b.name ≠ a.name := fun b hb same ↦
      distinct.1 (List.mem_append_left _ (same ▸ List.mem_map_of_mem hb))
    rw [split, List.find?_append, List.find?_eq_none.2 (by simpa using passed), Option.none_or,
      List.find?_cons_of_pos (by simp)]
  rw [handler?, found]
  rfl

theorem isSome_handler?_iff (distinct : v.Distinct) : (v.handler? name).isSome = true ↔
    ∃ a ∈ v.attributes, a.name = name ∧ a.handler?.isSome = true := by
  constructor
  · intro callable
    obtain ⟨h, found⟩ := Option.isSome_iff_exists.1 callable
    obtain ⟨a, first, own⟩ := Option.bind_eq_some_iff.1 found
    have named : a.name = name := by simpa using List.find?_some first
    exact ⟨a, List.mem_of_find?_eq_some first, named, own ▸ rfl⟩
  · rintro ⟨a, ha, rfl, callable⟩
    rwa [handler?_of_mem distinct ha]

theorem mem_tagged_iff : a ∈ v.tagged ↔ a ∈ v.attributes ∧ a.counts = true := by
  rw [tagged_eq, List.mem_mergeSort, List.mem_filter]

/-- The names in a table before it is known which of them have a handler. -/
def names (v : Visitor m) : Hooks String
  | .enter, k => enterName k :: v.tagged.flatMap fun a ↦ List.replicate (a.tags.count k) a.name
  | .leave, k => [leaveName k]

/-- The names of the attributes whose handlers a table has, in its order. -/
def hooks (v : Visitor m) : Hooks String := fun moment k ↦
  (v.names moment k).filter fun name ↦ (v.handler? name).isSome

theorem mem_names_tagged_iff :
    (name ∈ v.tagged.flatMap fun a ↦ List.replicate (a.tags.count k) a.name) ↔
      ∃ a ∈ v.attributes, a.name = name ∧ a.counts = true ∧ k ∈ a.tags := by
  simp only [List.mem_flatMap, mem_tagged_iff, List.mem_replicate, ne_eq, List.count_eq_zero,
    not_not]
  constructor
  · rintro ⟨a, ⟨ha, counts⟩, listed, rfl⟩
    exact ⟨a, ha, rfl, counts, listed⟩
  · rintro ⟨a, ha, rfl, counts, listed⟩
    exact ⟨a, ⟨ha, counts⟩, listed, rfl⟩

/-- **The attributes that serve are in the table, and no others.** -/
theorem mem_hooks_iff (distinct : v.Distinct) {moment : Moment} : name ∈ v.hooks moment k ↔
    ∃ a ∈ v.attributes, a.name = name ∧ a.Serves moment k := by
  have same {a b : Attribute m} (ha : a ∈ v.attributes) (hb : b ∈ v.attributes)
      (h : a.name = b.name) : a = b := List.inj_on_of_nodup_map distinct ha hb h
  rw [hooks, List.mem_filter, isSome_handler?_iff distinct]
  rcases moment with _ | _
  · rw [names, List.mem_cons, mem_names_tagged_iff]
    constructor
    · rintro ⟨named | ⟨a, ha, rfl, tagged⟩, b, hb, hname, callable⟩
      · exact ⟨b, hb, hname, callable, .inl (hname.trans named)⟩
      · exact ⟨a, ha, rfl, same hb ha hname ▸ callable, .inr tagged⟩
    · rintro ⟨a, ha, rfl, callable, named | tagged⟩
      · exact ⟨.inl named, a, ha, rfl, callable⟩
      · exact ⟨.inr ⟨a, ha, rfl, tagged⟩, a, ha, rfl, callable⟩
  · rw [names, List.mem_singleton]
    constructor
    · rintro ⟨rfl, a, ha, named, callable⟩
      exact ⟨a, ha, named, callable, named⟩
    · rintro ⟨a, ha, rfl, callable, named⟩
      exact ⟨named, a, ha, rfl, callable⟩

/-! ### How often a name is there -/

theorem count_replicates {as : List (Attribute m)} (distinct : (as.map Attribute.name).Nodup)
    (ha : a ∈ as) (times : Attribute m → Nat) :
    (as.flatMap fun b ↦ List.replicate (times b) b.name).count a.name = times a := by
  obtain ⟨before, after, split⟩ := List.append_of_mem ha
  rw [split, List.map_append, List.map_cons, List.nodup_middle, List.nodup_cons] at distinct
  have others (bs : List (Attribute m)) (sub : ∀ b ∈ bs, b ∈ before ++ after) :
      (bs.flatMap fun b ↦ List.replicate (times b) b.name).count a.name = 0 := by
    rw [List.count_eq_zero, List.mem_flatMap]
    rintro ⟨b, hb, mem⟩
    rw [(List.mem_replicate.1 mem).2, ← List.map_append] at distinct
    exact distinct.1 (List.mem_map_of_mem (sub b hb))
  rw [split, List.flatMap_append, List.flatMap_cons, List.count_append, List.count_append,
    others before fun b ↦ List.mem_append_left _, others after fun b ↦ List.mem_append_right _,
    List.count_replicate_self, Nat.zero_add, Nat.add_zero]

theorem count_names_enter (distinct : v.Distinct) (ha : a ∈ v.attributes) (k : Kind) :
    (v.names .enter k).count a.name =
      (if a.name = enterName k then 1 else 0) + if a.counts = true then a.tags.count k else 0 := by
  have tagged : (v.tagged.flatMap fun b ↦ List.replicate (b.tags.count k) b.name).count a.name =
      if a.counts = true then a.tags.count k else 0 := by
    split
    · rename_i counts
      have distinctTagged : (v.tagged.map Attribute.name).Nodup := by
        rw [tagged_eq, ((List.mergeSort_perm _ _).map _).nodup_iff]
        exact distinct.sublist (List.filter_sublist.map _)
      exact count_replicates distinctTagged (mem_tagged_iff.2 ⟨ha, counts⟩) fun b ↦ b.tags.count k
    · rename_i special
      rw [List.count_eq_zero, mem_names_tagged_iff]
      rintro ⟨b, hb, same, counts, -⟩
      rw [List.inj_on_of_nodup_map distinct hb ha same] at counts
      exact special counts
  rw [names, List.count_cons, tagged, Nat.add_comm]
  simp only [beq_iff_eq, eq_comm (a := enterName k)]

/-- **An attribute is in the table once for each kind that it serves**, if it does not list the kind
again in a tag. -/
theorem count_hooks_le (distinct : v.Distinct) (ha : a ∈ v.attributes)
    (once : a.counts = true → a.tags.count k ≤ 1) (moment : Moment) :
    (v.hooks moment k).count a.name ≤ 1 := by
  apply le_trans (List.filter_sublist.count_le a.name)
  rcases moment with _ | _
  · rw [count_names_enter distinct ha]
    by_cases counts : a.counts = true
    · have noHook : a.name ≠ enterName k := fun named ↦
        notMem_hookNames_of_counts counts (mem_hookNames_iff.2 ⟨k, .inl named⟩)
      rw [if_neg noHook, if_pos counts, Nat.zero_add]
      exact once counts
    · rw [if_neg counts]
      split <;> omega
  · exact List.count_le_length.trans (by simp [names])

/-! ### The handlers of the table -/

/-- The same handlers come from the names that lead to one and from the names that have one. -/
theorem filterMap_eq_map_filter {f : α → Option β} {g : α → β}
    (h : ∀ x y, f x = some y → g x = y) (xs : List α) :
    xs.filterMap f = (xs.filter fun x ↦ (f x).isSome).map g := by
  induction xs with
  | nil => rfl
  | cons x xs ih =>
    rcases found : f x with _ | y
    · rw [List.filterMap_cons_none found, List.filter_cons_of_neg (by simp [found]), ih]
    · rw [List.filterMap_cons_some found, List.filter_cons_of_pos (by simp [found]), List.map_cons,
        h x y found, ih]

/-- What an attribute adds to the handlers of a kind, as often as it lists the kind. -/
theorem flatMap_toList_tags (distinct : v.Distinct) (ha : a ∈ v.attributes) (k : Kind) :
    ((a.tags.filter (· = k)).flatMap fun _ ↦ a.handler?.toList) =
      (List.replicate (a.tags.count k) a.name).filterMap v.handler? := by
  rw [List.filter_eq, List.filterMap_eq_flatMap_toList, List.flatMap_replicate,
    List.flatMap_replicate, handler?_of_mem distinct ha]

theorem handlers_eq_filterMap (distinct : v.Distinct) (moment : Moment) (k : Kind) :
    v.table.handlers moment k = (v.names moment k).filterMap v.handler? := by
  rcases moment with _ | _
  · have tagged : v.taggedHandlers k = (v.tagged.flatMap fun a ↦
        List.replicate (a.tags.count k) a.name).filterMap v.handler? := by
      rw [List.filterMap_flatMap, taggedHandlers]
      apply List.flatMap_congr
      intro a ha
      exact flatMap_toList_tags distinct (mem_tagged_iff.1 ha).1 k
    show (v.handler? (enterName k)).toList ++ v.taggedHandlers k = _
    rw [tagged, names, List.filterMap_cons]
    rcases v.handler? (enterName k) with _ | h <;> rfl
  · show (v.handler? (leaveName k)).toList = _
    rw [names, List.filterMap_cons]
    rcases v.handler? (leaveName k) with _ | h <;> rfl

/-- **The table has the handlers of its names.** -/
theorem map_some_handlers (distinct : v.Distinct) (moment : Moment) (k : Kind) :
    (v.table.handlers moment k).map some = (v.hooks moment k).map v.handler? := by
  rw [handlers_eq_filterMap distinct, List.map_filterMap]
  have callable : ∀ name, ((v.handler? name).map some).isSome = (v.handler? name).isSome :=
    fun name ↦ Option.isSome_map
  rw [filterMap_eq_map_filter (f := fun name ↦ (v.handler? name).map some) (g := v.handler?), hooks]
  · simp only [callable]
  · intro name h? found
    obtain ⟨h, own, rfl⟩ := Option.map_eq_some_iff.1 found
    exact own

/-- Calls the handler that a name stands for. -/
def act [Monad m] (v : Visitor m) (c : HookCall String) : m Action :=
  ((v.handler? c.hook).map fun h ↦ h c.node).getD (pure .proceed)

theorem act_of_handler? [Monad m] {moment : Moment} {h : Handler m}
    (found : v.handler? name = some h) (n : Node) : v.act ⟨moment, name, n⟩ = h n := by
  rw [act, found]
  rfl

/-- **The table of a visitor is the table of its hooks.** -/
theorem table_hooks [Monad m] (distinct : v.Distinct) : v.hooks.table v.act = v.table := by
  have handlers (moment : Moment) (k : Kind) :
      ((v.hooks moment k).map fun name n ↦ v.act ⟨moment, name, n⟩) =
        v.table.handlers moment k := by
    rw [handlers_eq_filterMap distinct]
    symm
    apply filterMap_eq_map_filter
    intro name h found
    funext n
    exact act_of_handler? found n
  exact congrArg₂ HandlerTable.mk (funext (handlers .enter)) (funext (handlers .leave))

end Visitor

/-! ## Visitors that write down their calls -/

theorem observed_congr {ι : Type} {act act' : HookCall ι → ExceptT ε (StateM σ) Action}
    {c : HookCall ι} (h : act c = act' c) : observed act c = observed act' c := by
  simp only [observed, h]

/-- When the attribute of a name is called. -/
def momentOf (name : String) : Moment :=
  if name ∈ Kind.all.map leaveName then .leave else .enter

/-- The attribute with a handler that writes down its calls. -/
def Attribute.observed (a : Attribute (ExceptT ε (StateM σ))) :
    Attribute (ExceptT ε (StateM (σ × List (HookEvent String ε)))) where
  name := a.name
  handler? := a.handler?.map fun h n ↦
    Ir.observed (fun c ↦ h c.node) ⟨momentOf a.name, a.name, n⟩
  tags := a.tags

namespace Visitor

/-- The visitor with handlers that write down their calls. -/
def observed (v : Visitor (ExceptT ε (StateM σ))) :
    Visitor (ExceptT ε (StateM (σ × List (HookEvent String ε)))) where
  attributes := v.attributes.map Attribute.observed

variable {v : Visitor (ExceptT ε (StateM σ))} {k : Kind} {name : String}

theorem Distinct.observed (distinct : v.Distinct) : v.observed.Distinct := by
  rw [Distinct, Visitor.observed, List.map_map]
  exact distinct

theorem handler?_observed (name : String) : v.observed.handler? name =
    (v.handler? name).map fun h n ↦
      Ir.observed (fun c ↦ h c.node) ⟨momentOf name, name, n⟩ := by
  have found : v.observed.attributes.find? (fun a ↦ a.name = name) =
      (v.attributes.find? fun a ↦ a.name = name).map Attribute.observed := by
    rw [Visitor.observed, List.find?_map]
    rfl
  rw [handler?, found, handler?]
  rcases first : v.attributes.find? fun a ↦ a.name = name with _ | a
  · rw [first]
    rfl
  · obtain rfl : a.name = name := by simpa using List.find?_some first
    rw [first]
    rfl

theorem tagged_observed : v.observed.tagged = v.tagged.map Attribute.observed := by
  rw [tagged_eq, tagged_eq, Visitor.observed, List.filter_map]
  refine (List.map_mergeSort fun a _ b _ ↦ ?_).symm
  rfl

theorem hooks_observed : v.observed.hooks = v.hooks := by
  have names : v.observed.names = v.names := by
    funext moment k
    rcases moment with _ | _
    · rw [Visitor.names, tagged_observed, List.flatMap_map]
      rfl
    · rfl
  funext moment k
  simp only [hooks, names, handler?_observed, Option.isSome_map]

/-- A name in the table is there for the moment that it stands for. -/
theorem momentOf_of_mem_hooks (distinct : v.Distinct) {moment : Moment}
    (mem : name ∈ v.hooks moment k) : momentOf name = moment := by
  have isLeave : name ∈ Kind.all.map leaveName ↔ ∃ k, leaveName k = name := by
    simp only [List.mem_map, Kind.mem_all, true_and]
  obtain ⟨a, -, rfl, -, serves⟩ := (mem_hooks_iff distinct).1 mem
  rcases moment with _ | _
  · rw [momentOf, if_neg]
    rw [isLeave]
    rintro ⟨k', named⟩
    rcases serves with named' | ⟨counts, -⟩
    · exact enterName_ne_leaveName k k' (named'.symm.trans named.symm)
    · exact notMem_hookNames_of_counts counts (mem_hookNames_iff.2 ⟨k', .inr named.symm⟩)
  · rw [momentOf, if_pos]
    exact isLeave.2 ⟨k, serves.symm⟩

/-- **The handlers that write down their calls are the observed hooks.** -/
theorem table_observed (distinct : v.Distinct) :
    v.hooks.table (Ir.observed v.act) = v.observed.table := by
  rw [← table_hooks distinct.observed, hooks_observed]
  have same (moment : Moment) (k : Kind) :
      ((v.hooks moment k).map fun name n ↦ Ir.observed v.act ⟨moment, name, n⟩) =
        (v.hooks moment k).map fun name n ↦ v.observed.act ⟨moment, name, n⟩ := by
    apply List.map_congr_left
    intro name mem
    funext n
    obtain ⟨h, found⟩ := Option.isSome_iff_exists.1 (List.mem_filter.1 mem).2
    have foundToo := (handler?_observed (v := v) name).trans (congrArg _ found)
    rw [act_of_handler? foundToo, momentOf_of_mem_hooks distinct mem]
    exact observed_congr (act_of_handler? found n)
  exact congrArg₂ HandlerTable.mk (funext (same .enter)) (funext (same .leave))

end Visitor

/-! ## Tables and walks -/

/-- The table of a visitor has its handlers under the names of their attributes. -/
structure Visitor.Registers (v : Visitor m) : Prop where
  /-- The entries of the table are the handlers of these names, in this order. -/
  handlers : ∀ moment k, (v.table.handlers moment k).map some = (v.hooks moment k).map v.handler?
  /-- The names are those of the attributes that serve; none is left out, nothing else is there. -/
  mem_iff : ∀ moment k name,
    name ∈ v.hooks moment k ↔ ∃ a ∈ v.attributes, a.name = name ∧ a.Serves moment k
  /-- An attribute is there once, unless its tags count and list the kind again. -/
  once : ∀ moment k, ∀ a ∈ v.attributes, (a.counts = true → a.tags.count k ≤ 1) →
    (v.hooks moment k).count a.name ≤ 1

/-- What the calls of a walk down to the kind `limit` are. -/
structure Visitor.Calls (v : Visitor m) (limit : Kind) (root : Node) (result : Except ε Unit)
    (events : List (HookEvent String ε)) : Prop where
  /-- Only attributes that serve are called. -/
  serve : ∀ e ∈ events, root.Contains e.call.node ∧
    ∃ a ∈ v.attributes, a.name = e.call.hook ∧ a.Serves e.call.moment e.call.node.kind
  /-- No attribute is called twice for a node, unless its tags count and list the kind again. -/
  once : ∀ moment n, root.Contains n → ∀ a ∈ v.attributes,
    (a.counts = true → a.tags.count n.kind ≤ 1) →
      (events.map fun e ↦ e.call.key).count (moment, a.name, n.uid) ≤ 1
  /-- If the walk ends well, no attribute that serves is left out for a node within its reach,
  unless a call asked to skip a node around it. -/
  complete : result = .ok () → ∀ n, root.Contains n → (n = root ∨ n.kind.depth ≤ limit.depth) →
    Unskipped events n → ∀ moment, ∀ a ∈ v.attributes, a.Serves moment n.kind →
      ∃ e ∈ events, e.call = ⟨moment, a.name, n⟩

theorem Visitor.registers {v : Visitor m} (distinct : v.Distinct) : v.Registers where
  handlers := map_some_handlers distinct
  mem_iff _ _ _ := mem_hooks_iff distinct
  once moment _ _ ha once := count_hooks_le distinct ha once moment

theorem Visitor.calls {v : Visitor (ExceptT ε (StateM σ))} (distinct : v.Distinct) {root : Node}
    (tree : root.Tree) (limit? : Option Kind) (s : σ) :
    ∃ result s' events, (walk root v limit?).run.run s = (result, s') ∧
      (walk root v.observed limit?).run.run (s, []) = (result, s', events) ∧
      v.Calls (limit?.getD .statement) root result events := by
  obtain ⟨result, s', events, ran, ran', made, -⟩ :=
    Hooks.follows_walk v.hooks v.act root limit? s []
  rw [table_hooks distinct] at ran
  have observed : (walk root v.observed limit?).run.run (s, []) = (result, s', events) := by
    rwa [table_observed distinct] at ran'
  refine ⟨result, s', events, ran, observed, ?_, ?_, ?_⟩
  · intro e mem
    have called := made.subset (List.mem_map_of_mem (f := HookEvent.call) mem)
    obtain ⟨reached, registered⟩ :=
      Hooks.reaches_of_mem tree (Hooks.reaches_root _ _ _ root) called
    exact ⟨reached.inside, (mem_hooks_iff distinct).1 registered⟩
  · intro moment n hn a ha once
    calc (events.map fun e ↦ e.call.key).count (moment, a.name, n.uid)
      _ = ((events.map HookEvent.call).map HookCall.key).count (moment, a.name, n.uid) := by
          rw [List.map_map]
          rfl
      _ ≤ _ := (made.map HookCall.key).count_le _
      _ ≤ (v.hooks moment n.kind).count a.name := Hooks.count_stretch_le tree hn moment a.name
      _ ≤ 1 := count_hooks_le distinct ha once moment
  · rintro rfl n hn within unskipped moment a ha serves
    obtain ⟨new, same, covers⟩ := Hooks.writes_walk v.hooks v.act root limit? s [] () s' events ran'
    obtain rfl : events = new := same
    have deep : n.kind.depth ≤ root.kind.depth +
        ((limit?.getD .statement).depth - root.kind.depth) := by
      rcases within with rfl | within
      · exact Nat.le_add_right _ _
      · omega
    have registered := (mem_hooks_iff distinct).2 ⟨a, ha, rfl, serves⟩
    obtain ⟨e, mem, call⟩ := List.mem_map.1 (covers n hn deep unskipped moment a.name registered)
    exact ⟨e, mem, call⟩

/-- **What a visitor is to be called for is in its table, and is called, once.** -/
theorem walk_registered (v : Visitor (ExceptT ε (StateM σ))) (distinct : v.Distinct) :
    v.Registers ∧
      ∀ b : Bundle, b.Reachable → ∀ root, (Node.bundle b).Contains root → ∀ limit? s,
        ∃ result s' events, (walk root v limit?).run.run s = (result, s') ∧
          (walk root v.observed limit?).run.run (s, []) = (result, s', events) ∧
          v.Calls (limit?.getD .statement) root result events := by
  refine ⟨Visitor.registers distinct, fun b hb root hroot limit? s ↦ ?_⟩
  exact Visitor.calls distinct (hb.tree.of_contains hroot) limit? s

/-! ### A walk with a special name -/

/-- Counts what it is called for, and asks to skip the first function. -/
def counting (skips : Bool) : Handler (ExceptT String (StateM Nat)) := fun n ↦ do
  modify (· + 1)
  return if skips && n.label? = some "f" then .skip else .proceed

/-- A visitor with a tagged attribute, a hook, a hook that cannot be called, and a tagged attribute
that does not count. -/
def surveyor : Visitor (ExceptT String (StateM Nat)) where
  attributes :=
    [{ name := "look", handler? := some (counting false), tags := [.function, .block] },
      { name := enterName .function, handler? := some (counting true) },
      { name := leaveName .block, handler? := none },
      { name := "__call__", handler? := some (counting false), tags := [.statement] }]

theorem tagged_surveyor : surveyor.tagged = surveyor.attributes.take 1 := by
  have kept : surveyor.attributes.filter Attribute.counts = surveyor.attributes.take 1 := by
    rw [surveyor, List.filter_cons_of_pos, List.filter_cons_of_neg, List.filter_cons_of_neg,
      List.filter_cons_of_neg]
    · rfl
    · exact fun counts ↦ absurd (Attribute.counts_iff.1 counts).2 (by decide)
    · exact fun counts ↦ absurd rfl ((Attribute.counts_iff.1 counts).1 .block).2
    · exact fun counts ↦ absurd rfl ((Attribute.counts_iff.1 counts).1 .function).1
    · refine Attribute.counts_iff.2 ⟨fun k ↦ ?_, by decide⟩
      cases k <;> exact ⟨by decide, by decide⟩
  rw [Visitor.tagged_eq, kept]
  exact List.mergeSort_singleton _

/-- The skipped function gets both its calls, its own hook first. -/
theorem walk_registered_surveyor : surveyor.Distinct ∧ surveyor.Registers ∧
    ∃ b, twoBlocks.bundle? 1 = some b ∧ b.Reachable ∧ (Node.bundle b).Contains (.bundle b) ∧
      ∃ events, (walk (.bundle b) surveyor none).run.run 0 = (.ok (), 5) ∧
        (walk (.bundle b) surveyor.observed none).run.run (0, []) = (.ok (), 5, events) ∧
        events.map (fun e ↦ (e.call.hook, e.call.node.label?.getD "")) =
          [("enter_function", "f"), ("look", "f"), ("enter_function", "g"), ("look", "g"),
            ("look", "c")] ∧
        surveyor.Calls .statement (.bundle b) (.ok ()) events := by
  have distinct : surveyor.Distinct := by
    show (["look", enterName .function, leaveName .block, "__call__"] : List String).Nodup
    decide
  have there : (twoBlocks.bundle? 1).isSome := by cbv
  have found := (Option.some_get there).symm
  have reachable : ((twoBlocks.bundle? 1).get there).Reachable := ⟨1, _, 1, found⟩
  obtain ⟨registers, called⟩ := walk_registered surveyor distinct
  obtain ⟨result, s', events, plain, seen, calls⟩ := called _ reachable _ (.refl _) none 0
  have ends : (walk (.bundle ((twoBlocks.bundle? 1).get there)) surveyor none).run.run 0 =
      (.ok (), 5) := by
    rw [walk, Visitor.table]
    simp only [Visitor.taggedHandlers, tagged_surveyor]
    cbv
  obtain ⟨rfl, rfl⟩ := Prod.mk.inj (plain.symm.trans ends)
  have shown : ((walk (.bundle ((twoBlocks.bundle? 1).get there)) surveyor.observed none).run.run
      (0, [])).2.2.map (fun e ↦ (e.call.hook, e.call.node.label?.getD "")) =
      [("enter_function", "f"), ("look", "f"), ("enter_function", "g"), ("look", "g"),
        ("look", "c")] := by
    rw [walk, Visitor.table]
    simp only [Visitor.taggedHandlers, Visitor.tagged_observed, tagged_surveyor]
    cbv
  rw [seen] at shown
  exact ⟨distinct, registers, _, found, reachable, .refl _, events, plain, seen, shown, calls⟩

/-! ### Special names and repeated tags -/

/-- Every attribute with a handler is in the table once for each kind that it is tagged with,
whatever its name is and however its tags are listed. -/
def Visitor.RegistersTags (v : Visitor m) : Prop :=
  ∃ hooks : Hooks String,
    (∀ moment k, (v.table.handlers moment k).map some = (hooks moment k).map v.handler?) ∧
      ∀ a ∈ v.attributes, a.handler?.isSome = true → ∀ k ∈ a.tags, (hooks .enter k).count a.name = 1

/-- However the entries of a table are named, they are as many. -/
theorem Visitor.length_eq_of_handlers {v : Visitor m} (distinct : v.Distinct) {hooks : Hooks String}
    {moment : Moment} {k : Kind}
    (handlers : (v.table.handlers moment k).map some = (hooks moment k).map v.handler?) :
    (hooks moment k).length = (v.hooks moment k).length := by
  have same := handlers.symm.trans (map_some_handlers distinct moment k)
  simpa only [List.length_map] using congrArg List.length same

theorem Visitor.isSome_of_handlers {v : Visitor m} {hooks : Hooks String} {moment : Moment}
    {k : Kind} {name : String}
    (handlers : (v.table.handlers moment k).map some = (hooks moment k).map v.handler?)
    (mem : name ∈ hooks moment k) : (v.handler? name).isSome = true := by
  have entry := List.mem_map_of_mem (f := v.handler?) mem
  rw [← handlers] at entry
  obtain ⟨h, -, found⟩ := List.mem_map.1 entry
  exact found ▸ rfl

/-- An attribute that can be called. -/
def method (name : String) (tags : List Kind) : Attribute Id where
  name := name
  handler? := some fun _ ↦ .proceed
  tags := tags

/-- A visitor with one attribute. -/
def lone (a : Attribute Id) : Visitor Id where
  attributes := [a]

section Lone

variable {a : Attribute Id}

theorem distinct_lone (a : Attribute Id) : (lone a).Distinct := List.nodup_singleton a.name

theorem name_of_isSome_handler?_lone {name : String}
    (callable : ((lone a).handler? name).isSome = true) : a.name = name := by
  obtain ⟨b, hb, rfl, -⟩ := (Visitor.isSome_handler?_iff (distinct_lone a)).1 callable
  rw [List.mem_singleton.1 hb]

/-- If the tags of the only attribute are in the table, they are there as often as they count. -/
theorem count_of_registersTags (callable : a.handler?.isSome = true) {k : Kind}
    (tagged : k ∈ a.tags) (h : (lone a).RegistersTags) :
    ((if a.name = enterName k then 1 else 0) +
      if a.counts = true then a.tags.count k else 0) = 1 := by
  obtain ⟨hooks, handlers, once⟩ := h
  have distinct := distinct_lone a
  have own : a ∈ (lone a).attributes := List.mem_singleton_self a
  have found : ((lone a).handler? a.name).isSome = true :=
    (Visitor.isSome_handler?_iff distinct).2 ⟨a, own, rfl, callable⟩
  -- Whatever has a handler is the one attribute, so all entries have its name.
  have named : ∀ name ∈ hooks .enter k, a.name = name := fun name mem ↦
    name_of_isSome_handler?_lone (Visitor.isSome_of_handlers (handlers .enter k) mem)
  have registered : ∀ name ∈ (lone a).hooks .enter k, a.name = name := fun name mem ↦
    name_of_isSome_handler?_lone (List.mem_filter.1 mem).2
  have counted : ((lone a).hooks .enter k).count a.name = ((lone a).names .enter k).count a.name :=
    List.count_filter found
  calc ((if a.name = enterName k then 1 else 0) + if a.counts = true then a.tags.count k else 0)
    _ = ((lone a).names .enter k).count a.name := (Visitor.count_names_enter distinct own k).symm
    _ = ((lone a).hooks .enter k).count a.name := counted.symm
    _ = ((lone a).hooks .enter k).length := List.count_eq_length.2 registered
    _ = (hooks .enter k).length := (Visitor.length_eq_of_handlers distinct (handlers .enter k)).symm
    _ = (hooks .enter k).count a.name := (List.count_eq_length.2 named).symm
    _ = 1 := once a own callable k tagged

end Lone

/-- **Not every tag is registered once.** A method by which the visitor can be called like a
function is not there for what it is tagged with, nor is a hook for a kind that is not its own, and
what is tagged twice with a kind is there twice. -/
theorem not_registersTags :
    ((lone (method "__call__" [.function])).Distinct ∧
        ¬ (lone (method "__call__" [.function])).RegistersTags) ∧
      ((lone (method "enter_code" [.bundle])).Distinct ∧
        ¬ (lone (method "enter_code" [.bundle])).RegistersTags) ∧
      (lone (method "tally" [.block, .block])).Distinct ∧
        ¬ (lone (method "tally" [.block, .block])).RegistersTags := by
  refine ⟨⟨distinct_lone _, fun h ↦ ?_⟩, ⟨distinct_lone _, fun h ↦ ?_⟩, distinct_lone _, fun h ↦ ?_⟩
  · have one := count_of_registersTags rfl List.mem_cons_self h
    rw [if_neg (by decide), if_neg] at one
    · exact absurd one (by decide)
    · exact fun counts ↦ absurd (Attribute.counts_iff.1 counts).2 (by decide)
  · have one := count_of_registersTags rfl List.mem_cons_self h
    rw [if_neg (by decide), if_neg] at one
    · exact absurd one (by decide)
    · exact fun counts ↦ absurd rfl ((Attribute.counts_iff.1 counts).1 .code).1
  · have two := count_of_registersTags rfl List.mem_cons_self h
    rw [if_neg (by decide), if_pos] at two
    · exact absurd two (by decide)
    · refine Attribute.counts_iff.2 ⟨fun k ↦ ?_, by decide⟩
      cases k <;> exact ⟨by decide, by decide⟩

end Flowcheck.Ir
