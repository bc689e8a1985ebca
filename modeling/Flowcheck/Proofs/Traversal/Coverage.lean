import Flowcheck.Proofs.Traversal.Calls

/-!
# No hook is left out

How often a walk calls a hook for a node, and that it does, can be said from what was observed, with
no word on what hooks would have answered to other calls. A table may then have a hook several times
for a kind; its calls for one node may be answered differently, and a function from calls to answers
need not exist.

A walk calls a hook for a node at most as often as the table has it for the kind of the node. If the
walk ends well, it has called all hooks for every node within its reach, unless a call that was
observed asked to skip a node around it: this is `Covers`, put together from the nodes inside.
-/

namespace Flowcheck.Ir

variable {σ ε ι α β γ : Type}

/-! ## How often a hook is called -/

namespace Hooks

variable {hooks : Hooks ι} {answer : HookCall ι → Action} {limit : Kind} {root n : Node}

section Count

variable [DecidableEq ι]

theorem count_calls (moment moment' : Moment) (hook : ι) (n : Node) :
    ((hooks.calls moment' n).map HookCall.key).count (moment, hook, n.uid) =
      if moment = moment' then (hooks moment n.kind).count hook else 0 := by
  have keys : (hooks.calls moment' n).map HookCall.key =
      (hooks moment' n.kind).map fun hook ↦ (moment', hook, n.uid) := by
    rw [calls, List.map_map]
    rfl
  rw [keys]
  split
  · rename_i same
    subst same
    have inj : Function.Injective fun hook : ι ↦ (moment, hook, n.uid) :=
      fun hook hook' same ↦ congrArg (fun key ↦ key.2.1) same
    exact List.count_map_of_injective _ _ inj hook
  · rename_i ne
    rw [List.count_eq_zero]
    intro mem
    obtain ⟨hook', -, same⟩ := List.mem_map.1 mem
    exact ne (congrArg Prod.fst same).symm

/-- Among calls for other nodes none has the key of a call for this node. -/
theorem count_key_eq_zero (tree : root.Tree) (hn : root.Contains n) {cs : List (HookCall ι)}
    (inside : ∀ c ∈ cs, root.Contains c.node) (other : ∀ c ∈ cs, c.node ≠ n) (moment : Moment)
    (hook : ι) : (cs.map HookCall.key).count (moment, hook, n.uid) = 0 := by
  rw [List.count_eq_zero]
  intro mem
  obtain ⟨c, hc, same⟩ := List.mem_map.1 mem
  have uid : c.node.uid = n.uid := congrArg (fun key ↦ key.2.2) same
  exact other c hc (tree.unique c.node n (inside c hc) hn uid)

/-- **A hook is called for a node as often as the table has it**, if the walk gets to the node. -/
theorem count_stretch (tree : root.Tree) (h : hooks.Reaches answer limit root n) (moment : Moment)
    (hook : ι) : ((hooks.stretch answer limit root).map HookCall.key).count (moment, hook, n.uid) =
      (hooks moment n.kind).count hook := by
  obtain ⟨before, after, split, apart⟩ := exists_stretch tree h
  have contained : ∀ c ∈ before ++ after, root.Contains c.node := fun c mem ↦ by
    have listed : c ∈ hooks.stretch answer limit root := by
      simp only [split, List.mem_append] at mem ⊢
      exact mem.imp_left .inl
    exact contains_of_mem listed
  have around := count_key_eq_zero tree h.inside contained
    (fun c mem same ↦ apart c mem (same ▸ .refl n)) moment hook
  have below : ∀ c ∈ hooks.inside answer limit n, n.Contains c.node ∧ c.node ≠ n := fun c mem ↦ by
    obtain ⟨-, child, hchild, mem⟩ := mem_inside_iff.1 mem
    have deeper := Node.depth_of_mem_children hchild
    have outer := (contains_of_mem mem).depth_le
    refine ⟨(Node.Contains.of_mem_children hchild).trans (contains_of_mem mem), fun same ↦ ?_⟩
    rw [same] at outer
    omega
  have inner := count_key_eq_zero tree h.inside (fun c mem ↦ h.inside.trans (below c mem).1)
    (fun c mem ↦ (below c mem).2) moment hook
  rw [List.map_append, List.count_append] at around
  rw [split, stretch_eq]
  simp only [List.map_append, List.count_append, count_calls, inner]
  cases moment <;> simp <;> omega

theorem count_stretch_le (tree : root.Tree) (hn : root.Contains n) (moment : Moment) (hook : ι) :
    ((hooks.stretch answer limit root).map HookCall.key).count (moment, hook, n.uid) ≤
      (hooks moment n.kind).count hook := by
  by_cases reached : hooks.Reaches answer limit root n
  · exact (count_stretch tree reached moment hook).le
  · -- No call is for a node that the walk does not get to.
    have none : ((hooks.stretch answer limit root).map HookCall.key).count
        (moment, hook, n.uid) = 0 := by
      refine count_key_eq_zero tree hn (fun c mem ↦ contains_of_mem mem) (fun c mem same ↦ ?_) _ _
      have reachedCall := (reaches_of_mem tree (reaches_root hooks answer limit root) mem).1
      exact reached (same ▸ reachedCall)
    exact none ▸ Nat.zero_le _

end Count

end Hooks

/-! ## What a walk writes down -/

/-- If the program ends well, what it writes down has a property. -/
def Writes (m : ExceptT ε (StateM (σ × List (HookEvent ι ε))) α)
    (P : α → List (HookEvent ι ε) → Prop) : Prop :=
  ∀ s seen a s' seen', m.run.run (s, seen) = (.ok a, s', seen') →
    ∃ new, seen' = seen ++ new ∧ P a new

namespace Writes

variable {m : ExceptT ε (StateM (σ × List (HookEvent ι ε))) α}
  {P P' : α → List (HookEvent ι ε) → Prop}

theorem mono (h : Writes m P) (weaker : ∀ a new, P a new → P' a new) : Writes m P' := by
  intro s seen a s' seen' ran
  obtain ⟨new, rfl, holds⟩ := h s seen a s' seen' ran
  exact ⟨new, rfl, weaker a new holds⟩

theorem pure {a : α} (h : P a []) :
    Writes (pure a : ExceptT ε (StateM (σ × List (HookEvent ι ε))) α) P := by
  intro s seen a' s' seen' ran
  obtain ⟨result, state⟩ := Prod.mk.inj ran
  obtain rfl := Except.ok.inj result
  obtain ⟨-, rfl⟩ := Prod.mk.inj state
  exact ⟨[], (List.append_nil seen).symm, h⟩

theorem call (act : HookCall ι → ExceptT ε (StateM σ) Action) (c : HookCall ι) :
    Writes (observed act c) fun a new ↦ new = [⟨c, .ok a⟩] := by
  intro s seen a s' seen' ran
  obtain ⟨result, state⟩ := Prod.mk.inj ran
  obtain ⟨-, rfl⟩ := Prod.mk.inj state
  exact ⟨[⟨c, .ok a⟩], by rw [result], rfl⟩

theorem bind {f : α → ExceptT ε (StateM (σ × List (HookEvent ι ε))) β}
    {Q : α → β → List (HookEvent ι ε) → Prop} {R : β → List (HookEvent ι ε) → Prop}
    (hm : Writes m P) (hf : ∀ a, Writes (f a) (Q a))
    (both : ∀ a b new new', P a new → Q a b new' → R b (new ++ new')) :
    Writes (m >>= f) R := by
  intro s seen b s' seen' ran
  rcases first : m.run.run (s, seen) with ⟨_ | a, s₁, seen₁⟩
  · rw [run_bind_of_error first] at ran
    exact absurd (congrArg Prod.fst ran) (by simp)
  · rw [run_bind_of_ok first] at ran
    obtain ⟨new, rfl, holds⟩ := hm s seen a s₁ seen₁ first
    obtain ⟨new', rfl, holds'⟩ := hf a s₁ _ b s' seen' ran
    exact ⟨new ++ new', List.append_assoc seen new new', both a b new new' holds holds'⟩

/-- A loop writes down what each of its rounds does. -/
theorem forM {f : γ → ExceptT ε (StateM (σ × List (HookEvent ι ε))) Unit}
    {P : γ → List (HookEvent ι ε) → Prop} {xs : List γ}
    (more : ∀ x new new', new ⊆ new' → P x new → P x new')
    (h : ∀ x ∈ xs, Writes (f x) fun _ ↦ P x) :
    Writes (xs.forM f) fun _ new ↦ ∀ x ∈ xs, P x new := by
  induction xs with
  | nil => exact pure fun x mem ↦ absurd mem List.not_mem_nil
  | cons x xs ih =>
    obtain ⟨hx, hxs⟩ := List.forall_mem_cons.1 h
    refine bind hx (fun _ ↦ ih hxs) fun _ _ new new' here later ↦ ?_
    refine List.forall_mem_cons.2 ⟨?_, fun y hy ↦ ?_⟩
    · exact more x new _ (List.subset_append_left new new') here
    · exact more y new' _ (List.subset_append_right new new') (later y hy)

end Writes

/-- No call that was observed asks to skip a node around `n`. -/
def Unskipped (events : List (HookEvent ι ε)) (n : Node) : Prop :=
  ∀ e ∈ events, e.call.moment = .enter → e.result = .ok .skip → e.call.node.Contains n →
    e.call.node = n

theorem Unskipped.mono {events events' : List (HookEvent ι ε)} {n : Node}
    (h : Unskipped events' n) (sub : events ⊆ events') : Unskipped events n :=
  fun e mem ↦ h e (sub mem)

namespace Hooks

/-- All hooks have been called for what is inside a node down to `levels` levels below, except for
what is inside a node that was skipped. -/
def Covers (hooks : Hooks ι) (levels : Nat) (root : Node) (events : List (HookEvent ι ε)) : Prop :=
  ∀ n, root.Contains n → n.kind.depth ≤ root.kind.depth + levels → Unskipped events n →
    ∀ moment, ∀ hook ∈ hooks moment n.kind, ⟨moment, hook, n⟩ ∈ events.map HookEvent.call

variable (hooks : Hooks ι) {levels : Nat} {n root : Node} {events events' : List (HookEvent ι ε)}

theorem Covers.mono (h : hooks.Covers levels n events) (sub : events ⊆ events') :
    hooks.Covers levels n events' :=
  fun x below within unskipped moment hook mem ↦
    List.map_subset HookEvent.call sub (h x below within (unskipped.mono sub) moment hook mem)

/-- What has been called for a node itself. -/
theorem mem_map_call_of_own {enter leave : List (HookEvent ι ε)}
    (entered : enter.map HookEvent.call = hooks.calls .enter n)
    (left : ∀ c ∈ hooks.calls .leave n, c ∈ leave.map HookEvent.call) {moment : Moment} {hook : ι}
    (mem : hook ∈ hooks moment n.kind) :
    ⟨moment, hook, n⟩ ∈ enter.map HookEvent.call ∨
      ⟨moment, hook, n⟩ ∈ leave.map HookEvent.call := by
  have own : ⟨moment, hook, n⟩ ∈ hooks.calls moment n := mem_calls_iff.2 ⟨rfl, rfl, mem⟩
  rcases moment with _ | _
  · exact .inl (entered ▸ own)
  · exact .inr (left _ own)

variable (act : HookCall ι → ExceptT ε (StateM σ) Action)

theorem writes_foldlM (cs : List (HookCall ι)) (asked : Action) :
    Writes (cs.foldlM (heed (observed act)) asked) fun a new ↦
      new.map HookEvent.call = cs ∧
        (a = .skip → asked = .skip ∨ ∃ e ∈ new, e.result = .ok .skip) := by
  induction cs generalizing asked with
  | nil => exact .pure ⟨rfl, .inl⟩
  | cons c cs ih =>
    have heeds : Writes (heed (observed act) asked c) fun a new ↦
        new.map HookEvent.call = [c] ∧
          (a = .skip → asked = .skip ∨ ∃ e ∈ new, e.result = .ok .skip) := by
      refine (Writes.call act c).bind (fun a ↦ .pure (P := fun b new ↦
        new = [] ∧ b = if a = .skip then .skip else asked) ⟨rfl, rfl⟩) ?_
      rintro a b new new' rfl ⟨rfl, rfl⟩
      refine ⟨rfl, fun skips ↦ ?_⟩
      by_cases here : a = .skip
      · exact .inr ⟨_, List.mem_cons_self, congrArg Except.ok here⟩
      · rw [if_neg here] at skips
        exact .inl skips
    rw [List.foldlM_cons]
    refine heeds.bind (fun a ↦ ih a) ?_
    rintro a b new new' ⟨called, skips⟩ ⟨called', skips'⟩
    refine ⟨by rw [List.map_append, called, called', List.singleton_append], fun skip ↦ ?_⟩
    rcases skips' skip with skip | ⟨e, mem, skip⟩
    · refine (skips skip).imp_right fun ⟨e, mem, skip⟩ ↦ ?_
      exact ⟨e, List.mem_append_left new' mem, skip⟩
    · exact .inr ⟨e, List.mem_append_right new mem, skip⟩

theorem writes_runEnter (n : Node) :
    Writes ((hooks.table (observed act)).runEnter n) fun a new ↦
      new.map HookEvent.call = hooks.calls .enter n ∧
        (a = .skip → ∃ e ∈ new, e.result = .ok .skip) := by
  rw [runEnter_table]
  refine (writes_foldlM act (hooks.calls .enter n) .proceed).mono fun a new ⟨called, skips⟩ ↦ ?_
  exact ⟨called, fun skip ↦ (skips skip).resolve_left (by decide)⟩

theorem writes_runLeave (n : Node) :
    Writes ((hooks.table (observed act)).runLeave n) fun _ new ↦
      ∀ c ∈ hooks.calls .leave n, c ∈ new.map HookEvent.call := by
  rw [runLeave_table]
  refine Writes.forM (fun c new new' sub ↦ (List.map_subset HookEvent.call sub ·)) fun c _ ↦ ?_
  refine (Writes.call act c).bind (fun _ ↦ .pure (P := fun _ new ↦ new = []) rfl) ?_
  rintro a _ new new' rfl rfl
  exact List.mem_cons_self

/-- A visit that does not skip its node covers it if the visits inside cover the children. -/
theorem covers_succ {enter inside leave : List (HookEvent ι ε)} {asked : Action}
    (entered : enter.map HookEvent.call = hooks.calls .enter n)
    (skips : asked = .skip → ∃ e ∈ enter, e.result = .ok .skip)
    (children : asked = .proceed → ∀ c ∈ n.children, hooks.Covers levels c inside)
    (left : ∀ c ∈ hooks.calls .leave n, c ∈ leave.map HookEvent.call) :
    hooks.Covers (levels + 1) n (enter ++ (inside ++ leave)) := by
  intro x below within unskipped moment hook mem
  rcases Relation.ReflTransGen.cases_head below with rfl | ⟨c, hc, below'⟩
  · rw [List.map_append, List.map_append, List.mem_append, List.mem_append]
    exact (mem_map_call_of_own hooks entered left mem).imp_right .inr
  · have deeper := Node.depth_of_mem_children hc
    have outer := Node.Contains.depth_le below'
    -- A request to skip would be one to skip a node around `x`.
    have proceeds : asked = .proceed := by
      rcases asked with _ | _
      · rfl
      · obtain ⟨e, he, skip⟩ := skips rfl
        obtain ⟨moment, node, -⟩ :=
          mem_calls_iff.1 (entered ▸ List.mem_map_of_mem (f := HookEvent.call) he)
        have same := unskipped e (List.mem_append_left _ he) moment skip (node ▸ below)
        rw [node] at same
        subst same
        omega
    have sub : inside ⊆ enter ++ (inside ++ leave) :=
      fun e he ↦ List.mem_append_right enter (List.mem_append_left leave he)
    exact ((children proceeds c hc).mono hooks sub) x below' (by omega) unskipped moment hook mem

theorem writes_visit (levels : Nat) (n : Node) :
    Writes ((hooks.table (observed act)).visit levels n) fun _ ↦ hooks.Covers levels n := by
  induction levels generalizing n with
  | zero =>
    refine (writes_runEnter hooks act n).bind (fun _ ↦ writes_runLeave hooks act n) ?_
    rintro _ _ enter leave ⟨entered, -⟩ left x below within - moment hook mem
    obtain rfl := below.eq_of_depth_le within
    rw [List.map_append, List.mem_append]
    exact mem_map_call_of_own hooks entered left mem
  | succ levels ih =>
    rw [HandlerTable.visit_succ]
    have inside (asked : Action) : Writes
        (if asked = .proceed then n.children.forM ((hooks.table (observed act)).visit levels)
          else pure ())
        fun _ new ↦ asked = .proceed → ∀ c ∈ n.children, hooks.Covers levels c new := by
      rcases asked with _ | _
      · have covers := Writes.forM (P := hooks.Covers levels)
          (fun c new new' sub h ↦ h.mono hooks sub) fun c (_ : c ∈ n.children) ↦ ih c
        exact covers.mono fun _ new h _ ↦ h
      · exact .pure fun proceeds ↦ by cases proceeds
    refine (writes_runEnter hooks act n).bind (Q := fun asked _ new ↦ ∃ inside leave,
      new = inside ++ leave ∧
        (asked = .proceed → ∀ c ∈ n.children, hooks.Covers levels c inside) ∧
        ∀ c ∈ hooks.calls .leave n, c ∈ leave.map HookEvent.call) (fun asked ↦ ?_) ?_
    · refine (inside asked).bind (fun _ ↦ writes_runLeave hooks act n) ?_
      exact fun _ _ inside leave children left ↦ ⟨inside, leave, rfl, children, left⟩
    · rintro asked _ enter _ ⟨entered, skips⟩ ⟨inside, leave, rfl, children, left⟩
      exact covers_succ hooks entered skips children left

/-- **A walk that ends well leaves no hook out.** -/
theorem writes_walk (root : Node) (limit? : Option Kind) :
    Writes ((hooks.table (observed act)).walk root limit?) fun _ ↦
      hooks.Covers ((limit?.getD .statement).depth - root.kind.depth) root := by
  rcases limit? with _ | limit
  · rw [HandlerTable.walk_none]
    exact writes_visit hooks act _ root
  · exact writes_visit hooks act _ root

end Hooks

end Flowcheck.Ir
