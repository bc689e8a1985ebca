import Flowcheck.Proofs.Traversal.Depth
import Flowcheck.Proofs.Traversal.Order
import Mathlib

/-!
# The calls of a walk

A walk is told what to call by a table of handlers, and a handler is a program: it may read and
write a state that all handlers share, and it may fail. `observed` turns every handler into one that
does the same and writes down the call with its result. A walk with observed handlers is the same
walk, and what is written down is the sequence of calls that `Hooks.stretch` gives for the answers
of these calls, or, if a call fails, the beginning of that sequence up to the failing call.

Answers may depend on the state, so the sequence cannot be known before the walk. It can be known
afterwards, since no call is made twice: there is a function from calls to answers that agrees with
what was observed.
-/

namespace Flowcheck.Ir

variable {σ ε ι α β : Type}

/-! ## Hooks as handlers -/

section Table

variable {m : Type → Type}

/-- The handlers behind the names of hooks. -/
def Hooks.table (hooks : Hooks ι) (act : HookCall ι → m Action) : HandlerTable m where
  enter k := (hooks .enter k).map fun hook n ↦ act ⟨.enter, hook, n⟩
  leave k := (hooks .leave k).map fun hook n ↦ act ⟨.leave, hook, n⟩

/-- The handlers of a table by kind. -/
def HandlerTable.handlers (t : HandlerTable m) : Moment → Kind → List (Handler m)
  | .enter => t.enter
  | .leave => t.leave

/-- **Every table is one of distinct hooks.** They may be named by their places, so that an entry
that is there twice has two names. -/
theorem HandlerTable.exists_hooks [Monad m] (t : HandlerTable m) :
    ∃ (hooks : Hooks (Kind × Nat)) (act : HookCall (Kind × Nat) → m Action),
      hooks.Distinct ∧ hooks.table act = t := by
  let places (hs : List (Handler m)) (k : Kind) : List (Kind × Nat) :=
    (List.range hs.length).map fun i ↦ (k, i)
  let act (c : HookCall (Kind × Nat)) : m Action :=
    ((t.handlers c.moment c.hook.1)[c.hook.2]?.map fun h ↦ h c.node).getD (pure .proceed)
  have handlers (moment : Moment) (k : Kind) : (places (t.handlers moment k) k).map
      (fun hook n ↦ act ⟨moment, hook, n⟩) = t.handlers moment k := by
    refine List.ext_getElem (by simp [places]) fun i h h' ↦ ?_
    simp [places, act, h']
  refine ⟨fun moment k ↦ places (t.handlers moment k) k, act, fun moment k ↦ ?_, ?_⟩
  · exact List.nodup_range.map fun i j same ↦ congrArg Prod.snd same
  · exact congrArg₂ HandlerTable.mk (funext (handlers .enter)) (funext (handlers .leave))

end Table

/-! ## Observed calls -/

/-- A call and what came of it. -/
structure HookEvent (ι ε : Type) where
  call : HookCall ι
  result : Except ε Action

/-- Makes a call and writes it down together with its result. -/
def observed (act : HookCall ι → ExceptT ε (StateM σ) Action) (c : HookCall ι) :
    ExceptT ε (StateM (σ × List (HookEvent ι ε))) Action :=
  ExceptT.mk fun (s, seen) ↦
    let ran := (act c).run.run s
    (ran.1, ran.2, seen ++ [⟨c, ran.1⟩])

/-- Calls answer as they did when they were observed. -/
def Agrees (answer : HookCall ι → Action) (events : List (HookEvent ι ε)) : Prop :=
  ∀ e ∈ events, ∀ a, e.result = .ok a → answer e.call = a

/-- What was observed of a sequence of calls that gives `value` if none of them fails. -/
inductive Ends (calls : List (HookCall ι)) (value : α) :
    Except ε α → List (HookEvent ι ε) → Prop where
  | answered {events : List (HookEvent ι ε)} (made : events.map HookEvent.call = calls)
    (all : ∀ e ∈ events, ∃ a, e.result = .ok a) : Ends calls value (.ok value) events
  | failed {before : List (HookEvent ι ε)} {last : HookCall ι} {failure : ε}
    {left : List (HookCall ι)} (made : before.map HookEvent.call ++ last :: left = calls)
    (all : ∀ e ∈ before, ∃ a, e.result = .ok a) :
    Ends calls value (.error failure) (before ++ [⟨last, .error failure⟩])

namespace Ends

variable {calls calls' : List (HookCall ι)} {value : α} {events events' : List (HookEvent ι ε)}

theorem append {a : α} {value' : β} {result : Except ε β} (h : Ends calls value (.ok a) events)
    (h' : Ends calls' value' result events') :
    Ends (calls ++ calls') value' result (events ++ events') := by
  obtain ⟨made, all⟩ := h
  cases h' with
  | answered made' all' =>
    refine .answered ?_ (List.forall_mem_append.2 ⟨all, all'⟩)
    rw [List.map_append, made, made']
  | @failed before last failure left made' all' =>
    have both : (events ++ before).map HookEvent.call ++ last :: left = calls ++ calls' := by
      rw [List.map_append, List.append_assoc, made, made']
    rw [← List.append_assoc]
    exact .failed both (List.forall_mem_append.2 ⟨all, all'⟩)

/-- Calls that are not made any more change nothing. -/
theorem extend {e : ε} (h : Ends calls value (.error e) events) (calls' : List (HookCall ι))
    (value' : β) : Ends (calls ++ calls') value' (.error e) events := by
  cases h with
  | @failed before last failure left made all =>
    have more : before.map HookEvent.call ++ last :: (left ++ calls') = calls ++ calls' := by
      rw [← made, List.append_assoc, List.cons_append]
    exact .failed more all

end Ends

/-- If calls can be told apart, their answers can be looked up. -/
theorem exists_agrees {events : List (HookEvent ι ε)} (nodup : (events.map HookEvent.call).Nodup) :
    ∃ answer, Agrees answer events := by
  have answers (c : HookCall ι) :
      ∃ a, ∀ e ∈ events, e.call = c → ∀ a', e.result = .ok a' → a = a' := by
    by_cases observed : ∃ e ∈ events, e.call = c ∧ ∃ a, e.result = .ok a
    · obtain ⟨e, he, rfl, a, ha⟩ := observed
      refine ⟨a, fun e' he' same a' ha' ↦ ?_⟩
      obtain rfl := List.inj_on_of_nodup_map nodup he' he same
      exact Except.ok.inj (ha.symm.trans ha')
    · exact ⟨.proceed, fun e he same a ha ↦ absurd ⟨e, he, same, a, ha⟩ observed⟩
  choose answer h using answers
  exact ⟨answer, fun e he a ha ↦ h e.call e he rfl a ha⟩

/-! ## Programs that make calls -/

/-- The second program does what the first does and writes down what it calls. These are some of the
calls in `most`, and they are the calls in `calls answer` if they answer that way. -/
def Follows (m : ExceptT ε (StateM σ) α) (m' : ExceptT ε (StateM (σ × List (HookEvent ι ε))) α)
    (most : List (HookCall ι)) (calls : (HookCall ι → Action) → List (HookCall ι))
    (value : (HookCall ι → Action) → α) : Prop :=
  ∀ s seen, ∃ result s' new,
    m.run.run s = (result, s') ∧ m'.run.run (s, seen) = (result, s', seen ++ new) ∧
      (new.map HookEvent.call).Sublist most ∧
      ∀ answer, Agrees answer new → Ends (calls answer) (value answer) result new

namespace Follows

variable {m : ExceptT ε (StateM σ) α} {m' : ExceptT ε (StateM (σ × List (HookEvent ι ε))) α}
  {most most₁ most₂ : List (HookCall ι)} {calls : (HookCall ι → Action) → List (HookCall ι)}
  {value : (HookCall ι → Action) → α}

theorem pure (a : α) : Follows (pure a : ExceptT ε (StateM σ) α) (pure a)
    ([] : List (HookCall ι)) (fun _ ↦ []) fun _ ↦ a := by
  intro s seen
  refine ⟨.ok a, s, [], rfl, ?_, List.Sublist.refl [], fun _ _ ↦ .answered rfl (by simp)⟩
  rw [List.append_nil]
  rfl

theorem call (act : HookCall ι → ExceptT ε (StateM σ) Action) (c : HookCall ι) :
    Follows (act c) (observed act c) [c] (fun _ ↦ [c]) fun answer ↦ answer c := by
  intro s seen
  rcases ran : (act c).run.run s with ⟨result, s'⟩
  refine ⟨result, s', [⟨c, result⟩], rfl, ?_, List.Sublist.refl [c], fun answer agrees ↦ ?_⟩
  · show (((act c).run.run s).1, ((act c).run.run s).2, seen ++ [⟨c, ((act c).run.run s).1⟩]) = _
    rw [ran]
  · cases result with
    | ok a =>
      obtain rfl : answer c = a := agrees _ List.mem_cons_self a rfl
      exact .answered rfl (by simp)
    | error e =>
      have made : ([] : List (HookEvent ι ε)).map HookEvent.call ++ c :: [] = [c] := rfl
      exact .failed made (by simp)

theorem bind {f : α → ExceptT ε (StateM σ) β}
    {f' : α → ExceptT ε (StateM (σ × List (HookEvent ι ε))) β}
    {calls' : α → (HookCall ι → Action) → List (HookCall ι)}
    {value' : α → (HookCall ι → Action) → β}
    (hm : Follows m m' most₁ calls value)
    (hf : ∀ a, Follows (f a) (f' a) most₂ (calls' a) (value' a)) :
    Follows (m >>= f) (m' >>= f') (most₁ ++ most₂)
      (fun answer ↦ calls answer ++ calls' (value answer) answer)
      fun answer ↦ value' (value answer) answer := by
  intro s seen
  obtain ⟨result, s₁, new, ran, ran', made, ends⟩ := hm s seen
  cases result with
  | error e =>
    refine ⟨.error e, s₁, new, run_bind_of_error ran f, run_bind_of_error ran' f', ?_, ?_⟩
    · exact made.trans (List.sublist_append_left most₁ most₂)
    · exact fun answer agrees ↦ (ends answer agrees).extend _ _
  | ok a =>
    obtain ⟨result, s₂, new', then_, then', made', ends'⟩ := hf a s₁ (seen ++ new)
    refine ⟨result, s₂, new ++ new', ?_, ?_, ?_, fun answer agrees ↦ ?_⟩
    · rw [run_bind_of_ok ran f, then_]
    · rw [run_bind_of_ok ran' f', then', List.append_assoc]
    · rw [List.map_append]
      exact made.append made'
    · -- The value of the first part is the one that the answers give, so the second part is the
      -- one that the sequence goes on with.
      obtain ⟨first, second⟩ := List.forall_mem_append.1 agrees
      have ended := ends answer first
      obtain rfl : a = value answer := by
        cases ended
        rfl
      exact ended.append (ends' answer second)

/-- The calls said in another way. -/
theorem congr {calls' : (HookCall ι → Action) → List (HookCall ι)}
    {value' : (HookCall ι → Action) → α} (h : Follows m m' most₁ calls value)
    (made : most₁.Sublist most₂) (sameCalls : ∀ answer, calls answer = calls' answer)
    (sameValue : ∀ answer, value answer = value' answer) :
    Follows m m' most₂ calls' value' := by
  obtain rfl := funext sameCalls
  obtain rfl := funext sameValue
  intro s seen
  obtain ⟨result, s', new, ran, ran', made', ends⟩ := h s seen
  exact ⟨result, s', new, ran, ran', made'.trans made, ends⟩

theorem forM {γ : Type} {f : γ → ExceptT ε (StateM σ) Unit}
    {f' : γ → ExceptT ε (StateM (σ × List (HookEvent ι ε))) Unit} {most : γ → List (HookCall ι)}
    {calls : γ → (HookCall ι → Action) → List (HookCall ι)} {xs : List γ}
    (h : ∀ x ∈ xs, Follows (f x) (f' x) (most x) (calls x) fun _ ↦ ()) :
    Follows (xs.forM f) (xs.forM f') (xs.flatMap most)
      (fun answer ↦ xs.flatMap fun x ↦ calls x answer) fun _ ↦ () := by
  induction xs with
  | nil => exact pure ()
  | cons x xs ih =>
    obtain ⟨hx, hxs⟩ := List.forall_mem_cons.1 h
    exact bind hx fun _ ↦ ih hxs

end Follows

/-! ## Walks -/

namespace Hooks

section

variable {m : Type → Type} [Monad m] (hooks : Hooks ι) (act : HookCall ι → m Action)

/-- Calls a hook that may ask to skip; what was asked for before stays otherwise. -/
def heed (asked : Action) (c : HookCall ι) : m Action := do
  return if (← act c) = .skip then .skip else asked

theorem runEnter_table (n : Node) :
    (hooks.table act).runEnter n = (hooks.calls .enter n).foldlM (heed act) .proceed := by
  rw [HandlerTable.runEnter, table, calls, List.foldlM_map, List.foldlM_map]
  congr 1
  funext asked hook
  refine bind_congr fun a ↦ ?_
  cases a <;> rfl

theorem runLeave_table [LawfulMonad m] (n : Node) : (hooks.table act).runLeave n =
    (hooks.calls .leave n).forM fun c ↦ act c >>= fun _ ↦ pure () := by
  rw [HandlerTable.runLeave, table, calls, List.forM_eq_forM, List.forM_map, List.forM_eq_forM,
    List.forM_map]

end

variable (hooks : Hooks ι) (act : HookCall ι → ExceptT ε (StateM σ) Action)

theorem follows_heed (asked : Action) (c : HookCall ι) :
    Follows (heed act asked c) (heed (observed act) asked c) [c] (fun _ ↦ [c])
      fun answer ↦ if answer c = .skip then .skip else asked :=
  (Follows.call act c).bind fun a ↦ .pure (if a = .skip then Action.skip else asked)

theorem follows_foldlM (cs : List (HookCall ι)) (asked : Action) :
    Follows (cs.foldlM (heed act) asked) (cs.foldlM (heed (observed act)) asked) cs (fun _ ↦ cs)
      fun answer ↦ if ∃ c ∈ cs, answer c = .skip then .skip else asked := by
  induction cs generalizing asked with
  | nil => exact (Follows.pure asked).congr (.refl []) (fun _ ↦ rfl) fun _ ↦ by simp
  | cons c cs ih =>
    rw [List.foldlM_cons, List.foldlM_cons]
    refine ((follows_heed act asked c).bind fun asked ↦ ih asked).congr (.refl _) (fun _ ↦ rfl) ?_
    intro answer
    by_cases here : answer c = .skip <;> simp [here]

theorem follows_runEnter (n : Node) :
    Follows ((hooks.table act).runEnter n) ((hooks.table (observed act)).runEnter n)
      (hooks.calls .enter n) (fun _ ↦ hooks.calls .enter n)
      fun answer ↦ if hooks.Skips answer n then .skip else .proceed := by
  rw [runEnter_table, runEnter_table]
  exact follows_foldlM act (hooks.calls .enter n) .proceed

theorem follows_runLeave (n : Node) :
    Follows ((hooks.table act).runLeave n) ((hooks.table (observed act)).runLeave n)
      (hooks.calls .leave n) (fun _ ↦ hooks.calls .leave n) fun _ ↦ () := by
  rw [runLeave_table, runLeave_table]
  have follows := Follows.forM fun (c : HookCall ι) (_ : c ∈ hooks.calls .leave n) ↦
    (Follows.call act c).bind fun _ ↦ .pure ()
  exact follows.congr (by simp) (by simp) fun _ ↦ rfl

theorem follows_visit (levels : Nat) (n : Node) :
    Follows ((hooks.table act).visit levels n) ((hooks.table (observed act)).visit levels n)
      (hooks.script (fun _ ↦ .proceed) levels n) (fun answer ↦ hooks.script answer levels n)
      fun _ ↦ () := by
  induction levels generalizing n with
  | zero => exact (follows_runEnter hooks act n).bind fun _ ↦ follows_runLeave hooks act n
  | succ levels ih =>
    rw [HandlerTable.visit_succ, HandlerTable.visit_succ]
    have inside (asked : Action) : Follows
        (if asked = .proceed then n.children.forM ((hooks.table act).visit levels) else pure ())
        (if asked = .proceed then n.children.forM ((hooks.table (observed act)).visit levels)
          else pure ())
        (n.children.flatMap (hooks.script (fun _ ↦ .proceed) levels))
        (fun answer ↦
          if asked = .proceed then n.children.flatMap (hooks.script answer levels) else [])
        fun _ ↦ () := by
      cases asked with
      | proceed => exact .forM fun c _ ↦ ih c
      | skip => exact (Follows.pure ()).congr (List.nil_sublist _) (fun _ ↦ rfl) fun _ ↦ rfl
    refine ((follows_runEnter hooks act n).bind fun asked ↦ (inside asked).bind fun _ ↦
      follows_runLeave hooks act n).congr ?_ (fun answer ↦ ?_) fun _ ↦ rfl
    · -- If nothing asks to skip, all calls are made that there may be.
      have unskipped : ¬ hooks.Skips (fun _ ↦ .proceed) n := by simp [Skips]
      rw [script, if_neg unskipped, List.append_assoc]
    · rw [script, List.append_assoc]
      by_cases skips : hooks.Skips answer n <;> simp [skips]

theorem follows_walk (root : Node) (limit? : Option Kind) :
    Follows ((hooks.table act).walk root limit?) ((hooks.table (observed act)).walk root limit?)
      (hooks.stretch (fun _ ↦ .proceed) (limit?.getD .statement) root)
      (fun answer ↦ hooks.stretch answer (limit?.getD .statement) root) fun _ ↦ () := by
  cases limit? with
  | some limit => exact follows_visit hooks act _ root
  | none =>
    rw [HandlerTable.walk_none, HandlerTable.walk_none]
    exact follows_visit hooks act _ root

end Hooks

/-- **A walk calls every hook once for every node it gets to, in nested stretches.** Whatever the
hooks do, there are answers that they gave, and for these the calls that were made are all of the
sequence, or its beginning up to the call that failed; and the walk fails as that call did. -/
theorem walk_calls {b : Bundle} (hb : b.Reachable) {root : Node}
    (hroot : (Node.bundle b).Contains root) {hooks : Hooks ι} (distinct : hooks.Distinct)
    (act : HookCall ι → ExceptT ε (StateM σ) Action) (limit? : Option Kind) (s : σ) :
    ∃ result s' events,
      ((hooks.table act).walk root limit?).run.run s = (result, s') ∧
      ((hooks.table (observed act)).walk root limit?).run.run (s, []) = (result, s', events) ∧
      (∃ answer, Agrees answer events) ∧
      ∀ answer, Agrees answer events →
        hooks.Nested answer (limit?.getD .statement) root ∧
          Ends (hooks.stretch answer (limit?.getD .statement) root) () result events := by
  have tree : root.Tree := hb.tree.of_contains hroot
  obtain ⟨result, s', events, ran, ran', made, ends⟩ :=
    Hooks.follows_walk hooks act root limit? s []
  have once := (Hooks.nested tree distinct (fun _ ↦ .proceed) (limit?.getD .statement)).once
  have nodup : (events.map HookEvent.call).Nodup := once.of_map.sublist made
  refine ⟨result, s', events, ran, ran', exists_agrees nodup, fun answer agrees ↦ ?_⟩
  exact ⟨Hooks.nested tree distinct answer _, ends answer agrees⟩

/-! ### A walk that skips and fails -/

/-- Two functions with a block each. -/
def twoBlocks : Store :=
  .run {} [.startBundle "m", .buildFunction 1 "f", .buildBlock 2 "a" [("nop", [])],
    .buildFunction 1 "g", .buildBlock 6 "c" [("nop", [])]]

/-- A function has two hooks for entering, and one of them is the only one of blocks. -/
def guards : Hooks String
  | .enter, .function => ["guard", "look"]
  | .enter, .block => ["look"]
  | .leave, .function => ["done"]
  | _, _ => []

/-- The guard skips the first function that it sees, and what is done after the function `g`
fails. -/
def guarding (c : HookCall String) : ExceptT String (StateM Nat) Action := do
  if c.hook = "guard" then
    let met ← get
    set (met + 1)
    return if met = 0 then .skip else .proceed
  if c.hook = "done" && c.node.label? = some "g" then throw "enough"
  return .proceed

/-- The skipped function gets all its calls and its block none; the other function gets all its
calls up to the one that fails. -/
theorem walk_calls_twoBlocks : ∃ b, twoBlocks.bundle? 1 = some b ∧ b.Reachable ∧
    (Node.bundle b).Contains (.bundle b) ∧ guards.Distinct ∧
    ((guards.table guarding).walk (.bundle b) none).run.run 0 = (.error "enough", 2) ∧
    ∃ answer events,
      ((guards.table (observed guarding)).walk (.bundle b) none).run.run (0, []) =
        (.error "enough", 2, events) ∧
      events.map (fun e ↦ (e.call.hook, e.call.node.label?.getD "")) =
        [("guard", "f"), ("look", "f"), ("done", "f"), ("guard", "g"), ("look", "g"), ("look", "c"),
          ("done", "g")] ∧
      guards.Nested answer .statement (.bundle b) ∧
      Ends (guards.stretch answer .statement (.bundle b)) () (.error "enough") events := by
  have there : (twoBlocks.bundle? 1).isSome := by cbv
  have found := (Option.some_get there).symm
  have reachable : ((twoBlocks.bundle? 1).get there).Reachable := ⟨1, _, 1, found⟩
  have distinct : guards.Distinct := by
    intro moment kind
    cases moment <;> cases kind <;> decide
  obtain ⟨result, s', events, plain, seen, ⟨answer, agrees⟩, all⟩ :=
    walk_calls reachable (.refl _) distinct guarding none 0
  have fails : ((guards.table guarding).walk (.bundle ((twoBlocks.bundle? 1).get there))
      none).run.run 0 = (.error "enough", 2) := by cbv
  obtain ⟨rfl, rfl⟩ := Prod.mk.inj (plain.symm.trans fails)
  have shown : (((guards.table (observed guarding)).walk
      (.bundle ((twoBlocks.bundle? 1).get there)) none).run.run (0, [])).2.2.map
        (fun e ↦ (e.call.hook, e.call.node.label?.getD "")) =
      [("guard", "f"), ("look", "f"), ("done", "f"), ("guard", "g"), ("look", "g"), ("look", "c"),
        ("done", "g")] := by cbv
  rw [seen] at shown
  obtain ⟨nested, ends⟩ := all answer agrees
  exact ⟨_, found, reachable, .refl _, distinct, plain, answer, events, seen, shown, nested, ends⟩

end Flowcheck.Ir
