import Flowcheck.Pass.Operation
import Flowcheck.Proofs.Checks

/-!
# Registries over whole runs

A call on a registry does one of four things: it binds a name that was free, it closes the registry,
it answers and changes nothing, or it is refused and changes nothing (`Moves`). So what a registry
holds is told by the calls that were accepted. A name is bound to the factory and the origin of the
one call that bound it, and stays so; nothing is bound any more once the registry is closed.

The factories and the origins are two maps. That they have the same names is what makes the origin
of a registered pass an answer and never a failed look-up.
-/

namespace Flowcheck.Registry

variable {r r' : Registry} {op : Operation} {a : Answer} {name place : String} {f : Factory}
  {call : Factory → Product}

/-! ## Single calls -/

/-- An accepted call that binds a name to a factory, which comes from a place. -/
inductive Operation.Binds : Operation → Answer → String → Factory → String → Prop where
  | register {name : String} {c : Candidate} {place : String} {f : Factory}
    (callable : c.factory? = some f) : Binds (.register name c place) .done name f place
  | registerClass {c : Candidate} {k : PassClass} {f : Factory} (named : c.passClass? = some k)
    (callable : c.factory? = some f) : Binds (.registerClass c) (.candidate c) k.passName f k.origin
  | addUnit {s : Surroundings} {ref : String} {f : Factory} {p : Pass}
    (built : unitPass s ref = .ok (f, p)) : Binds (.addUnit s ref) (.pass p) p.name f ref

/-- The calls that are made to bind a name. -/
inductive Operation.Registers : Operation → Prop where
  | register (name : String) (c : Candidate) (place : String) : Registers (.register name c place)
  | registerClass (c : Candidate) : Registers (.registerClass c)
  | addUnit (s : Surroundings) (ref : String) : Registers (.addUnit s ref)

/-- The calls that only ask. -/
inductive Operation.Asks : Operation → Prop where
  | get (name : String) : Asks (.get name)
  | create (name : String) (call : Factory → Product) : Asks (.create name call)
  | origin (name : String) : Asks (.origin name)

/-- What a call may do to a registry. -/
inductive Moves (r : Registry) : Operation → Except PassError Answer → Registry → Prop where
  | binds {op : Operation} {a : Answer} {name place : String} {f : Factory}
    (bound : op.Binds a name f place) (unsealed : r.isSealed = false) (named : name ≠ "")
    (free : name ∉ r.bindings.keys) : Moves r op (.ok a) (r.bind name f place)
  | closes : Moves r .close (.ok .done) r.close
  | answers {op : Operation} {a : Answer} (asks : op.Asks) : Moves r op (.ok a) r
  | refuses {op : Operation} (e : PassError) : Moves r op (.error e) r

/-- Registering is a matter of four checks. -/
theorem register_eq_ok_iff {c : Candidate} :
    r.register name c place = .ok r' ↔ r.isSealed = false ∧ name ≠ "" ∧
      ∃ f, c.factory? = some f ∧ name ∉ r.bindings.keys ∧ r' = r.bind name f place := by
  rw [register]
  split
  · rename_i closed
    simp [closed]
  · rename_i unsealed
    split
    · rename_i unnamed
      simp [unnamed]
    · rename_i named
      cases c.factory? with
      | none => simp
      | some f =>
        dsimp only
        split
        · rename_i taken
          have listed := Assoc.contains_iff.1 taken
          cases r.recordedOrigin name <;> simp [listed, bind_eq_ok_iff, throw, throwThe,
            MonadExceptOf.throw]
        · rename_i free
          have unlisted := mt Assoc.contains_iff.2 free
          simp [unsealed, named, unlisted, eq_comm]

theorem registerBuilt_eq_ok_iff {p : Pass} :
    r.registerBuilt f p place = .ok r' ↔ r.isSealed = false ∧ p.name ≠ "" ∧
      p.name ∉ r.bindings.keys ∧ r' = r.bind p.name f place := by
  rw [registerBuilt, register_eq_ok_iff]
  simp only [Option.some.injEq, exists_eq_left']

theorem addUnit_eq_ok_iff {s : Surroundings} {ref : String} {p : Pass} :
    r.addUnit s ref = .ok (p, r') ↔
      ∃ f, unitPass s ref = .ok (f, p) ∧ r.registerBuilt f p ref = .ok r' := by
  rw [addUnit, bind_eq_ok_iff]
  constructor
  · rintro ⟨⟨f, p⟩, built, added⟩
    obtain ⟨r', registered, ⟨⟩⟩ := bind_eq_ok_iff.1 added
    exact ⟨f, built, registered⟩
  · rintro ⟨f, built, registered⟩
    exact ⟨(f, p), built, bind_eq_ok_iff.2 ⟨r', registered, rfl⟩⟩

theorem run_current (state : Registry × List LogEntry) :
    current.run.run state = (.ok state.1, state) := rfl

/-- What a call comes to and the registry that it leaves behind, whatever is in the log. -/
def Comes {α : Type} (r : Registry) (m : BuildM α) (x : Except PassError α) (r' : Registry) :
    Prop :=
  ∀ log, ∃ log', m.run.run (r, log) = (x, r', log')

theorem Comes.exec_eq {α : Type} {m : BuildM α} {x : Except PassError α}
    (comes : r.Comes m x r') : r.exec m = (x, r') := by
  obtain ⟨log, ran⟩ := comes []
  rw [exec, ran]

/-- What is made of the result of a call does not touch the registry. -/
theorem Comes.map {α β : Type} {m : BuildM α} {x : Except PassError α} (comes : r.Comes m x r')
    (g : α → β) : r.Comes (do return g (← m)) (g <$> x) r' := by
  intro log
  obtain ⟨log', ran⟩ := comes log
  cases x with
  | error e => exact ⟨log', run_bind_of_error ran _⟩
  | ok a => exact ⟨log', run_bind_of_ok ran _⟩

/-- A question is answered from the registry as it is, and leaves it so. -/
theorem comes_ask {α : Type} (r : Registry) (ask : Registry → Except PassError α)
    (wrap : α → Answer) :
    r.Comes (do return wrap (← liftM (ask (← current)))) (wrap <$> ask r) r := by
  intro log
  rw [run_bind_of_ok (run_current _)]
  cases ask r <;> exact ⟨log, rfl⟩

/-- The registry of an accepted registration, or the one before a refused one. -/
def settled (r : Registry) : Except PassError Registry → Registry
  | .ok r' => r'
  | .error _ => r

theorem comes_enter {c : Candidate} :
    r.Comes (enter name c place) ((fun _ ↦ ()) <$> r.register name c place)
      (r.settled (r.register name c place)) := by
  intro log
  rw [enter, run_bind_of_ok (run_current _)]
  cases r.register name c place with
  | error e => exact ⟨log, rfl⟩
  | ok r' => exact ⟨_, rfl⟩

theorem comes_enterClass {c : Candidate} :
    r.Comes (enterClass c) ((fun _ ↦ ()) <$> r.registerClass c)
      (r.settled (r.registerClass c)) := by
  intro log
  rw [enterClass, run_bind_of_ok (run_current _)]
  cases r.registerClass c with
  | error e => exact ⟨log, rfl⟩
  | ok r' => cases c.passClass? <;> exact ⟨_, rfl⟩

theorem run_noteUnit (s : Surroundings) (ref : String) (state : Registry × List LogEntry) :
    ∃ log, (noteUnit s ref).run.run state = (.ok (), state.1, log) := by
  rw [noteUnit]
  cases s.findUnit ref with
  | error e => exact ⟨_, rfl⟩
  | ok found => exact ⟨_, rfl⟩

theorem comes_enterUnit {s : Surroundings} {ref : String} :
    r.Comes (enterUnit s ref) (Prod.fst <$> r.addUnit s ref)
      (r.settled (Prod.snd <$> r.addUnit s ref)) := by
  intro log
  obtain ⟨log', noted⟩ := run_noteUnit s ref (r, log)
  rw [enterUnit, run_bind_of_ok noted, run_bind_of_ok (run_current _)]
  cases r.addUnit s ref with
  | error e => exact ⟨log', rfl⟩
  | ok added => exact ⟨_, rfl⟩

theorem moves_of_register {c : Candidate} (registered : r.register name c place = .ok r')
    (bound : ∀ f, c.factory? = some f → op.Binds a name f place) : Moves r op (.ok a) r' := by
  obtain ⟨unsealed, named, f, callable, free, rfl⟩ := register_eq_ok_iff.1 registered
  exact .binds (bound f callable) unsealed named free

theorem moves_of_asks {α : Type} {x : Except PassError α} {wrap : α → Answer} (asks : op.Asks) :
    Moves r op (wrap <$> x) r := by
  cases x with
  | error e => exact .refuses e
  | ok a => exact .answers asks

/-- **A call does one of four things.** -/
theorem moves (r : Registry) (op : Operation) : Moves r op (r.answer op) (r.after op) := by
  rw [answer, after]
  cases op with
  | register name c place =>
    rw [Operation.perform, (comes_enter.map fun _ ↦ Answer.done).exec_eq]
    cases registered : r.register name c place with
    | error e => exact .refuses e
    | ok r' => exact moves_of_register registered fun f callable ↦ .register callable
  | registerClass c =>
    rw [Operation.perform, (comes_enterClass.map fun _ ↦ Answer.candidate c).exec_eq]
    cases registered : r.registerClass c with
    | error e => exact .refuses e
    | ok r' =>
      rw [registerClass] at registered
      cases named : c.passClass? with
      | none => simp [named] at registered
      | some k =>
        rw [named] at registered
        exact moves_of_register registered fun f callable ↦ .registerClass named callable
  | addUnit s ref =>
    rw [Operation.perform, (comes_enterUnit.map Answer.pass).exec_eq]
    cases added : r.addUnit s ref with
    | error e => exact .refuses e
    | ok pr =>
      obtain ⟨f, built, registered⟩ := addUnit_eq_ok_iff.1 added
      obtain ⟨unsealed, named, free, same⟩ := registerBuilt_eq_ok_iff.1 registered
      have moved : Moves r (.addUnit s ref) (.ok (.pass pr.1)) (r.bind pr.1.name f ref) :=
        .binds (.addUnit built) unsealed named free
      exact same ▸ moved
  | close => exact .closes
  | get name =>
    rw [Operation.perform, (comes_ask r (·.get name) _).exec_eq]
    exact moves_of_asks (.get name)
  | create name call =>
    rw [Operation.perform, (comes_ask r (·.createFrom call name) _).exec_eq]
    exact moves_of_asks (.create name call)
  | origin name =>
    rw [Operation.perform, (comes_ask r (·.origin name) _).exec_eq]
    exact moves_of_asks (.origin name)

/-! ## What is bound -/

/-- A name is bound to a factory that comes from a place. -/
def Holds (r : Registry) (name : String) (f : Factory) (place : String) : Prop :=
  r.bindings.get? name = some f ∧ r.origins.get? name = some place

/-- The two maps have the same names. -/
def Paired (r : Registry) : Prop := r.origins.keys = r.bindings.keys

theorem Paired.exists_holds (paired : r.Paired) (bound : name ∈ r.bindings.keys) :
    ∃ f place, r.Holds name f place := by
  obtain ⟨f, hf⟩ := Assoc.mem_keys_iff.1 bound
  obtain ⟨place, hplace⟩ := Assoc.mem_keys_iff.1 (paired ▸ bound)
  exact ⟨f, place, hf, hplace⟩

theorem Paired.bind (paired : r.Paired) (free : name ∉ r.bindings.keys) :
    (r.bind name f place).Paired := by
  rw [Paired, Registry.bind, Assoc.keys_insert_new free, Assoc.keys_insert_new (paired ▸ free),
    paired]

theorem Holds.mem_keys (holds : r.Holds name f place) : name ∈ r.bindings.keys :=
  Assoc.mem_keys_of_get? holds.1

theorem holds_bind_iff {name' place' : String} {f' : Factory} :
    (r.bind name' f' place').Holds name f place ↔
      if name' = name then f' = f ∧ place' = place else r.Holds name f place := by
  rw [Holds, bind, Assoc.get?_insert, Assoc.get?_insert]
  split
  · simp only [Option.some.injEq]
  · rfl

theorem Operation.Binds.unique {name' place' : String} {f' : Factory}
    (bound : op.Binds a name f place) (again : op.Binds a name' f' place') :
    name = name' ∧ f = f' ∧ place = place' := by
  cases bound with
  | register callable =>
    cases again with
    | register callable' => exact ⟨rfl, Option.some.inj (callable.symm.trans callable'), rfl⟩
  | registerClass named callable =>
    cases again with
    | registerClass named' callable' =>
      obtain rfl := Option.some.inj (named.symm.trans named')
      exact ⟨rfl, Option.some.inj (callable.symm.trans callable'), rfl⟩
  | addUnit built =>
    cases again with
    | addUnit built' =>
      obtain ⟨rfl, -⟩ := Prod.ext_iff.1 (Except.ok.inj (built.symm.trans built'))
      exact ⟨rfl, rfl, rfl⟩

namespace Moves

variable {x : Except PassError Answer}

theorem paired (moved : Moves r op x r') (paired : r.Paired) : r'.Paired := by
  cases moved with
  | binds bound unsealed named free => exact paired.bind free
  | closes => exact paired
  | answers asks => exact paired
  | refuses e => exact paired

/-- What a registry holds after a call is what it held before and what the call bound. -/
theorem holds_iff (moved : Moves r op x r') :
    r'.Holds name f place ↔
      r.Holds name f place ∨ ∃ a, x = .ok a ∧ op.Binds a name f place := by
  cases moved with
  | @binds _ a name' place' f' bound unsealed named free =>
    rw [holds_bind_iff]
    constructor
    · intro holds
      split at holds
      · obtain ⟨rfl, rfl⟩ := holds
        subst name'
        exact .inr ⟨a, rfl, bound⟩
      · exact .inl holds
    · rintro (holds | ⟨a', ⟨⟩, again⟩)
      · rwa [if_neg]
        rintro rfl
        exact free holds.mem_keys
      · obtain ⟨rfl, rfl, rfl⟩ := bound.unique again
        rw [if_pos rfl]
        exact ⟨rfl, rfl⟩
  | closes =>
    refine ⟨.inl, ?_⟩
    rintro (holds | ⟨_, ⟨⟩, bound⟩)
    · exact holds
    · cases bound
  | answers asks =>
    refine ⟨.inl, ?_⟩
    rintro (holds | ⟨_, ⟨⟩, bound⟩)
    · exact holds
    · cases bound <;> cases asks
  | refuses e => simp

/-- Nothing that was closed changes, and nothing is registered in it. -/
theorem of_closed (moved : Moves r op x r') (closed : r.isSealed = true) :
    r' = r ∧ (op.Registers → ∃ e, x = .error e) := by
  cases moved with
  | binds bound unsealed named free => exact absurd closed (by simp [unsealed])
  | closes =>
    refine ⟨?_, nofun⟩
    rw [close, ← closed]
  | answers asks =>
    refine ⟨rfl, fun registers ↦ ?_⟩
    cases asks <;> cases registers
  | refuses e => exact ⟨rfl, fun _ ↦ ⟨e, rfl⟩⟩

theorem exists_binds (moved : Moves r op (.ok a) r') (registers : op.Registers) :
    ∃ name f place, op.Binds a name f place := by
  cases moved with
  | binds bound unsealed named free => exact ⟨_, _, _, bound⟩
  | closes => cases registers
  | answers asks => cases asks <;> cases registers

theorem eq_of_asks (moved : Moves r op x r') (asks : op.Asks) : r' = r := by
  cases moved with
  | binds bound unsealed named free => cases asks <;> cases bound
  | closes => cases asks
  | answers asks => rfl
  | refuses e => rfl

theorem eq_of_error {e : PassError} (moved : Moves r op (.error e) r') : r' = r := by
  cases moved with
  | refuses e => rfl

end Moves

/-! ## Names and look-ups -/

theorem mem_names : name ∈ r.names ↔ name ∈ r.bindings.keys := List.mem_mergeSort

/-- The names ascend, and each stands there once. -/
theorem ascending_names (r : Registry) : r.names.Pairwise (· < ·) := by
  have sorted : r.names.Pairwise fun a b ↦ decide (a ≤ b) = true :=
    List.pairwise_mergeSort (by simpa using fun a b c ↦ String.le_trans)
      (by simpa using fun a b ↦ String.le_total a b) _
  have nodup : r.names.Nodup := (List.mergeSort_perm _ _).nodup_iff.2 r.bindings.nodup_keys
  refine (sorted.and nodup).imp ?_
  rintro a b ⟨le, ne⟩
  exact Std.lt_of_le_of_ne (of_decide_eq_true le) ne

theorem Holds.get (holds : r.Holds name f place) : r.get name = .ok f := by
  rw [Registry.get, holds.1]

theorem Holds.origin (holds : r.Holds name f place) : r.origin name = .ok place := by
  rw [Registry.origin, holds.get, recordedOrigin, holds.2]
  rfl

theorem asPass_eq_ok_iff {product : Product} {p : Pass} :
    product.asPass place = .ok p ↔ product = .pass p := by
  cases product <;> simp [Product.asPass]

/-- A pass is built by name if its factory gives a pass, and one of that name. -/
theorem Holds.createFrom_eq_ok_iff (holds : r.Holds name f place) {p : Pass} :
    r.createFrom call name = .ok p ↔ call f = .pass p ∧ p.name = name := by
  have unfolded : r.createFrom call name =
      ((call f).asPass place >>= fun p ↦
        if p.name = name then .ok p else .error (.misnamed place name p.name)) := by
    rw [createFrom, holds.get, recordedOrigin, holds.2]
    rfl
  simp only [unfolded, bind_eq_ok_iff, asPass_eq_ok_iff]
  constructor
  · rintro ⟨p', given, named⟩
    split at named
    · rename_i same
      obtain rfl := Except.ok.inj named
      exact ⟨given, same⟩
    · cases named
  · rintro ⟨given, same⟩
    exact ⟨p, given, if_pos same⟩

theorem createFrom_of_not_mem (unbound : name ∉ r.names) :
    r.createFrom call name = .error (.notFound name r.names) := by
  have missing := Assoc.get?_eq_none_iff.2 (mt mem_names.2 unbound)
  rw [createFrom, Registry.get, missing]
  rfl

theorem answer_get : r.answer (.get name) = .factory <$> r.get name :=
  congrArg Prod.fst (comes_ask r (·.get name) .factory).exec_eq

theorem answer_origin : r.answer (.origin name) = .origin <$> r.origin name :=
  congrArg Prod.fst (comes_ask r (·.origin name) .origin).exec_eq

theorem answer_create : r.answer (.create name call) = .pass <$> r.createFrom call name :=
  congrArg Prod.fst (comes_ask r (·.createFrom call name) .pass).exec_eq

/-! ## Runs -/

theorem run_append (r : Registry) (ops later : List Operation) :
    r.run (ops ++ later) = (r.run ops).run later := by
  induction ops generalizing r with
  | nil => rfl
  | cons op ops ih => exact ih (r.after op)

theorem paired_run (paired : r.Paired) (ops : List Operation) : (r.run ops).Paired := by
  induction ops generalizing r with
  | nil => exact paired
  | cons op ops ih => exact ih ((moves r op).paired paired)

theorem Holds.run (holds : r.Holds name f place) (ops : List Operation) :
    (r.run ops).Holds name f place := by
  induction ops generalizing r with
  | nil => exact holds
  | cons op ops ih => exact ih ((moves r op).holds_iff.2 (.inl holds))

/-- Calls leave a closed registry as it is. -/
theorem run_of_closed (closed : r.isSealed = true) (ops : List Operation) : r.run ops = r := by
  induction ops with
  | nil => rfl
  | cons op ops ih =>
    show (r.after op).run ops = r
    rw [((moves r op).of_closed closed).1, ih]

theorem isSealed_run {ops : List Operation} (closes : .close ∈ ops) :
    (r.run ops).isSealed = true := by
  obtain ⟨before, after, rfl⟩ := List.append_of_mem closes
  have closed : (r.run before).close.isSealed = true := rfl
  rw [run_append]
  show ((r.run before).close.run after).isSealed = true
  rw [run_of_closed closed, closed]

/-- Among calls on a registry is one that was accepted and bound a name to a factory from a
place. -/
def BoundIn (r : Registry) (ops : List Operation) (name : String) (f : Factory)
    (place : String) : Prop :=
  ∃ before op after a, ops = before ++ op :: after ∧
    (r.run before).answer op = .ok a ∧ op.Binds a name f place

/-- What a registry holds after a run is what it held before and what calls of the run have
bound. -/
theorem holds_run_iff {ops : List Operation} :
    (r.run ops).Holds name f place ↔ r.Holds name f place ∨ r.BoundIn ops name f place := by
  constructor
  · intro holds
    induction ops generalizing r with
    | nil => exact .inl holds
    | cons op ops ih =>
      rcases ih holds with holds | ⟨before, op', after, a, rfl, answered, bound⟩
      · rcases (moves r op).holds_iff.1 holds with holds | ⟨a, answered, bound⟩
        · exact .inl holds
        · exact .inr ⟨[], op, ops, a, rfl, answered, bound⟩
      · exact .inr ⟨op :: before, op', after, a, rfl, answered, bound⟩
  · rintro (holds | ⟨before, op, after, a, rfl, answered, bound⟩)
    · exact holds.run ops
    · rw [run_append]
      exact Holds.run ((moves _ op).holds_iff.2 (.inr ⟨a, answered, bound⟩)) after

theorem holds_run_empty_iff {ops : List Operation} :
    (run {} ops).Holds name f place ↔ BoundIn {} ops name f place := by
  rw [holds_run_iff]
  exact or_iff_right fun holds ↦ absurd holds.mem_keys List.not_mem_nil

/-- What can be said of a registry after a sequence of calls. -/
structure Integrity (ops : List Operation) : Prop where
  /-- It holds what accepted calls have bound, and each name as its one call has bound it. -/
  holds_iff : ∀ name f place, (run {} ops).Holds name f place ↔ BoundIn {} ops name f place
  /-- A call that registers and is accepted binds a name. -/
  binds : ∀ op a, op.Registers → (run {} ops).answer op = .ok a →
    ∃ name f place, op.Binds a name f place
  /-- What is bound stays bound, to the same factory and the same origin. -/
  keeps : ∀ name f place, (run {} ops).Holds name f place →
    ∀ later, (run {} (ops ++ later)).Holds name f place
  /-- Each name has both a factory and an origin, and either can be asked for. -/
  paired : ∀ name ∈ (run {} ops).names, ∃ f place, (run {} ops).Holds name f place ∧
    (run {} ops).answer (.get name) = .ok (.factory f) ∧
      (run {} ops).answer (.origin name) = .ok (.origin place)
  ascending : (run {} ops).names.Pairwise (· < ·)
  mem_names_iff : ∀ name, name ∈ (run {} ops).names ↔ ∃ f place, BoundIn {} ops name f place
  /-- Nothing changes any more once the registry was closed, and no call that registers succeeds. -/
  closed : .close ∈ ops → ∀ later, run {} (ops ++ later) = run {} ops ∧
    ∀ op : Operation, op.Registers → ∃ e, (run {} (ops ++ later)).answer op = .error e
  refused : ∀ op e, (run {} ops).answer op = .error e → (run {} ops).after op = run {} ops
  asked : ∀ op : Operation, op.Asks → (run {} ops).after op = run {} ops
  missing : ∀ name call, name ∉ (run {} ops).names →
    (run {} ops).answer (.create name call) = .error (.notFound name (run {} ops).names)
  created : ∀ name f place call, (run {} ops).Holds name f place →
    ∀ a, (run {} ops).answer (.create name call) = .ok a ↔
      ∃ p, a = .pass p ∧ call f = .pass p ∧ p.name = name

/-- **A registry keeps its integrity** whatever it is asked to do, in whatever order. -/
theorem integrity_run (ops : List Operation) : Integrity ops := by
  have start : Paired {} := rfl
  have paired : (run {} ops).Paired := paired_run start ops
  have holds_of_mem {name : String} (listed : name ∈ (run {} ops).names) :
      ∃ f place, (run {} ops).Holds name f place := paired.exists_holds (mem_names.1 listed)
  constructor
  case holds_iff => exact fun name f place ↦ holds_run_empty_iff
  case binds =>
    intro op a registers answered
    have moved := moves (run {} ops) op
    rw [answered] at moved
    exact moved.exists_binds registers
  case keeps =>
    intro name f place holds later
    rw [run_append]
    exact holds.run later
  case paired =>
    intro name listed
    obtain ⟨f, place, holds⟩ := holds_of_mem listed
    refine ⟨f, place, holds, ?_, ?_⟩
    · rw [answer_get, holds.get]
      rfl
    · rw [answer_origin, holds.origin]
      rfl
  case ascending => exact ascending_names _
  case mem_names_iff =>
    intro name
    simp only [← holds_run_empty_iff]
    constructor
    · exact holds_of_mem
    · rintro ⟨f, place, holds⟩
      exact mem_names.2 holds.mem_keys
  case closed =>
    intro closes later
    have closed : (run {} ops).isSealed = true := isSealed_run closes
    have same : run {} (ops ++ later) = run {} ops := by rw [run_append, run_of_closed closed]
    refine ⟨same, fun op registers ↦ ?_⟩
    rw [same]
    exact ((moves _ op).of_closed closed).2 registers
  case refused =>
    intro op e refused
    have moved := moves (run {} ops) op
    rw [refused] at moved
    exact moved.eq_of_error
  case asked => exact fun op asks ↦ (moves _ op).eq_of_asks asks
  case missing =>
    intro name call unbound
    rw [answer_create, createFrom_of_not_mem unbound]
    rfl
  case created =>
    intro name f place call holds a
    simp only [answer_create, map_eq_ok_iff, holds.createFrom_eq_ok_iff]
    constructor
    · rintro ⟨p, given, rfl⟩
      exact ⟨p, rfl, given⟩
    · rintro ⟨p, rfl, given⟩
      exact ⟨p, given, rfl⟩

end Flowcheck.Registry
