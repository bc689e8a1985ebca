/-!
# Chains of checks

A check answers or fails, and a chain of checks fails with the first of them that does. The lemmas
here take a chain apart into its links.
-/

namespace Flowcheck

variable {ε α β : Type}

/-! ## Without a state -/

theorem bind_eq_ok_iff {x : Except ε α} {f : α → Except ε β} {b : β} :
    (x >>= f) = .ok b ↔ ∃ a, x = .ok a ∧ f a = .ok b := by
  cases x with
  | error e => simp [bind, Except.bind]
  | ok a => simp [bind, Except.bind]

theorem map_eq_ok_iff {x : Except ε α} {f : α → β} {b : β} :
    f <$> x = .ok b ↔ ∃ a, x = .ok a ∧ f a = b := by
  cases x with
  | error e => simp [Functor.map, Except.map]
  | ok a => simp [Functor.map, Except.map]

theorem bind_eq_error_iff {x : Except ε α} {f : α → Except ε β} {e : ε} :
    (x >>= f) = .error e ↔ x = .error e ∨ ∃ a, x = .ok a ∧ f a = .error e := by
  cases x with
  | error e => simp [bind, Except.bind]
  | ok a => simp [bind, Except.bind]

/-- A check that does not answer fails. -/
theorem exists_error_iff {x : Except ε α} : (∃ e, x = .error e) ↔ ¬ ∃ a, x = .ok a := by
  cases x <;> simp

/-- What an error is turned into does not matter to an answer. -/
theorem mapError_eq_ok_iff {ε' : Type} {x : Except ε α} {f : ε → ε'} {a : α} :
    x.mapError f = .ok a ↔ x = .ok a := by
  cases x with
  | error e => exact iff_of_false nofun nofun
  | ok a' =>
    have answers {ε₁ ε₂ : Type} (h : (.ok a' : Except ε₁ α) = .ok a) :
        (.ok a' : Except ε₂ α) = .ok a := congrArg Except.ok (Except.ok.inj h)
    exact ⟨answers, answers⟩

theorem forM_eq_ok {f : α → Except ε Unit} {as : List α} (h : ∀ a ∈ as, f a = .ok ()) :
    as.forM f = .ok () := by
  induction as with
  | nil => rfl
  | cons a as ih =>
    show (f a >>= fun _ ↦ as.forM f) = .ok ()
    rw [h a List.mem_cons_self]
    exact ih fun a' ha ↦ h a' (List.mem_cons_of_mem a ha)

/-- A list of checks fails at the first one that does. -/
theorem forM_eq_error {f : α → Except ε Unit} {before : List α} {a : α} {e : ε}
    (passed : ∀ a' ∈ before, f a' = .ok ()) (failed : f a = .error e) (after : List α) :
    (before ++ a :: after).forM f = .error e := by
  induction before with
  | nil =>
    show (f a >>= fun _ ↦ after.forM f) = .error e
    rw [failed]
    rfl
  | cons a' before ih =>
    show (f a' >>= fun _ ↦ (before ++ a :: after).forM f) = .error e
    rw [passed a' List.mem_cons_self]
    exact ih fun a'' ha'' ↦ passed a'' (List.mem_cons_of_mem a' ha'')

/-- A list of questions that fails, fails at one of them. -/
theorem exists_of_mapM_eq_error {f : α → Except ε β} {as : List α} {e : ε}
    (failed : as.mapM f = .error e) : ∃ a ∈ as, f a = .error e := by
  induction as with
  | nil => cases failed
  | cons a as ih =>
    rw [List.mapM_cons, bind_eq_error_iff] at failed
    rcases failed with failed | ⟨b, -, failed⟩
    · exact ⟨a, List.mem_cons_self, failed⟩
    · rcases bind_eq_error_iff.1 failed with failed | ⟨bs, -, failed⟩
      · obtain ⟨a', ha', failed⟩ := ih failed
        exact ⟨a', List.mem_cons_of_mem a ha', failed⟩
      · cases failed

/-- If not all members of a list have a property, there is a first one that does not. -/
theorem exists_first_not {P : α → Prop} {as : List α} (h : ¬ ∀ a ∈ as, P a) :
    ∃ before a after, as = before ++ a :: after ∧ (∀ a' ∈ before, P a') ∧ ¬ P a := by
  induction as with
  | nil => exact absurd (by simp) h
  | cons a as ih =>
    by_cases ha : P a
    · have rest : ¬ ∀ a' ∈ as, P a' := fun all ↦ h (List.forall_mem_cons.2 ⟨ha, all⟩)
      obtain ⟨before, a', after, rfl, passed, failed⟩ := ih rest
      exact ⟨a :: before, a', after, rfl, List.forall_mem_cons.2 ⟨ha, passed⟩, failed⟩
    · exact ⟨[], a, as, rfl, by simp, ha⟩

/-- There is only one first member of a list that does not have a property. -/
theorem first_not_unique {P : α → Prop} {before before' after after' : List α} {a a' : α}
    (same : before ++ a :: after = before' ++ a' :: after') (passed : ∀ x ∈ before, P x)
    (failed : ¬ P a) (passed' : ∀ x ∈ before', P x) (failed' : ¬ P a') : a = a' := by
  induction before generalizing before' with
  | nil =>
    cases before' with
    | nil => exact (List.cons.inj same).1
    | cons x before' =>
      obtain rfl : a = x := (List.cons.inj same).1
      exact absurd (passed' a List.mem_cons_self) failed
  | cons x before ih =>
    obtain ⟨here, passed⟩ := List.forall_mem_cons.1 passed
    cases before' with
    | nil =>
      obtain rfl : x = a' := (List.cons.inj same).1
      exact absurd here failed'
    | cons x' before' =>
      exact ih (List.cons.inj same).2 passed fun y hy ↦ passed' y (List.mem_cons_of_mem x' hy)

/-- Either all members of a list pass a check or there is a first one that fails it. -/
theorem forall_ok_or_exists_first (f : α → Except ε Unit) (as : List α) :
    (∀ a ∈ as, f a = .ok ()) ∨ ∃ before a after e,
      as = before ++ a :: after ∧ (∀ a' ∈ before, f a' = .ok ()) ∧ f a = .error e := by
  by_cases all : ∀ a ∈ as, f a = .ok ()
  · exact .inl all
  · obtain ⟨before, a, after, split, passed, refused⟩ := exists_first_not all
    cases ha : f a with
    | error e => exact .inr ⟨before, a, after, e, split, passed, ha⟩
    | ok _ => exact absurd ha refused

/-! ## With a state -/

section State

variable {σ : Type} {s s' : σ}

/-- What comes second continues from the state that the first left behind. -/
theorem run_bind_of_ok {m : ExceptT ε (StateM σ) α} {a : α} (h : m.run.run s = (.ok a, s'))
    (f : α → ExceptT ε (StateM σ) β) : (m >>= f).run.run s = (f a).run.run s' := by
  rw [ExceptT.run_bind, StateT.run_bind, h]
  rfl

theorem run_bind_of_error {m : ExceptT ε (StateM σ) α} {e : ε}
    (h : m.run.run s = (.error e, s')) (f : α → ExceptT ε (StateM σ) β) :
    (m >>= f).run.run s = (.error e, s') := by
  rw [ExceptT.run_bind, StateT.run_bind, h]
  rfl

theorem run_liftM (x : Except ε α) (s : σ) :
    (liftM x : ExceptT ε (StateM σ) α).run.run s = (x, s) := by
  cases x <;> rfl

end State

end Flowcheck
