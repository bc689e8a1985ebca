import Flowcheck.Pass.Manager
import Flowcheck.Proofs.Pass.Check

/-!
# Runs of several passes

A pass is a function of the bundle, so whatever a run makes of a sequence of passes it makes of each
of them alone. Two things could still come between. A pass that ends in an unforeseen fault takes
the whole run with it, and leaves no record; the passes over control flow never do, because the
faults of checks are known (`Check.Unverifiable`) and those of the printer are failed look-ups and
names that cannot be written. And a run that is not to keep going stops behind the first pass that
does not end well.

One equation accounts for both, `runPasses_append`: as long as nothing stops it, a run puts the
record and the lines of each pass in front of what the remaining passes come to.
-/

namespace Flowcheck

variable {c : RunConfig} {b : Ir.Bundle} {p : Pass} {f : Fault}

/-! ## Faults of passes over control flow -/

/-- The passes over control flow: the checks, and the printer under any name. -/
inductive Pass.OverFlow : Pass → Prop where
  | check (c : Check) : OverFlow c.pass
  | printer (names? : Option (List String)) (label name description : String) :
    OverFlow { Printer.pass names? with label, name, description }

/-- A fault that ends a pass and not the run. -/
def Fault.Recordable (f : Fault) : Prop := f.isFailure = true ∨ f.isForeseen = true

namespace Fault.Recordable

theorem failed (e : Oracle.Failure) : (Fault.failed e).Recordable := by
  cases e <;> exact .inl rfl

theorem value (e : Sexp.BuildError) : (Fault.value e).Recordable := by
  refine .inr ?_
  show (ErrorKind.isA .value .framework || ErrorKind.isA .value .query) = true
  decide

theorem unverifiable (h : Check.Unverifiable f) : f.Recordable := by
  cases h with
  | oracle e => cases e <;> exact .inr rfl
  | block _ _ => exact .inr rfl
  | function _ _ => exact .inr rfl

end Fault.Recordable

theorem Check.recordable (indexed : b.Indexed) (c : Check)
    (ended : (c.execute b).fault? = some f) : f.Recordable := by
  have agrees : c.Agrees b := c.execute_agrees b
  by_cases failed : ∃ e, f = .failed e
  · obtain ⟨e, rfl⟩ := failed
    exact .failed e
  · have other (e : Oracle.Failure) : f ≠ .failed e := fun h ↦ failed ⟨e, h⟩
    exact .unverifiable (agrees.errors indexed f ((agrees.raises f other).1 ended))

/-- The printer stops at a function with a block whose name cannot be written. -/
theorem Printer.recordable_of_printAll {functions : List Ir.Function}
    (ended : (printAll functions).fault? = some f) : f.Recordable := by
  induction functions with
  | nil => cases ended
  | cons function rest ih =>
    rw [printAll] at ended
    split at ended
    · rw [← Option.some.inj ended]
      exact .value _
    · exact ih ended

theorem Printer.recordable {names? : Option (List String)}
    (ended : (execute names? b).fault? = some f) : f.Recordable := by
  cases names? with
  | none => exact recordable_of_printAll ended
  | some names =>
    rw [execute] at ended
    split at ended
    · rename_i e missing
      obtain ⟨name, -, missing⟩ := exists_of_mapM_eq_error missing
      rw [Ir.Bundle.function] at missing
      split at missing
      · cases missing
      · rw [← Option.some.inj ended, ← Except.error.inj missing]
        exact .unverifiable (.function _ _)
    · exact recordable_of_printAll ended

theorem Pass.OverFlow.recordable (h : p.OverFlow) (indexed : b.Indexed)
    (ended : (p.execute b).fault? = some f) : f.Recordable := by
  cases h with
  | check c => exact c.recordable indexed ended
  | printer _ _ _ _ => exact Printer.recordable ended

namespace Manager

/-! ## Single passes -/

/-- What a record says of a pass. -/
structure Describes (r : RunRecord) (p : Pass) (b : Ir.Bundle) : Prop where
  name : r.name = p.name
  fault : r.fault? = (p.execute b).fault?
  ok : r.status = .ok ↔ r.fault? = none
  failed : r.status = .failed ↔ ∃ f, r.fault? = some f ∧ f.isFailure = true

theorem exists_record? (recordable : ∀ f, (p.execute b).fault? = some f → f.Recordable) :
    ∃ r, record? p (p.execute b) = some r ∧ Describes r p b := by
  rw [record?]
  cases ended : (p.execute b).fault? with
  | none => exact ⟨_, rfl, rfl, ended.symm, by simp, by simp⟩
  | some f =>
    by_cases failed : f.isFailure = true
    · exact ⟨_, if_pos failed, rfl, ended.symm, by simp, by simpa using failed⟩
    · have foreseen : f.isForeseen = true := (recordable f ended).resolve_left failed
      refine ⟨⟨p.name, .error, some f⟩, ?_, rfl, ended.symm, by simp, by simpa using failed⟩
      simp only [if_neg failed, if_pos foreseen]

/-- What a pass adds to the log of a run that goes on. -/
def passLog (p : Pass) (b : Ir.Bundle) : List LogEntry :=
  startEntry p b :: (p.execute b).log ++ (record? p (p.execute b)).toList.map endEntry

/-! ## The loop -/

/-- One round of the loop. -/
theorem runPasses_cons {r : RunRecord} (recorded : record? p (p.execute b) = some r)
    (keepGoing : Bool) (rest : List Pass) :
    runPasses keepGoing b (p :: rest) =
      (if r.fault?.isSome && !keepGoing then {} else runPasses keepGoing b rest).after
        [r] (p.execute b).lines (passLog p b) := by
  rw [runPasses, passLog, recorded]
  rfl

/-- **Nothing passes from one pass to the next.** As long as no pass stops the run, each puts its
record, its lines and its log in front of what comes after. -/
theorem runPasses_append {keepGoing : Bool} {before : List Pass}
    (goes : ∀ p ∈ before, ∃ r, record? p (p.execute b) = some r ∧
      (keepGoing = true ∨ r.fault? = none)) (rest : List Pass) :
    runPasses keepGoing b (before ++ rest) = (runPasses keepGoing b rest).after
      (before.flatMap fun p ↦ (record? p (p.execute b)).toList)
      (before.flatMap fun p ↦ (p.execute b).lines) (before.flatMap fun p ↦ passLog p b) := by
  induction before with
  | nil => rfl
  | cons p before ih =>
    obtain ⟨r, recorded, going⟩ := goes p List.mem_cons_self
    have on : (r.fault?.isSome && !keepGoing) = false := by
      rcases going with rfl | ended
      · exact Bool.and_false _
      · rw [ended]
        rfl
    rw [List.cons_append, runPasses_cons recorded, on, if_neg Bool.false_ne_true,
      ih fun q hq ↦ goes q (List.mem_cons_of_mem p hq)]
    simp only [RunOutcome.after, List.flatMap_cons, recorded, Option.toList_some, List.append_assoc]

/-! ## Runs -/

theorem join_flatMap_map {α : Type} (f : α → List String) (g : String → String) (as : List α) :
    String.join ((as.flatMap f).map g) =
      String.join (as.map fun a ↦ String.join ((f a).map g)) := by
  induction as with
  | nil => rfl
  | cons a as ih =>
    rw [List.flatMap_cons, List.map_append, String.join_append, ih, List.map_cons, String.join_cons]

/-- The log of a run before its first pass. -/
def warningLog (c : RunConfig) : List LogEntry :=
  c.warnings.map fun w ↦ ⟨.warning, logSource, "RunConfig: " ++ w, false⟩

/-- Whether a run gets to its passes. -/
def Admits (c : RunConfig) (b : Ir.Bundle) : Prop := c.validateIr = true → b.validate = .ok ()

theorem run_of_admits (admits : Admits c b) (ps : List Pass) :
    run c ps b = (runPasses c.keepGoing b ps).after [] [] (warningLog c) := by
  have checked : (if c.validateIr then b.validate else .ok ()) = .ok () := by
    split
    · exact admits ‹_›
    · rfl
  rw [run, checked]
  rfl

theorem run_of_invalid {e : Ir.Error} (asked : c.validateIr = true)
    (invalid : b.validate = .error e) (ps : List Pass) :
    run c ps b = { log := warningLog c, aborted? := some (.graph e) } := by
  rw [run, asked, if_pos rfl, invalid]
  show RunOutcome.mk [] [] (warningLog c ++ []) _ = _
  rw [List.append_nil]

/-- What passes come to one after the other, if none of them stops the run. -/
def joined (c : RunConfig) (ps : List Pass) (b : Ir.Bundle) : RunOutcome where
  records := ps.flatMap fun p ↦ (record? p (p.execute b)).toList
  lines := ps.flatMap fun p ↦ (p.execute b).lines
  log := warningLog c ++ ps.flatMap fun p ↦ passLog p b

section Admitted

variable (admits : Admits c b)

include admits

theorem run_eq_joined {ps : List Pass}
    (goes : ∀ p ∈ ps, ∃ r, record? p (p.execute b) = some r ∧
      (c.keepGoing = true ∨ r.fault? = none)) : run c ps b = joined c ps b := by
  rw [run_of_admits admits, ← List.append_nil ps, runPasses_append goes [], List.append_nil]
  simp only [RunOutcome.after, runPasses, joined, List.append_nil, List.nil_append]

/-- A pass alone does not depend on whether the run is to keep going. -/
theorem run_alone {r : RunRecord} (recorded : record? p (p.execute b) = some r) :
    run c [p] b = joined c [p] b := by
  rw [run_of_admits admits, runPasses_cons recorded]
  split <;> simp [RunOutcome.after, runPasses, joined, recorded]

theorem run_of_stop (stops : c.keepGoing = false) {before : List Pass} {r : RunRecord}
    (goes : ∀ p ∈ before, ∃ r, record? p (p.execute b) = some r ∧ r.fault? = none)
    (recorded : record? p (p.execute b) = some r) (ended : r.fault?.isSome = true)
    (after : List Pass) : run c (before ++ p :: after) b = joined c (before ++ [p]) b := by
  have goes : ∀ p ∈ before, ∃ r, record? p (p.execute b) = some r ∧
      (false = true ∨ r.fault? = none) := fun q hq ↦
    (goes q hq).imp fun _ ⟨recorded, well⟩ ↦ ⟨recorded, .inr well⟩
  rw [run_of_admits admits, stops, runPasses_append goes, runPasses_cons recorded, ended]
  simp [RunOutcome.after, joined, recorded]

end Admitted

/-! ## Runs and their passes -/

/-- A run of one pass: its record and what it has written. -/
structure RunsAlone (c : RunConfig) (p : Pass) (b : Ir.Bundle) (r : RunRecord) : Prop where
  records : (run c [p] b).records = [r]
  lines : (run c [p] b).lines = (p.execute b).lines
  finished : (run c [p] b).aborted? = none
  describes : Describes r p b

/-- An outcome put together from the runs of passes alone, in their order. -/
structure Joins (c : RunConfig) (ps : List Pass) (b : Ir.Bundle) (o : RunOutcome) : Prop where
  records : o.records = ps.flatMap fun p ↦ (run c [p] b).records
  lines : o.lines = ps.flatMap fun p ↦ (run c [p] b).lines
  text : o.text = String.join (ps.map fun p ↦ (run c [p] b).text)
  finished : o.aborted? = none

/-- Whether a pass alone ends well. -/
def EndsWell (c : RunConfig) (p : Pass) (b : Ir.Bundle) : Prop :=
  ∀ r ∈ (run c [p] b).records, r.status = .ok

/-- What a run that gets to its passes comes to, in terms of the runs of each of them alone. -/
structure RunsInTurn (c : RunConfig) (ps : List Pass) (b : Ir.Bundle) : Prop where
  alone : ∀ p ∈ ps, ∃ r, RunsAlone c p b r
  keepsGoing : c.keepGoing = true → Joins c ps b (run c ps b)
  permuted : c.keepGoing = true → ∀ qs, qs.Perm ps →
    Joins c qs b (run c qs b) ∧ (run c qs b).records.Perm (run c ps b).records ∧
      (run c qs b).lines.Perm (run c ps b).lines
  /-- A run that is not to keep going gets to its end, or to the first pass that does not end well
  and no further. -/
  stops : c.keepGoing = false →
    ((∀ p ∈ ps, EndsWell c p b) ∧ Joins c ps b (run c ps b)) ∨
    ∃ before p after, ps = before ++ p :: after ∧ (∀ q ∈ before, EndsWell c q b) ∧
      ¬ EndsWell c p b ∧ Joins c (before ++ [p]) b (run c ps b)

theorem RunsAlone.endsWell_iff {r : RunRecord} (alone : RunsAlone c p b r) :
    EndsWell c p b ↔ r.fault? = none := by
  rw [EndsWell, alone.records, List.forall_mem_singleton, alone.describes.ok]

/-- A pass that a run records, and the run of it alone. -/
def Recorded (c : RunConfig) (b : Ir.Bundle) (p : Pass) : Prop :=
  ∃ r, record? p (p.execute b) = some r ∧ RunsAlone c p b r

theorem recorded_of_overFlow (admits : Admits c b) (indexed : b.Indexed) (overFlow : p.OverFlow) :
    Recorded c b p := by
  obtain ⟨r, recorded, describes⟩ := exists_record? fun _ ended ↦ overFlow.recordable indexed ended
  have alone := run_alone admits recorded
  refine ⟨r, recorded, ?_, ?_, ?_, describes⟩
  · simp [alone, joined, recorded]
  · simp [alone, joined]
  · simp [alone, joined]

theorem joins_joined {ps : List Pass} (recorded : ∀ p ∈ ps, Recorded c b p) :
    Joins c ps b (joined c ps b) := by
  have lines : (joined c ps b).lines = ps.flatMap fun p ↦ (run c [p] b).lines := by
    refine (List.flatMap_congr fun p hp ↦ ?_).symm
    obtain ⟨r, -, alone⟩ := recorded p hp
    exact alone.lines
  refine ⟨(List.flatMap_congr fun p hp ↦ ?_).symm, lines, ?_, rfl⟩
  · obtain ⟨r, here, alone⟩ := recorded p hp
    rw [alone.records, here]
    rfl
  · rw [RunOutcome.text, lines, join_flatMap_map]
    rfl

theorem joins_of_keepGoing (admits : Admits c b) (keepGoing : c.keepGoing = true) {ps : List Pass}
    (recorded : ∀ p ∈ ps, Recorded c b p) : Joins c ps b (run c ps b) := by
  rw [run_eq_joined admits fun p hp ↦ (recorded p hp).imp fun r h ↦ ⟨h.1, .inl keepGoing⟩]
  exact joins_joined recorded

theorem joins_of_stops (admits : Admits c b) (stops : c.keepGoing = false) {ps : List Pass}
    (recorded : ∀ p ∈ ps, Recorded c b p) :
    ((∀ p ∈ ps, EndsWell c p b) ∧ Joins c ps b (run c ps b)) ∨
    ∃ before p after, ps = before ++ p :: after ∧ (∀ q ∈ before, EndsWell c q b) ∧
      ¬ EndsWell c p b ∧ Joins c (before ++ [p]) b (run c ps b) := by
  -- What a pass that ends well is recorded as.
  have well {q : Pass} (hq : q ∈ ps) (ends : EndsWell c q b) :
      ∃ r, record? q (q.execute b) = some r ∧ r.fault? = none := by
    obtain ⟨r, here, alone⟩ := recorded q hq
    exact ⟨r, here, alone.endsWell_iff.1 ends⟩
  by_cases all : ∀ p ∈ ps, EndsWell c p b
  · refine .inl ⟨all, ?_⟩
    rw [run_eq_joined admits fun p hp ↦ (well hp (all p hp)).imp fun r h ↦ ⟨h.1, .inr h.2⟩]
    exact joins_joined recorded
  · obtain ⟨before, p, after, rfl, passed, refused⟩ := exists_first_not all
    have hp : p ∈ before ++ p :: after := List.mem_append_right _ List.mem_cons_self
    obtain ⟨r, here, alone⟩ := recorded p hp
    have ended : r.fault?.isSome = true := by
      rw [alone.endsWell_iff] at refused
      exact Option.isSome_iff_ne_none.2 refused
    refine .inr ⟨before, p, after, rfl, passed, refused, ?_⟩
    rw [run_of_stop admits stops (fun q hq ↦ well (List.mem_append_left _ hq) (passed q hq)) here
      ended]
    refine joins_joined fun q hq ↦ recorded q ?_
    rcases List.mem_append.1 hq with hq | hq
    · exact List.mem_append_left _ hq
    · rwa [List.mem_singleton.1 hq]

theorem runsInTurn_of_recorded (admits : Admits c b) {ps : List Pass}
    (recorded : ∀ p ∈ ps, Recorded c b p) : RunsInTurn c ps b := by
  constructor
  case alone =>
    intro p hp
    obtain ⟨r, -, alone⟩ := recorded p hp
    exact ⟨r, alone⟩
  case keepsGoing => exact fun keepGoing ↦ joins_of_keepGoing admits keepGoing recorded
  case permuted =>
    intro keepGoing qs perm
    have kept := joins_of_keepGoing admits keepGoing recorded
    have kept' : Joins c qs b (run c qs b) := joins_of_keepGoing admits keepGoing fun q hq ↦
      recorded q (perm.mem_iff.1 hq)
    refine ⟨kept', ?_, ?_⟩
    · rw [kept.records, kept'.records]
      exact perm.flatMap_right _
    · rw [kept.lines, kept'.lines]
      exact perm.flatMap_right _
  case stops => exact fun stops ↦ joins_of_stops admits stops recorded

/-- **A run of passes over control flow is nothing but the runs of its passes**, up to the one at
which it stops. It does not get to any of them if the bundle is to be valid and is not. -/
theorem run_in_turn (c : RunConfig) (b : Ir.Bundle) {ps : List Pass}
    (overFlow : ∀ p ∈ ps, p.OverFlow) :
    (∀ e, c.validateIr = true → b.validate = .error e →
      run c ps b = { log := warningLog c, aborted? := some (.graph e) }) ∧
    (b.Indexed → Admits c b → RunsInTurn c ps b) := by
  constructor
  · intro e asked invalid
    exact run_of_invalid asked invalid ps
  · intro indexed admits
    refine runsInTurn_of_recorded admits fun p hp ↦ ?_
    exact recorded_of_overFlow admits indexed (overFlow p hp)

/-- Three passes over a valid bundle, the second of which has an oracle that says nothing. A run
that is not to keep going leaves records of the first two. -/
theorem run_in_turn_unreadable :
    let broken : Check := { name := "broken", expected := .text "(" }
    let ps : List Pass := [Printer.pass (some ["g"]), broken.pass, Printer.pass none]
    ∃ b, Oracle.twoFunctions.bundle? 1 = some b ∧ b.Indexed ∧ (∀ p ∈ ps, p.OverFlow) ∧
      Admits {} b ∧ RunsInTurn {} ps b ∧
      (run {} ps b).records.map (fun r ↦ (r.name, r.status)) =
        [("print-cfg", .ok), ("broken", .error)] := by
  intro broken ps
  have wf : Oracle.twoFunctions.WellFormed := (Ir.Store.wellFormed_empty 1).run _
  have printed : (Oracle.twoFunctions.bundle? 1).map
      (fun b ↦ (Printer.execute (some ["g"]) b).fault?.isNone) = some true := by cbv
  obtain ⟨b, hb, printed⟩ := Option.map_eq_some_iff.1 printed
  have indexed := (wf.bundle hb).indexed
  have admits : Admits {} b := fun _ ↦ (wf.bundle hb).validate_ok
  have overFlow : ∀ p ∈ ps, p.OverFlow := by
    simp only [ps, List.forall_mem_cons]
    exact ⟨.printer (some ["g"]) _ _ _, .check broken, .printer none _ _ _, by simp⟩
  have first : record? (Printer.pass (some ["g"])) (Printer.execute (some ["g"]) b) =
      some ⟨"print-cfg", .ok, none⟩ := by
    rw [record?, Option.isNone_iff_eq_none.1 printed]
    rfl
  have unreadable : broken.verifier.edges.isOk = false := by cbv
  cases decoded : broken.verifier.edges with
  | ok _ => simp [decoded, Except.isOk, Except.toBool] at unreadable
  | error e =>
    obtain ⟨x, rfl⟩ := Oracle.Verifier.oracle_of_edges_error decoded
    have second : record? broken.pass (broken.execute b) =
        some ⟨"broken", .error, some (.oracle x)⟩ := by
      rw [Check.execute, decoded]
      cases x <;> rfl
    refine ⟨b, hb, indexed, overFlow, admits, (run_in_turn {} b overFlow).2 indexed admits, ?_⟩
    rw [run_of_admits admits, runPasses_cons first, runPasses_cons second]
    rfl

end Manager

end Flowcheck
