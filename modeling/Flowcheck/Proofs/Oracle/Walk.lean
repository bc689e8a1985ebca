import Flowcheck.Proofs.Oracle.Edges

/-!
# Walks of a verifier

A verifier has a handler for functions and no other, so a walk over a bundle enters the functions in
their order, goes no deeper, and ends at the first function that is refused. What it has done until
then is known from the functions alone: those before the refused one are the checked ones.
-/

namespace Flowcheck.Oracle

namespace Verifier

variable {v : Verifier}

/-! ## The handlers that are called -/

/-- The only attribute of a verifier has a meaning of its own. -/
theorem tagged_visitor (v : Verifier) : v.visitor.tagged = [] := by
  have named : Ir.enterName .function ∈ Ir.hookNames := Ir.mem_hookNames_iff.2 ⟨.function, .inl rfl⟩
  simp [Ir.Visitor.tagged, visitor, named]

theorem enter_table (v : Verifier) (k : Ir.Kind) :
    v.visitor.table.enter k = if k = .function then [v.handler] else [] := by
  have untagged : v.visitor.taggedHandlers k = [] := by
    rw [Ir.Visitor.taggedHandlers, tagged_visitor, List.flatMap_nil]
  show (v.visitor.handler? (Ir.enterName k)).toList ++ v.visitor.taggedHandlers k = _
  rw [untagged, List.append_nil]
  cases k <;> rfl

theorem leave_table (v : Verifier) (k : Ir.Kind) : v.visitor.table.leave k = [] := by
  cases k <;> rfl

theorem deepest?_table (v : Verifier) : v.visitor.table.deepest? = some .function := by
  have concerns (k : Ir.Kind) : v.visitor.table.concerns k = decide (k = .function) := by
    rw [Ir.HandlerTable.concerns, enter_table, leave_table]
    cases k <;> rfl
  rw [Ir.HandlerTable.deepest?, funext concerns]
  rfl

theorem visit_function (v : Verifier) (f : Ir.Function) :
    v.visitor.table.visit 0 (.function f) = v.enterFunction f := by
  simp [Ir.HandlerTable.visit, Ir.HandlerTable.runEnter, Ir.HandlerTable.runLeave, enter_table,
    leave_table, Ir.Node.kind, handler]

theorem visit_bundle (v : Verifier) (b : Ir.Bundle) :
    v.visitor.table.visit 1 (.bundle b) = b.functions.forM v.enterFunction := by
  have children : (Ir.Node.bundle b).children.forM (v.visitor.table.visit 0) =
      b.functions.forM v.enterFunction := by
    rw [Ir.Node.children, List.forM_eq_forM, List.forM_map]
    exact congrArg b.functions.forM (funext (visit_function v))
  have asked : v.visitor.table.runEnter (.bundle b) = pure .proceed := by
    rw [Ir.HandlerTable.runEnter, enter_table]
    rfl
  have left : v.visitor.table.runLeave (.bundle b) = pure () := by
    rw [Ir.HandlerTable.runLeave, leave_table]
    rfl
  rw [Ir.HandlerTable.visit, asked, pure_bind, left, children]
  simp

/-- **A verifier enters the functions of a bundle one after the other.** -/
theorem walk_bundle (v : Verifier) (b : Ir.Bundle) :
    Ir.walk (.bundle b) v.visitor none = b.functions.forM v.enterFunction := by
  rw [Ir.walk, Ir.HandlerTable.walk, deepest?_table]
  exact visit_bundle v b

/-! ## One function -/

/-- Whether a function is not left out by a restriction to others. -/
def concerns (v : Verifier) (f : Ir.Function) : Bool := v.function?.all (· = f.name)

/-- The number of blocks, compared if one is required. -/
def checkCount (v : Verifier) (f : Ir.Function) : Except Fault Unit :=
  match v.blockCount? with
  | some expected => checkBlockCount f expected
  | none => .ok ()

/-- The comparison of one function with the expected edges. -/
def compare (v : Verifier) (edges : List ExpectedEdge) (f : Ir.Function) : Except Fault Unit := do
  v.checkCount f
  checkEdges f edges

theorem enterFunction_of_not_concerns {f : Ir.Function} (h : v.concerns f = false) :
    v.enterFunction f = pure () := by
  rw [concerns] at h
  simp [enterFunction, h]

theorem enterFunction_of_concerns {f : Ir.Function} (h : v.concerns f = true)
    {edges : List ExpectedEdge} (hedges : v.edges = .ok edges) :
    v.enterFunction f = (do
      liftM (v.checkCount f)
      (edges.takeWhile (hasEdge f)).forM fun edge ↦
        note .debug s!"{f.name}: edge #{edge.position} {edge.text} ok"
      liftM (checkEdges f edges)
      modify fun p ↦ { p with checked := p.checked ++ [f.name] }
      note .info s!"{f.name}: {edges.length} edge(s) verified") := by
  rw [concerns] at h
  rw [enterFunction, if_pos h, hedges, checkCount]
  cases v.blockCount? <;> rfl

/-- Notes change nothing but the log. -/
theorem run_notes {α : Type} (as : List α) (level : LogLevel) (message : α → String)
    (p : Progress) :
    ∃ log, (as.forM fun a ↦ note level (message a)).run.run p = (.ok (), ⟨p.checked, log⟩) := by
  induction as generalizing p with
  | nil => exact ⟨p.log, rfl⟩
  | cons a as ih => exact ih _

/-- A function that passes is a checked one from then on. -/
theorem run_enterFunction_of_ok {f : Ir.Function} (h : v.concerns f = true)
    {edges : List ExpectedEdge} (hedges : v.edges = .ok edges)
    (passed : v.compare edges f = .ok ()) (p : Progress) :
    ∃ log, (v.enterFunction f).run.run p = (.ok (), ⟨p.checked ++ [f.name], log⟩) := by
  obtain ⟨_, count, found⟩ := bind_eq_ok_iff.1 passed
  obtain ⟨log, notes⟩ := run_notes (edges.takeWhile (hasEdge f)) .debug
    (fun edge ↦ s!"{f.name}: edge #{edge.position} {edge.text} ok") p
  rw [enterFunction_of_concerns h hedges, count, found, run_bind_of_ok (run_liftM _ _),
    run_bind_of_ok notes, run_bind_of_ok (run_liftM _ _)]
  exact ⟨_, rfl⟩

/-- A function that is refused leaves the checked ones as they are. -/
theorem run_enterFunction_of_error {f : Ir.Function} (h : v.concerns f = true)
    {edges : List ExpectedEdge} (hedges : v.edges = .ok edges) {x : Fault}
    (refused : v.compare edges f = .error x) (p : Progress) :
    ∃ log, (v.enterFunction f).run.run p = (.error x, ⟨p.checked, log⟩) := by
  obtain ⟨log, notes⟩ := run_notes (edges.takeWhile (hasEdge f)) .debug
    (fun edge ↦ s!"{f.name}: edge #{edge.position} {edge.text} ok") p
  rw [enterFunction_of_concerns h hedges]
  rw [compare] at refused
  cases count : v.checkCount f with
  | error y =>
    rw [count] at refused
    obtain rfl : y = x := Except.error.inj refused
    exact ⟨_, run_bind_of_error (run_liftM _ _) _⟩
  | ok _ =>
    rw [count] at refused
    have missing : checkEdges f edges = .error x := refused
    rw [missing, run_bind_of_ok (run_liftM _ _), run_bind_of_ok notes]
    exact ⟨_, run_bind_of_error (run_liftM _ _) _⟩

/-! ## The functions of a bundle -/

/-- Functions that the verifier is not concerned with may as well not be there. -/
theorem forM_enterFunction_filter (v : Verifier) (fs : List Ir.Function) :
    fs.forM v.enterFunction = (fs.filter v.concerns).forM v.enterFunction := by
  induction fs with
  | nil => rfl
  | cons f fs ih =>
    cases h : v.concerns f with
    | true =>
      rw [List.filter_cons_of_pos h]
      exact congrArg (v.enterFunction f >>= fun _ ↦ ·) ih
    | false =>
      rw [List.filter_cons_of_neg (by simp [h]), ← ih]
      show (v.enterFunction f >>= fun _ ↦ fs.forM v.enterFunction) = _
      rw [enterFunction_of_not_concerns h, pure_bind]

theorem run_functions_of_ok {edges : List ExpectedEdge} (hedges : v.edges = .ok edges)
    {fs : List Ir.Function} (concerned : ∀ f ∈ fs, v.concerns f = true)
    (passed : ∀ f ∈ fs, v.compare edges f = .ok ()) (p : Progress) :
    ∃ log, (fs.forM v.enterFunction).run.run p =
      (.ok (), ⟨p.checked ++ fs.map Ir.Function.name, log⟩) := by
  induction fs generalizing p with
  | nil => exact ⟨p.log, by rw [List.map_nil, List.append_nil]; rfl⟩
  | cons f fs ih =>
    obtain ⟨hf, hfs⟩ := List.forall_mem_cons.1 concerned
    obtain ⟨pf, pfs⟩ := List.forall_mem_cons.1 passed
    obtain ⟨log, first⟩ := run_enterFunction_of_ok hf hedges pf p
    obtain ⟨log', rest⟩ := ih hfs pfs ⟨p.checked ++ [f.name], log⟩
    refine ⟨log', ?_⟩
    show (v.enterFunction f >>= fun _ ↦ fs.forM v.enterFunction).run.run p = _
    rw [run_bind_of_ok first, rest, List.map_cons, List.append_assoc, List.singleton_append]

/-- The first function that is refused is the last one that is entered. -/
theorem run_functions_of_error {edges : List ExpectedEdge} (hedges : v.edges = .ok edges)
    {before after : List Ir.Function} {f : Ir.Function} {x : Fault}
    (concerned : ∀ g ∈ before ++ f :: after, v.concerns g = true)
    (passed : ∀ g ∈ before, v.compare edges g = .ok ())
    (refused : v.compare edges f = .error x) (p : Progress) :
    ∃ log, ((before ++ f :: after).forM v.enterFunction).run.run p =
      (.error x, ⟨p.checked ++ before.map Ir.Function.name, log⟩) := by
  obtain ⟨hbefore, hrest⟩ := List.forall_mem_append.1 concerned
  obtain ⟨log, first⟩ := run_functions_of_ok hedges hbefore passed p
  obtain ⟨log', second⟩ := run_enterFunction_of_error (hrest f List.mem_cons_self) hedges refused
    ⟨p.checked ++ before.map Ir.Function.name, log⟩
  have split : (before ++ f :: after).forM v.enterFunction =
      (before.forM v.enterFunction >>= fun _ ↦ (f :: after).forM v.enterFunction) :=
    List.forM_append
  refine ⟨log', ?_⟩
  rw [split, run_bind_of_ok first]
  exact run_bind_of_error second _

end Verifier

end Flowcheck.Oracle
