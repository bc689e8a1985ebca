import Flowcheck.Pass.Check
import Flowcheck.Proofs.Oracle.Verdict

/-!
# Checks and verdicts

A check runs the same verifier that a verification runs, but it is not written in terms of one. A
verification looks up the function that it is restricted to before it walks; a check walks first and
looks the function up afterwards, and only if nothing was compared. The two moments make no
difference. A walk that is restricted to a function that is not there compares nothing and ends
well, so the look-up behind it is reached and fails as the one in front would have; and where the
function is there, a walk that ends well has compared it, so the look-up behind it is left out.

Hence a check does nothing but present what verifying comes to: the verdict as a line, and anything
else as no line at all.
-/

namespace Flowcheck

open Oracle (Verifier Verdict Progress ExpectedEdge Failure verify)

/-! ## Walks to the end -/

namespace Oracle.Verifier

variable {v : Verifier} {b : Ir.Bundle}

theorem walk_eq_forM (v : Verifier) (b : Ir.Bundle) (p : Progress) :
    v.walk b p = ((b.functions.filter v.concerns).forM v.enterFunction).run.run p := by
  rw [walk, walk_bundle, forM_enterFunction_filter]

theorem oracle_of_edges_error {e : Fault} (h : v.edges = .error e) : ∃ x, e = .oracle x := by
  rw [edges] at h
  cases decoded : decode v.literal with
  | error x =>
    rw [decoded] at h
    exact ⟨x, (Except.error.inj h).symm⟩
  | ok _ =>
    rw [decoded] at h
    cases h

/-- A walk that ends well has checked every function that the verifier is concerned with. -/
theorem checked_of_walk {edges : List ExpectedEdge} (hedges : v.edges = .ok edges) {p : Progress}
    (walked : v.walk b {} = (.ok (), p)) :
    p.checked = (b.functions.filter v.concerns).map Ir.Function.name := by
  have concerned : ∀ f ∈ b.functions.filter v.concerns, v.concerns f = true :=
    fun f hf ↦ (List.mem_filter.1 hf).2
  rw [walk_eq_forM] at walked
  rcases forall_ok_or_exists_first (v.compare edges) (b.functions.filter v.concerns) with
    passed | ⟨before, f, after, x, split, passed, refused⟩
  · obtain ⟨log, run⟩ := run_functions_of_ok hedges concerned passed {}
    rw [run] at walked
    rw [← (Prod.mk.inj walked).2, List.nil_append]
  · rw [split] at concerned walked
    obtain ⟨log, run⟩ := run_functions_of_error hedges concerned passed refused {}
    rw [run] at walked
    exact absurd (Prod.mk.inj walked).1 (by simp)

/-- A walk that the verifier is concerned with no function of. -/
theorem walk_of_concerns_none (none : b.functions.filter v.concerns = []) :
    v.walk b {} = (.ok (), {}) := by
  rw [walk_eq_forM, none]
  rfl

/-- The functions that a restricted verifier is concerned with are the ones that a look-up could
find. -/
theorem filter_concerns_eq_nil_iff {name : String} (restricted : v.function? = some name) :
    b.functions.filter v.concerns = [] ↔ b.function? name = none := by
  rw [List.filter_eq_nil_iff, Ir.Bundle.function?, List.find?_eq_none]
  simp [concerns, restricted, eq_comm]

end Oracle.Verifier

namespace Check

variable {c : Check} {b : Ir.Bundle}

/-! ## The two look-ups -/

/-- **The look-up in front of the walk and the one behind it agree.** Either both succeed, the one
behind it after a walk that has checked all there was to check; or the one in front fails, the walk
has nothing to check, and the one behind it fails with the same error. -/
theorem lookups_agree (c : Check) (b : Ir.Bundle) :
    ((∃ found, c.function?.mapM b.function = .ok found) ∧ c.demandFunction b
      ((b.functions.filter c.verifier.concerns).map Ir.Function.name) = .ok ()) ∨
    ∃ e, c.function?.mapM b.function = .error e ∧
      b.functions.filter c.verifier.concerns = [] ∧ c.demandFunction b [] = .error e := by
  cases restricted : c.function? with
  | none =>
    refine .inl ⟨⟨none, rfl⟩, ?_⟩
    rw [demandFunction, restricted]
  | some name =>
    have concerned : b.functions.filter c.verifier.concerns = [] ↔ b.function? name = none :=
      Oracle.Verifier.filter_concerns_eq_nil_iff restricted
    cases found : b.function? name with
    | none =>
      have refused : b.function name = .error (.functionNotFound name b.name) := by
        rw [Ir.Bundle.function, found]
      refine .inr ⟨.functionNotFound name b.name, ?_, concerned.2 found, ?_⟩
      · show some <$> b.function name = _
        rw [refused]
        rfl
      · rw [demandFunction, restricted]
        show (fun _ ↦ ()) <$> b.function name = _
        rw [refused]
        rfl
    | some f =>
      refine .inl ⟨⟨some f, ?_⟩, ?_⟩
      · show some <$> b.function name = _
        rw [Ir.Bundle.function, found]
        rfl
      · have checked : b.functions.filter c.verifier.concerns ≠ [] := by
          rw [ne_eq, concerned, found]
          simp
        rw [demandFunction, restricted]
        exact if_neg (by simpa using checked)

/-! ## Presenting a verdict -/

/-- What a check shows of what verifying comes to. -/
def present (c : Check) : Except Fault Verdict × List LogEntry → Outcome
  | (.error e, log) => ⟨[c.header], log, some e⟩
  | (.ok v, log) =>
    match v.failure? with
    | none => ⟨[c.header, c.passLine v.edges v.functions], log, none⟩
    | some failure => ⟨[c.header, c.failLine failure.message], log, some (.failed failure)⟩

/-- **A check presents what verifying comes to**, and logs the same. -/
theorem execute_eq_present (c : Check) (b : Ir.Bundle) :
    c.execute b = c.present (verify c.verifier b) := by
  rw [execute, verify]
  cases hedges : c.verifier.edges with
  | error e => rfl
  | ok edges =>
    rcases c.lookups_agree b with ⟨⟨found, look⟩, demand⟩ | ⟨e, look, none, demand⟩
    · have look : c.verifier.function?.mapM b.function = .ok found := look
      rcases walked : c.verifier.walk b {} with ⟨x | _, p⟩
      · rw [look]
        cases x <;> rfl
      · -- Only a walk to the end is followed by a look-up, and it has checked all there was.
        rw [← Oracle.Verifier.checked_of_walk hedges walked] at demand
        simp only [look, demand]
        rfl
    · have look : c.verifier.function?.mapM b.function = .error e := look
      simp only [look, Oracle.Verifier.walk_of_concerns_none none, demand]
      rfl

section Present

variable {r : Except Fault Verdict × List LogEntry}

theorem fault?_present_eq_none_iff :
    (c.present r).fault? = none ↔ ∃ v, r.1 = .ok v ∧ v.passed = true := by
  rcases r with ⟨e | ⟨functions, edges, _ | failure⟩, log⟩ <;> simp [present, Verdict.passed]

theorem fault?_present_eq_failed_iff {failure : Failure} (h : r.1 ≠ .error (.failed failure)) :
    (c.present r).fault? = some (.failed failure) ↔
      ∃ v, r.1 = .ok v ∧ v.passed = false ∧ v.failure? = some failure := by
  rcases r with ⟨e | ⟨functions, edges, _ | failure'⟩, log⟩
  · simpa [present] using h
  · simp [present, Verdict.passed]
  · simp [present, Verdict.passed]

theorem fault?_present_eq_error_iff {e : Fault} (h : ∀ failure, e ≠ .failed failure) :
    (c.present r).fault? = some e ↔ r.1 = .error e := by
  rcases r with ⟨e' | ⟨functions, edges, _ | failure⟩, log⟩
  · simp [present]
  · simp [present]
  · simpa [present] using (h failure).symm

theorem lines_present_of_passed {v : Verdict} (h : r.1 = .ok v) (passed : v.passed = true) :
    (c.present r).lines = [c.header, c.passLine v.edges v.functions] := by
  obtain ⟨_, log⟩ := r
  obtain rfl := h
  obtain ⟨functions, edges, _ | failure⟩ := v
  · rfl
  · simp [Verdict.passed] at passed

theorem lines_present_of_failed {v : Verdict} {failure : Failure} (h : r.1 = .ok v)
    (failed : v.failure? = some failure) :
    (c.present r).lines = [c.header, c.failLine failure.message] := by
  obtain ⟨_, log⟩ := r
  obtain rfl := h
  simp only [present, failed]

theorem lines_present_of_error {e : Fault} (h : r.1 = .error e) :
    (c.present r).lines = [c.header] := by
  obtain ⟨_, log⟩ := r
  obtain rfl := h
  rfl

theorem log_present : (c.present r).log = r.2 := by
  rcases r with ⟨e | ⟨functions, edges, _ | failure⟩, log⟩ <;> rfl

end Present

/-! ## Errors -/

/-- A failed comparison makes a verdict and no error. -/
theorem verify_ne_failed (v : Verifier) (b : Ir.Bundle) (failure : Failure) :
    (verify v b).1 ≠ .error (.failed failure) := by
  rw [verify]
  cases hedges : v.edges with
  | error e =>
    obtain ⟨x, rfl⟩ := Oracle.Verifier.oracle_of_edges_error hedges
    simp
  | ok edges =>
    cases v.function?.mapM b.function with
    | error e => simp
    | ok found =>
      rcases v.walk b {} with ⟨x | _, p⟩
      · cases x <;> simp
      · simp

/-- The errors of verifications: an oracle that says nothing, a block and a function that are not
there. -/
inductive Unverifiable : Fault → Prop where
  | oracle (e : Oracle.DecodeError) : Unverifiable (.oracle e)
  | block (name scope : String) : Unverifiable (.graph (.blockNotFound name scope))
  | function (name bundle : String) : Unverifiable (.graph (.functionNotFound name bundle))

theorem unverifiable_of_verify (indexed : b.Indexed) {v : Verifier} {e : Fault}
    (verified : (verify v b).1 = .error e) : Unverifiable e := by
  obtain ⟨r, outcome⟩ := Oracle.exists_outcome indexed v
  obtain rfl := (outcome.eq_verify indexed).symm.trans verified
  cases outcome with
  | malformed _ => exact .oracle _
  | noFunction _ _ _ => exact .function _ _
  | noSource _ _ _ deviates =>
    cases deviates with
    | source _ _ _ _ => exact .block _ _

/-! ## Texts -/

/-- How the message about a failed comparison reads. -/
inductive Explains : Failure → String → Prop where
  | blockCount (function : String) (expected : Int) (actual : Nat) :
    Explains (.blockCount function expected actual)
      ("function " ++ Text.quoted function ++ " has " ++ toString actual ++
        " basic blocks, expected " ++ toString expected)
  | missingEdge (function : String) (edge : ExpectedEdge) (successors : List String) :
    Explains (.missingEdge function edge successors)
      ("entry #" ++ toString edge.position ++ ": " ++ edge.dest ++ " is not a successor of " ++
        edge.src ++ " in function " ++ Text.quoted function ++ " (successors: " ++
        (if successors = [] then "none" else ", ".intercalate successors) ++ ")")

/-- A text that is put into another one stays as it is. -/
theorem toString_text (s : String) : toString s = s := rfl

theorem explains_message (failure : Failure) : Explains failure failure.message := by
  cases failure with
  | blockCount function expected actual => exact .blockCount function expected actual
  | missingEdge function edge successors =>
    have same := Explains.missingEdge function edge successors
    simp only [← List.isEmpty_iff, String.append_assoc] at same
    simpa only [Failure.message, toString_text, String.append_assoc] using same

theorem passLine_eq (c : Check) (edges : List ExpectedEdge) (functions : List String) :
    c.passLine edges functions = "PASS: " ++ c.name ++ " (" ++ toString edges.length ++
      " edge(s) in " ++
      (if functions = [] then "no functions" else ", ".intercalate functions) ++ ")" := by
  have opening (rest : String) : " " ++ ("(" ++ rest) = " (" ++ rest := by
    rw [← String.append_assoc]
    rfl
  simp only [passLine, Verdict.extent, toString_text, ← List.isEmpty_iff, String.append_assoc,
    opening]

/-! ## Agreement -/

/-- What a check writes and raises, and what verifying the same bundle with the same arguments comes
to. A check writes its header, `name: description`, and after it the line with the verdict if there
is one. -/
structure Agrees (c : Check) (b : Ir.Bundle) : Prop where
  passes : (c.execute b).fault? = none ↔ ∃ v, (verify c.verifier b).1 = .ok v ∧ v.passed = true
  passLines : ∀ v, (verify c.verifier b).1 = .ok v → v.passed = true →
    (c.execute b).lines = [c.name ++ ": " ++ c.description,
      "PASS: " ++ c.name ++ " (" ++ toString v.edges.length ++ " edge(s) in " ++
        (if v.functions = [] then "no functions" else ", ".intercalate v.functions) ++ ")"]
  fails : ∀ failure, (c.execute b).fault? = some (.failed failure) ↔
    ∃ v, (verify c.verifier b).1 = .ok v ∧ v.passed = false ∧ v.failure? = some failure
  failLines : ∀ v failure, (verify c.verifier b).1 = .ok v → v.failure? = some failure →
    Explains failure failure.message ∧ (c.execute b).lines =
      [c.name ++ ": " ++ c.description, "FAIL: " ++ c.name ++ ": " ++ failure.message]
  /-- Any other fault of the one is the fault of the other. -/
  raises : ∀ e, (∀ failure, e ≠ .failed failure) →
    ((c.execute b).fault? = some e ↔ (verify c.verifier b).1 = .error e)
  raiseLines : ∀ e, (verify c.verifier b).1 = .error e →
    (c.execute b).lines = [c.name ++ ": " ++ c.description]
  errors : b.Indexed → ∀ e, (verify c.verifier b).1 = .error e → Unverifiable e
  log : (c.execute b).log = (verify c.verifier b).2

/-- **A check and a verification agree.** -/
theorem execute_agrees (c : Check) (b : Ir.Bundle) : c.Agrees b := by
  have unfailed := verify_ne_failed c.verifier b
  constructor
  · rw [execute_eq_present]
    exact fault?_present_eq_none_iff
  · intro v verified passed
    rw [execute_eq_present, ← passLine_eq]
    exact lines_present_of_passed verified passed
  · intro failure
    rw [execute_eq_present]
    exact fault?_present_eq_failed_iff (unfailed failure)
  · intro v failure verified failed
    rw [execute_eq_present]
    exact ⟨explains_message failure, lines_present_of_failed verified failed⟩
  · intro e other
    rw [execute_eq_present]
    exact fault?_present_eq_error_iff other
  · intro e verified
    rw [execute_eq_present]
    exact lines_present_of_error verified
  · exact fun indexed e verified ↦ unverifiable_of_verify indexed verified
  · rw [execute_eq_present]
    exact log_present

/-- Three checks of one bundle and the lines that they write: one passes, one fails, and one looks
for a function that is not there. -/
theorem execute_agrees_verdicts :
    let named (function? : Option String) : Check :=
      { expected := .text "(trans (edge (a) (b)))", function? }
    ∃ b, Oracle.twoFunctions.bundle? 1 = some b ∧ b.Indexed ∧
      (∀ function?, (named function?).Agrees b) ∧
      ((named (some "f")).execute b).fault? = none ∧
      ((named (some "f")).execute b).lines =
        ["cfg-trans: Verify CFG edges against an expected (trans ...) literal",
          "PASS: cfg-trans (1 edge(s) in f)"] ∧
      ((named none).execute b).fault? =
        some (.failed (.missingEdge "g" ⟨1, "a", "b"⟩ ["a"])) ∧
      ((named none).execute b).lines =
        ["cfg-trans: Verify CFG edges against an expected (trans ...) literal",
          "FAIL: cfg-trans: entry #1: b is not a successor of a in function 'g' (successors: a)"] ∧
      ((named (some "h")).execute b).fault? = some (.graph (.functionNotFound "h" "m")) ∧
      ((named (some "h")).execute b).lines =
        ["cfg-trans: Verify CFG edges against an expected (trans ...) literal"] := by
  intro named
  have wf : Oracle.twoFunctions.WellFormed := (Ir.Store.wellFormed_empty 1).run _
  have there : (Oracle.twoFunctions.bundle? 1).isSome := by cbv
  have hb := (Option.some_get there).symm
  generalize evaluated : (Oracle.twoFunctions.bundle? 1).get there = b at hb
  have indexed := (wf.bundle hb).indexed
  have agrees (function? : Option String) : (named function?).Agrees b :=
    execute_agrees (named function?) b
  have decoded : Oracle.decode (.text "(trans (edge (a) (b)))") = .ok [⟨1, "a", "b"⟩] := by cbv
  -- The sorting of the hook names is not to be evaluated: the walks are rewritten before.
  have passed : (verify (named (some "f")).verifier b).1 =
      .ok ⟨["f"], [⟨1, "a", "b"⟩], none⟩ := by
    have selected : (named (some "f")).verifier.selected? b = some (b.functions.take 1) := by
      subst evaluated
      cbv
    rw [Oracle.verify_of_selected? (v := (named (some "f")).verifier) decoded selected,
      Verifier.walk_eq indexed selected]
    subst evaluated
    cbv
  have failed : (verify (named none).verifier b).1 =
      .ok ⟨["f"], [⟨1, "a", "b"⟩], some (.missingEdge "g" ⟨1, "a", "b"⟩ ["a"])⟩ := by
    have selected : (named none).verifier.selected? b = some b.functions := rfl
    rw [Oracle.verify_of_selected? (v := (named none).verifier) decoded selected,
      Verifier.walk_eq indexed selected]
    subst evaluated
    cbv
  have absent : (verify (named (some "h")).verifier b).1 =
      .error (.graph (.functionNotFound "h" "m")) := by
    have look : (named (some "h")).verifier.function?.mapM b.function =
        .error (.functionNotFound "h" "m") := by
      subst evaluated
      cbv
    rw [verify, Oracle.Verifier.edges_of_decode (v := (named (some "h")).verifier) decoded, look]
  refine ⟨b, hb, indexed, agrees, ?_, ?_, ?_, ?_, ?_, ?_⟩
  · exact (agrees (some "f")).passes.2 ⟨_, passed, rfl⟩
  · exact (agrees (some "f")).passLines _ passed rfl
  · exact ((agrees none).fails _).2 ⟨_, failed, rfl, rfl⟩
  · exact ((agrees none).failLines _ _ failed rfl).2
  · exact ((agrees (some "h")).raises _ (by simp)).2 absent
  · exact (agrees (some "h")).raiseLines _ absent

end Check

end Flowcheck
