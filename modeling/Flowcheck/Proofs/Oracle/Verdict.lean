import Flowcheck.Proofs.Ir.Bundles
import Flowcheck.Proofs.Oracle.Decoding
import Flowcheck.Proofs.Oracle.Walk
import Mathlib

/-!
# What decides a verdict

Four things can end a verification: an oracle that says nothing, a name that is no function's, a
function that is not as expected, and the end of the bundle. `Outcome` says which of them comes
first and what is reported then, in terms of the blocks and edges of the functions alone. It is a
description from outside: neither walks nor look-ups occur in it. That verifying comes to exactly
this is `verify_eq_iff`.
-/

namespace Flowcheck.Oracle

variable {v : Verifier} {b : Ir.Bundle} {f : Ir.Function} {edges : List ExpectedEdge}

/-! ## Functions as expected -/

namespace Verifier

/-- The functions that are compared: all of them, or the one with the name that is asked for. -/
def selected? (v : Verifier) (b : Ir.Bundle) : Option (List Ir.Function) :=
  match v.function? with
  | none => some b.functions
  | some name => (b.functions.find? fun f ↦ f.name = name).map ([·])

/-- Whether a function has as many blocks as required, if a number is required. -/
def CountFits (v : Verifier) (f : Ir.Function) : Prop :=
  ∀ n, v.blockCount? = some n → (f.body.blocks.length : Int) = n

/-- Whether a function is as expected. -/
structure Meets (v : Verifier) (edges : List ExpectedEdge) (f : Ir.Function) : Prop where
  count : v.CountFits f
  edge : ∀ e ∈ edges, f.body.NamedEdge e.src e.dest

/-- How a function can differ from what is expected: the position of the edge at fault if it is an
edge, and what is said about it. Of several edges that are not there the first one counts. -/
inductive Deviates (v : Verifier) (edges : List ExpectedEdge) (f : Ir.Function) :
    Option Nat → Fault → Prop where
  | count {n : Int} (required : v.blockCount? = some n)
      (differs : (f.body.blocks.length : Int) ≠ n) :
      Deviates v edges f none (.failed (.blockCount f.name n f.body.blocks.length))
  | source {good rest : List ExpectedEdge} {e : ExpectedEdge} (fits : v.CountFits f)
      (first : edges = good ++ e :: rest) (there : ∀ e ∈ good, f.body.NamedEdge e.src e.dest)
      (absent : ∀ s ∈ f.body.blocks, s.name ≠ e.src) :
      Deviates v edges f (some (good.length + 1)) (.graph (.blockNotFound e.src f.body.scope))
  | edge {good rest : List ExpectedEdge} {e : ExpectedEdge} {s : Ir.Block} (fits : v.CountFits f)
      (first : edges = good ++ e :: rest) (there : ∀ e ∈ good, f.body.NamedEdge e.src e.dest)
      (own : s ∈ f.body.blocks) (source : s.name = e.src)
      (missing : ¬ f.body.NamedEdge e.src e.dest) :
      Deviates v edges f (some (good.length + 1))
        (.failed (.missingEdge f.name e ((f.body.targets s.uid).map Ir.Block.name)))

theorem checkCount_eq_ok_iff : v.checkCount f = .ok () ↔ v.CountFits f := by
  rw [checkCount, CountFits]
  cases v.blockCount? with
  | none => simp
  | some n =>
    show checkBlockCount f n = .ok () ↔ _
    rw [checkBlockCount]
    split <;> simp_all

theorem checkCount_of_ne {n : Int} (required : v.blockCount? = some n)
    (differs : (f.body.blocks.length : Int) ≠ n) :
    v.checkCount f = .error (.failed (.blockCount f.name n f.body.blocks.length)) := by
  rw [checkCount, required]
  exact if_neg differs

/-- **Comparing a function succeeds exactly if it is as expected.** -/
theorem compare_eq_ok_iff (h : f.body.Indexed) :
    v.compare edges f = .ok () ↔ v.Meets edges f := by
  rw [compare, bind_eq_ok_iff]
  constructor
  · rintro ⟨_, count, found⟩
    exact ⟨checkCount_eq_ok_iff.1 count, (checkEdges_eq_ok_iff h).1 found⟩
  · intro met
    exact ⟨(), checkCount_eq_ok_iff.2 met.count, (checkEdges_eq_ok_iff h).2 met.edge⟩

theorem compare_of_fits (fits : v.CountFits f) : v.compare edges f = checkEdges f edges := by
  rw [compare, checkCount_eq_ok_iff.2 fits]
  rfl

theorem Deviates.compare (h : f.body.Indexed) {position? : Option Nat} {x : Fault}
    (deviates : v.Deviates edges f position? x) : v.compare edges f = .error x := by
  have each {good : List ExpectedEdge} (there : ∀ e ∈ good, f.body.NamedEdge e.src e.dest) :
      ∀ e ∈ good, checkEdge f e = .ok () := fun e he ↦ (checkEdge_eq_ok_iff h).2 (there e he)
  cases deviates with
  | count required differs =>
    rw [Verifier.compare, checkCount_of_ne required differs]
    rfl
  | source fits first there absent =>
    rw [compare_of_fits fits, first, checkEdges_eq_forM]
    exact forM_eq_error (each there) (checkEdge_of_absent h absent) _
  | edge fits first there own source missing =>
    rw [← source, ← Ir.Body.mem_map_targets_iff h.names_nodup own] at missing
    have refused := checkEdge_of_mem h own source
    rw [if_neg missing] at refused
    rw [compare_of_fits fits, first, checkEdges_eq_forM]
    exact forM_eq_error (each there) refused _

/-- A function is as expected or differs in one of the three ways. -/
theorem meets_or_deviates (h : f.body.Indexed) (v : Verifier) (edges : List ExpectedEdge) :
    v.Meets edges f ∨ ∃ position? x, v.Deviates edges f position? x := by
  by_cases fits : v.CountFits f
  · rcases forall_ok_or_exists_first (checkEdge f) edges with
      all | ⟨good, e, rest, x, first, there, refused⟩
    · exact .inl ⟨fits, fun e he ↦ (checkEdge_eq_ok_iff h).1 (all e he)⟩
    · have there (e' : ExpectedEdge) (he' : e' ∈ good) : f.body.NamedEdge e'.src e'.dest :=
        (checkEdge_eq_ok_iff h).1 (there e' he')
      by_cases source : ∃ s ∈ f.body.blocks, s.name = e.src
      · obtain ⟨s, own, source⟩ := source
        have missing : ¬ f.body.NamedEdge e.src e.dest := fun edge ↦ by
          rw [(checkEdge_eq_ok_iff h).2 edge] at refused
          cases refused
        exact .inr ⟨_, _, .edge fits first there own source missing⟩
      · have absent (s : Ir.Block) (hs : s ∈ f.body.blocks) : s.name ≠ e.src :=
          fun same ↦ source ⟨s, hs, same⟩
        exact .inr ⟨_, _, .source fits first there absent⟩
  · rw [CountFits, Classical.not_forall] at fits
    obtain ⟨n, fits⟩ := fits
    obtain ⟨required, differs⟩ := Classical.not_imp.1 fits
    exact .inr ⟨none, _, .count required differs⟩

/-- A refused function differs in the way that is reported. -/
theorem exists_deviates (h : f.body.Indexed) {x : Fault} (refused : v.compare edges f = .error x) :
    ∃ position?, v.Deviates edges f position? x := by
  rcases meets_or_deviates h v edges with met | ⟨position?, y, deviates⟩
  · rw [(compare_eq_ok_iff h).2 met] at refused
    cases refused
  · have same : y = x := Except.error.inj ((deviates.compare h).symm.trans refused)
    exact ⟨position?, same ▸ deviates⟩

end Verifier

/-! ## Whole bundles -/

/-- A position as reports have it. -/
def positionJson (position? : Option Nat) : Json := (position?.map fun k ↦ Json.int k).getD .null

/-- What verifying a bundle comes to. -/
inductive Outcome (v : Verifier) (b : Ir.Bundle) : Except Fault Verdict → Prop where
  | malformed {e : DecodeError} (undecodable : decode v.literal = .error e) :
      Outcome v b (.error (.oracle e))
  | noFunction {edges : List ExpectedEdge} {name : String}
      (decoded : decode v.literal = .ok edges) (restricted : v.function? = some name)
      (absent : ∀ f ∈ b.functions, f.name ≠ name) :
      Outcome v b (.error (.graph (.functionNotFound name b.name)))
  | passed {edges : List ExpectedEdge} {fs : List Ir.Function}
      (decoded : decode v.literal = .ok edges) (selected : v.selected? b = some fs)
      (met : ∀ f ∈ fs, v.Meets edges f) :
      Outcome v b (.ok ⟨fs.map Ir.Function.name, edges, none⟩)
  | failed {edges : List ExpectedEdge} {before after : List Ir.Function} {f : Ir.Function}
      {position? : Option Nat} {failure : Failure} (decoded : decode v.literal = .ok edges)
      (selected : v.selected? b = some (before ++ f :: after))
      (met : ∀ g ∈ before, v.Meets edges g)
      (deviates : v.Deviates edges f position? (.failed failure))
      (reported : ("position", positionJson position?) ∈ failure.report.attributes) :
      Outcome v b (.ok ⟨before.map Ir.Function.name, edges, some failure⟩)
  | noSource {edges : List ExpectedEdge} {before after : List Ir.Function} {f : Ir.Function}
      {position? : Option Nat} {e : Ir.Error} (decoded : decode v.literal = .ok edges)
      (selected : v.selected? b = some (before ++ f :: after))
      (met : ∀ g ∈ before, v.Meets edges g)
      (deviates : v.Deviates edges f position? (.graph e)) :
      Outcome v b (.error (.graph e))

namespace Verifier

/-- The functions that are selected are the ones that the verifier is concerned with. -/
theorem filter_concerns_of_selected? (h : b.Indexed) {fs : List Ir.Function}
    (selected : v.selected? b = some fs) : b.functions.filter v.concerns = fs := by
  rw [selected?] at selected
  cases hv : v.function? with
  | none =>
    rw [hv] at selected
    obtain rfl := Option.some.inj selected
    exact List.filter_eq_self.2 fun f _ ↦ by rw [concerns, hv, Option.all_none]
  | some name =>
    rw [hv] at selected
    obtain ⟨f, found, rfl⟩ := Option.map_eq_some_iff.1 selected
    obtain ⟨hf, rfl⟩ := (find?_key_eq_some_iff h.names_nodup).1 found
    have concerned (g : Ir.Function) : v.concerns g = decide (g.name = f.name) := by
      rw [concerns, hv, Option.all_some, decide_eq_decide, eq_comm]
    rw [funext concerned]
    exact filter_key_of_mem h.names_nodup hf

/-- The function that is asked for is there. -/
theorem mapM_function_of_selected? {fs : List Ir.Function} (selected : v.selected? b = some fs) :
    ∃ found, v.function?.mapM b.function = .ok found := by
  rw [selected?] at selected
  cases hv : v.function? with
  | none => exact ⟨none, rfl⟩
  | some name =>
    rw [hv] at selected
    obtain ⟨f, found, -⟩ := Option.map_eq_some_iff.1 selected
    refine ⟨some f, ?_⟩
    show some <$> b.function name = _
    rw [Ir.Bundle.function, Ir.Bundle.function?, found]
    rfl

/-- A function that is compared is one of the bundle's. -/
theorem mem_of_selected? {fs : List Ir.Function} (selected : v.selected? b = some fs)
    (hf : f ∈ fs) : f ∈ b.functions := by
  rw [selected?] at selected
  cases hv : v.function? with
  | none =>
    rw [hv] at selected
    rwa [← Option.some.inj selected] at hf
  | some name =>
    rw [hv] at selected
    obtain ⟨f', found, rfl⟩ := Option.map_eq_some_iff.1 selected
    rw [List.mem_singleton.1 hf]
    exact List.mem_of_find?_eq_some found

/-- Nothing but the selected functions is entered. -/
theorem walk_eq (h : b.Indexed) {fs : List Ir.Function} (selected : v.selected? b = some fs)
    (p : Progress) : v.walk b p = (fs.forM v.enterFunction).run.run p := by
  rw [walk, walk_bundle, forM_enterFunction_filter, filter_concerns_of_selected? h selected]

theorem concerns_of_selected? (h : b.Indexed) {fs : List Ir.Function}
    (selected : v.selected? b = some fs) : ∀ f ∈ fs, v.concerns f = true := by
  rw [← filter_concerns_of_selected? h selected]
  exact fun f hf ↦ (List.mem_filter.1 hf).2

theorem edges_of_decode (decoded : decode v.literal = .ok edges) : v.edges = .ok edges := by
  rw [Verifier.edges, decoded]
  rfl

theorem walk_of_met (h : b.Indexed) (decoded : decode v.literal = .ok edges)
    {fs : List Ir.Function} (selected : v.selected? b = some fs)
    (met : ∀ f ∈ fs, v.Meets edges f) :
    ∃ log, v.walk b {} = (.ok (), ⟨fs.map Ir.Function.name, log⟩) := by
  have passed (f : Ir.Function) (hf : f ∈ fs) : v.compare edges f = .ok () :=
    (compare_eq_ok_iff (h.body f (mem_of_selected? selected hf))).2 (met f hf)
  obtain ⟨log, walked⟩ :=
    run_functions_of_ok (edges_of_decode decoded) (concerns_of_selected? h selected) passed {}
  exact ⟨log, (walk_eq h selected {}).trans walked⟩

/-- The walk ends at the first function that is not as expected. -/
theorem walk_of_deviates (h : b.Indexed) (decoded : decode v.literal = .ok edges)
    {before after : List Ir.Function} (selected : v.selected? b = some (before ++ f :: after))
    (met : ∀ g ∈ before, v.Meets edges g) {position? : Option Nat} {x : Fault}
    (deviates : v.Deviates edges f position? x) :
    ∃ log, v.walk b {} = (.error x, ⟨before.map Ir.Function.name, log⟩) := by
  have body (g : Ir.Function) (hg : g ∈ before ++ f :: after) : g.body.Indexed :=
    h.body g (mem_of_selected? selected hg)
  have passed (g : Ir.Function) (hg : g ∈ before) : v.compare edges g = .ok () :=
    (compare_eq_ok_iff (body g (List.mem_append_left _ hg))).2 (met g hg)
  have refused := deviates.compare (body f (List.mem_append_right _ List.mem_cons_self))
  obtain ⟨log, walked⟩ := run_functions_of_error (edges_of_decode decoded)
    (concerns_of_selected? h selected) passed refused {}
  exact ⟨log, (walk_eq h selected {}).trans walked⟩

end Verifier

/-- What a walk comes to. -/
def conclude (edges : List ExpectedEdge) : Except Fault Unit × Progress → Except Fault Verdict
  | (.ok (), p) => .ok ⟨p.checked, edges, none⟩
  | (.error (.failed failure), p) => .ok ⟨p.checked, edges, some failure⟩
  | (.error e, _) => .error e

theorem verify_of_selected? {fs : List Ir.Function} (decoded : decode v.literal = .ok edges)
    (selected : v.selected? b = some fs) : (verify v b).1 = conclude edges (v.walk b {}) := by
  obtain ⟨found, hfound⟩ := Verifier.mapM_function_of_selected? selected
  simp only [verify, Verifier.edges_of_decode decoded, hfound]
  rcases v.walk b {} with ⟨x | _, p⟩
  · cases x <;> rfl
  · rfl

/-- Verifying comes to whatever may be the outcome. -/
theorem Outcome.eq_verify (h : b.Indexed) {r : Except Fault Verdict} (outcome : Outcome v b r) :
    (verify v b).1 = r := by
  cases outcome with
  | malformed undecodable =>
    rw [verify, Verifier.edges, undecodable]
    rfl
  | @noFunction _ name decoded restricted absent =>
    have missing : b.function? name = none := by
      rw [Ir.Bundle.function?, List.find?_eq_none]
      intro f hf
      simpa using absent f hf
    have refused : v.function?.mapM b.function = .error (.functionNotFound name b.name) := by
      rw [restricted]
      show some <$> b.function name = _
      rw [Ir.Bundle.function, missing]
      rfl
    rw [verify, Verifier.edges_of_decode decoded, refused]
  | passed decoded selected met =>
    obtain ⟨log, walked⟩ := Verifier.walk_of_met h decoded selected met
    rw [verify_of_selected? decoded selected, walked]
    rfl
  | failed decoded selected met deviates reported =>
    obtain ⟨log, walked⟩ := Verifier.walk_of_deviates h decoded selected met deviates
    rw [verify_of_selected? decoded selected, walked]
    rfl
  | noSource decoded selected met deviates =>
    obtain ⟨log, walked⟩ := Verifier.walk_of_deviates h decoded selected met deviates
    rw [verify_of_selected? decoded selected, walked]
    rfl

/-- A failed comparison reports the position of the edge at fault. -/
theorem position_reported (decoded : decode v.literal = .ok edges) {position? : Option Nat}
    {failure : Failure} (deviates : v.Deviates edges f position? (.failed failure)) :
    ("position", positionJson position?) ∈ failure.report.attributes := by
  cases deviates with
  | count required differs => simp [Failure.report, Report.failedVerification, positionJson]
  | edge fits first there own source missing =>
    rw [first] at decoded
    simp [Failure.report, Report.failedVerification, positionJson, position_of_decode decoded]

/-- Every verification has an outcome. -/
theorem exists_outcome (h : b.Indexed) (v : Verifier) : ∃ r, Outcome v b r := by
  cases decoded : decode v.literal with
  | error e => exact ⟨_, .malformed decoded⟩
  | ok edges =>
    cases selected : v.selected? b with
    | none =>
      rw [Verifier.selected?] at selected
      cases restricted : v.function? with
      | none => simp [restricted] at selected
      | some name =>
        have absent : ∀ f ∈ b.functions, f.name ≠ name := by simpa [restricted] using selected
        exact ⟨_, .noFunction decoded restricted absent⟩
    | some fs =>
      have body (f : Ir.Function) (hf : f ∈ fs) : f.body.Indexed :=
        h.body f (Verifier.mem_of_selected? selected hf)
      rcases forall_ok_or_exists_first (v.compare edges) fs with
        passed | ⟨before, f, after, x, rfl, passed, refused⟩
      · exact ⟨_, .passed decoded selected fun f hf ↦
          (Verifier.compare_eq_ok_iff (body f hf)).1 (passed f hf)⟩
      · have met (g : Ir.Function) (hg : g ∈ before) : v.Meets edges g :=
          (Verifier.compare_eq_ok_iff (body g (List.mem_append_left _ hg))).1 (passed g hg)
        obtain ⟨position?, deviates⟩ := Verifier.exists_deviates
          (body f (List.mem_append_right _ List.mem_cons_self)) refused
        cases x with
        | failed failure =>
          have reported := position_reported decoded deviates
          exact ⟨_, .failed decoded selected met deviates reported⟩
        | graph e => exact ⟨_, .noSource decoded selected met deviates⟩
        | value _ | pattern _ | oracle _ | other _ => cases deviates

/-- **The verdict on a bundle is exactly the one described.** -/
theorem verify_eq_iff (h : b.Indexed) (v : Verifier) (r : Except Fault Verdict) :
    (verify v b).1 = r ↔ Outcome v b r := by
  refine ⟨fun verified ↦ ?_, Outcome.eq_verify h⟩
  obtain ⟨r', outcome⟩ := exists_outcome h v
  rwa [← verified, outcome.eq_verify h]

/-- A bundle of two functions with the blocks `a` and `b`, the edge from `a` to `b` in the first and
an edge from `a` to itself in the second. -/
def twoFunctions : Ir.Store :=
  .run {} [.startBundle "m", .buildFunction 1 "f", .buildBlocks 2 ["a", "b"], .buildEdge 2 "a" "b",
    .buildFunction 1 "g", .buildBlocks 6 ["a", "b"], .buildEdge 6 "a" "a"]

/-- The first function passes, and the second one lacks the edge. -/
theorem verify_twoFunctions : ∃ b, twoFunctions.bundle? 1 = some b ∧ b.Indexed ∧
    Outcome ⟨.text "(trans (edge (a) (b)))", some 2, none⟩ b
      (.ok ⟨["f"], [⟨1, "a", "b"⟩], some (.missingEdge "g" ⟨1, "a", "b"⟩ ["a"])⟩) := by
  have wf : twoFunctions.WellFormed := (Ir.Store.wellFormed_empty 1).run _
  have there : (twoFunctions.bundle? 1).isSome := by cbv
  have hb := (Option.some_get there).symm
  have h := (wf.bundle hb).indexed
  have decoded : decode (.text "(trans (edge (a) (b)))") = .ok [⟨1, "a", "b"⟩] := by cbv
  generalize evaluated : (twoFunctions.bundle? 1).get there = b at hb h
  let v : Verifier := ⟨.text "(trans (edge (a) (b)))", some 2, none⟩
  have selected : v.selected? b = some b.functions := rfl
  refine ⟨b, hb, h, (verify_eq_iff h v _).1 ?_⟩
  -- The sorting of the hook names is not to be evaluated: the walk is rewritten before.
  rw [verify_of_selected? (v := v) decoded selected, Verifier.walk_eq h selected]
  subst evaluated
  cbv

end Flowcheck.Oracle
