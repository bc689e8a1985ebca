import Flowcheck.Proofs.Document.Loading
import Flowcheck.Proofs.Document.Numbers
import Flowcheck.Proofs.Oracle.NamedEdges
import Flowcheck.Proofs.Oracle.Walk

/-!
# Reports without numbers

Whatever is reported about a bundle calls its nodes by name: its document, the oracles of its
functions, the answers of its bodies and the verdicts on it. `Bundle.reports` collects all of that
as one datum, so that two bundles report the same exactly if these data are equal.

A report is the same after a renumbering. The only messages that show a number are about a body that
no function owns and about a number that is none of the body's own, and a well-formed bundle has
neither. Two bundles that were loaded from the same value are renumberings of a third one, the one
loaded from the sum of their first numbers, and so all that is reported about them is equal.
-/

namespace Flowcheck

namespace Ir

/-! ## What is reported -/

/-- An answer with the names of the blocks in place of the blocks. -/
def names (answer : Except Error (List Block)) : Except Error (List String) :=
  List.map Block.name <$> answer

/-- What a body answers; the questions about a block are asked about each block in turn. -/
structure Body.Views where
  blocks : List String
  edges : List (String × String)
  next : List (Except Error (List String))
  prev : List (Except Error (List String))
  reached : List (Except Error (List String))
  reachedFromEntry : Except Error (List String)

/-- The answers of a body. -/
def Body.views (b : Body) : Body.Views where
  blocks := b.blocks.map Block.name
  edges := b.edges.map fun (src, dst) ↦ (src.name, dst.name)
  next := b.blocks.map fun bb ↦ names (b.nextBlocks bb)
  prev := b.blocks.map fun bb ↦ names (b.prevBlocks bb)
  reached := b.blocks.map fun bb ↦ names (b.reachableFrom (some bb))
  reachedFromEntry := names (b.reachableFrom none)

/-- What is reported about a function: its oracle, also as text of any width, and its answers. -/
structure Function.Reports where
  name : String
  oracle : Except Sexp.BuildError Sexp
  text : Int → Except Sexp.BuildError String
  views : Body.Views

/-- The reports on a function. -/
def Function.reports (f : Function) : Function.Reports where
  name := f.name
  oracle := Oracle.ofFunction f
  text width := Oracle.format width f
  views := f.body.views

/-- What is reported about a bundle: its document, its functions, and the outcome and the log of
every verification. -/
structure Bundle.Reports where
  document : Json
  functions : List Function.Reports
  verdict : Oracle.Verifier → Except Fault Oracle.Verdict × List LogEntry

/-- The reports on a bundle. -/
def Bundle.reports (b : Bundle) : Bundle.Reports where
  document := b.toJson
  functions := b.functions.map Function.reports
  verdict v := Oracle.verify v b

/-! ## Bodies -/

variable {r : Nat ↪ Nat}

theorem names_map_renumber (answer : Except Error (List Block)) :
    names (List.map (Block.renumber r) <$> answer) = names answer := by
  cases answer with
  | error e => rfl
  | ok bbs => exact congrArg Except.ok (map_name_renumber bbs)

namespace Body

variable {b : Body}

theorem map_ends_edges_renumber (b : Body) :
    (b.renumber r).edges.map (fun (src, dst) ↦ (src.name, dst.name)) =
      b.edges.map fun (src, dst) ↦ (src.name, dst.name) := by
  rw [edges_renumber, List.map_map]
  rfl

theorem WellFormed.views_renumber (h : b.WellFormed) (r : Nat ↪ Nat) :
    (b.renumber r).views = b.views := by
  have each {ask ask' : Block → Except Error (List Block)}
      (same : ∀ bb ∈ b.blocks, ask' (bb.renumber r) = List.map (Block.renumber r) <$> ask bb) :
      (b.renumber r).blocks.map (fun bb ↦ names (ask' bb)) =
        b.blocks.map fun bb ↦ names (ask bb) := by
    rw [Body.renumber, List.map_map]
    refine List.map_congr_left fun bb hbb ↦ ?_
    rw [Function.comp_apply, same bb hbb, names_map_renumber]
  have own (bb : Block) (hbb : bb ∈ b.blocks) : bb.uid ∈ b.uids := List.mem_map_of_mem hbb
  have started (bb : Block) (hbb : bb ∈ b.blocks) :
      ∀ start, some bb = some start → start.uid ∈ b.uids := by
    rintro start ⟨⟩
    exact own bb hbb
  rw [views, views, Views.mk.injEq]
  refine ⟨map_name_renumber b.blocks, map_ends_edges_renumber b, each ?_, each ?_, each ?_, ?_⟩
  · exact fun bb hbb ↦ h.nextBlocks_renumber (own bb hbb)
  · exact fun bb hbb ↦ h.prevBlocks_renumber (own bb hbb)
  · exact fun bb hbb ↦ h.reachableFrom_renumber (started bb hbb)
  · rw [← names_map_renumber (b.reachableFrom none), ← h.reachableFrom_renumber (by simp)]
    rfl

theorem scope_renumber {o : Owner} (owned : b.owner? = some o) :
    (b.renumber r).scope = b.scope := by
  have owned' : (b.renumber r).owner? = some (o.renumber r) := by
    rw [renumber, owned, Option.map_some]
  rw [scope, scope, owned, owned']
  rfl

end Body

/-! ## Functions -/

namespace Function

theorem spec_renumber (f : Function) : (f.renumber r).spec = f.spec := by
  rw [spec, spec, FunctionSpec.mk.injEq]
  refine ⟨rfl, ?_, ?_, ?_⟩
  · show (Body.entry? (f.body.renumber r)).map _ = _
    rw [Body.entry?_renumber, Option.map_map]
    rfl
  · show ((f.body.renumber r).exit?).map _ = _
    rw [Body.exit?_renumber, Option.map_map]
    rfl
  · show (f.body.blocks.map (Block.renumber r)).map _ = _
    rw [List.map_map]
    refine List.map_congr_left fun bb _ ↦ ?_
    show BlockSpec.mk bb.name ((bb.statements.map (Statement.renumber r)).map Statement.spec)
      (((f.body.renumber r).targets (r bb.uid)).map Block.name) = _
    rw [Body.targets_renumber, map_name_renumber, List.map_map]
    rfl

theorem namedEdges_renumber (f : Function) :
    Oracle.namedEdges (f.renumber r) = Oracle.namedEdges f := by
  rw [Oracle.namedEdges, Oracle.namedEdges]
  exact congrArg (List.mergeSort · Oracle.pairLe) (Body.map_ends_edges_renumber f.body)

theorem ofFunction_renumber (f : Function) :
    Oracle.ofFunction (f.renumber r) = Oracle.ofFunction f := by
  rw [Oracle.ofFunction, Oracle.ofFunction, namedEdges_renumber]

theorem reports_renumber {f : Function} (h : f.body.WellFormed) (r : Nat ↪ Nat) :
    (f.renumber r).reports = f.reports := by
  have text : (Oracle.format · (f.renumber r)) = (Oracle.format · f) :=
    funext fun width ↦ by rw [Oracle.format, Oracle.format, ofFunction_renumber]
  rw [reports, reports, Reports.mk.injEq]
  exact ⟨rfl, ofFunction_renumber f, text, h.views_renumber r⟩

end Function

end Ir

/-! ## Verdicts -/

namespace Oracle

variable {r : Nat ↪ Nat} {f : Ir.Function}

/-- A function whose body knows it, with maps that belong together. -/
structure Settled (f : Ir.Function) : Prop where
  body : f.body.WellFormed
  owned : f.body.owner? = some ⟨f.uid, f.name⟩

theorem checkEdge_renumber (h : Settled f) (e : ExpectedEdge) :
    checkEdge (f.renumber r) e = checkEdge f e := by
  have indexed := h.body.indexed
  have indexed' : (f.renumber r).body.Indexed := (h.body.renumber r).indexed
  by_cases source : ∃ s ∈ f.body.blocks, s.name = e.src
  · obtain ⟨s, hs, src⟩ := source
    have hs' : s.renumber r ∈ (f.renumber r).body.blocks := List.mem_map_of_mem hs
    have successors : ((f.renumber r).body.targets (s.renumber r).uid).map Ir.Block.name =
        (f.body.targets s.uid).map Ir.Block.name := by
      rw [← Ir.map_name_renumber (f.body.targets s.uid), ← Ir.Body.targets_renumber]
      rfl
    rw [checkEdge_of_mem indexed hs src, checkEdge_of_mem indexed' hs' src, successors]
    rfl
  · have absent : ∀ s ∈ f.body.blocks, s.name ≠ e.src := fun s hs src ↦ source ⟨s, hs, src⟩
    have absent' : ∀ s ∈ (f.renumber r).body.blocks, s.name ≠ e.src := by
      intro s' hs'
      obtain ⟨s, hs, rfl⟩ := List.mem_map.1 hs'
      exact absent s hs
    have scope : (f.renumber r).body.scope = f.body.scope := Ir.Body.scope_renumber h.owned
    rw [checkEdge_of_absent indexed absent, checkEdge_of_absent indexed' absent', scope]

theorem Verifier.enterFunction_renumber (v : Verifier) (h : Settled f) :
    v.enterFunction (f.renumber r) = v.enterFunction f := by
  have each : checkEdge (f.renumber r) = checkEdge f := funext fun e ↦ checkEdge_renumber h e
  have found : hasEdge (f.renumber r) = hasEdge f :=
    funext fun e ↦ by rw [hasEdge, hasEdge, each]
  have all : checkEdges (f.renumber r) = checkEdges f :=
    funext fun edges ↦ by rw [checkEdges_eq_forM, checkEdges_eq_forM, each]
  have count : checkBlockCount (f.renumber r) = checkBlockCount f :=
    funext fun expected ↦ by
      have length : (f.renumber r).body.blocks.length = f.body.blocks.length := List.length_map _
      rw [checkBlockCount, checkBlockCount, length]
      rfl
  rw [Verifier.enterFunction, Verifier.enterFunction, found, all, count]
  rfl

theorem function_renumber (b : Ir.Bundle) (name : String) :
    (b.renumber r).function name = Ir.Function.renumber r <$> b.function name := by
  have found : (b.renumber r).function? name = (b.function? name).map (Ir.Function.renumber r) :=
    List.find?_map
  rw [Ir.Bundle.function, Ir.Bundle.function, found]
  cases b.function? name <;> rfl

theorem Verifier.walk_renumber (v : Verifier) {b : Ir.Bundle} (h : ∀ f ∈ b.functions, Settled f) :
    v.walk (b.renumber r) = v.walk b := by
  have entered : (b.renumber r).functions.forM v.enterFunction =
      b.functions.forM v.enterFunction := by
    rw [Ir.Bundle.renumber]
    generalize b.functions = fs at h
    induction fs with
    | nil => rfl
    | cons f fs ih =>
      obtain ⟨hf, hfs⟩ := List.forall_mem_cons.1 h
      show (v.enterFunction (f.renumber r) >>= fun _ ↦ _) = (v.enterFunction f >>= fun _ ↦ _)
      rw [enterFunction_renumber v hf, ih hfs]
  funext p
  rw [walk, walk, walk_bundle, walk_bundle, entered]

theorem verify_renumber (v : Verifier) {b : Ir.Bundle} (h : ∀ f ∈ b.functions, Settled f) :
    verify v (b.renumber r) = verify v b := by
  have asked : v.function?.mapM (b.renumber r).function =
      Option.map (Ir.Function.renumber r) <$> v.function?.mapM b.function := by
    cases v.function? with
    | none => rfl
    | some name =>
      show some <$> (b.renumber r).function name = _ <$> some <$> b.function name
      rw [function_renumber]
      cases b.function name <;> rfl
  rw [verify, verify, asked, v.walk_renumber h]
  cases v.edges with
  | error e => rfl
  | ok edges => cases v.function?.mapM b.function <;> rfl

end Oracle

namespace Ir

/-! ## Bundles -/

theorem Bundle.document_renumber (b : Bundle) (r : Nat ↪ Nat) :
    (b.renumber r).document = b.document := by
  rw [document, document, renumber, List.map_map, Document.mk.injEq]
  exact ⟨rfl, List.map_congr_left fun f _ ↦ f.spec_renumber⟩

/-- **Reports do not depend on numbers.** -/
theorem Bundle.reports_renumber {b : Bundle} (h : ∀ f ∈ b.functions, Oracle.Settled f)
    (r : Nat ↪ Nat) : (b.renumber r).reports = b.reports := by
  rw [reports, reports, Reports.mk.injEq]
  refine ⟨?_, ?_, funext fun v ↦ Oracle.verify_renumber v h⟩
  · rw [toJson, toJson, document_renumber]
  · rw [renumber, List.map_map]
    exact List.map_congr_left fun f hf ↦ Function.reports_renumber (h f hf).body r

/-! ## Loading twice -/

namespace Document

/-- A bundle read from JSON and numbered from `next`, with the first number not used by it. -/
def load (j : Json) (next : Nat) : Except Error (Bundle × Nat) := (·.build next) <$> ofJson j

theorem settled_build {d : Document} (h : d.WellFormed) (next : Nat) :
    ∀ f ∈ (d.build next).1.functions, Oracle.Settled f := fun f hf ↦
  ⟨(wellFormed_build h next).body f hf, FunctionSpec.owned_buildAll _ _ f hf⟩

/-- A bundle with the numbers from `n` on and one with the numbers from `n'` on, each with the first
number that is left over. -/
structure Parallel (n n' : Nat) (made made' : Bundle × Nat) : Prop where
  reports : made.1.reports = made'.1.reports
  /-- Each moved by the first number of the other one they are the same bundle. -/
  moved : made.1.renumber (shift n') = made'.1.renumber (shift n)
  numbers : made.1.numbers = List.Ico n made.2
  numbers' : made'.1.numbers = List.Ico n' made'.2
  offset : List.Forall₂ (fun u u' ↦ u + n' = u' + n) made.1.numbers made'.1.numbers
  apart : made.2 ≤ n' → made.1.numbers.Disjoint made'.1.numbers

theorem parallel_build {d : Document} (h : d.WellFormed) (n n' : Nat) :
    Parallel n n' (d.build n) (d.build n') := by
  have numbers := (d.numbers_build n).2
  have numbers' := (d.numbers_build n').2
  -- The sum of the two first numbers is the larger of each by the other.
  have moved : (d.build n).1.renumber (shift n') = (d.build n').1.renumber (shift n) := by
    have sum : shift n' n = shift n n' := Nat.add_comm n n'
    have left := congrArg Prod.fst (d.build_shift n' n)
    have right := congrArg Prod.fst (d.build_shift n n')
    rw [sum] at left
    exact left.symm.trans right
  constructor
  case reports =>
    rw [← Bundle.reports_renumber (settled_build h n) (shift n'), moved,
      Bundle.reports_renumber (settled_build h n')]
  case moved => exact moved
  case numbers => exact numbers
  case numbers' => exact numbers'
  case offset =>
    have same := congrArg Bundle.numbers moved
    rw [Bundle.numbers_renumber, Bundle.numbers_renumber] at same
    exact map_eq_map_iff.1 same
  case apart =>
    intro le u hu hu'
    rw [numbers, List.Ico.mem] at hu
    rw [numbers', List.Ico.mem] at hu'
    omega

/-- **Loading the same value twice gives the same, but for an offset of all numbers.** Either both
times it is refused with the same error, or the two bundles have the same reports. -/
theorem load_twice (j : Json) (n n' : Nat) :
    (∃ e, load j n = .error e ∧ load j n' = .error e) ∨
      ∃ made made', load j n = .ok made ∧ load j n' = .ok made' ∧ Parallel n n' made made' := by
  cases read : ofJson j with
  | error e =>
    refine .inl ⟨e, ?_, ?_⟩
    · rw [load, read]
      rfl
    · rw [load, read]
      rfl
  | ok d =>
    refine .inr ⟨d.build n, d.build n', ?_, ?_,
      parallel_build (ofJson_eq_ok_iff.1 read).wellFormed n n'⟩
    · rw [load, read]
      rfl
    · rw [load, read]
      rfl

end Document

end Ir

end Flowcheck
