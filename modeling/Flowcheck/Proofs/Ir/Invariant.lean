import Flowcheck.Proofs.Ir.Consistency
import Flowcheck.Proofs.Ir.Ownership
import Flowcheck.Proofs.Ir.Placement
import Flowcheck.Proofs.Ir.Run

/-!
# The invariant of stores

The five parts together: a change keeps a store well formed, and so does a run. In a well-formed
store every look-up by number finds what the parts of the store say it should.
-/

namespace Flowcheck.Ir

open Store

variable {s s' : Store} {c : Change}

/-! ## Runs -/

/-- **Every change keeps a store well formed.** -/
theorem Step.wellFormed (h : s.WellFormed) (step : Step s c s') : s'.WellFormed where
  numbered := step.numbered h
  uid_eq uid b hb := (step.body h uid b hb).1
  body uid b hb := (step.body h uid b hb).2
  housed := step.housed h
  placed := step.placed h
  owned := step.owned h
  listed := step.listed h

theorem Store.WellFormed.run (h : s.WellFormed) (ops : List Operation) : (s.run ops).WellFormed := by
  obtain ⟨cs, trace⟩ := trace_run ops s
  exact trace.keeps Step.wellFormed h

/-- What changes with a property keep of well-formed stores is kept by a chain of such changes. -/
theorem Trace.keeps_of_wellFormed {P : Store → Prop} {p : Change → Prop}
    (keep : ∀ {s s' : Store} {c}, p c → s.WellFormed → P s → Step s c s' → P s')
    {cs : List Change} (trace : Trace s cs s') (hcs : ∀ c ∈ cs, p c) (h : s.WellFormed)
    (start : P s) : P s' := by
  have both {t t' : Store} {c : Change} (hc : p c) (ht : t.WellFormed ∧ P t)
      (step : Step t c t') : t'.WellFormed ∧ P t' :=
    ⟨step.wellFormed ht.1, keep hc ht.1 ht.2 step⟩
  exact (trace.keeps_of both hcs ⟨h, start⟩).2

/-- What the changes that an operation may make keep of well-formed stores is kept by the
operation. -/
theorem Store.WellFormed.perform_keeps (h : s.WellFormed) {P : Store → Prop} (start : P s)
    {op : Operation}
    (keep : ∀ {s s' : Store} {c}, op.Permits c → s.WellFormed → P s → Step s c s' → P s') :
    P (s.after op.perform) := by
  obtain ⟨cs, trace, permitted⟩ := op.moves_perform s
  exact trace.keeps_of_wellFormed keep permitted h start

/-! ## Looking up -/

namespace Store.WellFormed

theorem block?_eq_some_iff (h : s.WellFormed) {uid : Nat} {bb : Block} :
    s.block? uid = some bb ↔ s.Holds bb ∧ bb.uid = uid := by
  constructor
  · intro found
    refine ⟨?_, uid_of_block? found⟩
    obtain ⟨body, _, found⟩ := Option.bind_eq_some_iff.1 found
    obtain ⟨b, hb, found⟩ := Option.bind_eq_some_iff.1 found
    rw [Option.orElse_eq_orElse, ← Option.or_eq_orElse, Option.or_eq_some_iff] at found
    rcases found with found | ⟨_, found⟩
    · refine .inl ⟨body, ?_⟩
      rw [blocksOf_eq hb]
      exact Body.mem_of_block? found
    · exact .inr (List.mem_of_find?_eq_some found)
  · rintro ⟨⟨body, hbb⟩ | stray, rfl⟩
    · have home := h.housed.listed body bb hbb
      obtain ⟨b, hb, hbb⟩ := exists_body_of_mem_blocksOf hbb
      have found := (Body.block?_eq_some_iff (h.body body b hb).uids_nodup).2 ⟨hbb, rfl⟩
      simp [block?, home, hb, found]
    · obtain ⟨body, home, unlisted⟩ := h.housed.stray bb stray
      obtain ⟨b, hb⟩ := Assoc.mem_keys_iff.1 (h.housed.home bb.uid body home).1
      have missing : b.block? bb.uid = none := by
        rw [Body.block?, List.find?_eq_none]
        rw [blocksOf_eq hb] at unlisted
        simpa using unlisted
      have found := find?_key_of_mem h.housed.strays_nodup stray
      simp [block?, home, hb, missing, found]

theorem function?_of_mem_keys (h : s.WellFormed) {uid : Nat}
    (key : uid ∈ s.functions.keys) :
    ∃ f, s.function? uid = some f ∧ f.uid = uid ∧ f.body.WellFormed := by
  obtain ⟨f, hf⟩ := Assoc.mem_keys_iff.1 key
  obtain ⟨b, hb, _⟩ := Option.bind_eq_some_iff.1 (h.owned.body uid f hf)
  refine ⟨⟨uid, f.name, b⟩, ?_, rfl, h.body _ b hb⟩
  simp [function?, hf, hb]

theorem map_uid_functions (h : s.WellFormed) {fs : List Nat}
    (keys : ∀ f ∈ fs, f ∈ s.functions.keys) : (fs.filterMap s.function?).map Function.uid = fs := by
  induction fs with
  | nil => rfl
  | cons f fs ih =>
    obtain ⟨fn, hfn, hu, _⟩ := h.function?_of_mem_keys (keys f List.mem_cons_self)
    rw [List.filterMap_cons_some hfn, List.map_cons, hu,
      ih fun f' hf' ↦ keys f' (List.mem_cons_of_mem f hf')]

theorem bundle?_ok (h : s.WellFormed) {uid : Nat} {entry : BundleEntry}
    (he : s.bundles.get? uid = some entry) : ∃ b, s.bundle? uid = some b ∧
      b.functions.map Function.uid = entry.functions ∧ b.validate = .ok () := by
  refine ⟨⟨uid, entry.name, entry.functions.filterMap s.function?, entry.frozen⟩, ?_, ?_, ?_⟩
  · simp [bundle?, he]
  · exact h.map_uid_functions (h.listed.exist uid entry he)
  · refine forM_eq_ok fun fn hfn ↦ ?_
    obtain ⟨f, hf, hfn⟩ := List.mem_filterMap.1 hfn
    obtain ⟨fn', hfn', _, body⟩ := h.function?_of_mem_keys (h.listed.exist uid entry he f hf)
    rw [hfn] at hfn'
    obtain rfl := Option.some.inj hfn'
    exact body.check_ok

end Store.WellFormed

end Flowcheck.Ir
