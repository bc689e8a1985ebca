import Flowcheck.Proofs.Ir.Bundles
import Flowcheck.Proofs.Oracle.Decoding
import Flowcheck.Proofs.Oracle.NamedEdges
import Flowcheck.Proofs.Sexp.Lines
import Mathlib

/-!
# Written oracles

The oracle that is written for a function decodes to the edges of the function, whether it is taken
as a value or as text of some width. So it holds of the function itself, of every function with at
least these edges, and of no other. It can be written if the names at the ends of edges are texts of
atoms; a name that occurs at no edge does not matter.
-/

namespace Flowcheck.Oracle

variable {f g : Ir.Function}

/-! ## Entries -/

theorem atomOfText_eq_ok_iff {s : String} {a : Atom} :
    Sexp.atomOfText s = .ok a ↔ a.text = s := by
  rw [Sexp.atomOfText, ← Atom.ofText?_eq_some_iff]
  cases Atom.ofText? s <;> simp

theorem entryOf_eq_ok_iff {src dst : String} {entry : Sexp} :
    entryOf src dst = .ok entry ↔
      ∃ p : Atom × Atom, (p.1.text, p.2.text) = (src, dst) ∧ entry = atomEntry p := by
  rw [entryOf, bind_eq_ok_iff]
  constructor
  · rintro ⟨s, hs, h⟩
    obtain ⟨d, hd, h⟩ := bind_eq_ok_iff.1 h
    obtain rfl := Except.ok.inj h
    exact ⟨(s, d), Prod.ext (atomOfText_eq_ok_iff.1 hs) (atomOfText_eq_ok_iff.1 hd), rfl⟩
  · rintro ⟨⟨s, d⟩, names, rfl⟩
    obtain ⟨hs, hd⟩ := Prod.mk.inj names
    exact ⟨s, atomOfText_eq_ok_iff.2 hs, bind_eq_ok_iff.2 ⟨d, atomOfText_eq_ok_iff.2 hd, rfl⟩⟩

/-- Entries can be written exactly for pairs of atoms' texts. -/
theorem entriesOf_eq_ok_iff {pairs : List (String × String)} {entries : List Sexp} :
    entriesOf pairs = .ok entries ↔
      ∃ ps : List (Atom × Atom),
        ps.map (fun p ↦ (p.1.text, p.2.text)) = pairs ∧ entries = ps.map atomEntry := by
  induction pairs generalizing entries with
  | nil =>
    constructor
    · intro h
      obtain rfl := Except.ok.inj h
      exact ⟨[], rfl, rfl⟩
    · rintro ⟨ps, names, rfl⟩
      rw [List.map_eq_nil_iff.1 names]
      rfl
  | cons pair pairs ih =>
    rw [entriesOf, bind_eq_ok_iff]
    constructor
    · rintro ⟨entry, hentry, h⟩
      obtain ⟨rest, hrest, h⟩ := bind_eq_ok_iff.1 h
      obtain rfl := Except.ok.inj h
      obtain ⟨p, name, rfl⟩ := entryOf_eq_ok_iff.1 hentry
      obtain ⟨ps, names, rfl⟩ := ih.1 hrest
      exact ⟨p :: ps, by rw [List.map_cons, name, names], rfl⟩
    · rintro ⟨ps, names, rfl⟩
      obtain ⟨p, ps, rfl, name, names⟩ := List.map_eq_cons_iff.1 names
      refine ⟨atomEntry p, entryOf_eq_ok_iff.2 ⟨p, name, rfl⟩, ?_⟩
      exact bind_eq_ok_iff.2 ⟨ps.map atomEntry, ih.2 ⟨ps, names, rfl⟩, rfl⟩

theorem exists_atoms {pairs : List (String × String)}
    (legal : ∀ p ∈ pairs, Atom.IsLegalText p.1 ∧ Atom.IsLegalText p.2) :
    ∃ ps : List (Atom × Atom), ps.map (fun p ↦ (p.1.text, p.2.text)) = pairs := by
  induction pairs with
  | nil => exact ⟨[], rfl⟩
  | cons pair pairs ih =>
    obtain ⟨⟨hs, hd⟩, legal⟩ := List.forall_mem_cons.1 legal
    obtain ⟨ps, rfl⟩ := ih legal
    refine ⟨(.ofText pair.1 hs, .ofText pair.2 hd) :: ps, ?_⟩
    rw [List.map_cons, Atom.text_ofText, Atom.text_ofText]

/-! ## Oracles of functions -/

/-- Whether all names at the ends of edges are texts of atoms. -/
def Writable (f : Ir.Function) : Prop :=
  ∀ src dst, f.body.NamedEdge src dst → Atom.IsLegalText src ∧ Atom.IsLegalText dst

theorem ofFunction_eq_ok_iff {v : Sexp} :
    ofFunction f = .ok v ↔
      ∃ ps : List (Atom × Atom), ps.map (fun p ↦ (p.1.text, p.2.text)) = namedEdges f ∧
        v = .list (.atom transTag :: ps.map atomEntry) := by
  rw [ofFunction, bind_eq_ok_iff]
  constructor
  · rintro ⟨entries, hentries, h⟩
    obtain rfl := Except.ok.inj h
    obtain ⟨ps, names, rfl⟩ := entriesOf_eq_ok_iff.1 hentries
    exact ⟨ps, names, rfl⟩
  · rintro ⟨ps, names, rfl⟩
    exact ⟨ps.map atomEntry, entriesOf_eq_ok_iff.2 ⟨ps, names, rfl⟩, rfl⟩

theorem Writable.exists_ofFunction (h : Writable f) : ∃ v, ofFunction f = .ok v := by
  have legal : ∀ p ∈ namedEdges f, Atom.IsLegalText p.1 ∧ Atom.IsLegalText p.2 :=
    fun (src, dst) hp ↦ h src dst (mem_namedEdges_iff.1 hp)
  obtain ⟨ps, names⟩ := exists_atoms legal
  exact ⟨_, ofFunction_eq_ok_iff.2 ⟨ps, names, rfl⟩⟩

/-- Only names that are texts of atoms can be written. -/
theorem writable_of_ofFunction {v : Sexp} (h : ofFunction f = .ok v) : Writable f := by
  intro src dst edge
  obtain ⟨ps, names, -⟩ := ofFunction_eq_ok_iff.1 h
  have listed : (src, dst) ∈ ps.map fun p ↦ (p.1.text, p.2.text) :=
    names ▸ mem_namedEdges_iff.2 edge
  obtain ⟨p, -, ends⟩ := List.mem_map.1 listed
  obtain ⟨rfl, rfl⟩ := Prod.mk.inj ends
  exact ⟨p.1.isLegalText_text, p.2.isLegalText_text⟩

/-! ## Decoding what is written -/

/-- The edges that the oracle of a function expects. -/
def expectedEdges (f : Ir.Function) : List ExpectedEdge := numberFrom 1 (namedEdges f)

theorem decodeValue_ofFunction {v : Sexp} (h : ofFunction f = .ok v) :
    decodeValue v = .ok (expectedEdges f) := by
  obtain ⟨ps, names, rfl⟩ := ofFunction_eq_ok_iff.1 h
  rw [decodeValue_trans, decodeEntries_atomEntry, names, expectedEdges]

theorem decode_value {v : Sexp} (h : ofFunction f = .ok v) :
    decode (.value (some v)) = .ok (expectedEdges f) := by
  rw [decode, decodeOption]
  exact decodeValue_ofFunction h

/-- The text is read back to the value whatever its width is. -/
theorem decode_pretty {v : Sexp} (h : ofFunction f = .ok v) (layout : Sexp.Layout) :
    decode (.text (v.pretty layout)) = .ok (expectedEdges f) := by
  have read : Sexp.read (v.pretty layout) none = .ok (some v) :=
    Sexp.read_of_sourceTokens none (Sexp.sourceTokens_pretty layout v)
  rw [decode, read]
  show decodeOption (some v) = _
  rw [decodeOption]
  exact decodeValue_ofFunction h

theorem format_of_ofFunction {v : Sexp} (h : ofFunction f = .ok v) (width : Int) :
    format width f = .ok (v.pretty { width }) := by
  rw [format, h]
  rfl

/-- Edges that list a relation on names: each pair once, in ascending order, numbered from one. -/
structure Lists (edges : List ExpectedEdge) (b : Ir.Body) : Prop where
  mem : ∀ src dst, (src, dst) ∈ edges.map (fun e ↦ (e.src, e.dest)) ↔ b.NamedEdge src dst
  ascending : (edges.map fun e ↦ (e.src, e.dest)).Pairwise PairLt
  positions : edges.map ExpectedEdge.position = List.range' 1 edges.length

theorem map_ends_expectedEdges (f : Ir.Function) :
    (expectedEdges f).map (fun e ↦ (e.src, e.dest)) = namedEdges f :=
  map_ends_numberFrom 1 (namedEdges f)

theorem lists_expectedEdges (h : f.body.WellFormed) {v : Sexp} (hv : ofFunction f = .ok v) :
    Lists (expectedEdges f) f.body where
  mem src dst := by rw [map_ends_expectedEdges, mem_namedEdges_iff]
  ascending := by
    rw [map_ends_expectedEdges]
    exact pairwise_namedEdges h.names_nodup
  positions := positions_decodeValue (decodeValue_ofFunction hv)

/-- The oracle of one function holds of another one that has at least its edges. -/
theorem checkEdges_expectedEdges_iff (hg : g.body.WellFormed) :
    checkEdges g (expectedEdges f) = .ok () ↔
      ∀ src dst, f.body.NamedEdge src dst → g.body.NamedEdge src dst := by
  rw [checkEdges_eq_ok_iff hg.indexed]
  constructor
  · intro found src dst edge
    have listed : (src, dst) ∈ (expectedEdges f).map fun e ↦ (e.src, e.dest) := by
      rwa [map_ends_expectedEdges, mem_namedEdges_iff]
    obtain ⟨e, he, ends⟩ := List.mem_map.1 listed
    obtain ⟨rfl, rfl⟩ := Prod.mk.inj ends
    exact found e he
  · intro included e he
    have listed : (e.src, e.dest) ∈ namedEdges f := by
      rw [← map_ends_expectedEdges]
      exact List.mem_map_of_mem he
    exact included e.src e.dest (mem_namedEdges_iff.1 listed)

theorem ofFunction_eq_iff (hf : f.body.WellFormed) (hg : g.body.WellFormed)
    (writable : Writable f) :
    ofFunction f = ofFunction g ↔
      ∀ src dst, f.body.NamedEdge src dst ↔ g.body.NamedEdge src dst := by
  constructor
  · intro same
    obtain ⟨v, hv⟩ := writable.exists_ofFunction
    have edges : expectedEdges f = expectedEdges g := Except.ok.inj
      ((decodeValue_ofFunction hv).symm.trans (decodeValue_ofFunction (same.symm.trans hv)))
    rw [← namedEdges_eq_iff hf.names_nodup hg.names_nodup, ← map_ends_expectedEdges, edges,
      map_ends_expectedEdges]
  · intro same
    rw [ofFunction, ofFunction, (namedEdges_eq_iff hf.names_nodup hg.names_nodup).2 same]

/-- **Writing and checking oracles agree.** -/
theorem ofFunction_agrees (hf : f.Reachable) :
    (Writable f → ∃ v edges, ofFunction f = .ok v ∧
      decode (.value (some v)) = .ok edges ∧
      (∀ width, ∃ text, format width f = .ok text ∧ decode (.text text) = .ok edges) ∧
      Lists edges f.body ∧ checkEdges f edges = .ok () ∧
      ∀ g, g.Reachable →
        (checkEdges g edges = .ok () ↔
          ∀ src dst, f.body.NamedEdge src dst → g.body.NamedEdge src dst) ∧
        (Writable g → (ofFunction f = ofFunction g ↔
          ∀ src dst, f.body.NamedEdge src dst ↔ g.body.NamedEdge src dst))) ∧
    (¬ Writable f → ∃ e : Sexp.BuildError, ofFunction f = .error e) := by
  constructor
  · intro writable
    obtain ⟨v, hv⟩ := writable.exists_ofFunction
    refine ⟨v, expectedEdges f, hv, decode_value hv, fun width ↦ ?_,
      lists_expectedEdges hf.body hv, ?_, fun g hg ↦ ⟨?_, fun _ ↦ ?_⟩⟩
    · exact ⟨_, format_of_ofFunction hv width, decode_pretty hv { width }⟩
    · exact (checkEdges_expectedEdges_iff hf.body).2 fun _ _ edge ↦ edge
    · exact checkEdges_expectedEdges_iff hg.body
    · exact ofFunction_eq_iff hf.body hg.body writable
  · intro illegal
    cases h : ofFunction f with
    | error e => exact ⟨e, rfl⟩
    | ok v => exact absurd (writable_of_ofFunction h) illegal

/-- Two functions: one with the blocks `b\` and `a` and an edge each way, one with the block `x y`
and an edge from it to itself. -/
def oddNames : Ir.Store :=
  .run {} [.newFunction "f" none, .buildBlocks 1 ["b\\", "a"],
    .buildEdges 1 [("b\\", "a"), ("a", "b\\")], .newFunction "g" none, .buildBlocks 5 ["x y"],
    .buildEdge 5 "x y" "x y"]

/-- The first function can be written, in as little width as there may be, and the second one
cannot. -/
theorem ofFunction_oddNames : ∃ f g, oddNames.function? 1 = some f ∧ oddNames.function? 5 = some g ∧
    f.Reachable ∧ g.Reachable ∧ Writable f ∧ ¬ Writable g ∧
    (∃ text, format 0 f = .ok text ∧
      decode (.text text) = .ok [⟨1, "a", "b\\"⟩, ⟨2, "b\\", "a"⟩]) ∧
    ∃ e, ofFunction g = .error e := by
  have thereF : (oddNames.function? 1).isSome := by cbv
  have thereG : (oddNames.function? 5).isSome := by cbv
  have foundF := (Option.some_get thereF).symm
  have foundG := (Option.some_get thereG).symm
  have hf : ((oddNames.function? 1).get thereF).Reachable := ⟨1, _, 1, foundF⟩
  have hg : ((oddNames.function? 5).get thereG).Reachable := ⟨1, _, 5, foundG⟩
  have edgesF : namedEdges ((oddNames.function? 1).get thereF) = [("a", "b\\"), ("b\\", "a")] := by
    cbv
  have edgesG : namedEdges ((oddNames.function? 5).get thereG) = [("x y", "x y")] := by cbv
  have writable : Writable ((oddNames.function? 1).get thereF) := by
    intro src dst edge
    rw [← mem_namedEdges_iff, edgesF] at edge
    have legal : ∀ p ∈ [("a", "b\\"), ("b\\", "a")],
        Atom.IsLegalText p.1 ∧ Atom.IsLegalText p.2 := by decide
    exact legal (src, dst) edge
  have illegal : ¬ Writable ((oddNames.function? 5).get thereG) := by
    intro writable
    have edge : ("x y", "x y") ∈ namedEdges ((oddNames.function? 5).get thereG) := by
      rw [edgesG]
      exact List.mem_cons_self
    exact absurd (writable "x y" "x y" (mem_namedEdges_iff.1 edge)).1 (by decide)
  obtain ⟨v, edges, hv, hvalue, written, -⟩ := (ofFunction_agrees hf).1 writable
  obtain ⟨text, hformat, hdecode⟩ := written 0
  have expected : edges = [⟨1, "a", "b\\"⟩, ⟨2, "b\\", "a"⟩] := by
    rw [decode_value hv] at hvalue
    rw [← Except.ok.inj hvalue, expectedEdges, edgesF]
    rfl
  exact ⟨_, _, foundF, foundG, hf, hg, writable, illegal, ⟨text, hformat, expected ▸ hdecode⟩,
    (ofFunction_agrees hg).2 illegal⟩

end Flowcheck.Oracle
