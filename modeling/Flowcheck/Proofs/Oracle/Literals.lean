import Flowcheck.Proofs.Oracle.Decoding
import Flowcheck.Proofs.Pattern.Matching

/-!
# Which literals are oracles

An oracle is the list of the tag `trans` and of entries, each of them the list of the tag `edge` and
two lists with one atom each. Decoding finds this out in pieces: two patterns, and behind them a
look at what was captured. Both kinds of entry that it refuses, those that do not match and those
whose captured ends are lists, are refused at the same place of the same loop. So the error is
always about the first entry that is not two atoms, and tells its position and its text.
-/

namespace Flowcheck.Oracle

open PatternNode

/-! ## What the patterns match -/

theorem exists_entries_of_match? {v : Sexp} {m : Match} (h : transPattern.match? v = some m) :
    ∃ entries, v = .list (.atom transTag :: entries) := by
  obtain ⟨items, rfl, each⟩ := instance_list (Pattern.instance_of_match? h)
  obtain ⟨tag, entries, rfl, first, -⟩ := instances_cons_of_not_isRest rfl each
  obtain ⟨a, rfl, text⟩ := instance_literal first
  obtain rfl : a = transTag := Atom.text_inj.1 (text.trans (Atom.text_ofText ..).symm)
  exact ⟨entries, rfl⟩

theorem exists_ends_of_match? {entry : Sexp} {m : Match} (h : edgePattern.match? entry = some m) :
    ∃ src dest, entry = .list [.atom edgeTag, .list [src], .list [dest]] ∧
      m.get? "src" = some src ∧ m.get? "dest" = some dest := by
  obtain ⟨items, rfl, each⟩ := instance_list (Pattern.instance_of_match? h)
  obtain ⟨tag, both, rfl, first, behindTag⟩ := instances_cons_of_not_isRest rfl each
  obtain ⟨a, rfl, text⟩ := instance_literal first
  obtain rfl : a = edgeTag := Atom.text_inj.1 (text.trans (Atom.text_ofText ..).symm)
  obtain ⟨source, one, rfl, second, behindSource⟩ := instances_cons_of_not_isRest rfl behindTag
  obtain ⟨src, rfl, hsrc⟩ := instance_list_capture second
  obtain ⟨destination, nothing, rfl, third, last⟩ := instances_cons_of_not_isRest rfl behindSource
  obtain ⟨dest, rfl, hdest⟩ := instance_list_capture third
  obtain rfl := instances_nil last
  exact ⟨src, dest, rfl, hsrc, hdest⟩

/-! ## Entries -/

/-- The entry is that of an edge between two names. -/
def IsEntry (entry : Sexp) : Prop := ∃ p : Atom × Atom, entry = atomEntry p

theorem edgeEnd_eq_ok_iff {m : Match} {what : String} {position : Nat} {entry : Sexp}
    {name : String} : edgeEnd m what position entry = .ok name ↔
      ∃ a : Atom, m.get? what = some (.atom a) ∧ a.text = name := by
  rw [edgeEnd]
  split
  · next a bound => simp [bound]
  · next other =>
    refine iff_of_false (by simp) ?_
    rintro ⟨a, bound, -⟩
    exact other a bound

theorem isEntry_of_decodeEntry {position : Nat} {entry : Sexp} {e : ExpectedEdge}
    (h : decodeEntry position entry = .ok e) : IsEntry entry := by
  rw [decodeEntry] at h
  split at h
  · cases h
  · next m matched =>
    obtain ⟨src, dest, rfl, hsrc, hdest⟩ := exists_ends_of_match? matched
    obtain ⟨_, srcName, h⟩ := bind_eq_ok_iff.1 h
    obtain ⟨_, destName, -⟩ := bind_eq_ok_iff.1 h
    obtain ⟨s, srcAtom, -⟩ := edgeEnd_eq_ok_iff.1 srcName
    obtain ⟨d, destAtom, -⟩ := edgeEnd_eq_ok_iff.1 destName
    obtain rfl : src = .atom s := Option.some.inj (hsrc.symm.trans srcAtom)
    obtain rfl : dest = .atom d := Option.some.inj (hdest.symm.trans destAtom)
    exact ⟨(s, d), rfl⟩

/-- An error that is about an entry tells its position and its text; other errors tell neither. -/
def Places (place? : Option (Nat × Sexp)) (e : DecodeError) : Prop :=
  e.report.attributes =
    [("position", (place?.map fun place ↦ Json.int place.1).getD .null),
      ("entry", .str ((place?.map fun place ↦ place.2.flat).getD ""))]

theorem places_of_decodeEntry {position : Nat} {entry : Sexp} {e : DecodeError}
    (h : decodeEntry position entry = .error e) : Places (some (position, entry)) e := by
  have ends {m : Match} {what : String} (h : edgeEnd m what position entry = .error e) :
      Places (some (position, entry)) e := by
    rw [edgeEnd] at h
    split at h
    · cases h
    · cases h
      rfl
  rw [decodeEntry] at h
  split at h
  · cases h
    rfl
  · rcases bind_eq_error_iff.1 h with h | ⟨src, -, h⟩
    · exact ends h
    · rcases bind_eq_error_iff.1 h with h | ⟨dest, -, h⟩
      · exact ends h
      · cases h

/-- **Entries are refused for the first of them that is none.** -/
theorem decodeEntries_of_not_isEntry (position : Nat) {before after : List Sexp} {entry : Sexp}
    (good : ∀ x ∈ before, IsEntry x) (bad : ¬ IsEntry entry) :
    ∃ e, decodeEntries position (before ++ entry :: after) = .error e ∧
      Places (some (position + before.length, entry)) e := by
  induction before generalizing position with
  | nil =>
    cases decoded : decodeEntry position entry with
    | ok edge => exact absurd (isEntry_of_decodeEntry decoded) bad
    | error e =>
      refine ⟨e, ?_, places_of_decodeEntry decoded⟩
      rw [List.nil_append, decodeEntries, decoded]
      rfl
  | cons x before ih =>
    obtain ⟨⟨p, rfl⟩, others⟩ := List.forall_mem_cons.1 good
    obtain ⟨e, refused, places⟩ := ih (position + 1) others
    refine ⟨e, ?_, ?_⟩
    · rw [List.cons_append, decodeEntries, decodeEntry_atomEntry, refused]
      rfl
    · rwa [List.length_cons, Nat.add_comm before.length, ← Nat.add_assoc]

theorem exists_atoms_of_decodeEntries {position : Nat} {entries : List Sexp}
    {edges : List ExpectedEdge} (h : decodeEntries position entries = .ok edges) :
    ∃ ps : List (Atom × Atom), entries = ps.map atomEntry := by
  induction entries generalizing position edges with
  | nil => exact ⟨[], rfl⟩
  | cons entry entries ih =>
    obtain ⟨edge, decoded, h⟩ := bind_eq_ok_iff.1 h
    obtain ⟨rest, others, -⟩ := bind_eq_ok_iff.1 h
    obtain ⟨p, rfl⟩ := isEntry_of_decodeEntry decoded
    obtain ⟨ps, rfl⟩ := ih others
    exact ⟨p :: ps, rfl⟩

/-! ## Values and literals -/

theorem decodeValue_of_not_trans {v : Sexp}
    (h : ∀ entries, v ≠ .list (.atom transTag :: entries)) : decodeValue v = .error (.notTrans v) := by
  rw [decodeValue]
  split
  · rfl
  · next m matched =>
    obtain ⟨entries, rfl⟩ := exists_entries_of_match? matched
    exact absurd rfl (h entries)

/-- The literal is the value, or a text that is read as it. -/
def Literal.Holds : Literal → Sexp → Prop
  | .value v?, v => v? = some v
  | .text s, v => Sexp.read s none = .ok (some v)

/-- A text is decoded as what it is read as. -/
theorem decode_text {s : String} {v? : Option Sexp} (read : Sexp.read s none = .ok v?) :
    decode (.text s) = decode (.value v?) := by
  simp only [decode, read]

theorem decode_of_holds {literal : Literal} {v : Sexp} (h : literal.Holds v) :
    decode literal = decodeValue v := by
  cases literal with
  | value v? =>
    obtain rfl : v? = some v := h
    rfl
  | text s =>
    rw [decode_text h]
    rfl

theorem decode_of_not_holds {literal : Literal} (h : ∀ v, ¬ literal.Holds v) :
    ∃ e, decode literal = .error e ∧ Places none e := by
  have nothing : decode (.value none) = .error .empty := rfl
  cases literal with
  | value v? =>
    cases v? with
    | none => exact ⟨.empty, nothing, rfl⟩
    | some v => exact absurd rfl (h v)
  | text s =>
    cases read : Sexp.read s none with
    | error cause => exact ⟨.unreadable cause, by rw [decode, read], rfl⟩
    | ok v? =>
      cases v? with
      | none => exact ⟨.empty, (decode_text read).trans nothing, rfl⟩
      | some v => exact absurd read (h v)

/-- The edges of an oracle, numbered from one. -/
def edgesOf (ps : List (Atom × Atom)) : List ExpectedEdge :=
  ps.mapIdx fun k p ↦ { position := k + 1, src := p.1.text, dest := p.2.text }

theorem numberFrom_eq_mapIdx (position : Nat) (ps : List (Atom × Atom)) :
    numberFrom position (ps.map fun p ↦ (p.1.text, p.2.text)) =
      ps.mapIdx fun k p ↦ { position := k + position, src := p.1.text, dest := p.2.text } := by
  induction ps generalizing position with
  | nil => rfl
  | cons p ps ih =>
    rw [List.map_cons, numberFrom, ih, List.mapIdx_cons, Nat.zero_add]
    simp only [Nat.add_assoc, Nat.add_comm 1]

theorem decodeEntries_one (ps : List (Atom × Atom)) :
    decodeEntries 1 (ps.map atomEntry) = .ok (edgesOf ps) := by
  rw [decodeEntries_atomEntry, numberFrom_eq_mapIdx, edgesOf]

/-- What becomes of a literal. -/
structure Decoded (literal : Literal) : Prop where
  accepted : ∀ edges, decode literal = .ok edges ↔ ∃ ps : List (Atom × Atom),
    literal.Holds (.list (.atom transTag :: ps.map atomEntry)) ∧ edges = edgesOf ps
  /-- Where there is no list under the right tag, no entry is at fault. -/
  untagged : (∀ entries, ¬ literal.Holds (.list (.atom transTag :: entries))) →
    ∃ e, decode literal = .error e ∧ Places none e
  /-- Otherwise the first entry that is not one of an edge between two names is at fault. -/
  placed : ∀ before entry after,
    literal.Holds (.list (.atom transTag :: (before ++ entry :: after))) →
    (∀ x ∈ before, IsEntry x) → ¬ IsEntry entry →
    ∃ e, decode literal = .error e ∧ Places (some (before.length + 1, entry)) e
  malformed : ∀ e, decode literal = .error e → e.report.kind = .malformedOracle

theorem kind_report (e : DecodeError) : e.report.kind = .malformedOracle := by
  cases e <;> rfl

theorem decode_untagged {literal : Literal}
    (h : ∀ entries, ¬ literal.Holds (.list (.atom transTag :: entries))) :
    ∃ e, decode literal = .error e ∧ Places none e := by
  by_cases some : ∃ v, literal.Holds v
  · obtain ⟨v, holds⟩ := some
    refine ⟨.notTrans v, ?_, rfl⟩
    rw [decode_of_holds holds, decodeValue_of_not_trans]
    rintro entries rfl
    exact h entries holds
  · exact decode_of_not_holds (not_exists.1 some)

theorem decode_eq_ok_iff {literal : Literal} {edges : List ExpectedEdge} :
    decode literal = .ok edges ↔ ∃ ps : List (Atom × Atom),
      literal.Holds (.list (.atom transTag :: ps.map atomEntry)) ∧ edges = edgesOf ps := by
  constructor
  · intro decoded
    by_cases tagged : ∃ entries, literal.Holds (.list (.atom transTag :: entries))
    · obtain ⟨entries, holds⟩ := tagged
      rw [decode_of_holds holds, decodeValue_trans] at decoded
      obtain ⟨ps, rfl⟩ := exists_atoms_of_decodeEntries decoded
      rw [decodeEntries_one] at decoded
      exact ⟨ps, holds, (Except.ok.inj decoded).symm⟩
    · obtain ⟨e, refused, -⟩ := decode_untagged (not_exists.1 tagged)
      cases decoded.symm.trans refused
  · rintro ⟨ps, holds, rfl⟩
    rw [decode_of_holds holds, decodeValue_trans, decodeEntries_one]

/-- **Decoding is exact.** What is accepted are the lists of edges between two names under the right
tag, and they give these edges. Everything else is malformed, and the error tells the first entry
at fault if there is one. It does not matter whether a text or what it is read as is decoded. -/
theorem decode_exact : (∀ literal, Decoded literal) ∧
    ∀ s v?, Sexp.read s none = .ok v? → decode (.text s) = decode (.value v?) := by
  refine ⟨fun literal ↦ ⟨fun _ ↦ decode_eq_ok_iff, decode_untagged, ?_, fun e _ ↦ kind_report e⟩,
    fun _ _ ↦ decode_text⟩
  intro before entry after holds good bad
  rw [decode_of_holds holds, decodeValue_trans, Nat.add_comm]
  exact decodeEntries_of_not_isEntry 1 good bad

end Flowcheck.Oracle
