import Flowcheck.Oracle.Basic
import Flowcheck.Oracle.Writer
import Flowcheck.Proofs.Checks

/-!
# Decoding oracles

The entries of an oracle are numbered from one in the order in which they stand there. Each entry is
decoded by itself, and an entry made of two atoms decodes to their texts.
-/

namespace Flowcheck.Oracle

/-! ## Positions -/

theorem position_decodeEntry {position : Nat} {entry : Sexp} {e : ExpectedEdge}
    (h : decodeEntry position entry = .ok e) : e.position = position := by
  rw [decodeEntry] at h
  split at h
  · cases h
  · obtain ⟨src, -, h⟩ := bind_eq_ok_iff.1 h
    obtain ⟨dest, -, h⟩ := bind_eq_ok_iff.1 h
    obtain rfl := Except.ok.inj h
    rfl

theorem positions_decodeEntries {position : Nat} {entries : List Sexp} {edges : List ExpectedEdge}
    (h : decodeEntries position entries = .ok edges) :
    edges.map ExpectedEdge.position = List.range' position edges.length := by
  induction entries generalizing position edges with
  | nil =>
    obtain rfl := Except.ok.inj h
    rfl
  | cons entry entries ih =>
    obtain ⟨e, hentry, h⟩ := bind_eq_ok_iff.1 h
    obtain ⟨rest, hrest, h⟩ := bind_eq_ok_iff.1 h
    obtain rfl := Except.ok.inj h
    rw [List.map_cons, position_decodeEntry hentry, ih hrest, List.length_cons, List.range'_succ]

theorem positions_decodeValue {v : Sexp} {edges : List ExpectedEdge}
    (h : decodeValue v = .ok edges) :
    edges.map ExpectedEdge.position = List.range' 1 edges.length := by
  rw [decodeValue] at h
  split at h
  · cases h
  · split at h
    · exact positions_decodeEntries h
    · cases h

/-- **The edges of an oracle are numbered from one.** -/
theorem positions_decode {literal : Literal} {edges : List ExpectedEdge}
    (h : decode literal = .ok edges) :
    edges.map ExpectedEdge.position = List.range' 1 edges.length := by
  have value (v? : Option Sexp) (hv : decodeOption v? = .ok edges) :
      edges.map ExpectedEdge.position = List.range' 1 edges.length := by
    cases v? with
    | none => cases hv
    | some v => exact positions_decodeValue hv
  cases literal with
  | value v? => exact value v? h
  | text s =>
    rw [decode] at h
    split at h
    · cases h
    · exact value _ h

/-- An edge behind some others has a position by one larger than their number. -/
theorem position_of_decode {literal : Literal} {good rest : List ExpectedEdge} {e : ExpectedEdge}
    (h : decode literal = .ok (good ++ e :: rest)) : e.position = good.length + 1 := by
  have positions := congrArg (·[good.length]?) (positions_decode h)
  simpa [Nat.add_comm] using positions

/-! ## Entries of atoms -/

/-- The entry of two atoms. -/
def atomEntry (p : Atom × Atom) : Sexp :=
  .list [.atom edgeTag, .list [.atom p.1], .list [.atom p.2]]

/-- Edges with positions from `position` on. -/
def numberFrom (position : Nat) : List (String × String) → List ExpectedEdge
  | [] => []
  | (src, dest) :: rest => ⟨position, src, dest⟩ :: numberFrom (position + 1) rest

theorem map_ends_numberFrom (position : Nat) (pairs : List (String × String)) :
    ((numberFrom position pairs).map fun e ↦ (e.src, e.dest)) = pairs := by
  induction pairs generalizing position with
  | nil => rfl
  | cons p pairs ih => rw [numberFrom, List.map_cons, ih]

theorem decodeEntry_atomEntry (position : Nat) (p : Atom × Atom) :
    decodeEntry position (atomEntry p) = .ok ⟨position, p.1.text, p.2.text⟩ := by
  have tag : edgeTag.text = "edge" := Atom.text_ofText ..
  simp [decodeEntry, atomEntry, edgePattern, Pattern.match?, PatternNode.bind?,
    PatternNode.bindAll?, tag, edgeEnd, Match.get?]
  rfl

theorem decodeEntries_atomEntry (position : Nat) (ps : List (Atom × Atom)) :
    decodeEntries position (ps.map atomEntry) =
      .ok (numberFrom position (ps.map fun p ↦ (p.1.text, p.2.text))) := by
  induction ps generalizing position with
  | nil => rfl
  | cons p ps ih =>
    rw [List.map_cons, decodeEntries, decodeEntry_atomEntry, ih]
    rfl

/-- A list of entries under the right tag is an oracle if the entries are good. -/
theorem decodeValue_trans (entries : List Sexp) :
    decodeValue (.list (.atom transTag :: entries)) = decodeEntries 1 entries := by
  have tag : transTag.text = "trans" := Atom.text_ofText ..
  simp [decodeValue, transPattern, Pattern.match?, PatternNode.bind?, PatternNode.bindAll?, tag,
    Match.get?]

end Flowcheck.Oracle
