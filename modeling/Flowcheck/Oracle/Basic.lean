import Flowcheck.Pattern.Match
import Flowcheck.Sexp.Printer
import Flowcheck.Report

/-!
# Oracles

An oracle is the s-expression `(trans (edge (src) (dest)) …)`, the list of the edges that a graph is
expected to have. Decoding is two patterns and a check that both ends of an edge are atoms. Any
literal of another form is malformed; the error names the first entry at fault, counted from one.
-/

namespace Flowcheck.Oracle

/-! ## Edges -/

/-- One entry of an oracle, with its position counted from one. -/
structure ExpectedEdge where
  position : Nat
  src : String
  dest : String
  deriving DecidableEq, Repr

/-- The two ends with an arrow between them. -/
def ExpectedEdge.text (e : ExpectedEdge) : String := e.src ++ " -> " ++ e.dest

/-! ## Errors -/

/-- Why a literal is no oracle. -/
inductive DecodeError where
  | unreadable (cause : Sexp.ReadError)
  | empty
  | notTrans (literal : Sexp)
  | notEdge (position : Nat) (entry : Sexp)
  | notAtom (what : String) (position : Nat) (entry : Sexp)

/-- The error as a report. -/
def DecodeError.report : DecodeError → Report
  | .unreadable cause => .badOracle ("oracle does not parse: " ++ cause.message) none ""
  | .empty => .badOracle "oracle literal is empty" none ""
  | .notTrans literal =>
    .badOracle ("oracle must be a (trans entry*) list, got " ++ literal.flat) none ""
  | .notEdge position entry =>
    .badOracle "expected (edge (src) (dest))" (some position) entry.flat
  | .notAtom what position entry =>
    .badOracle (what ++ " must be a block name, got a list") (some position) entry.flat

/-! ## Decoding -/

/-- The pattern `(trans ?...entries)`. -/
def transPattern : Pattern :=
  ⟨.list [.literal "trans", .rest "entries"], ["entries"], rfl⟩

/-- The pattern `(edge (?src) (?dest))`. -/
def edgePattern : Pattern :=
  ⟨.list [.literal "edge", .list [.capture "src"], .list [.capture "dest"]], ["src", "dest"], rfl⟩

/-- The name bound to one end of an edge. -/
def edgeEnd (m : Match) (what : String) (position : Nat) (entry : Sexp) :
    Except DecodeError String :=
  match m.get? what with
  | some (.atom a) => .ok a.text
  | _ => .error (.notAtom what position entry)

/-- Decodes one entry. -/
def decodeEntry (position : Nat) (entry : Sexp) : Except DecodeError ExpectedEdge :=
  match edgePattern.match? entry with
  | none => .error (.notEdge position entry)
  | some m => do
    let src ← edgeEnd m "src" position entry
    let dest ← edgeEnd m "dest" position entry
    return ⟨position, src, dest⟩

/-- Decodes entries numbered from `position`. -/
def decodeEntries (position : Nat) : List Sexp → Except DecodeError (List ExpectedEdge)
  | [] => .ok []
  | entry :: rest => do
    let edge ← decodeEntry position entry
    return edge :: (← decodeEntries (position + 1) rest)

/-- Decodes a value. -/
def decodeValue (v : Sexp) : Except DecodeError (List ExpectedEdge) :=
  match transPattern.match? v with
  | none => .error (.notTrans v)
  | some m =>
    match m.get? "entries" with
    | some (.list entries) => decodeEntries 1 entries
    | _ => .error (.notTrans v)

/-- An oracle as it is given: as text, or as what a text was read to. -/
inductive Literal where
  | text (s : String)
  | value (v? : Option Sexp)

/-- Decodes what a text was read to; nothing is no oracle. -/
def decodeOption : Option Sexp → Except DecodeError (List ExpectedEdge)
  | none => .error .empty
  | some v => decodeValue v

/-- Decodes a literal. -/
def decode : Literal → Except DecodeError (List ExpectedEdge)
  | .value v? => decodeOption v?
  | .text s =>
    match Sexp.read s none with
    | .error cause => .error (.unreadable cause)
    | .ok v? => decodeOption v?

end Flowcheck.Oracle
