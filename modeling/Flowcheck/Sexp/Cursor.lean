import Flowcheck.Sexp.Reader

/-!
# Reading value by value

A cursor delivers the values of one text in order. The whole text is read first, so a text with an
error has no cursor. Every consumer of a cursor, single reads and iterations alike, takes from the
same remaining values.
-/

namespace Flowcheck.Sexp

/-- The values of a text that have not been delivered yet. -/
structure Cursor where
  remaining : List Sexp
  source? : Option String

namespace Cursor

/-- A cursor before the first value of a text. -/
def ofText (text : String) (source? : Option String) : Except ReadError Cursor :=
  (⟨·, source?⟩) <$> readAll text source?

/-- Delivers the next value; nothing at the end. -/
def next (c : Cursor) : Option Sexp × Cursor :=
  match c.remaining with
  | [] => (none, c)
  | v :: rest => (some v, { c with remaining := rest })

/-- Delivers all values that remain. -/
def drain (c : Cursor) : List Sexp × Cursor :=
  (c.remaining, { c with remaining := [] })

theorem next_of_nil {c : Cursor} (h : c.remaining = []) : c.next = (none, c) := by
  simp [next, h]

theorem next_of_cons {c : Cursor} {v : Sexp} {rest : List Sexp} (h : c.remaining = v :: rest) :
    c.next = (some v, { c with remaining := rest }) := by
  simp [next, h]

/-- What a step delivers and what then remains make up what remained before. -/
theorem toList_next_append (c : Cursor) :
    c.next.1.toList ++ c.next.2.remaining = c.remaining := by
  unfold next
  split <;> simp_all

end Cursor

end Flowcheck.Sexp
