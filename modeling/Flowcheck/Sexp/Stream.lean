import Flowcheck.Sexp.Cursor

/-!
# Consumers of a cursor

A cursor may have many consumers. Some read value by value, some iterate, and an iteration may be
stepped by hand, left alone while others read, and gone on with. They all take from the cursor. An
iteration keeps nothing of its own but that it has ended: then it does not ask the cursor again.
-/

namespace Flowcheck.Sexp

/-- What a consumer asks for: a value, the next value of an iteration, or everything that a new
iteration gives. Iterations are told apart by numbers, and one begins when it is first stepped. -/
inductive Request where
  | read
  | step (iteration : Nat)
  | iterate
  deriving DecidableEq, Repr

/-- A cursor and the iterations over it that have ended. -/
structure Stream where
  cursor : Cursor
  ended : List Nat := []

namespace Stream

/-- A stream before anything is asked of it. -/
def ofText (text : String) (source? : Option String) : Except ReadError Stream :=
  ({ cursor := · }) <$> Cursor.ofText text source?

/-- What a request is given, one thing after the other; `none` says that the stream has ended.
Reading and stepping give one thing, and an iteration gives values until it says that the stream has
ended. -/
def answer (s : Stream) : Request → List (Option Sexp) × Stream
  | .read =>
    let (given, c) := s.cursor.next
    ([given], { s with cursor := c })
  | .step i =>
    if i ∈ s.ended then ([none], s)
    else
      let (given, c) := s.cursor.next
      ([given], { cursor := c, ended := if given.isNone then i :: s.ended else s.ended })
  | .iterate =>
    let (given, c) := s.cursor.drain
    (given.map some ++ [none], { s with cursor := c })

/-- The answers to requests in order of time, one for each, and the stream behind them. -/
def run (s : Stream) : List Request → List (List (Option Sexp)) × Stream
  | [] => ([], s)
  | r :: requests =>
    let (given, s) := s.answer r
    let (later, s) := s.run requests
    (given :: later, s)

/-- The answers to requests in order of time. -/
def answers (s : Stream) (requests : List Request) : List (List (Option Sexp)) :=
  (s.run requests).1

end Stream

end Flowcheck.Sexp
