import Flowcheck.Fault
import Flowcheck.Text.Utf8

/-!
# S-expressions in files

A file holds the bytes of a text. It is decoded first, with all its line ends turned into LF, and
then read like any other text, under the name of the file.
-/

namespace Flowcheck.Sexp

/-- Why a file does not hold at most one value. -/
inductive FileFault where
  | undecodable (e : Text.Utf8Error)
  | unreadable (e : ReadError)
  deriving DecidableEq

/-- The fault as a report. -/
def FileFault.report : FileFault → Report
  | .undecodable e => .plain .undecodable e.message
  | .unreadable e => e.report

/-- Reads the bytes of a file that holds at most one value. -/
def readBytes (bytes : List UInt8) (name : String) : Except FileFault (Option Sexp) := do
  let text ← (Text.readText bytes).mapError .undecodable
  (read text (some name)).mapError .unreadable

end Flowcheck.Sexp
