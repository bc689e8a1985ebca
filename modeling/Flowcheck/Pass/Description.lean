import Flowcheck.Files.Tree
import Flowcheck.Json.Access
import Flowcheck.Json.Reader
import Flowcheck.Pass.Check
import Flowcheck.Pass.Unit
import Flowcheck.Text.Utf8

/-!
# Described units

A unit file holds a description of its unit: a JSON object with the kind of unit and, for a check,
what distinguishes it from the plain one. A description can also say that the unit is defective, in
one of the ways in which units are. A file without a description makes a unit without a factory.
-/

namespace Flowcheck

/-- The check that a description distinguishes. -/
def Check.ofJson (j : Json) : Check where
  label := "UnitPass"
  name := j.textOr "name" ({} : Check).name
  description := j.textOr "description" ({} : Check).description
  expected := ((j.text? "expected").map .text).getD ({} : Check).expected
  blockCount? := j.int? "block_count"
  function? := j.text? "function"

namespace PassUnit

/-- The unit that a description makes, with an identity for its factory. -/
def ofJson (identity : String) (j : Json) : PassUnit :=
  let offering (product : Product) : PassUnit :=
    .loaded (some { shown := "<function init>", factory? := some ⟨identity, product⟩ })
  match j.text? "kind" with
  | some "cfg" => offering (.pass (Check.ofJson j).pass)
  | some "returns-int" => offering (.other "int")
  | some "init-not-callable" => .loaded (some { shown := "3", factory? := none })
  | some "raises" => .broken ("RuntimeError: " ++ j.textOr "message" "")
  | _ => .loaded none

/-- The unit that a file makes. -/
def ofBytes (identity : String) (bytes : List UInt8) : PassUnit :=
  match Text.readText bytes with
  | .error _ => .loaded none
  | .ok text =>
    match Json.parse text with
    | .error _ => .loaded none
    | .ok j => ofJson identity j

end PassUnit

namespace Files.Tree

/-- What a path leads to, seen from a working directory. A unit file is one whose name says so. -/
def unitFile (t : Tree) (workingDirectory : Location) (ref : String) : UnitFile :=
  let steps := (Path.ofText ref).fromRoot workingDirectory
  match t.follow [] steps with
  | .ok (_, .file bytes) =>
    if (steps.getLastD "").endsWith ".py" then
      let place := Location.text steps
      .unit place (.ofBytes place bytes)
    else .unsuitable
  | _ => .absent

end Files.Tree

end Flowcheck
