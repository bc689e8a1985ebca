import Flowcheck.Json.Access

/-!
# Run configuration

The choices of a host that runs passes. Odd choices are accepted and give rise to warnings.
-/

namespace Flowcheck

/-- The group under which installed passes are advertised unless another one is configured. -/
def defaultEntryPointGroup : String := "arbos.passes"

/-- The choices of a host. -/
structure RunConfig where
  keepGoing : Bool := false
  validateIr : Bool := true
  discoverPlugins : Bool := true
  entryPointGroup : String := defaultEntryPointGroup
  units : List String := []
  deriving DecidableEq, Repr

namespace RunConfig

/-- Warnings about references to units, given those that came before. -/
def unitWarnings (seen : List String) : List String → List String
  | [] => []
  | unit :: rest =>
    (if unit = "" then ["empty pass unit reference ignored"]
      else if unit ∈ seen then ["pass unit " ++ Text.quoted unit ++ " listed more than once"]
      else []) ++ unitWarnings (seen ++ [unit]) rest

/-- Warnings about odd choices. -/
def warnings (c : RunConfig) : List String :=
  (if c.discoverPlugins ∧ c.entryPointGroup = "" then
    ["discover_plugins is set but entry_point_group is empty"] else []) ++ unitWarnings [] c.units

/-- The choices that an object makes; the others are as usual. -/
def ofJson (j : Json) : RunConfig where
  keepGoing := j.flag "keep_going" false
  validateIr := j.flag "validate_ir" true
  discoverPlugins := j.flag "discover_plugins" true
  entryPointGroup := j.textOr "entry_point_group" defaultEntryPointGroup
  units := j.texts "units"

/-- The texts in brackets, with a comma after a single one. -/
def shownTuple : List String → String
  | [s] => "(" ++ Text.quoted s ++ ",)"
  | ss => "(" ++ ", ".intercalate (ss.map Text.quoted) ++ ")"

/-- The configuration as messages show it. -/
def shown (c : RunConfig) : String :=
  let flag (b : Bool) := (Json.bool b).shown
  "RunConfig(keep_going=" ++ flag c.keepGoing ++ ", validate_ir=" ++ flag c.validateIr ++
    ", discover_plugins=" ++ flag c.discoverPlugins ++
    ", entry_point_group=" ++ Text.quoted c.entryPointGroup ++
    ", units=" ++ shownTuple c.units ++ ")"

end RunConfig

end Flowcheck
