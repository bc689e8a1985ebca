import Flowcheck.Json.Basic

/-!
# Members by kind

Reading an object whose members are known by name and kind. A member that is missing or of another
kind counts as absent; whoever has to tell the two apart looks at the value itself.
-/

namespace Flowcheck.Json

/-- The member of a key, or null. -/
def field (j : Json) (key : String) : Json := (j.get? key).getD .null

/-- The text that a value is. -/
def asText? : Json → Option String
  | .str s => some s
  | _ => none

/-- The integer that a value is, or counts as. -/
def asInt? : Json → Option Int
  | .int n => some n
  | .bool b => some (if b then 1 else 0)
  | _ => none

/-- The items of a list; nothing else has any. -/
def asItems : Json → List Json
  | .list xs => xs
  | _ => []

/-- The text of a member. -/
def text? (j : Json) (key : String) : Option String := (j.field key).asText?

/-- The text of a member, or another one. -/
def textOr (j : Json) (key default : String) : String := (j.text? key).getD default

/-- The integer of a member. -/
def int? (j : Json) (key : String) : Option Int := (j.field key).asInt?

/-- The items of a member. -/
def items (j : Json) (key : String) : List Json := (j.field key).asItems

/-- The texts among the items of a member. -/
def texts (j : Json) (key : String) : List String := (j.items key).filterMap asText?

/-- The truth of a member, or another one if there is no such member. -/
def flag (j : Json) (key : String) (default : Bool) : Bool := ((j.get? key).map truthy).getD default

end Flowcheck.Json
