import Flowcheck.Decimal.Shortest
import Flowcheck.Text.Quoted

/-!
# JSON values

Values as a document holds them. Integers are kept apart from floating point numbers and have no
bound; an object is a list of members in the order of the document, each key at most once when the
value comes from the reader.

A value also has a display form, in which messages show it: `None`, `True` and `False` for the
three constants, quoted texts, `[…]` and `{…}`. The display of a text on its own is the text.
-/

namespace Flowcheck

/-- A JSON value. -/
inductive Json where
  | null
  | bool (value : Bool)
  | int (value : Int)
  | float (value : Decimal.Binary64)
  | str (value : String)
  | list (items : List Json)
  | obj (members : List (String × Json))
  deriving Inhabited

namespace Json

/-! ## Access -/

/-- The value of a member of an object. -/
def member? (key : String) : List (String × Json) → Option Json
  | [] => none
  | (k, v) :: rest => if k = key then some v else member? key rest

/-- Writes a member: in its place if the key is there, at the end otherwise. -/
def setMember (key : String) (value : Json) : List (String × Json) → List (String × Json)
  | [] => [(key, value)]
  | (k, v) :: rest => if k = key then (k, value) :: rest else (k, v) :: setMember key value rest

/-- The member of an object; nothing for other values. -/
def get? (key : String) : Json → Option Json
  | .obj members => member? key members
  | _ => none

theorem member?_setMember (key k : String) (value : Json) (ms : List (String × Json)) :
    member? k (setMember key value ms) = if key = k then some value else member? k ms := by
  induction ms with
  | nil => simp [setMember, member?]
  | cons m rest ih =>
    obtain ⟨k', v⟩ := m
    by_cases h : k' = key
    · subst h
      by_cases h' : k' = k <;> simp [setMember, member?, h']
    · by_cases h' : k' = k
      · subst h'
        simp [setMember, member?, h, Ne.symm h]
      · simp [setMember, member?, h, h', ih]

/-! ## Kinds -/

/-- The name by which messages call the kind of a value. -/
def typeName : Json → String
  | .null => "NoneType"
  | .bool _ => "bool"
  | .int _ => "int"
  | .float _ => "float"
  | .str _ => "str"
  | .list _ => "list"
  | .obj _ => "dict"

/-- Whether the value counts as present: nothing, no, zero and the empty texts and collections do
not. -/
def truthy : Json → Bool
  | .null => false
  | .bool b => b
  | .int n => n ≠ 0
  | .float (.finite _ m _) => m ≠ 0
  | .float _ => true
  | .str s => s ≠ ""
  | .list items => !items.isEmpty
  | .obj members => !members.isEmpty

/-! ## Display -/

/-- The text of a floating point value in a message. -/
def floatText : Decimal.Binary64 → String
  | .nan => "nan"
  | .infinite negative => if negative then "-inf" else "inf"
  | .finite negative m e => Decimal.Binary64.finiteText negative m e

mutual

/-- How a value is shown inside another one or where its kind matters. -/
def shown : Json → String
  | .null => "None"
  | .bool b => if b then "True" else "False"
  | .int n => toString n
  | .float x => floatText x
  | .str s => Text.quoted s
  | .list items => "[" ++ ", ".intercalate (shownItems items) ++ "]"
  | .obj members => "\x7b" ++ ", ".intercalate (shownMembers members) ++ "\x7d"

/-- The items of a list, each shown. -/
def shownItems : List Json → List String
  | [] => []
  | v :: rest => shown v :: shownItems rest

/-- The members of an object, each shown after its quoted key. -/
def shownMembers : List (String × Json) → List String
  | [] => []
  | (k, v) :: rest => (Text.quoted k ++ ": " ++ shown v) :: shownMembers rest

end

/-- How a value on its own is turned into text. -/
def display : Json → String
  | .str s => s
  | v => shown v

@[simp] theorem display_str (s : String) : display (.str s) = s := rfl

end Json

end Flowcheck
