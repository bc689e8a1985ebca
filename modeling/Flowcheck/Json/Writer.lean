import Flowcheck.Json.Basic

/-!
# Writing JSON

Two layouts of the same tokens: one line without blanks, and one member or item a line with two
blanks of indentation for each level. Both are pure ASCII; a code point above U+FFFF is written as
the pair of code units that stands for it.
-/

namespace Flowcheck.Json

/-! ## Tokens -/

/-- A code unit as an escape. -/
def unitEscape (n : Nat) : List Char := '\\' :: 'u' :: Text.hexPadded 4 n

/-- How a character is written inside a string. -/
def escapeChar (c : Char) : List Char :=
  if c = '"' then ['\\', '"']
  else if c = '\\' then ['\\', '\\']
  else if c = '\n' then ['\\', 'n']
  else if c = '\r' then ['\\', 'r']
  else if c = '\t' then ['\\', 't']
  else if c = '\x08' then ['\\', 'b']
  else if c = '\x0c' then ['\\', 'f']
  else if 0x20 ≤ c.toNat ∧ c.toNat < 0x7f then [c]
  else if c.toNat < 0x10000 then unitEscape c.toNat
  else
    let n := c.toNat - 0x10000
    unitEscape (0xd800 + n / 0x400) ++ unitEscape (0xdc00 + n % 0x400)

/-- A string with its quotes. -/
def stringToken (s : String) : String :=
  String.ofList ('"' :: s.toList.flatMap escapeChar ++ ['"'])

/-- A floating point number; the three that are no decimals have words. -/
def floatToken : Decimal.Binary64 → String
  | .nan => "NaN"
  | .infinite negative => if negative then "-Infinity" else "Infinity"
  | .finite negative m e => Decimal.Binary64.finiteText negative m e

/-! ## One line -/

mutual

/-- The value on one line without blanks. -/
def compact : Json → String
  | .null => "null"
  | .bool b => if b then "true" else "false"
  | .int n => toString n
  | .float x => floatToken x
  | .str s => stringToken s
  | .list items => "[" ++ ",".intercalate (compactItems items) ++ "]"
  | .obj members => "\x7b" ++ ",".intercalate (compactMembers members) ++ "\x7d"

/-- The items, each on one line. -/
def compactItems : List Json → List String
  | [] => []
  | v :: rest => compact v :: compactItems rest

/-- The members, each on one line. -/
def compactMembers : List (String × Json) → List String
  | [] => []
  | (k, v) :: rest => (stringToken k ++ ":" ++ compact v) :: compactMembers rest

end

/-! ## Many lines -/

/-- The end of a line and the indentation of the next one. -/
def lineBreak (level : Nat) : String :=
  String.ofList ('\n' :: List.replicate (2 * level) ' ')

/-- Encloses parts, each on a line of its own, one level deeper than the brackets. -/
def enclose (opening closing : String) (level : Nat) (parts : List String) : String :=
  if parts.isEmpty then opening ++ closing
  else
    opening ++ lineBreak (level + 1) ++ ("," ++ lineBreak (level + 1)).intercalate parts ++
      lineBreak level ++ closing

mutual

/-- The value with each item and member on its own line; `level` is the indentation of the line on
which the value starts. -/
def indented (level : Nat) : Json → String
  | .list items => enclose "[" "]" level (indentedItems (level + 1) items)
  | .obj members => enclose "\x7b" "\x7d" level (indentedMembers (level + 1) members)
  | .null => "null"
  | .bool b => if b then "true" else "false"
  | .int n => toString n
  | .float x => floatToken x
  | .str s => stringToken s

/-- The items at their level. -/
def indentedItems (level : Nat) : List Json → List String
  | [] => []
  | v :: rest => indented level v :: indentedItems level rest

/-- The members at their level. -/
def indentedMembers (level : Nat) : List (String × Json) → List String
  | [] => []
  | (k, v) :: rest => (stringToken k ++ ": " ++ indented level v) :: indentedMembers level rest

end

/-- The value over many lines. -/
def pretty (value : Json) : String := indented 0 value

end Flowcheck.Json
