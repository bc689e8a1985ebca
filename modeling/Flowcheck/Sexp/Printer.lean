import Flowcheck.Sexp.Basic

/-!
# Printing s-expressions

The flat form is the value on one line with single spaces. The pretty form breaks a list of two or
more items that would not fit between its column and the width: the first item follows the
parenthesis, every other item goes on a line of its own, `indent` columns to the right of the list.

A backslash in front of a line end would be read as an escaped line end, so a line that would end in
one gets a space behind it.
-/

namespace Flowcheck.Sexp

/-! ## Flat form -/

mutual

/-- The characters of the flat form. -/
def flatChars : Sexp → List Char
  | .atom a => a.chars
  | .list items => '(' :: flatItems items

/-- The items with a space between two of them, and the closing parenthesis. -/
def flatItems : List Sexp → List Char
  | [] => [')']
  | v :: rest => flatChars v ++ flatMore rest

/-- Further items, each after a space, and the closing parenthesis. -/
def flatMore : List Sexp → List Char
  | [] => [')']
  | v :: rest => ' ' :: (flatChars v ++ flatMore rest)

end

/-- The value on one line. -/
def flat (v : Sexp) : String := String.ofList v.flatChars

/-! ## Pretty form -/

/-- The measures of a layout: the width that lines should keep to and the step to the right of the
items of a broken list. Neither need be sensible. -/
structure Layout where
  width : Int := 72
  indent : Int := 2
  deriving DecidableEq, Repr

/-- As many spaces as the column, none for a negative one. -/
def padding (column : Int) : List Char := List.replicate column.toNat ' '

/-- The end of a line that ends in `previous`. -/
def lineEnd (previous : List Char) : List Char :=
  if previous.getLast? = some '\\' then [' ', '\n'] else ['\n']

/-- Whether a value is written flat at a column: it fits, or it has nowhere to break. -/
def staysFlat (layout : Layout) (column : Int) (v : Sexp) : Bool :=
  column + v.flatChars.length ≤ layout.width ||
    match v with
    | .atom _ => true
    | .list items => items.length < 2

mutual

/-- The characters of the pretty form of a value that starts at `column`. -/
def prettyChars (layout : Layout) (column : Int) : Sexp → List Char
  | .atom a => a.chars
  | .list [] => ['(', ')']
  | .list (v :: rest) =>
    if staysFlat layout column (.list (v :: rest)) then flatChars (.list (v :: rest))
    else
      -- The first item starts behind the parenthesis, whatever the step is.
      let first := prettyChars layout (column + 1) v
      '(' :: (first ++ prettyMore layout (column + layout.indent) first rest)

/-- The items after the first, each on a new line at `column`, and the closing parenthesis;
`previous` is what was written before them. -/
def prettyMore (layout : Layout) (column : Int) (previous : List Char) : List Sexp → List Char
  | [] => [')']
  | v :: rest =>
    let text := prettyChars layout column v
    lineEnd previous ++ padding column ++ text ++ prettyMore layout column text rest

end

/-- The value over as many lines as the layout asks for. -/
def pretty (layout : Layout) (v : Sexp) : String :=
  String.ofList (prettyChars layout 0 v)

end Flowcheck.Sexp
