import Flowcheck.Sexp.Basic

/-!
# Reading s-expressions

Three stages, each a function of its own. *Splicing* removes every escaped line end, a backslash
followed by LF or CR LF, in one pass over the text. *Lexing* cuts the spliced text into lexemes:
the two parentheses and the maximal runs of atom characters; blanks only separate. *Assembling*
runs over the lexemes with a stack of the lists that are open.

A text can fail in two ways only. The first closing parenthesis without an open list is an error
wherever it stands, also when other lists stay open; a lexeme therefore remembers the text from its
first character on, which the error shows. Otherwise a list may be left open at the end.

## Assumption

Lexing and assembling stand for a parser that comes from elsewhere, and so do its messages. What is
assumed of it is what `assemble` and `ReadFault.message` say: parentheses and atom characters are
all it looks at, it reports the first closing parenthesis that closes nothing with the text from
there on, else that a list is open at the end, and it says so in these words. All else about reading
is derived from this.
-/

namespace Flowcheck.Sexp

/-! ## Splicing -/

/-- The text without its escaped line ends. What the removal brings together is not looked at
again. -/
def spliceLines : List Char → List Char
  | [] => []
  | '\\' :: '\n' :: rest => spliceLines rest
  | '\\' :: '\r' :: '\n' :: rest => spliceLines rest
  | c :: rest => c :: spliceLines rest

/-! ## Lexing -/

/-- A token of the surface syntax. -/
inductive Token where
  | opening
  | closing
  | atom (a : Atom)
  deriving DecidableEq

/-- A token with the text from its first character to the end. -/
structure Lexeme where
  token : Token
  site : List Char
  deriving DecidableEq

/-- The atom of a single atom character. -/
def charAtom (c : Char) (h : isAtomChar c = true) : Atom :=
  ⟨[c], by simp, by simpa using h⟩

/-- The atom with one more character in front. -/
def consAtom (c : Char) (h : isAtomChar c = true) (a : Atom) : Atom :=
  ⟨c :: a.chars, by simp, by simpa using ⟨h, a.legal⟩⟩

/-- Whether the text begins with an atom character, so that a character put in front of it would
belong to the same atom. -/
def startsAtom : List Char → Bool
  | [] => false
  | c :: _ => isAtomChar c

/-- Puts an atom character in front: it lengthens the atom that begins the text, if there is one,
and is an atom of its own otherwise. -/
def consLexeme (c : Char) (h : isAtomChar c = true) (rest : List Char) :
    List Lexeme → List Lexeme
  | ⟨.atom a, site⟩ :: more =>
    if startsAtom rest then ⟨.atom (consAtom c h a), c :: rest⟩ :: more
    else ⟨.atom (charAtom c h), c :: rest⟩ :: ⟨.atom a, site⟩ :: more
  | more => ⟨.atom (charAtom c h), c :: rest⟩ :: more

/-- The lexemes of a text. -/
def lexemes : List Char → List Lexeme
  | [] => []
  | c :: rest =>
    if c = '(' then ⟨.opening, c :: rest⟩ :: lexemes rest
    else if c = ')' then ⟨.closing, c :: rest⟩ :: lexemes rest
    else if h : isAtomChar c = true then consLexeme c h rest (lexemes rest)
    else lexemes rest

/-- The tokens of a text. -/
def tokens (text : List Char) : List Token := (lexemes text).map Lexeme.token

/-! ## Assembling -/

/-- Why a text is not a sequence of values, or not the single value that was asked for. -/
inductive ReadFault where
  | unclosed
  | stray (rest : List Char)
  | several (count : Nat)
  deriving DecidableEq

/-- Assembles values from lexemes. `open` holds, innermost first and each reversed, the items read
so far of the lists around the current one; `done` those of the current one. -/
def assemble : List Lexeme → List (List Sexp) → List Sexp → Except ReadFault (List Sexp)
  | [], [], done => .ok done.reverse
  | [], _ :: _, _ => .error .unclosed
  | ⟨.atom a, _⟩ :: more, outer, done => assemble more outer (.atom a :: done)
  | ⟨.opening, _⟩ :: more, outer, done => assemble more (done :: outer) []
  | ⟨.closing, _⟩ :: more, around :: outer, done =>
    assemble more outer (.list done.reverse :: around)
  | ⟨.closing, site⟩ :: _, [], _ => .error (.stray site)

/-! ## Whole texts -/

/-- All values of a text in order. -/
def readAllChars (text : List Char) : Except ReadFault (List Sexp) :=
  assemble (lexemes (spliceLines text)) [] []

/-- A text that cannot be read, with the name of its source if it has one. -/
structure ReadError where
  fault : ReadFault
  source? : Option String := none
  deriving DecidableEq

/-- What is wrong with the text. The words of the first two are the parser's, which is assumed to
use these; the third is the reader's own. -/
def ReadFault.message : ReadFault → String
  | .unclosed =>
    "S-expression syntax error: Not enough closing brackets. " ++
      "Expected ')' to be the last letter in the sexp. Got: None"
  | .stray rest =>
    "S-expression syntax error: Too many closing brackets. " ++
      "Expected no character left in the sexp. Got: " ++ Text.quoted (String.ofList rest)
  | .several count => s!"expected a single top-level value, found {count}"

/-- What is wrong, after the name of the source. -/
def ReadError.message (e : ReadError) : String :=
  match e.source? with
  | none => e.fault.message
  | some source => source ++ ": " ++ e.fault.message

/-- All values of a text in order. -/
def readAll (text : String) (source? : Option String) : Except ReadError (List Sexp) :=
  (readAllChars text.toList).mapError (⟨·, source?⟩)

/-- The single value of a text, or nothing when the text holds none. -/
def single (values : List Sexp) : Except ReadFault (Option Sexp) :=
  match values with
  | [] => .ok none
  | [v] => .ok (some v)
  | values => .error (.several values.length)

/-- Reads a text that holds at most one value. -/
def read (text : String) (source? : Option String) : Except ReadError (Option Sexp) := do
  let values ← readAll text source?
  (single values).mapError (⟨·, source?⟩)

end Flowcheck.Sexp
