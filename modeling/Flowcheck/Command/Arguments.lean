import Flowcheck.Text.Numeral

/-!
# Reading arguments

A grammar says which options and which positional arguments there are. Reading goes in two steps.
First each argument is sorted as a word, an option or the separator `--`, by the grammar alone:
after the separator everything is a word, and so is what looks like a negative number or holds a
space without being an option. Then the sorted arguments are consumed from the left. Words fill
positional arguments, as many as can be filled at once; an option takes what it needs from itself or
from the word after it. What finds no place is left over.

Reading stops at the first fault and at an option that asks for nothing but an answer, whichever
comes first from the left.
-/

namespace Flowcheck.Command

/-! ## Grammars -/

/-- How reading ends when it does not come to its end. -/
inductive Ending where
  | misuse
  | help
  | version
  deriving DecidableEq, Repr

/-- What an option does: leave a mark, take a value that must be acceptable, or end reading. -/
inductive Effect where
  | mark
  | value (accepts : String → Bool)
  | finish (e : Ending)

/-- An option with all its names. What it sets is known by its key. -/
structure ArgOption where
  names : List String
  key : String
  effect : Effect

/-- How many words a positional argument takes. -/
inductive Arity where
  | one
  | atMostOne
  | rest
  deriving DecidableEq, Repr

/-- A positional argument. -/
structure Positional where
  key : String
  arity : Arity := .one
  deriving DecidableEq, Repr

/-- The arguments of a command. A positional argument that may be absent, or that takes all the
rest, is the last. Options with a required key must be given. -/
structure Grammar where
  options : List ArgOption
  positionals : List Positional := []
  required : List String := []

/-- The values given, by key and in order. A mark gives an empty value. -/
abbrev Settings := List (String × String)

namespace Settings

/-- All values of a key. -/
def all (s : Settings) (key : String) : List String := (s.filter (·.1 = key)).map (·.2)

/-- The last value of a key. -/
def last? (s : Settings) (key : String) : Option String := (s.all key).getLast?

/-- Whether a key was set. -/
def has (s : Settings) (key : String) : Bool := (s.last? key).isSome

end Settings

/-! ## Sorting -/

/-- What is written together with the name of an option. -/
inductive Attached where
  | nothing
  | equal (value : String)
  | joined (rest : List Char)
  deriving DecidableEq, Repr

/-- An option as it was met. -/
structure Mention where
  option : ArgOption
  attached : Attached

/-- A sorted argument. -/
inductive Sorted where
  | word (s : String)
  | option (s : String) (meant? : Option Mention)
  | separator

namespace Sorted

/-- The argument as it was given. -/
def text : Sorted → String
  | .word s | .option s _ => s
  | .separator => "--"

/-- Whether the argument is an option. -/
def isOption : Sorted → Bool
  | .option _ _ => true
  | _ => false

end Sorted

/-- Splits a text at the first equals sign. -/
def splitValue (s : String) : String × Attached :=
  match s.toList.span (· ≠ '=') with
  | (name, _ :: value) => (String.ofList name, .equal (String.ofList value))
  | (name, []) => (String.ofList name, .nothing)

/-- Whether the text is a negative number: a minus sign and digits, which may have a point before
the last of them. A line break at the end does no harm. -/
def isNegativeNumber (s : String) : Bool :=
  let isDigit (c : Char) : Bool := (Text.digitValue? c).isSome
  match s.toList with
  | '-' :: cs =>
    let cs := if cs.getLast? = some '\n' then cs.dropLast else cs
    match cs.span isDigit with
    | (whole, []) => !whole.isEmpty
    | (_, '.' :: decimals) => !decimals.isEmpty && decimals.all isDigit
    | _ => false
  | _ => false

namespace Grammar

/-- The option of a name. -/
def named? (g : Grammar) (name : String) : Option ArgOption :=
  g.options.find? fun o ↦ name ∈ o.names

/-- The options of which a text writes the beginning of a long name. -/
def abbreviated (g : Grammar) (s : String) : List Mention :=
  let (start, attached) := splitValue s
  g.options.flatMap fun o ↦
    (o.names.filter fun n ↦ n.startsWith start).map fun _ ↦ ⟨o, attached⟩

/-- The options whose short name a text begins with. -/
def joined (g : Grammar) (s : String) : List Mention :=
  let name := s.toList.take 2
  g.options.flatMap fun o ↦
    (o.names.filter fun n ↦ n.toList = name).map fun _ ↦ ⟨o, .joined (s.toList.drop 2)⟩

/-- What an argument with a dash in front may mean when it is no name of an option itself. -/
def guesses (g : Grammar) (s : String) : List Mention :=
  if s.startsWith "--" then g.abbreviated s else g.joined s

/-- The option that an argument names in full, alone or before an equals sign. -/
def fullMention? (g : Grammar) (s : String) : Option Mention :=
  match g.named? s with
  | some o => some ⟨o, .nothing⟩
  | none =>
    match splitValue s with
    | (_, .nothing) => none
    | (name, attached) => (g.named? name).map (⟨·, attached⟩)

/-- Sorts one argument before the separator. An ambiguous beginning is a fault. -/
def sort (g : Grammar) (s : String) : Except Ending Sorted :=
  if !s.startsWith "-" then .ok (.word s)
  else
    match g.fullMention? s with
    | some m => .ok (.option s (some m))
    | none =>
      if s = "-" then .ok (.word s)
      else
        match g.guesses s with
        | [m] => .ok (.option s (some m))
        | _ :: _ :: _ => .error .misuse
        | [] =>
          if isNegativeNumber s || s.contains ' ' then .ok (.word s) else .ok (.option s none)

/-- Sorts all arguments. -/
def sortAll (g : Grammar) : List String → Except Ending (List Sorted)
  | [] => .ok []
  | s :: rest =>
    if s = "--" then .ok (.separator :: rest.map .word)
    else (do return (← g.sort s) :: (← g.sortAll rest))

end Grammar

/-! ## Positional arguments -/

/-- Drops the separator from the front. -/
def skipSeparator : List Sorted → List Sorted
  | .separator :: rest => rest
  | args => args

/-- Whether the first word repeats a separator that was consumed before. -/
def isRepeated : List Sorted → Bool
  | .word "--" :: _ => true
  | _ => false

/-- The values for one positional argument and what comes after them, if it can be filled. A
repeated separator fills an argument that may be absent, but is no value. -/
def fill? (p : Positional) (args : List Sorted) : Option (List String × List Sorted) :=
  match p.arity, skipSeparator args with
  -- A separator in front stays with the rest: whoever reads that sorts it anew.
  | .rest, .word _ :: _ => some (args.map Sorted.text, [])
  | .one, .word s :: rest => some ([s], skipSeparator rest)
  | .atMostOne, .word s :: rest => some (if isRepeated args then [] else [s], skipSeparator rest)
  | .atMostOne, rest => some ([], rest)
  | _, _ => none

/-- Fills positional arguments in order, as many as can be. Gives the settings, the positional
arguments that remain, and what was not consumed. -/
def fillAll (args : List Sorted) : List Positional → Settings × List Positional × List Sorted
  | [] => ([], [], args)
  | p :: rest =>
    match fill? p args with
    | none => ([], p :: rest, args)
    | some (values, args) =>
      let (settings, remaining, args) := fillAll args rest
      (values.map (p.key, ·) ++ settings, remaining, args)

theorem length_skipSeparator (args : List Sorted) : (skipSeparator args).length ≤ args.length := by
  unfold skipSeparator
  split <;> simp

theorem length_fill? {p : Positional} {args rest : List Sorted} {values : List String}
    (h : fill? p args = some (values, rest)) : rest.length ≤ args.length := by
  have outer := length_skipSeparator args
  unfold fill? at h
  split at h
  · simp_all
  · next tail _ heq =>
    have inner := length_skipSeparator tail
    simp only [Option.some.injEq, Prod.mk.injEq] at h
    simp only [heq, List.length_cons] at outer
    rw [← h.2]
    omega
  · next tail _ heq =>
    have inner := length_skipSeparator tail
    simp only [Option.some.injEq, Prod.mk.injEq] at h
    simp only [heq, List.length_cons] at outer
    rw [← h.2]
    omega
  · simp only [Option.some.injEq, Prod.mk.injEq] at h
    rw [← h.2]
    exact outer
  · cases h

theorem length_fillAll (args : List Sorted) (ps : List Positional) :
    (fillAll args ps).2.2.length ≤ args.length := by
  induction ps generalizing args with
  | nil => exact Nat.le_refl _
  | cons p rest ih =>
    unfold fillAll
    split
    · exact Nat.le_refl _
    · next values args' h => exact Nat.le_trans (ih args') (length_fill? h)

/-! ## Options -/

/-- What a mention comes to: options in order with their values, whether the last one still needs
the word after it, and what was joined to the others but is no option. -/
structure Chain where
  done : List (ArgOption × String) := []
  pending? : Option ArgOption := none
  leftOver : List String := []

namespace Grammar

/-- Reads what is joined to the letter of an option. An option with a value takes all of it, or what
follows an equals sign in front. To another option only further letters of options can be joined. -/
def chain (g : Grammar) (o : ArgOption) (done : List (ArgOption × String)) :
    List Char → Except Ending Chain
  | [] =>
    match o.effect with
    | .value _ => .ok { done, pending? := some o }
    | _ => .ok { done := done ++ [(o, "")] }
  | c :: cs =>
    match o.effect with
    | .value _ =>
      let value := if c = '=' then cs else c :: cs
      .ok { done := done ++ [(o, String.ofList value)] }
    | _ =>
      if c = '=' ∨ c = '-' then .error .misuse
      else
        match g.named? (String.ofList ['-', c]) with
        | some next => g.chain next (done ++ [(o, "")]) cs
        | none =>
          -- The dash is put back, so that the rest is reported as an argument of its own.
          .ok { done := done ++ [(o, "")], leftOver := [String.ofList ('-' :: c :: cs)] }

/-- Reads one mention of an option. -/
def chainOf (g : Grammar) (m : Mention) : Except Ending Chain :=
  match m.attached, m.option.effect with
  | .nothing, _ => g.chain m.option [] []
  | .joined rest, _ => g.chain m.option [] rest
  | .equal value, .value _ => .ok { done := [(m.option, value)] }
  | .equal _, _ => .error .misuse

end Grammar

/-- Lets options take effect in order. -/
def takeEffect : List (ArgOption × String) → Except Ending Settings
  | [] => .ok []
  | (o, value) :: rest =>
    match o.effect with
    | .finish e => .error e
    | .mark => do return (o.key, "") :: (← takeEffect rest)
    | .value accepts =>
      if accepts value then do return (o.key, value) :: (← takeEffect rest) else .error .misuse

/-- Lets a chain take effect; gives the settings and what comes after. -/
def Chain.settle (c : Chain) (after : List Sorted) : Except Ending (Settings × List Sorted) :=
  match c.pending?, after with
  | none, after => (·, after) <$> takeEffect c.done
  | some o, .word value :: after => (·, after) <$> takeEffect (c.done ++ [(o, value)])
  | some _, _ => .error .misuse

/-- Pairing a result leaves the second component alone. -/
theorem snd_eq_of_map_pair {ε α β : Type} {x : Except ε α} {a : α} {b b' : β}
    (h : (·, b) <$> x = .ok (a, b')) : b' = b := by
  cases x <;> simp_all [Functor.map, Except.map]

theorem Chain.length_settle {c : Chain} {after after' : List Sorted} {s : Settings}
    (h : c.settle after = .ok (s, after')) : after'.length ≤ after.length := by
  unfold Chain.settle at h
  split at h
  · exact Nat.le_of_eq (congrArg _ (snd_eq_of_map_pair h))
  · rw [snd_eq_of_map_pair h]
    exact Nat.le_succ _
  · cases h

/-! ## Reading -/

/-- What reading gives: the settings, and the arguments that found no place. -/
structure Reading where
  settings : Settings
  leftOver : List String

/-- Puts settings and left-over arguments in front. -/
def Reading.after (r : Reading) (settings : Settings) (leftOver : List String) : Reading :=
  ⟨settings ++ r.settings, leftOver ++ r.leftOver⟩

namespace Grammar

/-- Consumes sorted arguments. -/
def consume (g : Grammar) (ps : List Positional) (args : List Sorted) : Except Ending Reading :=
  match args with
  | [] => .ok ⟨(fillAll [] ps).1, []⟩
  | .option s none :: rest => do return (← g.consume ps rest).after [] [s]
  | .option _ (some m) :: rest =>
    match g.chainOf m with
    | .error e => .error e
    | .ok c =>
      match _h : c.settle rest with
      | .error e => .error e
      | .ok (settings, after) => do return (← g.consume ps after).after settings c.leftOver
  | first :: rest =>
    match fillAll (first :: rest) ps with
    | (settings, remaining, after) =>
      if _h : after.length < (first :: rest).length then
        do return (← g.consume remaining after).after settings []
      else
        -- Nothing takes a word here, so all words up to the next option are left over.
        let skipped := first.text :: (rest.takeWhile (!·.isOption)).map Sorted.text
        do return (← g.consume remaining (rest.dropWhile (!·.isOption))).after settings skipped
termination_by args.length
decreasing_by
  · exact Nat.lt_succ_self _
  · exact Nat.lt_succ_of_le (c.length_settle _h)
  · exact _h
  · exact Nat.lt_succ_of_le (List.dropWhile_sublist _).length_le

/-- Reads arguments. A positional argument that is not optional must be filled. -/
def read (g : Grammar) (args : List String) : Except Ending Reading := do
  let r ← g.consume g.positionals (← g.sortAll args)
  let needed := g.required ++ (g.positionals.filter (·.arity = .one)).map (·.key)
  if needed.all r.settings.has then return r else throw .misuse

end Grammar

end Flowcheck.Command
