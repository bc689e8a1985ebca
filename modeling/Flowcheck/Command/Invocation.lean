import Flowcheck.Command.Arguments
import Flowcheck.Pass.Config

/-!
# Invocations

What can be asked of the command. There are six subcommands, each with a grammar of its own; the
arguments before the name of a subcommand belong to the command itself. Reading the arguments of an
invocation either gives all that the subcommand has to know or ends beforehand, with a complaint or
with an answer.
-/

namespace Flowcheck.Command

/-- How values are printed. -/
inductive ValueFormat where
  | text
  | shown
  | json
  deriving DecidableEq, Repr

namespace ValueFormat

/-- The formats by name. -/
def byName : List (String × ValueFormat) := [("sexp", .text), ("repr", .shown), ("json", .json)]

/-- The format of a name. -/
def ofName? (s : String) : Option ValueFormat := byName.lookup s

end ValueFormat

/-- What is asked for. -/
inductive Invocation where
  | run (bundle : String) (passes : List String) (config : RunConfig)
  | verify (bundle : String) (oracle? literal? function? : Option String) (blocks? : Option Int)
  | oracle (bundle : String) (function? : Option String) (width : Int) (output? : Option String)
  | passes (withOrigin : Bool) (config : RunConfig)
  | parse (source : String) (format : ValueFormat) (output? : Option String)
  | matching (pattern source : String)
  deriving DecidableEq, Repr

/-- An invocation, if there is one, and how much is to be logged. -/
structure Request where
  verbosity : Nat := 0
  invocation? : Option Invocation := none
  deriving DecidableEq, Repr

/-! ## Grammars -/

namespace ArgOption

/-- An option that asks for help. -/
def help : ArgOption := ⟨["-h", "--help"], "help", .finish .help⟩

/-- An option that leaves a mark. -/
def mark (key : String) (names : List String) : ArgOption := ⟨names, key, .mark⟩

/-- An option with a value of any kind. -/
def value (key : String) (names : List String) : ArgOption := ⟨names, key, .value fun _ ↦ true⟩

/-- An option with an integer. -/
def integer (key : String) (names : List String) : ArgOption :=
  ⟨names, key, .value fun s ↦ (Text.readInteger? s).isSome⟩

end ArgOption

/-- The options about where passes come from. -/
def passSourceOptions : List ArgOption :=
  [.value "unit" ["-u", "--unit"], .mark "no-plugins" ["--no-plugins"]]

/-- The option about where output goes. -/
def outputOption : ArgOption := .value "output" ["-o", "--output"]

/-- The configuration that settings give. -/
def configOf (s : Settings) : RunConfig where
  keepGoing := s.has "keep-going"
  validateIr := !s.has "no-validate"
  discoverPlugins := !s.has "no-plugins"
  units := s.all "unit"

/-- A subcommand: its grammar, and the invocation that its settings make. -/
structure Subcommand where
  name : String
  options : List ArgOption
  positionals : List Positional := []
  required : List String := []
  invocation : Settings → Invocation

namespace Subcommand

/-- The grammar of a subcommand. Each of them can be asked for help. -/
def grammar (c : Subcommand) : Grammar := ⟨.help :: c.options, c.positionals, c.required⟩

/-- Runs passes over a bundle. -/
def run : Subcommand where
  name := "run"
  options := [.value "pass" ["-p", "--pass"], .mark "keep-going" ["-k", "--keep-going"],
    .mark "no-validate" ["--no-validate"]] ++ passSourceOptions
  positionals := [⟨"bundle", .one⟩]
  required := ["pass"]
  invocation s := .run ((s.last? "bundle").getD "") (s.all "pass") (configOf s)

/-- Compares a bundle with an oracle. -/
def verify : Subcommand where
  name := "verify"
  options := [.value "literal" ["-e", "--expr"], .value "function" ["--function"],
    .integer "blocks" ["--blocks"]]
  positionals := [⟨"bundle", .one⟩, ⟨"oracle", .atMostOne⟩]
  invocation s :=
    .verify ((s.last? "bundle").getD "") (s.last? "oracle") (s.last? "literal")
      (s.last? "function") ((s.last? "blocks").bind Text.readInteger?)

/-- Prints the oracles of a bundle. -/
def oracle : Subcommand where
  name := "oracle"
  options := [.value "function" ["--function"], .integer "width" ["--width"], outputOption]
  positionals := [⟨"bundle", .one⟩]
  invocation s :=
    .oracle ((s.last? "bundle").getD "") (s.last? "function")
      (((s.last? "width").bind Text.readInteger?).getD 72) (s.last? "output")

/-- Lists the passes there are. -/
def passes : Subcommand where
  name := "passes"
  options := .mark "origin" ["--origin"] :: passSourceOptions
  invocation s := .passes (s.has "origin") (configOf s)

/-- Prints the values of a file. -/
def parse : Subcommand where
  name := "parse"
  options := [⟨["-f", "--format"], "format", .value fun s ↦ (ValueFormat.ofName? s).isSome⟩,
    outputOption]
  positionals := [⟨"source", .one⟩]
  invocation s :=
    .parse ((s.last? "source").getD "")
      (((s.last? "format").bind ValueFormat.ofName?).getD .text) (s.last? "output")

/-- Matches the values of a file. -/
def matching : Subcommand where
  name := "match"
  options := []
  positionals := [⟨"pattern", .one⟩, ⟨"source", .one⟩]
  invocation s := .matching ((s.last? "pattern").getD "") ((s.last? "source").getD "")

/-- All subcommands. -/
def all : List Subcommand := [run, verify, oracle, passes, parse, matching]

end Subcommand

/-- The grammar of the command itself. -/
def mainGrammar : Grammar where
  options := [.help, ⟨["--version"], "version", .finish .version⟩,
    .mark "verbose" ["-v", "--verbose"]]
  positionals := [⟨"command", .rest⟩]

/-! ## Endings -/

/-- The name and the number of this program. -/
def versionText : String := "arbos 0.1.0"

/-- The number that stands for how reading ended. -/
def Ending.code : Ending → Nat
  | .misuse => 2
  | .help | .version => 0

/-- What is printed when reading ended in an answer that has one fixed text. -/
def Ending.output : Ending → String
  | .version => versionText ++ "\n"
  | .misuse | .help => ""

/-! ## Reading -/

/-- Reads the invocation of a subcommand, given by its name and its arguments. -/
def readInvocation : List String → Except Ending (Option (Invocation × List String))
  | [] => .ok none
  | name :: args =>
    match Subcommand.all.find? (·.name = name) with
    | none => .error .misuse
    | some c => do
      let r ← c.grammar.read args
      return some (c.invocation r.settings, r.leftOver)

/-- Reads a request. Arguments that found no place are a fault. -/
def Request.ofArguments (args : List String) : Except Ending Request := do
  let outer ← mainGrammar.read args
  let verbosity := (outer.settings.all "verbose").length
  match ← readInvocation (outer.settings.all "command") with
  | none => if outer.leftOver.isEmpty then return { verbosity } else throw .misuse
  | some (invocation, leftOver) =>
    if outer.leftOver.isEmpty ∧ leftOver.isEmpty then
      return { verbosity, invocation? := some invocation }
    else throw .misuse

end Flowcheck.Command
