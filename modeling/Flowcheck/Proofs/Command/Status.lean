import Flowcheck.Proofs.Command.Run
import Flowcheck.Proofs.Json.Reading
import Flowcheck.Proofs.Oracle.Agreement
import Mathlib

/-!
# Whom a status blames

The status for infrastructure is kept for what is wrong outside the input: a file that is not there,
a unit that does not load. An invocation whose files can be read should never end with it. With
three exceptions none does. Printing oracles halts at a block whose name is no atom's text as at
something unforeseen, where the printer as a pass ends with an error. An integer with too many
digits in the text of a bundle is met by no handler. And the unit that is built into every registry
is found by a reference that a file can be called by, too.

What a command comes to after it has loaded a bundle is the same argument for all three commands
that do, so the exception of loading is settled once, for whatever comes after it.
-/

namespace Flowcheck.Command

variable {α β ε : Type} {setting : Setting} {files : Files.Tree} {path text : String}

/-! ## Blaming the input -/

/-- However a command ends with these files, it leaves them as they are, and it comes to something
with a property or halts at an error in the input. -/
def Yields (setting : Setting) (files : Files.Tree) (m : CommandM α) (P : α → Prop) : Prop :=
  ∀ s, s.files = files → ∃ s', s'.files = files ∧
    ((∃ a, outcome setting s m = (.ok a, s') ∧ P a) ∨
      ∃ halt, outcome setting s m = (.error halt, s') ∧ halt.status = .error)

namespace Yields

variable {m : CommandM α} {P Q : α → Prop}

theorem pure {a : α} (h : P a) : Yields setting files (pure a) P :=
  fun s unchanged ↦ ⟨s, unchanged, .inl ⟨a, rfl, h⟩⟩

theorem mono (yields : Yields setting files m P) (weaker : ∀ a, P a → Q a) :
    Yields setting files m Q := by
  intro s unchanged
  obtain ⟨s', unchanged', ⟨a, ended, h⟩ | halted⟩ := yields s unchanged
  · exact ⟨s', unchanged', .inl ⟨a, ended, weaker a h⟩⟩
  · exact ⟨s', unchanged', .inr halted⟩

theorem bind {f : α → CommandM β} {R : β → Prop} (first : Yields setting files m P)
    (next : ∀ a, P a → Yields setting files (f a) R) : Yields setting files (m >>= f) R := by
  intro s unchanged
  obtain ⟨s', unchanged', ⟨a, ended, h⟩ | ⟨halt, ended, blamed⟩⟩ := first s unchanged
  · rw [outcome_bind_of_ok ended]
    exact next a h s' unchanged'
  · exact ⟨s', unchanged', .inr ⟨halt, outcome_bind_of_error ended f, blamed⟩⟩

theorem orHalt {halt : ε → Halt} {x : Except ε α}
    (blamed : ∀ e, x = .error e → (halt e).status = .error) :
    Yields setting files (orHalt halt x) (x = .ok ·) := by
  intro s unchanged
  refine ⟨s, unchanged, ?_⟩
  rw [outcome_orHalt]
  cases x with
  | error e => exact .inr ⟨halt e, rfl, blamed e rfl⟩
  | ok a => exact .inl ⟨a, rfl, rfl⟩

theorem record (entries : List LogEntry) : Yields setting files (record entries) fun _ ↦ True :=
  fun s unchanged ↦ ⟨{ s with log := s.log ++ entries }, unchanged, .inl ⟨(), rfl, trivial⟩⟩

theorem print (text : String) : Yields setting files (print text) fun _ ↦ True :=
  fun s unchanged ↦ ⟨{ s with output := s.output ++ text }, unchanged, .inl ⟨(), rfl, trivial⟩⟩

theorem forM {f : α → CommandM Unit} {as : List α}
    (each : ∀ a, Yields setting files (f a) fun _ ↦ True) :
    Yields setting files (as.forM f) fun _ ↦ True := by
  induction as with
  | nil => exact pure trivial
  | cons a as ih => exact (each a).bind fun _ _ ↦ ih

end Yields

/-! ## Reading -/

theorem TextAt.yields_locate (there : TextAt setting files path text) (label : String) :
    Yields setting files (locateExisting label path) fun l ↦
      Yields setting files (readFile l) (· = text) := by
  obtain ⟨l, found⟩ := there.exists_location
  refine fun s unchanged ↦ ⟨s, unchanged, .inl ⟨l, (found s unchanged).1 label, ?_⟩⟩
  exact fun s' unchanged' ↦ ⟨s', unchanged', .inl ⟨text, (found s' unchanged').2, rfl⟩⟩

theorem TextAt.yields_readValues {l : Files.Location}
    (reads : Yields setting files (readFile l) (· = text)) :
    Yields setting files (readValues l) fun _ ↦ True :=
  reads.bind fun _ _ ↦ (Yields.orHalt fun _ _ ↦ rfl).mono fun _ _ ↦ trivial

/-! ## Loading a bundle -/

/-- Whether an integer with too many digits keeps a text from being read as JSON. -/
def Overlong (text : String) : Prop := ∃ digits, Json.parse text = .error (.tooManyDigits digits)

theorem overlong_of_digits {c : Char} {digits : List Char} (leads : c ≠ '0')
    (decimal : ∀ d ∈ c :: digits, d.isDigit = true)
    (tooMany : Text.maxNumeralDigits ≤ digits.length) :
    Overlong (String.ofList (c :: digits)) :=
  ⟨digits.length + 1, by
    rw [Json.parse_digits decimal leads, if_pos (Nat.lt_succ_of_le tooMany)]⟩

theorem overlong_iff_parse :
    Overlong text ↔ ∃ digits, Ir.Document.parse text = .error (.tooManyDigits digits) := by
  constructor
  · rintro ⟨digits, overlong⟩
    exact ⟨digits, by rw [Ir.Document.parse, overlong]⟩
  · rintro ⟨digits, refused⟩
    rw [Ir.Document.parse] at refused
    split at refused
    · rename_i j _
      cases shape : Ir.Document.ofJson j <;> rw [shape] at refused <;> cases refused
    · cases refused
    · rename_i digits' overlong
      exact ⟨digits', overlong⟩

theorem not_overlong_of_parse {d : Ir.Document} (parsed : Ir.Document.parse text = .ok d) :
    ¬ Overlong text := by
  intro overlong
  obtain ⟨digits, refused⟩ := overlong_iff_parse.1 overlong
  cases parsed.symm.trans refused

/-- A command that loads a bundle first blames its surroundings if the text is too long, or if it
does so once the bundle is there. -/
theorem TextAt.endStatus_loadBundle_bind {s : Session}
    (there : TextAt setting s.files path text) :
    ∃ log, ∀ next : Ir.Bundle → CommandM ExitStatus,
      endStatus (outcome setting s (loadBundle path >>= next)).1 = .infrastructure ↔
        Overlong text ∨ ∃ d, Ir.Document.parse text = .ok d ∧
          endStatus (outcome setting { s with log } (next (d.build 1).1)).1 = .infrastructure := by
  cases parsed : Ir.Document.parse text with
  | ok d =>
    obtain ⟨log, loaded⟩ := there.outcome_loadBundle parsed
    refine ⟨log, fun next ↦ ?_⟩
    rw [outcome_bind_of_ok loaded, or_iff_right (not_overlong_of_parse parsed)]
    simp
  | error e =>
    obtain ⟨l, unread⟩ := there.outcome_loadBundle_error parsed
    refine ⟨s.log, fun next ↦ ?_⟩
    rw [outcome_bind_of_error unread, overlong_iff_parse, parsed]
    cases e with
    | refused e => exact iff_of_false (by rintro ⟨⟩) (by simp)
    | tooManyDigits digits => exact iff_of_true rfl (.inl ⟨digits, rfl⟩)

/-! ## Commands without exceptions -/

/-- Whether output goes to the output of the command. -/
def ToOutput (output? : Option String) : Prop := output? = none ∨ output? = some "-"

theorem yields_openSink {output? : Option String} (plain : ToOutput output?) :
    Yields setting files (openSink output?) (· = .output) := by
  rcases plain with rfl | rfl
  · exact .pure rfl
  · exact .pure rfl

theorem yields_performParse (there : TextAt setting files path text) (format : ValueFormat)
    {output? : Option String} (plain : ToOutput output?) :
    Yields setting files (performParse path format output?) (· ≠ .infrastructure) := by
  refine (there.yields_locate _).bind fun l reads ↦ ?_
  refine (TextAt.yields_readValues reads).bind fun values _ ↦ ?_
  refine (yields_openSink plain).bind fun sink same ↦ ?_
  subst same
  exact (Yields.print _).bind fun _ _ ↦ .pure (by decide)

theorem yields_performMatching (there : TextAt setting files path text) (pattern : String) :
    Yields setting files (performMatching pattern path) (· ≠ .infrastructure) := by
  refine (Yields.orHalt fun _ _ ↦ rfl).bind fun p _ ↦ ?_
  refine (there.yields_locate _).bind fun l reads ↦ ?_
  refine (TextAt.yields_readValues reads).bind fun values _ ↦ ?_
  have reported (position : Nat) (v : Sexp) (m? : Option Match) :
      Yields setting files (reportMatch position v m?) fun _ ↦ True := by
    cases m? with
    | none => exact .record _
    | some m => exact .print _
  refine (Yields.forM fun (position, v, m?) ↦ reported position v m?).bind fun _ _ ↦ ?_
  refine (Yields.record _).bind fun _ _ ↦ .pure ?_
  split <;> decide

theorem status_of_foreseen {f : Fault} (foreseen : f.isForeseen = true) :
    (reportHalt f.report).status = .error := by
  have input : (f.report.kind.isA .framework || f.report.kind.isA .query) = true := foreseen
  rw [reportHalt, if_pos input]
  rfl

theorem isForeseen_of_unverifiable {f : Fault} (h : Check.Unverifiable f) :
    f.isForeseen = true := by
  cases h with
  | oracle e => cases e <;> rfl
  | block _ _ => rfl
  | function _ _ => rfl

theorem wellFormed_of_loaded {d : Ir.Document} (parsed : Ir.Document.parse text = .ok d) :
    (d.build 1).1.WellFormed :=
  Ir.Document.wellFormed_build (wellFormed_of_parse parsed) 1

theorem Yields.endStatus_ne {m : CommandM ExitStatus}
    (yields : Yields setting files m (· ≠ .infrastructure)) {s : Session} (same : s.files = files) :
    endStatus (outcome setting s m).1 ≠ .infrastructure := by
  obtain ⟨s', -, ⟨status, ended, other⟩ | ⟨halt, ended, blamed⟩⟩ := yields s same
  · rw [ended]
    exact other
  · rw [ended]
    exact fun same ↦ absurd (blamed.symm.trans same) (by decide)

/-! ## Verifying -/

/-- Whatever a bundle is verified against, no error of that is one of the surroundings. -/
theorem endStatus_verifyText_iff {s : Session} (there : TextAt setting s.files path text)
    (literal : String) (function? : Option String) (blocks? : Option Int) :
    endStatus (outcome setting s (verifyText path literal function? blocks?)).1 =
      .infrastructure ↔ Overlong text := by
  obtain ⟨log, ended⟩ := there.endStatus_loadBundle_bind
  rw [verifyText, ended, or_iff_left_iff_imp]
  rintro ⟨d, parsed, blamed⟩
  refine absurd blamed (Yields.endStatus_ne ?_ rfl)
  refine (Yields.record _).bind fun _ _ ↦ ?_
  refine (Yields.orHalt fun e refused ↦ ?_).bind fun verdict _ ↦ ?_
  · have indexed := (wellFormed_of_loaded parsed).indexed
    exact status_of_foreseen
      (isForeseen_of_unverifiable (Check.unverifiable_of_verify indexed refused))
  · refine (Yields.print _).bind fun _ _ ↦ .pure ?_
    split <;> decide

theorem endStatus_performVerify_iff (there : TextAt setting files path text)
    {oracle? literal? : Option String}
    (given : literal?.isSome ∨
      ∃ path' text', oracle? = some path' ∧ TextAt setting files path' text')
    (function? : Option String) (blocks? : Option Int) :
    endStatus (outcome setting { files }
      (performVerify path oracle? literal? function? blocks?)).1 = .infrastructure ↔
        Overlong text := by
  cases literal? with
  | some literal =>
    exact endStatus_verifyText_iff (s := { files }) there literal function? blocks?
  | none =>
    obtain ⟨path', text', rfl, there'⟩ := given.resolve_left (by rintro ⟨⟩)
    obtain ⟨l, at_l⟩ := there'.exists_location
    obtain ⟨located, read⟩ := at_l { files } rfl
    have opened :
        outcome setting { files } (performVerify path (some path') none function? blocks?) =
          outcome setting { files } (verifyText path text' function? blocks?) :=
      (outcome_bind_of_ok (located "oracle") _).trans (outcome_bind_of_ok read _)
    rw [opened]
    exact endStatus_verifyText_iff (s := { files }) there text' function? blocks?

/-! ## Printing oracles -/

/-- The functions of a bundle that oracles are asked of: the one of a name, or all of them. -/
def selected (function? : Option String) (b : Ir.Bundle) : List Ir.Function :=
  match function?.filter (· ≠ "") with
  | none => b.functions
  | some name => (b.function? name).toList

theorem format_eq_ok_of_writable {f : Ir.Function} (writable : Oracle.Writable f) (width : Int) :
    ∃ text, Oracle.format width f = .ok text := by
  obtain ⟨v, made⟩ := writable.exists_ofFunction
  exact ⟨_, Oracle.format_of_ofFunction made width⟩

theorem format_eq_error_of_not_writable {f : Ir.Function} (unwritable : ¬ Oracle.Writable f)
    (width : Int) : ∃ e, Oracle.format width f = .error e := by
  rw [Oracle.format]
  cases made : Oracle.ofFunction f with
  | error e => exact ⟨e, rfl⟩
  | ok v => exact absurd (Oracle.writable_of_ofFunction made) unwritable

section Writing

variable (width : Int) (withName : Bool)

/-- Writing an oracle halts exactly if there is none. -/
theorem outcome_writeOracle (f : Ir.Function) (s : Session) :
    ∃ s', outcome setting s (writeOracle .output width withName f) =
      ((fun _ ↦ ()) <$> (Oracle.format width f).mapError fun e ↦ .unexpected e.message, s') := by
  have body (s : Session) : ∃ s', outcome setting s (do
      let text ← orHalt (fun e ↦ .unexpected e.message) (Oracle.format width f)
      Sink.write .output (text ++ "\n")) =
      ((fun _ ↦ ()) <$> (Oracle.format width f).mapError fun e ↦ .unexpected e.message, s') := by
    cases Oracle.format width f with
    | error e => exact ⟨_, rfl⟩
    | ok text => exact ⟨_, rfl⟩
  cases withName with
  | false => exact body s
  | true => exact body { s with output := s.output ++ ("; " ++ f.name ++ "\n") }

theorem outcome_writeOracle_of_writable {f : Ir.Function} (writable : Oracle.Writable f)
    (s : Session) :
    ∃ s', outcome setting s (writeOracle .output width withName f) = (.ok (), s') := by
  obtain ⟨s', ended⟩ := outcome_writeOracle width withName f s
  obtain ⟨text, formatted⟩ := format_eq_ok_of_writable writable width
  rw [formatted] at ended
  exact ⟨s', ended⟩

theorem outcome_writeOracle_of_not_writable {f : Ir.Function} (unwritable : ¬ Oracle.Writable f)
    (s : Session) : ∃ halt s', outcome setting s (writeOracle .output width withName f) =
      (.error halt, s') ∧ halt.status = .infrastructure := by
  obtain ⟨s', ended⟩ := outcome_writeOracle width withName f s
  obtain ⟨e, refused⟩ := format_eq_error_of_not_writable unwritable width
  rw [refused] at ended
  exact ⟨_, s', ended, rfl⟩

variable {functions : List Ir.Function}

theorem outcome_writeOracles_of_writable (writable : ∀ f ∈ functions, Oracle.Writable f)
    (s : Session) : ∃ s', outcome setting s
      (functions.forM (writeOracle .output width withName)) = (.ok (), s') := by
  induction functions generalizing s with
  | nil => exact ⟨s, rfl⟩
  | cons f rest ih =>
    obtain ⟨here, later⟩ := List.forall_mem_cons.1 writable
    obtain ⟨s₁, written⟩ := outcome_writeOracle_of_writable width withName here s
    obtain ⟨s', ended⟩ := ih later s₁
    exact ⟨s', (outcome_bind_of_ok written _).trans ended⟩

/-- Writing oracles halts at the first function that has none. -/
theorem outcome_writeOracles_of_not_writable (unwritable : ∃ f ∈ functions, ¬ Oracle.Writable f)
    (s : Session) : ∃ halt s', outcome setting s
      (functions.forM (writeOracle .output width withName)) = (.error halt, s') ∧
        halt.status = .infrastructure := by
  induction functions generalizing s with
  | nil => simp at unwritable
  | cons f rest ih =>
    by_cases here : Oracle.Writable f
    · obtain ⟨s₁, written⟩ := outcome_writeOracle_of_writable width withName here s
      obtain ⟨halt, s', ended, blamed⟩ := ih (by simpa [here] using unwritable) s₁
      exact ⟨halt, s', (outcome_bind_of_ok written _).trans ended, blamed⟩
    · obtain ⟨halt, s', ended, blamed⟩ :=
        outcome_writeOracle_of_not_writable width withName here s
      exact ⟨halt, s', outcome_bind_of_error ended _, blamed⟩

end Writing

/-- What printing the oracles of functions comes to: the command blames its surroundings exactly if
one of the functions has no oracle. -/
theorem endStatus_writeOracles_iff {output? : Option String} (plain : ToOutput output?)
    (functions : List Ir.Function) (width : Int) (s : Session) :
    endStatus (outcome setting s (do
      let sink ← openSink output?
      functions.forM (writeOracle sink width (1 < functions.length))
      return .success)).1 = .infrastructure ↔ ∃ f ∈ functions, ¬ Oracle.Writable f := by
  have opened : outcome setting s (openSink output?) = (.ok .output, s) := by
    rcases plain with rfl | rfl <;> rfl
  rw [outcome_bind_of_ok opened]
  by_cases unwritable : ∃ f ∈ functions, ¬ Oracle.Writable f
  · obtain ⟨halt, s', ended, blamed⟩ := outcome_writeOracles_of_not_writable width
      (decide (1 < functions.length)) unwritable s
    rw [outcome_bind_of_error ended]
    exact iff_of_true blamed unwritable
  · have writable : ∀ f ∈ functions, Oracle.Writable f := by simpa using unwritable
    obtain ⟨s', ended⟩ := outcome_writeOracles_of_writable width
      (decide (1 < functions.length)) writable s
    rw [outcome_bind_of_ok ended]
    exact iff_of_false (by rintro ⟨⟩) unwritable

theorem endStatus_performOracle_iff (there : TextAt setting files path text)
    {output? : Option String} (plain : ToOutput output?) (function? : Option String) (width : Int) :
    endStatus (outcome setting { files } (performOracle path function? width output?)).1 =
      .infrastructure ↔ Overlong text ∨ ∃ d, Ir.Document.parse text = .ok d ∧
        ∃ f ∈ selected function? (d.build 1).1, ¬ Oracle.Writable f := by
  obtain ⟨log, ended⟩ := TextAt.endStatus_loadBundle_bind (s := { files }) there
  rw [performOracle, ended]
  refine or_congr_right (exists_congr fun d ↦ and_congr_right fun parsed ↦ ?_)
  rw [selected]
  cases function?.filter (· ≠ "") with
  | none => exact endStatus_writeOracles_iff plain (d.build 1).1.functions width _
  | some name =>
    dsimp only
    rw [Ir.Bundle.function]
    cases (d.build 1).1.function? name with
    | none =>
      have blamed :=
        status_of_foreseen (f := .graph (.functionNotFound name (d.build 1).1.name)) rfl
      exact iff_of_false (fun other ↦ absurd (blamed.symm.trans other) (by decide)) (by simp)
    | some f => exact endStatus_writeOracles_iff plain [f] width _

/-! ## Running passes -/

variable {d : Ir.Document} {c : RunConfig} {names : List String}

theorem runPasses_ne_infrastructure {r : Registry} {b : Ir.Bundle} (stocked : r.Stocked)
    (wf : b.WellFormed) (s : Session) :
    endStatus (outcome setting s (runPasses r b names c)).1 ≠ .infrastructure := by
  have truthful := truthful_runPasses stocked wf setting s c names
  by_cases listed : ∀ name ∈ names, name ∈ r.names
  · obtain ⟨ps, text, -, -, -, -, tells⟩ := truthful.runs listed
    intro blamed
    have error := tells.otherwise (by simp [blamed]) (by simp [blamed])
    exact absurd (blamed.symm.trans error) (by decide)
  · obtain ⟨error, -⟩ := truthful.refuses (by simpa using listed)
    rw [error]
    decide

/-- Running passes blames its surroundings only if the built-in unit cannot be used or the bundle is
not read. -/
theorem endStatus_performRun_iff (there : TextAt setting files path text)
    (plain : c.discoverPlugins = false) (none : c.units = []) (names : List String) :
    endStatus (outcome setting { files } (performRun path names c)).1 = .infrastructure ↔
      files.unitFile setting.workingDirectory Installed.nestedLoopRef ≠ .absent ∨
        Overlong text := by
  rcases files.unitFile_nestedLoop setting.workingDirectory with absent | unsuitable
  · have opened : registryOf setting files c = .ok Installed.builtins :=
      Installed.registry_of_absent absent plain none
    have stocked : Installed.builtins.Stocked := Installed.stocked_of_registry
      (Installed.overFlow_surroundings fun _ _ _ ↦ Files.Tree.overFlow_of_unitFile) opened
    obtain ⟨log, registry⟩ := outcome_openRegistry setting { files } c
    rw [opened] at registry
    obtain ⟨log', ended⟩ := TextAt.endStatus_loadBundle_bind (s := { files, log }) there
    rw [performRun, outcome_bind_of_ok registry, ended, or_iff_right (not_not_intro absent),
      or_iff_left_iff_imp]
    rintro ⟨d, parsed, blamed⟩
    exact absurd blamed (runPasses_ne_infrastructure stocked (wellFormed_of_loaded parsed) _)
  · have refused : registryOf setting files c =
        .error (.unusable Installed.nestedLoopRef .notImportable) :=
      Installed.registry_of_unsuitable unsuitable
    obtain ⟨log, registry⟩ := outcome_openRegistry setting { files } c
    rw [refused] at registry
    refine iff_of_true ?_ (.inl (by simp [unsuitable]))
    rw [performRun, outcome_bind_of_error registry]
    rfl

/-! ## The printer as a pass -/

theorem value_of_printAll {functions : List Ir.Function} {f : Fault}
    (ended : (Printer.printAll functions).fault? = some f) : ∃ e, f = .value e := by
  induction functions with
  | nil => cases ended
  | cons function rest ih =>
    rw [Printer.printAll] at ended
    split at ended
    · exact ⟨_, (Option.some.inj ended).symm⟩
    · exact ih ended

theorem printAll_eq_none_iff {functions : List Ir.Function} :
    (Printer.printAll functions).fault? = none ↔ ∀ f ∈ functions, Oracle.Writable f := by
  induction functions with
  | nil => simp [Printer.printAll]
  | cons f rest ih =>
    rw [Printer.printAll, List.forall_mem_cons, ← ih]
    by_cases here : Oracle.Writable f
    · obtain ⟨text, formatted⟩ := format_eq_ok_of_writable here 72
      rw [formatted]
      simp [here, Outcome.followedBy]
    · obtain ⟨e, refused⟩ := format_eq_error_of_not_writable here 72
      rw [refused]
      simp [here]

theorem create_printer : Installed.builtins.create "print-cfg" = .ok (Printer.pass none) := by
  have holds : Installed.builtins.Holds "print-cfg" Installed.printerFactory
      "arbos.printer.CfgPrinterPass" := ⟨rfl, rfl⟩
  exact holds.createFrom_eq_ok_iff.2 ⟨rfl, rfl⟩

/-- Where printing oracles would blame its surroundings, the printer as a pass ends with an
error. -/
theorem endStatus_printer_iff (there : TextAt setting files path text)
    (parsed : Ir.Document.parse text = .ok d)
    (absent : files.unitFile setting.workingDirectory Installed.nestedLoopRef = .absent) :
    endStatus (outcome setting { files }
      (performRun path ["print-cfg"] { discoverPlugins := false })).1 = .error ↔
        ∃ f ∈ (d.build 1).1.functions, ¬ Oracle.Writable f := by
  let c : RunConfig := { discoverPlugins := false }
  have opened : registryOf setting files c = .ok Installed.builtins :=
    Installed.registry_of_absent absent rfl rfl
  have created : ["print-cfg"].mapM Installed.builtins.create = .ok [Printer.pass none] := by
    rw [List.mapM_cons, create_printer]
    rfl
  have wf := wellFormed_of_loaded parsed
  have overFlow : ∀ p ∈ [Printer.pass none], p.OverFlow := by
    rw [List.forall_mem_singleton]
    exact .printer none _ _ _
  obtain ⟨finished, tells⟩ := tells_run (c := c) (fun _ ↦ wf.validate_ok) wf.indexed overFlow
  obtain ⟨log, ran⟩ := outcome_performRun there parsed opened ["print-cfg"]
  obtain ⟨log', ended⟩ := runPasses_of_create setting { files, log } created finished
  rw [ran, ended]
  have success : statusOf (Manager.run c [Printer.pass none] (d.build 1).1).records = .success ↔
      ∀ f ∈ (d.build 1).1.functions, Oracle.Writable f := by
    rw [tells.success, List.forall_mem_singleton]
    exact printAll_eq_none_iff
  have unfailed :
      statusOf (Manager.run c [Printer.pass none] (d.build 1).1).records ≠ .violation := by
    intro violated
    obtain ⟨p, asked, f, ended, failure⟩ : ∃ p ∈ [Printer.pass none], Fails p (d.build 1).1 := by
      obtain ⟨before, p, after, split, -, fails⟩ := (tells.stops rfl).1 violated
      exact ⟨p, split ▸ List.mem_append_right _ List.mem_cons_self, fails⟩
    rw [List.mem_singleton.1 asked] at ended
    obtain ⟨e, rfl⟩ := value_of_printAll ended
    cases failure
  constructor
  · intro error
    by_contra writable
    have succeeded := success.2 (by simpa using writable)
    exact absurd (succeeded.symm.trans error) (by decide)
  · rintro ⟨f, asked, unwritable⟩
    exact statusOf_eq_error (fun succeeded ↦ unwritable (success.1 succeeded f asked)) unfailed

/-! ## All invocations -/

/-- The bundle that an invocation loads. -/
def Invocation.bundle? : Invocation → Option String
  | .run bundle _ _ | .verify bundle _ _ _ _ | .oracle bundle _ _ _ => some bundle
  | .passes _ _ | .parse _ _ _ | .matching _ _ => none

/-- The files that an invocation reads. -/
def Invocation.sources : Invocation → List String
  | .run bundle _ _ => [bundle]
  | .verify bundle oracle? literal? _ _ =>
    bundle :: if literal?.isSome then [] else oracle?.toList
  | .oracle bundle _ _ _ => [bundle]
  | .passes _ _ => []
  | .parse source _ _ => [source]
  | .matching _ source => [source]

/-- An invocation that reads files and writes to the output, with what is built in: the passes are
the built-in ones, and there is an oracle to verify against. -/
def Invocation.Plain : Invocation → Prop
  | .run _ _ c => c.discoverPlugins = false ∧ c.units = []
  | .verify _ oracle? literal? _ _ => literal?.isSome ∨ oracle?.isSome
  | .oracle _ _ _ output? => ToOutput output?
  | .passes _ _ => False
  | .parse _ _ output? => ToOutput output?
  | .matching _ _ => True

/-- All that an invocation reads is there. -/
structure Invocation.Readable (setting : Setting) (files : Files.Tree) (invocation : Invocation) :
    Prop where
  /-- Every file can be read. -/
  there : ∀ path ∈ invocation.sources, ∃ text, TextAt setting files path text
  /-- A bundle is read as it is written. Names with half a character in them, which only an escape
  in the text of a bundle can bring about, are left out of account: there is no such text here, and
  printing one is another matter. -/
  lossless : ∀ path text, invocation.bundle? = some path → TextAt setting files path text →
    Json.Lossless text

/-- The invocations that blame their surroundings although all they read is there: oracles are asked
of a function that has none, the text of a bundle is too long to be read, or a file stands where the
reference of the built-in unit leads. -/
inductive Excepted (setting : Setting) (files : Files.Tree) : Invocation → Prop where
  | unwritable {bundle text : String} {d : Ir.Document} {function? output? : Option String}
    {width : Int} {f : Ir.Function} (there : TextAt setting files bundle text)
    (parsed : Ir.Document.parse text = .ok d) (asked : f ∈ selected function? (d.build 1).1)
    (unwritable : ¬ Oracle.Writable f) :
    Excepted setting files (.oracle bundle function? width output?)
  | overlong {invocation : Invocation} {bundle text : String}
    (loads : invocation.bundle? = some bundle) (there : TextAt setting files bundle text)
    (overlong : Overlong text) : Excepted setting files invocation
  | shadowed {bundle : String} {names : List String} {c : RunConfig}
    (shadows : files.unitFile setting.workingDirectory Installed.nestedLoopRef ≠ .absent) :
    Excepted setting files (.run bundle names c)

/-- A text is read off a path in one way only. -/
theorem TextAt.unique {text' : String} (there : TextAt setting files path text)
    (there' : TextAt setting files path text') : text = text' := by
  obtain ⟨steps, bytes, expanded, -, read, decoded⟩ := there
  obtain ⟨steps', bytes', expanded', -, read', decoded'⟩ := there'
  cases Option.some.inj (expanded.symm.trans expanded')
  cases Except.ok.inj (read.symm.trans read')
  exact Except.ok.inj (decoded.symm.trans decoded')

theorem perform_infrastructure_iff {invocation : Invocation} (plain : invocation.Plain)
    (readable : ∀ path ∈ invocation.sources, ∃ text, TextAt setting files path text) :
    endStatus (outcome setting { files } (perform invocation)).1 = .infrastructure ↔
      Excepted setting files invocation := by
  cases invocation with
  | run bundle names c =>
    obtain ⟨text, there⟩ := readable bundle List.mem_cons_self
    rw [perform, endStatus_performRun_iff there plain.1 plain.2 names]
    constructor
    · rintro (shadows | overlong)
      · exact .shadowed shadows
      · exact .overlong rfl there overlong
    · rintro (_ | ⟨⟨⟩, there', overlong⟩ | shadows)
      · exact .inr (there.unique there' ▸ overlong)
      · exact .inl shadows
  | verify bundle oracle? literal? function? blocks? =>
    obtain ⟨text, there⟩ := readable bundle List.mem_cons_self
    have given : literal?.isSome ∨
        ∃ path' text', oracle? = some path' ∧ TextAt setting files path' text' := by
      cases literal? with
      | some literal => exact .inl rfl
      | none =>
        obtain ⟨path', rfl⟩ := Option.isSome_iff_exists.1 (plain.resolve_left (by decide))
        obtain ⟨text', there'⟩ := readable path' (List.mem_cons_of_mem _ List.mem_cons_self)
        exact .inr ⟨path', text', rfl, there'⟩
    rw [perform, endStatus_performVerify_iff there given]
    constructor
    · exact .overlong rfl there
    · rintro (_ | ⟨⟨⟩, there', overlong⟩)
      exact there.unique there' ▸ overlong
  | oracle bundle function? width output? =>
    obtain ⟨text, there⟩ := readable bundle List.mem_cons_self
    rw [perform, endStatus_performOracle_iff there plain]
    constructor
    · rintro (overlong | ⟨d, parsed, f, asked, unwritable⟩)
      · exact .overlong rfl there overlong
      · exact .unwritable there parsed asked unwritable
    · rintro (⟨there', parsed, asked, unwritable⟩ | ⟨⟨⟩, there', overlong⟩)
      · obtain rfl := there.unique there'
        exact .inr ⟨_, parsed, _, asked, unwritable⟩
      · exact .inl (there.unique there' ▸ overlong)
  | passes withOrigin c => exact plain.elim
  | parse source format output? =>
    obtain ⟨text, there⟩ := readable source List.mem_cons_self
    refine iff_of_false (Yields.endStatus_ne (yields_performParse there format plain) rfl) ?_
    rintro (_ | ⟨⟨⟩, -, -⟩)
  | matching pattern source =>
    obtain ⟨text, there⟩ := readable source List.mem_cons_self
    refine iff_of_false (Yields.endStatus_ne (yields_performMatching there pattern) rfl) ?_
    rintro (_ | ⟨⟨⟩, -, -⟩)

/-- **The surroundings are blamed in three cases only.** Of the invocations that can read all they
read, those end with the status for infrastructure that print oracles of a function that has none,
load a bundle with an integer of too many digits in its text, or run passes while a file shadows the
built-in unit. In the first case the printer, run as a pass, ends with an error. -/
theorem status_infrastructure_iff (setting : Setting) (files : Files.Tree) (verbosity : Nat) :
    (∀ invocation : Invocation, invocation.Plain → invocation.Readable setting files →
      (((⟨verbosity, some invocation⟩ : Request).perform setting files).1 = .infrastructure ↔
        Excepted setting files invocation)) ∧
    (∀ bundle text d, TextAt setting files bundle text → Json.Lossless text →
      Ir.Document.parse text = .ok d →
      files.unitFile setting.workingDirectory Installed.nestedLoopRef = .absent →
      ∀ width : Int,
        ((⟨verbosity, some (.oracle bundle none width none)⟩ : Request).perform
          setting files).1 = .infrastructure ↔
        ((⟨verbosity, some (.run bundle ["print-cfg"] { discoverPlugins := false })⟩ :
          Request).perform setting files).1 = .error) := by
  constructor
  · intro invocation plain readable
    rw [(perform_eq setting files verbosity invocation).1]
    exact perform_infrastructure_iff plain readable.there
  · intro bundle text d there _ parsed absent width
    rw [(perform_eq setting files verbosity _).1, (perform_eq setting files verbosity _).1, perform,
      perform, endStatus_performOracle_iff there (.inl rfl) none width,
      endStatus_printer_iff there parsed absent, or_iff_right (not_overlong_of_parse parsed),
      parsed]
    simp [selected]

/-! ## A block with a name of two words -/

/-- A bundle with one block, whose name no atom has, and an edge from it to itself. -/
def twoWords : String :=
  "\x7b\"functions\":[\x7b\"name\":\"g\",\"blocks\":" ++
    "[\x7b\"name\":\"a b\",\"successors\":[\"a b\"]\x7d]\x7d]\x7d"

/-- What the bundle is read as. -/
def twoWordsDocument : Ir.Document :=
  { functions := [{ name := "g", blocks := [{ name := "a b", successors := ["a b"] }] }] }

theorem textAt_twoWords :
    TextAt { workingDirectory := [] } (fileWith twoWords).files "f" twoWords := by
  refine ⟨["f"], Text.encodeUtf8 twoWords, ?_, ?_, ?_, ?_⟩
  · cbv
  · cbv
  · cbv
  · decide +kernel

set_option maxRecDepth 8000 in
theorem parse_twoWords : Ir.Document.parse twoWords = .ok twoWordsDocument := by cbv

theorem lossless_twoWords : Json.Lossless twoWords := Json.lossless_of_not_mem (by decide)

theorem unitFile_twoWords :
    (fileWith twoWords).files.unitFile [] Installed.nestedLoopRef = .absent := by
  have missing : (fileWith twoWords).files.follow [] [Installed.nestedLoopRef] =
      .error .missing := rfl
  exact Files.Tree.unitFile_nestedLoop_of_error missing

theorem exists_not_writable_twoWords :
    ∃ f ∈ (twoWordsDocument.build 1).1.functions, ¬ Oracle.Writable f := by
  have edges : (twoWordsDocument.build 1).1.functions.map Oracle.namedEdges =
      [[("a b", "a b")]] := by cbv
  obtain ⟨f, fs, split, edges, -⟩ := List.map_eq_cons_iff.1 edges
  refine ⟨f, split ▸ List.mem_cons_self, fun writable ↦ ?_⟩
  have edge : ("a b", "a b") ∈ Oracle.namedEdges f := by
    rw [edges]
    exact List.mem_cons_self
  exact absurd (writable "a b" "a b" (Oracle.mem_namedEdges_iff.1 edge)).1 (by decide)

/-- Verifying the bundle does not blame its surroundings, and what the two ways of printing it come
to goes together. -/
theorem status_twoWords :
    let setting : Setting := { workingDirectory := [] }
    let files := (fileWith twoWords).files
    let verify : Invocation := .verify "f" none (some "(trans)") none none
    let status (invocation : Invocation) :=
      ((⟨0, some invocation⟩ : Request).perform setting files).1
    TextAt setting files "f" twoWords ∧ Json.Lossless twoWords ∧
      Ir.Document.parse twoWords = .ok twoWordsDocument ∧
      files.unitFile [] Installed.nestedLoopRef = .absent ∧
      verify.Plain ∧ verify.Readable setting files ∧ status verify ≠ .infrastructure ∧
      (status (.oracle "f" none 72 none) = .infrastructure ↔
        status (.run "f" ["print-cfg"] { discoverPlugins := false }) = .error) := by
  intro setting files verify status
  have readable : verify.Readable setting files := by
    constructor
    case there =>
      show ∀ path ∈ ["f"], ∃ text, TextAt setting files path text
      rw [List.forall_mem_singleton]
      exact ⟨twoWords, textAt_twoWords⟩
    case lossless =>
      rintro path text ⟨⟩ there
      rw [there.unique textAt_twoWords]
      exact lossless_twoWords
  obtain ⟨blames, together⟩ := status_infrastructure_iff setting files 0
  have unblamed : status verify ≠ .infrastructure := by
    intro blamed
    have excepted : Excepted setting files (.verify "f" none (some "(trans)") none none) :=
      (blames verify (.inl rfl) readable).1 blamed
    obtain _ | ⟨⟨⟩, there, overlong⟩ := excepted
    exact not_overlong_of_parse parse_twoWords (there.unique textAt_twoWords ▸ overlong)
  refine ⟨textAt_twoWords, lossless_twoWords, parse_twoWords, unitFile_twoWords, .inl rfl, readable,
    unblamed, ?_⟩
  exact together "f" twoWords twoWordsDocument textAt_twoWords lossless_twoWords parse_twoWords
    unitFile_twoWords 72

/-- The file is there and is a bundle, and printing its oracles blames the surroundings; running the
printer over it is an error. -/
theorem oracle_twoWords_blames :
    let setting : Setting := { workingDirectory := [] }
    let files := (fileWith twoWords).files
    let status (invocation : Invocation) :=
      ((⟨0, some invocation⟩ : Request).perform setting files).1
    TextAt setting files "f" twoWords ∧ Ir.Document.parse twoWords = .ok twoWordsDocument ∧
      (Invocation.oracle "f" none 72 none).Plain ∧
      status (.oracle "f" none 72 none) = .infrastructure ∧
      status (.run "f" ["print-cfg"] { discoverPlugins := false }) = .error := by
  intro setting files status
  refine ⟨textAt_twoWords, parse_twoWords, .inl rfl, ?_, ?_⟩
  · show ((⟨0, some _⟩ : Request).perform setting files).1 = .infrastructure
    rw [(perform_eq setting files 0 _).1]
    exact (endStatus_performOracle_iff textAt_twoWords (.inl rfl) none 72).2
      (.inr ⟨twoWordsDocument, parse_twoWords, exists_not_writable_twoWords⟩)
  · show ((⟨0, some _⟩ : Request).perform setting files).1 = .error
    rw [(perform_eq setting files 0 _).1]
    exact (endStatus_printer_iff textAt_twoWords parse_twoWords unitFile_twoWords).2
      exists_not_writable_twoWords

end Flowcheck.Command
