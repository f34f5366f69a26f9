import TokenScopes.Command.Run
import TokenScopes.Proofs.Checker.Echo
import TokenScopes.Proofs.Checker.Isolation
import TokenScopes.Proofs.Command.Arguments
import TokenScopes.Proofs.Command.Printing

namespace TokenScopes

namespace CheckCommand

def hush (c : CheckCommand) : CheckCommand :=
  { c with quiet := true }

/-- The lines that a result is shown with. -/
def shown (c : CheckCommand) (r : CaseResult) : List Text :=
  if c.quiet then [] else r.diagnostics.flatMap Diagnostic.render ++ [resultLine r]

def shownOn (c : CheckCommand) (events : List RunEvent) : List Text :=
  (RunSummary.ofEvents events).results.flatMap c.shown

section Files

variable (c : CheckCommand) (files : FileSystem) (config : Config)

theorem shownOn_append (events later : List RunEvent) :
    c.shownOn (events ++ later) = c.shownOn events ++ c.shownOn later := by
  simp [shownOn, RunSummary.ofEvents]

theorem shownOn_hush (events : List RunEvent) : c.hush.shownOn events = [] := by
  simp [shownOn, shown, hush]

/-- What is printed on events is what is shown of their results. -/
theorem flatMap_eventLines {events : List RunEvent} (echo : ∀ e ∈ events, e.Echoes) :
    (events.map (RunEvent.heard !c.quiet)).flatMap (eventLines c.quiet) = c.shownOn events := by
  induction events with
  | nil => rfl
  | cons e events ih =>
    obtain ⟨here, later⟩ := List.forall_mem_cons.mp echo
    rw [List.map_cons, List.flatMap_cons, ih later]
    cases e with
    | checked r lines =>
      have echoed : lines = r.diagnostics.flatMap Diagnostic.render := here
      have first :
          eventLines c.quiet (RunEvent.heard (!c.quiet) (.checked r lines)) = c.shown r := by
        rw [echoed, RunEvent.heard, eventLines, shown]
        cases c.quiet <;> rfl
      rw [first]
      rfl
    | unreadable m => rfl

/-- How a check goes through files, beside the run over them. -/
inductive Course (ps : List Path) : Except CommandFault (List RunEvent × String) → Prop
  | fault {f : Fixture.ScalarFault} (run : Run.checkFiles files config true ps = .error f) :
    Course ps (.error (.scalar f))
  | through {events : List RunEvent} {text : String}
    (run : Run.checkFiles files config true ps = .ok events)
    (printed : printedLines (c.shownOn events) = .ok text) :
    Course ps (.ok (events.map (RunEvent.heard !c.quiet), text))
  /-- The lines on the files that were seen so far cannot be printed. -/
  | stuck {seen : List Path} {events : List RunEvent} {f : Text.EncodeFault} (initial : seen <+: ps)
    (run : Run.checkFiles files config true seen = .ok events)
    (printed : printedLines (c.shownOn events) = .error f) : Course ps (.error (.printing f))

variable {c files config} in
/-- The lines on one file more can be printed. -/
theorem Course.cons {p : Path} {ps : List Path} {here : List RunEvent} {text : String}
    {rest : Except CommandFault (List RunEvent × String)}
    (first : Run.checkFile files config true p = .ok here)
    (printed : printedLines (c.shownOn here) = .ok text) (later : Course c files config ps rest) :
    Course c files config (p :: ps) (rest.map fun went =>
      (here.map (RunEvent.heard !c.quiet) ++ went.1, text ++ went.2)) := by
  have both (events : List RunEvent) : printedLines (c.shownOn (here ++ events)) =
      (printedLines (c.shownOn events)).map (text ++ ·) := by
    rw [shownOn_append, printedLines_append, printed]
    rfl
  cases later with
  | fault run =>
    refine .fault ?_
    rw [Run.checkFiles, first, run]
    rfl
  | @through events more run lines =>
    have whole : printedLines (c.shownOn (here ++ events)) = .ok (text ++ more) := by
      rw [both, lines]
      rfl
    have went := Course.through (Run.checkFiles_cons files config true p ps first run) whole
    rw [List.map_append] at went
    exact went
  | @stuck seen events f initial run lines =>
    have stops : printedLines (c.shownOn (here ++ events)) = .error f := by
      rw [both, lines]
      rfl
    have further : p :: seen <+: p :: ps := List.cons_prefix_cons.mpr ⟨rfl, initial⟩
    exact .stuck further (Run.checkFiles_cons files config true p seen first run) stops

/-- A check goes through the files as the run over them does, unless printing ends it. -/
theorem checkFiles_course (ps : List Path) :
    Course c files config ps (c.checkFiles files config ps) := by
  induction ps with
  | nil =>
    have printed : printedLines (c.shownOn []) = .ok "" := rfl
    exact .through rfl printed
  | cons p ps ih =>
    have echo := Run.checkFile_echo files config p
    rw [checkFiles, Run.checkFile_heard]
    cases first : Run.checkFile files config true p with
    | error f =>
      refine .fault ?_
      rw [Run.checkFiles, first]
      rfl
    | ok here =>
      rw [first] at echo
      simp only [Except.map, Except.mapError, bind, Except.bind, c.flatMap_eventLines echo]
      cases printed : printedLines (c.shownOn here) with
      | error f =>
        have alone := Run.checkFiles_cons files config true p [] first rfl
        rw [List.append_nil] at alone
        exact .stuck (List.prefix_append [p] ps) alone printed
      | ok text =>
        have went := ih.cons first printed
        generalize c.checkFiles files config ps = rest at went
        cases rest <;> exact went

/-- A quiet check prints nothing on its way. -/
theorem checkFiles_hush (ps : List Path) : c.hush.checkFiles files config ps =
    ((Run.checkFiles files config true ps).mapError .scalar).map fun events =>
      (events.map (RunEvent.heard false), "") := by
  have course := c.hush.checkFiles_course files config ps
  generalize c.hush.checkFiles files config ps = went at course
  cases course with
  | fault run =>
    rw [run]
    rfl
  | through run printed =>
    rw [shownOn_hush] at printed
    cases printed
    rw [run]
    rfl
  | stuck initial run printed =>
    rw [shownOn_hush] at printed
    cases printed

end Files

/-- The lines that a check shows on the files it has seen. -/
inductive Shows (c : CheckCommand) (around : Surroundings) (seen : List Path) : List Text → Prop
  | results {config : Config} {events : List RunEvent} (read : c.config around = .ok config)
    (run : Run.checkFiles around.files config true seen = .ok events) :
    Shows c around seen (c.shownOn events)

/-- How a check ends with and without the lines on its results. It comes to the same fault, or to
the same exit code, errors and files, and the lines stand in front of the other output. Only lines
that cannot be printed set the two apart: they end the check before its summary, and the other one
goes on. -/
inductive SameEnd (c : CheckCommand) (around : Surroundings) :
    (loud quiet : Except CommandFault Outcome) → Prop
  | fault (f : CommandFault) : SameEnd c around (.error f) (.error f)
  | done {loud quiet : Outcome} {lines : List Text} {text : String}
    (shows : c.Shows around (Fixture.discover around.files c.paths) lines)
    (printed : printedLines lines = .ok text)
    (exitCode : quiet.exitCode = loud.exitCode) (errors : quiet.errors = loud.errors)
    (files : quiet.files = loud.files) (output : loud.output = text ++ quiet.output) :
    SameEnd c around (.ok loud) (.ok quiet)
  | stuck {quiet : Except CommandFault Outcome} {seen : List Path} {lines : List Text}
    {f : Text.EncodeFault} (initial : seen <+: Fixture.discover around.files c.paths)
    (shows : c.Shows around seen lines) (printed : printedLines lines = .error f)
    (quietly : ∀ g, quiet ≠ .error (.printing g)) :
    SameEnd c around (.error (.printing f)) quiet

section Ends

variable (c : CheckCommand) (around : Surroundings)

def conclude (summary : RunSummary) (printed : String) : Except CommandFault Outcome := do
  let (report, files) ← match c.report with
    | none => pure ("", around.files)
    | some target => (deliver around.files target (reportText summary)).mapError .target
  return {
    exitCode := summary.exitCode
    output := printed ++ escaped (summaryLine summary ++ "\n") ++ report
    errors := escapedLines summary.loadErrors
    files }

theorem run_eq : c.run around = (c.config around).bind fun config =>
    (c.checkFiles around.files config (Fixture.discover around.files c.paths)).bind fun went =>
      c.conclude around (.ofEvents went.1) went.2 := rfl

/-- After the last file nothing is printed that could have a half. -/
theorem conclude_ne_printing (summary : RunSummary) (text : String) (f : Text.EncodeFault) :
    c.conclude around summary text ≠ .error (.printing f) := by
  intro same
  rw [conclude] at same
  cases report : c.report with
  | none =>
    rw [report] at same
    cases same
  | some target =>
    rw [report] at same
    dsimp only at same
    cases delivered : deliver around.files target (reportText summary) with
    | error fault =>
      rw [delivered] at same
      cases same
    | ok file =>
      rw [delivered] at same
      cases same

variable {c around}

theorem conclude_hush {lines : List Text} {text : String}
    (shows : c.Shows around (Fixture.discover around.files c.paths) lines)
    (printed : printedLines lines = .ok text) (summary : RunSummary) :
    SameEnd c around (c.conclude around summary text) (c.hush.conclude around summary "") := by
  have output (summarized report : String) :
      text ++ summarized ++ report = text ++ ("" ++ summarized ++ report) := by
    rw [String.empty_append, String.append_assoc]
  have report : c.hush.report = c.report := rfl
  rw [conclude, conclude, report]
  cases c.report with
  | none => exact .done shows printed rfl rfl rfl (output ..)
  | some target =>
    dsimp only
    cases deliver around.files target (reportText summary) with
    | error f => exact .fault _
    | ok written => exact .done shows printed rfl rfl rfl (output ..)

end Ends

theorem run_hush (c : CheckCommand) (around : Surroundings) :
    SameEnd c around (c.run around) (c.hush.run around) := by
  have config : c.hush.config around = c.config around := rfl
  have paths : c.hush.paths = c.paths := rfl
  rw [run_eq, run_eq, config, paths]
  cases read : c.config around with
  | error f => exact .fault f
  | ok config =>
    have course := c.checkFiles_course around.files config (Fixture.discover around.files c.paths)
    simp only [Except.bind, checkFiles_hush]
    generalize c.checkFiles around.files config (Fixture.discover around.files c.paths) = went
      at course
    cases course with
    | fault run =>
      rw [run]
      exact .fault _
    | through run printed =>
      rw [run]
      simp only [Except.mapError, Except.map, RunSummary.ofEvents_heard]
      exact conclude_hush (.results read run) printed _
    | stuck initial run printed =>
      refine .stuck initial (.results read run) printed fun f => ?_
      cases Run.checkFiles around.files config true (Fixture.discover around.files c.paths) with
      | error g =>
        intro same
        cases same
      | ok events => exact c.hush.conclude_ne_printing around _ _ f

theorem add_hush (c : CheckCommand) (a : Argument CheckOption) :
    c.hush.add a = (c.add a).hush := by
  cases a with
  | plain s => rfl
  | flag option => cases option <;> rfl
  | value option s => cases option <;> rfl

theorem foldl_add_hush (c : CheckCommand) (given : List (Argument CheckOption)) :
    given.foldl add c.hush = (given.foldl add c).hush := by
  induction given generalizing c with
  | nil => rfl
  | cons a rest ih => rw [List.foldl_cons, add_hush, ih, List.foldl_cons]

theorem readAll_quiet (rest : List String) :
    Argument.readAll options ("--quiet" :: rest) = do
      return .flag .quiet :: (← Argument.readAll options rest) := by
  have found : Argument.findOption options "--quiet" =
      .ok ({ long := "--quiet", takesValue := false, meaning := .quiet }, none) := rfl
  have named : Argument.isOption "--quiet" = true := rfl
  simp [Argument.readAll, named, found]

/-- A command without a path asks for nothing. -/
def settle (c : CheckCommand) : Except UsageFault CheckCommand :=
  if c.paths.isEmpty then .error .missingArgument else .ok c

theorem ofArguments_eq (args : List String) :
    ofArguments args = (Argument.readAll options args).bind fun given =>
      settle (given.foldl add {}) := by
  rw [ofArguments]
  cases Argument.readAll options args with
  | error f => rfl
  | ok given =>
    simp only [bind, Except.bind, settle]
    split_ifs <;> rfl

/-- Hushed or not, a command has the same paths. -/
theorem settle_hush (c : CheckCommand) : settle c.hush = (settle c).map hush := by
  have paths : c.hush.paths = c.paths := rfl
  rw [settle, settle, paths]
  split_ifs <;> rfl

/-- The option says nothing else, wherever it stands. -/
theorem ofArguments_quiet {before : List String}
    (apart : Argument.takesOption options before = true) (after : List String) :
    ofArguments (before ++ "--quiet" :: after) = (ofArguments (before ++ after)).map hush := by
  have settled (given more : List (Argument CheckOption)) :
      settle ((given ++ .flag .quiet :: more).foldl add {}) =
        (settle ((given ++ more).foldl add {})).map hush := by
    rw [← settle_hush, List.foldl_append, List.foldl_cons, List.foldl_append]
    exact congrArg settle (foldl_add_hush _ more)
  rw [ofArguments_eq, ofArguments_eq, Argument.readAll_append options apart,
    Argument.readAll_append options apart, readAll_quiet]
  cases Argument.readAll options before with
  | error f => rfl
  | ok given =>
    cases Argument.readAll options after with
    | error f => rfl
    | ok more => exact settled given more

end CheckCommand

namespace Command

/-- What a command line comes to: a fault in its wording, a fault on the way, or an outcome. -/
def outcome (around : Surroundings) (args : List String) :
    Except UsageFault (Except CommandFault Outcome) :=
  (ofArguments args).map fun command => command.run around

theorem outcome_check (around : Surroundings) (args : List String) :
    outcome around ("check" :: args) =
      (CheckCommand.ofArguments args).map fun c => c.run around := by
  have named : ofArguments ("check" :: args) = (CheckCommand.ofArguments args).map .check := rfl
  rw [outcome, named]
  cases CheckCommand.ofArguments args <;> rfl

/-- How a command line of a check ends with and without the lines on results: in the same fault in
its wording, or as the command does. -/
inductive SameEnd (around : Surroundings) (args : List String) :
    (loud quiet : Except UsageFault (Except CommandFault Outcome)) → Prop
  | usage (f : UsageFault) : SameEnd around args (.error f) (.error f)
  | command {c : CheckCommand} {loud quiet : Except CommandFault Outcome}
    (asked : CheckCommand.ofArguments args = .ok c)
    (same : CheckCommand.SameEnd c around loud quiet) : SameEnd around args (.ok loud) (.ok quiet)

/-- What is echoed of a case is what the diagnostics of its result render to, and the result is the
same if nobody listens. So a check with the quiet option, wherever it is put into the command line,
ends as the one without: only lines on results are missing in front of its output. This is so as
long as these lines can be printed, which a half of a surrogate pair in one of them prevents. -/
theorem printing_keeps_verdict (around : Surroundings) (before after : List String)
    (apart : Argument.takesOption CheckCommand.options before = true) :
    (∀ (c : Case) (config : Config),
      (∃ f, ∀ echoes, c.check config echoes = .error f) ∨
        ∃ r : CaseResult,
          c.check config true = .ok (r, r.diagnostics.flatMap Diagnostic.render) ∧
            c.check config false = .ok (r, [])) ∧
      SameEnd around (before ++ after) (outcome around ("check" :: (before ++ after)))
        (outcome around ("check" :: (before ++ "--quiet" :: after))) ∧
      ∀ lines : List Text, (∃ f, printedLines lines = .error f) ↔
        ∃ s ∈ lines, ∃ half, .half half ∈ s.toList := by
  refine ⟨?_, ?_, printedLines_fails_iff⟩
  · intro c config
    obtain ⟨f, faulty⟩ | ⟨r, checked⟩ := c.check_echo config
    · exact .inl ⟨f, faulty⟩
    · exact .inr ⟨r, checked true, checked false⟩
  · rw [outcome_check, outcome_check, CheckCommand.ofArguments_quiet apart]
    cases asked : CheckCommand.ofArguments (before ++ after) with
    | error f => exact .usage f
    | ok c => exact .command asked (c.run_hush around)

/-- A case with one token, for which an expectation stands. -/
def oneTokenFile (expected : String) : FileSystem where
  top :=
    let token := "\x7b\"start\": 0, \"end\": 1\x7d"
    let text := "\x7b\"lines\": [\x7b\"text\": \"a\", \"tokens\": [" ++ token ++
      "]\x7d], \"spec\": [" ++ expected ++ "]\x7d"
    .directory [("a.json", .file (text.toList.map fun c => UInt8.ofNat c.toNat))]

def exitCode? : Except UsageFault (Except CommandFault Outcome) → Option Nat
  | .ok (.ok o) => some o.exitCode
  | _ => none

def printingFault? : Except UsageFault (Except CommandFault Outcome) → Option Text.EncodeFault
  | .ok (.error (.printing f)) => some f
  | _ => none

/-- The check fails, and its report is the same with the option behind that of the report. -/
theorem overlongFile_keeps_verdict :
    Argument.takesOption CheckCommand.options ["--report", "r.json"] = true ∧
      exitCode? (outcome ⟨oneTokenFile "", [], none⟩ ["check", "--report", "r.json", "a.json"]) =
        some 1 ∧
      SameEnd ⟨oneTokenFile "", [], none⟩ ["--report", "r.json", "a.json"]
        (outcome ⟨oneTokenFile "", [], none⟩ ["check", "--report", "r.json", "a.json"])
        (outcome ⟨oneTokenFile "", [], none⟩
          ["check", "--report", "r.json", "--quiet", "a.json"]) := by
  have apart : Argument.takesOption CheckCommand.options ["--report", "r.json"] = true := by
    decide +kernel
  exact ⟨apart, by decide +kernel,
    (printing_keeps_verdict ⟨oneTokenFile "", [], none⟩ ["--report", "r.json"] ["a.json"]
      apart).2.1⟩

/-- Half of a surrogate pair is expected, so the line on the mismatch cannot be printed. The quiet
check has a verdict. -/
theorem loneHalf_breaks_off :
    printingFault? (outcome ⟨oneTokenFile "\x7b\"source\": \"\\ud800\"\x7d", [], none⟩
      ["check", "a.json"]) = some ⟨0, 55, 1⟩ ∧
      exitCode? (outcome ⟨oneTokenFile "\x7b\"source\": \"\\ud800\"\x7d", [], none⟩
        ["check", "--quiet", "a.json"]) = some 1 := by
  constructor
  · decide +kernel
  · decide +kernel

end Command

end TokenScopes
