import Mathlib.Data.List.Forall2
import Mathlib.Order.Basic
import TokenScopes.Checker.Run
import TokenScopes.Proofs.Checker.Recording
import TokenScopes.Proofs.Fixture.Discovery

namespace TokenScopes

/-- What a run says to its caller while it goes on. -/
inductive RunCall where
  | echo (line : Text)
  | announce (result : CaseResult)

namespace RunEvent

def calls : RunEvent → List RunCall
  | .checked result lines => lines.map .echo ++ [.announce result]
  | .unreadable _ => []

/-- The exit code of a run that consists of the event. -/
def severity : RunEvent → Nat
  | .checked result _ => if result.passed then 0 else 1
  | .unreadable _ => 2

end RunEvent

namespace RunSummary

theorem failedCount_cons (r : CaseResult) (rs : List CaseResult) (errors : List Text) :
    failedCount ⟨r :: rs, errors⟩ = failedCount ⟨rs, errors⟩ + if r.passed then 0 else 1 := by
  have bound : rs.countP (·.passed) ≤ rs.length := List.countP_le_length
  simp only [failedCount, passedCount, List.length_cons, List.countP_cons]
  split_ifs <;> omega

theorem exitCode_le_two (s : RunSummary) : s.exitCode ≤ 2 := by
  rw [exitCode]
  split_ifs <;> omega

variable (e : RunEvent) (events : List RunEvent)

/-- The worst event decides. -/
theorem exitCode_cons :
    (ofEvents (e :: events)).exitCode = max e.severity (ofEvents events).exitCode := by
  cases e with
  | unreadable message =>
    have worst : (ofEvents (.unreadable message :: events)).exitCode = 2 := rfl
    rw [worst, RunEvent.severity, Nat.max_eq_left (exitCode_le_two _)]
  | checked r lines =>
    have split : ofEvents (.checked r lines :: events) =
        ⟨r :: (ofEvents events).results, (ofEvents events).loadErrors⟩ := rfl
    rw [split]
    generalize ofEvents events = rest
    obtain ⟨results, errors⟩ := rest
    have failed := failedCount_cons r results errors
    simp only [exitCode, RunEvent.severity, failed]
    cases errors.isEmpty <;> by_cases passed : r.passed = true <;>
      by_cases none : failedCount ⟨results, errors⟩ = 0 <;> simp [passed, none]

/-- A run is as bad as the worst that happens in it. -/
theorem exitCode_le_iff (n : Nat) :
    (ofEvents events).exitCode ≤ n ↔ ∀ e ∈ events, e.severity ≤ n := by
  induction events with
  | nil => simp [ofEvents, exitCode, failedCount, passedCount]
  | cons e events ih => rw [exitCode_cons, Nat.max_le, ih, List.forall_mem_cons]

end RunSummary

namespace Run

variable (fs : FileSystem) (config : Config) (echoes : Bool)

/-- What a case of a loaded file contributes: a result that is announced after what was echoed, or
a load error and no call. -/
inductive CaseRun (p : Path) (c : Case) (e : RunEvent) : Prop
  | checked {r : CaseResult} {lines : List Text}
    (verdict : c.check config echoes = .ok (r, lines)) (result : e.result? = some r)
    (clean : e.loadError? = none) (calls : e.calls = lines.map .echo ++ [.announce r])
  | malformed {f : SpecFault} (spec : Spec.spans c.spec = .error f) (result : e.result? = none)
    (error : e.loadError? = some (p.toText ++ ": " ++ c.name ++ ": " ++ f.message))
    (silent : e.calls = [])

/-- What a file contributes: one load error, or one event for each of its cases. -/
inductive FileRun (p : Path) (part : List RunEvent) : Prop
  | refused {f : Fixture.LoadFault} (load : Fixture.load fs p = .error (.load f))
    (results : (RunSummary.ofEvents part).results = [])
    (error : (RunSummary.ofEvents part).loadErrors = [f.message])
    (silent : part.flatMap RunEvent.calls = [])
  | loaded {cases : List Case} (load : Fixture.load fs p = .ok cases)
    (each : List.Forall₂ (CaseRun config echoes p) cases part)

theorem checkCase_run (p : Path) (c : Case) :
    CaseRun config echoes p c (checkCase config echoes p c) := by
  cases verdict : c.check config echoes with
  | ok outcome =>
    obtain ⟨r, lines⟩ := outcome
    have event : checkCase config echoes p c = .checked r lines := by rw [checkCase, verdict]
    rw [event]
    exact .checked verdict rfl rfl rfl
  | error f =>
    have spec : Spec.spans c.spec = .error f := by
      rw [Case.check_eq] at verdict
      cases spans : Spec.spans c.spec with
      | ok ss => simp [spans, Except.map] at verdict
      | error g =>
        rw [spans] at verdict
        cases verdict
        rfl
    have event : checkCase config echoes p c =
        .unreadable (p.toText ++ ": " ++ c.name ++ ": " ++ f.message) := by
      rw [checkCase, verdict]
    rw [event]
    exact .malformed spec rfl rfl rfl

variable {fs} in
/-- A file that can be loaded contributes its own events only. -/
theorem checkFile_run {p : Path} (loadable : ∀ f, Fixture.load fs p ≠ .error (.scalar f)) :
    ∃ part, checkFile fs config echoes p = .ok part ∧ FileRun fs config echoes p part := by
  cases load : Fixture.load fs p with
  | ok cases =>
    refine ⟨cases.map (checkCase config echoes p), by rw [checkFile, load], .loaded load ?_⟩
    rw [List.forall₂_map_right_iff]
    exact List.forall₂_same.mpr fun c _ => checkCase_run config echoes p c
  | error fault =>
    cases fault with
    | load f =>
      refine ⟨[.unreadable f.message], by rw [checkFile, load], ?_⟩
      exact .refused load rfl rfl rfl
    | scalar f => exact absurd load (loadable f)

/-- A file ends a run exactly if loading it meets more than a load fault. -/
theorem isOk_checkFile (p : Path) : (checkFile fs config echoes p).isOk = true ↔
    ∀ f, Fixture.load fs p ≠ .error (.scalar f) := by
  rw [checkFile]
  cases Fixture.load fs p with
  | ok cases => simp [Except.isOk, Except.toBool]
  | error fault => cases fault <;> simp [Except.isOk, Except.toBool]

theorem checkFiles_cons (p : Path) (ps : List Path) {part rest : List RunEvent}
    (here : checkFile fs config echoes p = .ok part)
    (later : checkFiles fs config echoes ps = .ok rest) :
    checkFiles fs config echoes (p :: ps) = .ok (part ++ rest) := by
  rw [checkFiles, here, later]
  rfl

/-- A run over files is the runs over each of them, one after the other. -/
theorem checkFiles_parts {ps : List Path}
    (loadable : ∀ p ∈ ps, ∀ f, Fixture.load fs p ≠ .error (.scalar f)) :
    ∃ parts, checkFiles fs config echoes ps = .ok parts.flatten ∧
      List.Forall₂ (fun p part => checkFile fs config echoes p = .ok part ∧
        FileRun fs config echoes p part) ps parts := by
  induction ps with
  | nil => exact ⟨[], rfl, .nil⟩
  | cons p ps ih =>
    obtain ⟨part, here, run⟩ := checkFile_run config echoes (loadable p (List.mem_cons_self ..))
    obtain ⟨parts, later, runs⟩ := ih fun q member => loadable q (List.mem_cons_of_mem p member)
    exact ⟨part :: parts, checkFiles_cons fs config echoes p ps here later, .cons ⟨here, run⟩ runs⟩

/-- The events of a run are those of its files. -/
theorem mem_checkFiles {ps : List Path} {events : List RunEvent}
    (run : checkFiles fs config echoes ps = .ok events) (e : RunEvent) :
    e ∈ events ↔ ∃ p ∈ ps, ∃ part, checkFile fs config echoes p = .ok part ∧ e ∈ part := by
  induction ps generalizing events with
  | nil =>
    cases run
    simp
  | cons p ps ih =>
    cases here : checkFile fs config echoes p with
    | error f => simp [checkFiles, here, bind, Except.bind] at run
    | ok part =>
      cases later : checkFiles fs config echoes ps with
      | error f => simp [checkFiles, here, later, bind, Except.bind] at run
      | ok rest =>
        rw [checkFiles_cons fs config echoes p ps here later] at run
        cases run
        simp [ih later, here]

theorem checkPaths_file {p : Path} (file : fs.isDirectory p = false) :
    checkPaths fs config echoes [p] = checkFile fs config echoes p := by
  rw [checkPaths, Fixture.discover_file file]
  cases here : checkFile fs config echoes p with
  | error f => simp [checkFiles, here, bind, Except.bind]
  | ok part =>
    rw [checkFiles_cons fs config echoes p [] here rfl, List.append_nil]

/-- The exit code of a run bounds what happens at each discovered file, and no more. -/
theorem exitCode_le_iff_discovered {ps : List Path} {events : List RunEvent}
    (run : checkPaths fs config echoes ps = .ok events) (n : Nat) :
    (RunSummary.ofEvents events).exitCode ≤ n ↔
      ∀ p ∈ Fixture.discover fs ps, ∀ part, checkFile fs config echoes p = .ok part →
        ∀ e ∈ part, e.severity ≤ n := by
  rw [RunSummary.exitCode_le_iff]
  simp only [mem_checkFiles fs config echoes run]
  constructor
  · intro bounded p member part here e found
    exact bounded e ⟨p, member, part, here, found⟩
  · rintro bounded e ⟨p, member, part, here, found⟩
    exact bounded p member part here e found

/-- The exit code for paths together is the greater of those for some and for the others. -/
theorem exitCode_append {ps qs : List Path} {events later both : List RunEvent}
    (first : checkPaths fs config echoes ps = .ok events)
    (second : checkPaths fs config echoes qs = .ok later)
    (joined : checkPaths fs config echoes (ps ++ qs) = .ok both) :
    (RunSummary.ofEvents both).exitCode =
      max (RunSummary.ofEvents events).exitCode (RunSummary.ofEvents later).exitCode := by
  apply eq_of_forall_ge_iff
  intro n
  rw [Nat.max_le, exitCode_le_iff_discovered fs config echoes first,
    exitCode_le_iff_discovered fs config echoes second,
    exitCode_le_iff_discovered fs config echoes joined]
  simp only [Fixture.mem_discover_append, or_imp, forall_and]

/-- A run gives what its files give alone, in their order, and each file gives what it holds; and of
two runs the worse one decides the exit code of both together. -/
theorem checkPaths_isolated (tree : fs.top.WellFormed) :
    (∀ ps, Fixture.Loadable fs ps → ∃ events parts,
      checkPaths fs config echoes ps = .ok events ∧
      List.Forall₂ (fun p part => checkPaths fs config echoes [p] = .ok part ∧
        FileRun fs config echoes p part) (Fixture.discover fs ps) parts ∧
      (RunSummary.ofEvents events).results =
        parts.flatMap (fun part => (RunSummary.ofEvents part).results) ∧
      (RunSummary.ofEvents events).loadErrors =
        parts.flatMap (fun part => (RunSummary.ofEvents part).loadErrors) ∧
      events.flatMap RunEvent.echoed = parts.flatMap (fun part => part.flatMap RunEvent.echoed) ∧
      events.flatMap RunEvent.calls = parts.flatMap (fun part => part.flatMap RunEvent.calls)) ∧
    ∀ ps qs, Fixture.Loadable fs ps → Fixture.Loadable fs qs → ∃ es es' both,
      checkPaths fs config echoes ps = .ok es ∧ checkPaths fs config echoes qs = .ok es' ∧
      checkPaths fs config echoes (ps ++ qs) = .ok both ∧
      (RunSummary.ofEvents both).exitCode =
        max (RunSummary.ofEvents es).exitCode (RunSummary.ofEvents es').exitCode := by
  constructor
  · intro ps loadable
    obtain ⟨parts, run, runs⟩ := checkFiles_parts fs config echoes loadable
    have files := (List.forall₂_and_left _ _).mpr
      ⟨fun p member => Fixture.not_isDirectory_of_discovered tree member, runs⟩
    refine ⟨parts.flatten, parts, run, files.imp ?_, ?_, ?_, ?_, ?_⟩
    · rintro p part ⟨file, here, contributes⟩
      exact ⟨(checkPaths_file fs config echoes file).trans here, contributes⟩
    · simp [RunSummary.ofEvents, List.filterMap_flatten, List.flatMap_def]
    · simp [RunSummary.ofEvents, List.filterMap_flatten, List.flatMap_def]
    · rw [← List.flatMap_id, List.flatMap_assoc]
      rfl
    · rw [← List.flatMap_id, List.flatMap_assoc]
      rfl
  · intro ps qs here there
    obtain ⟨parts, first, -⟩ := checkFiles_parts fs config echoes here
    obtain ⟨parts', second, -⟩ := checkFiles_parts fs config echoes there
    obtain ⟨both, joined, -⟩ := checkFiles_parts fs config echoes (here.append there)
    exact ⟨_, _, _, first, second, joined, exitCode_append fs config echoes first second joined⟩

def twoCases : FileNode :=
  let text := "[\x7b\"lines\": [], \"spec\": []\x7d, \x7b\"lines\": [], \"spec\": [\x7b\x7d]\x7d]"
  .file (text.toList.map fun c => UInt8.ofNat c.toNat)

def mixedFiles : FileSystem where
  top := .directory [("a.json", .file [123]), ("d", .directory [("b.json", twoCases)])]

theorem mixedFiles_wellFormed : mixedFiles.top.WellFormed := by
  apply FileNode.WellFormed.directory (by decide) (by decide)
  simp only [List.mem_cons, List.not_mem_nil, or_false, forall_eq_or_imp, forall_eq]
  refine ⟨.file _, .directory (by decide) (by decide) ?_⟩
  simp only [List.mem_cons, List.not_mem_nil, or_false, forall_eq]
  exact .file _

theorem mixedFiles_filesUnder :
    mixedFiles.filesUnder (Path.of "d") = [Path.of "d/b.json"] := by
  have found : mixedFiles.find (Path.of "d") = .ok (.directory [("b.json", twoCases)]) := by
    rfl
  have listed : FileNode.filesOfChildren (Path.of "d") [("b.json", twoCases)] =
      [Path.of "d/b.json"] := by decide +kernel
  rw [FileSystem.filesUnder, found]
  simp only [listed, List.mergeSort_singleton]

theorem mixedFiles_loadable {ps : List Path}
    (known : ∀ p ∈ ps, p ∈ [Path.of "a.json", Path.of "d", Path.of "d/b.json"]) :
    Fixture.Loadable mixedFiles ps := by
  have expanded : ∀ q ∈ [Path.of "a.json", Path.of "d", Path.of "d/b.json"],
      ∀ p ∈ Fixture.expand mixedFiles q, p ∈ [Path.of "a.json", Path.of "d/b.json"] := by
    have directory : Fixture.expand mixedFiles (Path.of "d") = [Path.of "d/b.json"] := by
      rw [Fixture.expand, if_pos (by decide +kernel), mixedFiles_filesUnder]
      decide +kernel
    have cut : Fixture.expand mixedFiles (Path.of "a.json") = [Path.of "a.json"] :=
      if_neg (by decide +kernel)
    have sound : Fixture.expand mixedFiles (Path.of "d/b.json") = [Path.of "d/b.json"] :=
      if_neg (by decide +kernel)
    simp [directory, cut, sound]
  have checked : ∀ p ∈ [Path.of "a.json", Path.of "d/b.json"],
      (checkFile mixedFiles {} false p).isOk = true := by
    decide +kernel
  intro p found
  obtain ⟨q, member, stands⟩ := Fixture.mem_discover.mp found
  have finished := checked p (expanded q (known q member) p stands)
  exact (isOk_checkFile mixedFiles {} false p).mp finished

/-- A file that is cut off does not hide what is wrong in a directory with a sound one. -/
theorem mixedFiles_isolated :
    mixedFiles.top.WellFormed ∧ Fixture.Loadable mixedFiles [Path.of "a.json", Path.of "d"] ∧
      Fixture.Loadable mixedFiles [Path.of "d/b.json"] ∧
      ∃ es es' both, checkPaths mixedFiles {} true [Path.of "a.json", Path.of "d"] = .ok es ∧
        checkPaths mixedFiles {} true [Path.of "d/b.json"] = .ok es' ∧
        checkPaths mixedFiles {} true [Path.of "a.json", Path.of "d", Path.of "d/b.json"] =
          .ok both ∧
        (RunSummary.ofEvents both).exitCode =
          max (RunSummary.ofEvents es).exitCode (RunSummary.ofEvents es').exitCode := by
  have first : Fixture.Loadable mixedFiles [Path.of "a.json", Path.of "d"] :=
    mixedFiles_loadable (by decide +kernel)
  have second : Fixture.Loadable mixedFiles [Path.of "d/b.json"] :=
    mixedFiles_loadable (by decide +kernel)
  have isolated := checkPaths_isolated mixedFiles {} true mixedFiles_wellFormed
  exact ⟨mixedFiles_wellFormed, first, second, isolated.2 _ _ first second⟩

end Run

end TokenScopes
