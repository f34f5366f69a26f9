import TokenScopes.Checker.Run
import TokenScopes.Proofs.Checker.Recording
import TokenScopes.Proofs.Outcome

namespace TokenScopes

/-- An event as somebody hears it, or nobody does. -/
def RunEvent.heard (echoes : Bool) : RunEvent → RunEvent
  | .checked r lines => .checked r (if echoes then lines else [])
  | .unreadable m => .unreadable m

/-- What was echoed are the lines of the diagnostics that are returned. -/
def RunEvent.Echoes : RunEvent → Prop
  | .checked r lines => lines = r.diagnostics.flatMap Diagnostic.render
  | .unreadable _ => True

namespace Case

/-- A case has one result or one fault; its echo is what the diagnostics of the result render to. -/
theorem check_echo (c : Case) (config : Config) :
    (∃ f, ∀ echoes, c.check config echoes = .error f) ∨
      ∃ r : CaseResult, ∀ echoes, c.check config echoes =
        .ok (r, if echoes then r.diagnostics.flatMap Diagnostic.render else []) := by
  simp only [check_eq]
  cases Spec.spans c.spec with
  | error f => exact .inl ⟨f, fun echoes => rfl⟩
  | ok spans => exact .inr ⟨_, fun echoes => rfl⟩

end Case

namespace Run

variable (fs : FileSystem) (config : Config)

/-- A case is echoed with the lines of its diagnostics, or not at all if nobody listens. -/
theorem checkCase_echo (p : Path) (c : Case) :
    (checkCase config true p c).Echoes ∧
      ∀ echoes, checkCase config echoes p c = (checkCase config true p c).heard echoes := by
  obtain ⟨f, faulty⟩ | ⟨r, checked⟩ := c.check_echo config
  · simp [checkCase, faulty, RunEvent.Echoes, RunEvent.heard]
  · simp [checkCase, checked, RunEvent.Echoes, RunEvent.heard]

theorem checkFile_heard (echoes : Bool) (p : Path) :
    checkFile fs config echoes p =
      (checkFile fs config true p).map (·.map (RunEvent.heard echoes)) := by
  have each (c : Case) := (checkCase_echo config p c).2 echoes
  simp only [checkFile]
  cases Fixture.load fs p with
  | ok cases => simp [Except.map, each, Function.comp_def]
  | error fault => cases fault <;> rfl

theorem checkFile_echo (p : Path) :
    Yields (fun _ => True) (fun events => ∀ e ∈ events, e.Echoes)
      (checkFile fs config true p) := by
  rw [checkFile]
  split
  · exact List.forall_mem_map.mpr fun c _ => (checkCase_echo config p c).1
  · exact List.forall_mem_singleton.mpr trivial
  · trivial

end Run

/-- A summary does not tell whether somebody listened. -/
theorem RunSummary.ofEvents_heard (echoes : Bool) (events : List RunEvent) :
    ofEvents (events.map (RunEvent.heard echoes)) = ofEvents events := by
  have result : RunEvent.result? ∘ RunEvent.heard echoes = RunEvent.result? := by
    funext e
    cases e <;> rfl
  have loadError : RunEvent.loadError? ∘ RunEvent.heard echoes = RunEvent.loadError? := by
    funext e
    cases e <;> rfl
  rw [ofEvents, List.filterMap_map, List.filterMap_map, result, loadError, ofEvents]

end TokenScopes
