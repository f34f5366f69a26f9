import TokenScopes.DiagnosticLog

namespace TokenScopes

namespace Diagnostic

/-- The diagnostic with a line number, unless it has one. -/
def numbered (d : Diagnostic) (number : Option Int) : Diagnostic :=
  { d with lineNumber := d.lineNumber.or number }

def unnumbered (d : Diagnostic) : Diagnostic :=
  { d with lineNumber := none }

@[simp] theorem numbered_none (d : Diagnostic) : d.numbered none = d := by
  simp [numbered]

@[simp] theorem numbered_kind (d : Diagnostic) (number : Option Int) :
    (d.numbered number).kind = d.kind := rfl

@[simp] theorem numbered_unnumbered (d : Diagnostic) (number : Option Int) :
    (d.numbered number).unnumbered = d.unnumbered := rfl

@[simp] theorem unnumbered_kind (d : Diagnostic) : d.unnumbered.kind = d.kind := rfl

@[simp] theorem ofCloseMismatch_unnumbered (m : CloseMismatch) :
    (ofCloseMismatch m).unnumbered = ofCloseMismatch m := rfl

@[simp] theorem ofCloseMismatch_kind (m : CloseMismatch) :
    (ofCloseMismatch m).kind = .stackDiscipline := rfl

end Diagnostic

namespace DiagnosticLog

variable (log : DiagnosticLog)

theorem stamp_eq (d : Diagnostic) : log.stamp d = d.numbered log.line := by
  cases h : d.lineNumber <;> simp [stamp, Diagnostic.numbered, h]
  cases d
  simp_all

theorem recordAll_append (ds es : List Diagnostic) :
    log.recordAll (ds ++ es) = (log.recordAll ds).recordAll es :=
  List.foldl_append

/-- Recording appends diagnostics under the current line, and their lines to the echo. -/
theorem recordAll_eq (ds : List Diagnostic) :
    log.recordAll ds =
      { log with
        entries := log.entries ++ ds.map (·.numbered log.line)
        echoed := log.echoed ++
          if log.echoes then (ds.map (·.numbered log.line)).flatMap Diagnostic.render else [] } := by
  induction ds generalizing log with
  | nil => cases log; simp [recordAll]
  | cons d ds ih =>
    change (log.record d).recordAll ds = _
    rw [ih]
    cases h : log.echoes <;> simp [record, stamp_eq, h]

@[simp] theorem recordAll_entries (ds : List Diagnostic) :
    (log.recordAll ds).entries = log.entries ++ ds.map (·.numbered log.line) := by
  rw [recordAll_eq]

@[simp] theorem recordAll_line (ds : List Diagnostic) : (log.recordAll ds).line = log.line := by
  rw [recordAll_eq]

/-- Diagnostics recorded on a line are as good as numbered ones recorded on none. -/
theorem recordAll_atLine (ds : List Diagnostic) (number : Option Int) (h : log.line = none) :
    ((log.atLine number).recordAll ds).atLine none = log.recordAll (ds.map (·.numbered number)) := by
  have kept : ((·.numbered none) ∘ fun d : Diagnostic => d.numbered number) =
      (·.numbered number) := by
    funext d
    simp
  rw [recordAll_eq, recordAll_eq]
  simp only [atLine, h, List.map_map, kept]
  rw [← h]
  rfl

end DiagnosticLog

end TokenScopes
