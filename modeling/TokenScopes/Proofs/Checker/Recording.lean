import TokenScopes.Proofs.Checker.Reading

namespace TokenScopes

namespace Verifier

variable (v : Verifier)

theorem flush_eq : v.flush = v.after (Cursor.passing v.cursor.flush) := rfl

theorem checkText_eq (x : Lexeme) :
    v.checkText x.text x.scopes =
      ((v.cursor.readText v.config x).accepted, v.after (v.cursor.readText v.config x)) := by
  obtain ⟨config, ⟨position, remaining, stack⟩, log, tokensChecked⟩ := v
  cases remaining with
  | nil => rfl
  | cons span rest =>
    simp only [checkText, Cursor.readText, Cursor.peek?, List.head?_cons]
    by_cases text : span.source = x.text
    · simp only [text, if_true, checkScopes, ScopeStack.pathOn_eq, Cursor.advance]
      by_cases scopes : config.compared (visit stack.path span).path = config.compared x.scopes
      · have same := scopes
        simp only [Config.compared] at same
        simp only [scopes, same, if_true]
        rfl
      · have different := scopes
        simp only [Config.compared] at different
        simp only [scopes, different, if_false, after, DiagnosticLog.recordAll_append]
        rfl
    · simp only [text, if_false]
      rfl

theorem check_eq (line : Text) (token : Token) :
    v.check line token =
      ((v.cursor.read v.config (token.lexeme line)).accepted,
        v.after (v.cursor.read v.config (token.lexeme line))) := by
  by_cases blank : (token.lexeme line).isBlank
  · have blank' : Text.allBlank (token.textOn line).toList = true := blank
    simp only [check, Cursor.read, blank, blank', if_true]
    rfl
  · have blank' : Text.allBlank (token.textOn line).toList ≠ true := blank
    simp only [check, Cursor.read, blank, blank', if_false, Bool.false_eq_true]
    rw [after_append]
    exact v.flush.checkText_eq (token.lexeme line)

/-- The last diagnostic of a verifier is the last one of a reading that found something. -/
theorem isAligned_after (r : Reading) (h : r.found ≠ []) : (v.after r).isAligned = r.isAligned := by
  have last : (v.log.entries ++ r.found.map (·.numbered v.log.line)).getLast?.map (·.kind) =
      r.found.getLast?.map (·.kind) := by
    rw [List.getLast?_append_of_ne_nil _ (by simpa using h), List.getLast?_map, Option.map_map]
    rfl
  simp only [isAligned, Reading.isAligned, after_log, DiagnosticLog.recordAll_entries, last]

/-- A line is checked as its tokens are read, and the reading is recorded. -/
theorem checkTokens_eq (line : Text) (stopAtFirst : Bool) (tokens : List Token) :
    v.checkTokens line stopAtFirst tokens =
      ((v.cursor.readAll v.config stopAtFirst (tokens.map (·.lexeme line))).accepted,
        v.after (v.cursor.readAll v.config stopAtFirst (tokens.map (·.lexeme line)))) := by
  induction tokens generalizing v with
  | nil => simp [checkTokens, Cursor.readAll, after, DiagnosticLog.recordAll]
  | cons token rest ih =>
    simp only [checkTokens, List.map_cons, Cursor.readAll, check_eq]
    cases accepted : (v.cursor.read v.config (token.lexeme line)).accepted with
    | true =>
      simp only [ih, after_config, after_cursor, Bool.true_or, if_true, Reading.append_accepted,
        accepted, Bool.true_and, after_append]
    | false =>
      -- The verifier asks its whole log for the last diagnostic; a rejected token has just added it.
      obtain ⟨d, found, -⟩ := (v.cursor.read_judged v.config (token.lexeme line)).rejected accepted
      have aligned := v.isAligned_after _ (List.ne_nil_of_mem found)
      simp only [aligned, Bool.false_or]
      cases stopAtFirst <;>
        cases (v.cursor.read v.config (token.lexeme line)).isAligned <;>
        simp [ih, accepted, after_append]

theorem checkLine_eq (line : Text) (tokens : List Token) (number : Option Int)
    (stopAtFirst : Bool) (h : v.log.line = none) :
    v.checkLine line tokens number stopAtFirst =
      ((v.cursor.readAll v.config stopAtFirst (tokens.map (·.lexeme line))).accepted,
        v.after ((v.cursor.readAll v.config stopAtFirst
          (tokens.map (·.lexeme line))).numbered number)) := by
  simp only [checkLine, checkTokens_eq]
  simp only [after, atLine, Reading.numbered, DiagnosticLog.recordAll_atLine _ _ _ h]

theorem finish_eq : v.finish = (v.cursor.readEnd.accepted, v.after v.cursor.readEnd) := by
  simp only [finish, Cursor.readEnd, flush_eq, after_append, after_cursor, Cursor.passing]
  cases (v.cursor.flush.1.remaining.filter (!·.isZeroWidth)).map (·.source) with
  | nil => rfl
  | cons first rest => rfl

theorem checkLines_eq (number : Nat) (lines : List Line) (h : v.log.line = none) :
    v.checkLines number lines =
      ((v.cursor.readLines v.config v.config.stopOnMismatch number
          (lines.map Line.lexemes)).accepted || !v.config.stopOnMismatch,
        v.after (v.cursor.readLines v.config v.config.stopOnMismatch number
          (lines.map Line.lexemes))) := by
  induction lines generalizing v number with
  | nil => simp [checkLines, Cursor.readLines, after, DiagnosticLog.recordAll]
  | cons line rest ih =>
    have next (r : Reading) := ih (v.after r) (number + 1) (by simpa using h)
    simp only [checkLines, checkLine_eq v _ _ _ _ h, List.map_cons, Cursor.readLines,
      Line.lexemes] at next ⊢
    cases accepted : (v.cursor.readAll v.config v.config.stopOnMismatch
        (line.tokens.map (·.lexeme line.text))).accepted <;>
      cases stop : v.config.stopOnMismatch <;>
      simp_all [Reading.numbered, after_append]

/-- A run records the reading of its lines. -/
theorem run_eq (lines : List Line) (h : v.log.line = none) :
    v.run lines = v.after (v.cursor.readInput v.config v.config.stopOnMismatch
      (lines.map Line.lexemes)) := by
  simp only [run, checkLines_eq v 1 lines h, Cursor.readInput]
  split
  · next after completed =>
    simp only [Prod.mk.injEq] at completed
    obtain ⟨completed, rfl⟩ := completed
    simp [completed, finish_eq, after_append]
  · next after completed =>
    simp only [Prod.mk.injEq] at completed
    obtain ⟨completed, rfl⟩ := completed
    simp [completed]

end Verifier

/-- What may be asked of a verifier. -/
inductive Call where
  | check (line : Text) (token : Token)
  | checkLine (line : Text) (tokens : List Token) (number : Option Int) (stopAtFirst : Bool)
  | finish

def Call.reading (config : Config) (c : Cursor) : Call → Reading
  | .check line token => c.read config (token.lexeme line)
  | .checkLine line tokens number stopAtFirst =>
    (c.readAll config stopAtFirst (tokens.map (·.lexeme line))).numbered number
  | .finish => c.readEnd

namespace Verifier

def perform (v : Verifier) : Call → Verifier
  | .check line token => (v.check line token).2
  | .checkLine line tokens number stopAtFirst => (v.checkLine line tokens number stopAtFirst).2
  | .finish => v.finish.2

def performAll (v : Verifier) (calls : List Call) : Verifier :=
  calls.foldl perform v

/-- Any call records its reading, provided that no line is being checked. -/
theorem perform_eq (v : Verifier) (call : Call) (h : v.log.line = none) :
    v.perform call = v.after (call.reading v.config v.cursor) := by
  cases call with
  | check line token => simp only [perform, check_eq, Call.reading]
  | checkLine line tokens number stopAtFirst =>
    simp only [perform, checkLine_eq v _ _ _ _ h, Call.reading]
  | finish => simp only [perform, finish_eq, Call.reading]

theorem perform_line {v : Verifier} (call : Call) (line : v.log.line = none) :
    (v.perform call).log.line = none := by
  rw [perform_eq v call line]
  simpa using line

/-- No call leaves a verifier in the middle of a line. -/
theorem performAll_line {v : Verifier} (calls : List Call) (line : v.log.line = none) :
    (v.performAll calls).log.line = none := by
  induction calls generalizing v with
  | nil => exact line
  | cons call rest ih => exact ih (perform_line call line)

theorem performAll_config {v : Verifier} (calls : List Call) (line : v.log.line = none) :
    (v.performAll calls).config = v.config := by
  induction calls generalizing v with
  | nil => rfl
  | cons call rest ih =>
    have later := ih (perform_line call line)
    rw [perform_eq v call line, after_config] at later
    rw [← later, ← perform_eq v call line]
    rfl

end Verifier

namespace Case

def reading (c : Case) (config : Config) (spans : List Span) : Reading :=
  (Cursor.start spans config.rootScope).readInput config config.stopOnMismatch
    (c.lines.map Line.lexemes)

def resultOf (c : Case) (config : Config) (r : Reading) : CaseResult where
  name := c.name
  passed := !r.found.any fun d => config.failOnStackError || d.kind != .stackDiscipline
  tokensChecked := r.counted
  diagnostics := r.found
  sourcePath := c.sourcePath

/-- A case is decided by its reading; what it echoes is what the reading found. -/
theorem check_eq (c : Case) (config : Config) (echoes : Bool) :
    c.check config echoes = (Spec.spans c.spec).map fun spans =>
      (c.resultOf config (c.reading config spans),
        if echoes then (c.reading config spans).found.flatMap Diagnostic.render else []) := by
  simp only [check]
  cases Spec.spans c.spec with
  | error fault => rfl
  | ok spans =>
    have run := (Verifier.start config spans echoes).run_eq c.lines rfl
    have unchanged : (fun d : Diagnostic => d.numbered none) = id := by
      funext d
      simp
    simp only [bind, Except.bind, pure, Except.pure, run]
    simp only [Verifier.failed, Verifier.after, Verifier.start, DiagnosticLog.hasErrors,
      DiagnosticLog.recordAll_eq, unchanged, List.map_id, List.nil_append, Nat.zero_add]
    rfl

end Case

end TokenScopes
