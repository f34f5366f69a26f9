import TokenScopes.Checker.Case
import TokenScopes.Proofs.Checker.Log
import TokenScopes.Proofs.Scope.Walk

namespace TokenScopes

/-- A token as a check sees it. -/
structure Lexeme where
  text : Text
  scopes : List Text
  deriving DecidableEq

namespace Lexeme

def isBlank (x : Lexeme) : Bool :=
  Text.allBlank x.text.toList

end Lexeme

def Token.covering (start length : Nat) (scopes : List Text) : Token :=
  ⟨start, start + length, scopes, Nat.le_add_right start length⟩

def Token.lexeme (t : Token) (line : Text) : Lexeme :=
  ⟨t.textOn line, t.scopes⟩

def Line.lexemes (l : Line) : List Lexeme :=
  l.tokens.map (·.lexeme l.text)

/-- The path a configuration compares: without decorations and root markers. -/
def Config.compared (config : Config) (path : List Text) : List Text :=
  Scope.withoutRoot config.rootScope (Scope.stripDecorations config.suffixes path)

structure Reading where
  accepted : Bool
  cursor : Cursor
  counted : Nat := 0
  found : List Diagnostic := []

namespace Reading

instance : Append Reading where
  append first next :=
    ⟨first.accepted && next.accepted, next.cursor, first.counted + next.counted,
      first.found ++ next.found⟩

variable (r next : Reading)

@[simp] theorem append_accepted : (r ++ next).accepted = (r.accepted && next.accepted) := rfl

@[simp] theorem append_cursor : (r ++ next).cursor = next.cursor := rfl

@[simp] theorem append_counted : (r ++ next).counted = r.counted + next.counted := rfl

@[simp] theorem append_found : (r ++ next).found = r.found ++ next.found := rfl

theorem nothing_append (c : Cursor) : ({ accepted := true, cursor := c } : Reading) ++ r = r := by
  obtain ⟨accepted, cursor, counted, found⟩ := r
  change Reading.mk (true && accepted) cursor (0 + counted) ([] ++ found) = _
  rw [Bool.true_and, Nat.zero_add, List.nil_append]

theorem append_assoc (last : Reading) : r ++ next ++ last = r ++ (next ++ last) := by
  change Reading.mk (r.accepted && next.accepted && last.accepted) last.cursor
    (r.counted + next.counted + last.counted) (r.found ++ next.found ++ last.found) = _
  rw [Bool.and_assoc, Nat.add_assoc, List.append_assoc]
  rfl

/-- The last thing found is wrong scopes. -/
def isAligned : Bool :=
  r.found.getLast?.map (·.kind) == some .scopeMismatch

def numbered (number : Option Int) : Reading :=
  { r with found := r.found.map (·.numbered number) }

end Reading

namespace Cursor

/-- The mismatches on the way to a cursor as a reading. -/
def passing (step : Cursor × List CloseMismatch) : Reading where
  accepted := true
  cursor := step.1
  found := step.2.map Diagnostic.ofCloseMismatch

/-- Reads a text that is not blank against the front span. -/
def readText (config : Config) (c : Cursor) (x : Lexeme) : Reading :=
  match c.remaining with
  | [] => ⟨false, c, 1, [.exhausted x.text]⟩
  | span :: _ =>
    if span.source = x.text then
      let passed := passing (c.advance.pass span)
      let expected := config.compared (visit c.stack.path span).path
      let actual := config.compared x.scopes
      if expected = actual then { passed with counted := 1 }
      else ⟨false, passed.cursor, 1, passed.found ++ [.wrongScopes x.text expected actual]⟩
    else ⟨false, c.advance, 1, [.wrongText x.text span.source]⟩

def read (config : Config) (c : Cursor) (x : Lexeme) : Reading :=
  if x.isBlank then passing c.flush
  else passing c.flush ++ c.flush.1.readText config x

/-- Reads on after an accepted token; or, when told to, as long as spans and tokens are aligned. -/
def readAll (config : Config) (stopAtFirst : Bool) (c : Cursor) : List Lexeme → Reading
  | [] => { accepted := true, cursor := c }
  | x :: rest =>
    let r := c.read config x
    if r.accepted || (!stopAtFirst && r.isAligned) then
      r ++ r.cursor.readAll config stopAtFirst rest
    else r

def readLines (config : Config) (stop : Bool) (number : Nat) (c : Cursor) :
    List (List Lexeme) → Reading
  | [] => { accepted := true, cursor := c }
  | xs :: rest =>
    let r := (c.readAll config stop xs).numbered (some number)
    if r.accepted || !stop then r ++ r.cursor.readLines config stop (number + 1) rest
    else r

/-- Reads the end of the input: no text may be left. -/
def readEnd (c : Cursor) : Reading :=
  passing c.flush ++
    match (c.flush.1.remaining.filter (!·.isZeroWidth)).map (·.source) with
    | [] => { accepted := true, cursor := c.flush.1 }
    | first :: rest => ⟨false, c.flush.1, 0, [.unconsumed first rest]⟩

def readInput (config : Config) (stop : Bool) (c : Cursor) (lines : List (List Lexeme)) : Reading :=
  let r := c.readLines config stop 1 lines
  if r.accepted || !stop then r ++ r.cursor.readEnd else r

end Cursor

namespace Verifier

/-- The verifier after a reading. -/
def after (v : Verifier) (r : Reading) : Verifier :=
  { v with
    cursor := r.cursor
    tokensChecked := v.tokensChecked + r.counted
    log := v.log.recordAll r.found }

variable (v : Verifier)

@[simp] theorem after_config (r : Reading) : (v.after r).config = v.config := rfl

@[simp] theorem after_cursor (r : Reading) : (v.after r).cursor = r.cursor := rfl

@[simp] theorem after_tokensChecked (r : Reading) :
    (v.after r).tokensChecked = v.tokensChecked + r.counted := rfl

@[simp] theorem after_log (r : Reading) : (v.after r).log = v.log.recordAll r.found := rfl

/-- What parts of a reading record one after the other is what the whole records. -/
theorem after_append (r next : Reading) : v.after (r ++ next) = (v.after r).after next := by
  simp [after, DiagnosticLog.recordAll_append, Nat.add_assoc]

end Verifier

/-- The four ways to read a text that is not blank. -/
inductive TextOutcome (config : Config) (c : Cursor) (x : Lexeme) : Reading → Prop
  | exhausted (spans : c.remaining = []) :
    TextOutcome config c x ⟨false, c, 1, [.exhausted x.text]⟩
  | wrongText {span : Span} {rest : List Span} (spans : c.remaining = span :: rest)
    (text : span.source ≠ x.text) :
    TextOutcome config c x ⟨false, ⟨c.position + 1, rest, c.stack⟩, 1,
      [.wrongText x.text span.source]⟩
  | accepted {span : Span} {rest : List Span} (spans : c.remaining = span :: rest)
    (text : span.source = x.text)
    (scopes : config.compared (visit c.stack.path span).path = config.compared x.scopes) :
    TextOutcome config c x ⟨true, ⟨c.position + 1, rest, (c.stack.pass span).1⟩, 1,
      (visit c.stack.path span).mismatches.map .ofCloseMismatch⟩
  | wrongScopes {span : Span} {rest : List Span} (spans : c.remaining = span :: rest)
    (text : span.source = x.text)
    (scopes : config.compared (visit c.stack.path span).path ≠ config.compared x.scopes) :
    TextOutcome config c x ⟨false, ⟨c.position + 1, rest, (c.stack.pass span).1⟩, 1,
      (visit c.stack.path span).mismatches.map .ofCloseMismatch ++
        [.wrongScopes x.text (config.compared (visit c.stack.path span).path)
          (config.compared x.scopes)]⟩

/-- A text finds nothing left, another text, other scopes, or what it should. -/
theorem Cursor.readText_outcome (config : Config) (c : Cursor) (x : Lexeme) :
    TextOutcome config c x (c.readText config x) := by
  obtain ⟨position, remaining, stack⟩ := c
  cases remaining with
  | nil => exact .exhausted rfl
  | cons span rest =>
    simp only [readText, advance, pass, passing, ScopeStack.pass_mismatches]
    split_ifs with text scopes
    · exact .accepted rfl text scopes
    · exact .wrongScopes rfl text scopes
    · exact .wrongText rfl text

/-- Properties that pass from the parts of a reading to the whole. -/
structure Reading.Composable (P : Cursor → Reading → Prop) : Prop where
  nil : ∀ c, P c { accepted := true, cursor := c }
  append : ∀ {c r next}, P c r → P r.cursor next → P c (r ++ next)
  numbered : ∀ {c r}, P c r → ∀ number, P c (r.numbered number)

namespace Reading.Composable

variable {P : Cursor → Reading → Prop} {config : Config}

theorem readAll (h : Composable P) (token : ∀ c x, P c (c.read config x)) (c : Cursor)
    (stopAtFirst : Bool) (xs : List Lexeme) : P c (c.readAll config stopAtFirst xs) := by
  induction xs generalizing c with
  | nil => exact h.nil c
  | cons x rest ih =>
    rw [Cursor.readAll]
    split_ifs
    · exact h.append (token c x) (ih _)
    · exact token c x

/-- A property that composes and holds of every token holds of lines, by induction on them. -/
theorem readLines (h : Composable P) (token : ∀ c x, P c (c.read config x)) (c : Cursor)
    (stop : Bool) (number : Nat) (lines : List (List Lexeme)) :
    P c (c.readLines config stop number lines) := by
  induction lines generalizing c number with
  | nil => exact h.nil c
  | cons xs rest ih =>
    have line := h.numbered (h.readAll token c stop xs) (some number)
    rw [Cursor.readLines]
    split_ifs
    · exact h.append line (ih _ _)
    · exact line

end Reading.Composable

/-- The verdicts that a token may be rejected with. -/
def DiagnosticKind.isRejection : DiagnosticKind → Bool
  | .exhaustedSpecs | .contentMismatch | .scopeMismatch => true
  | .stackDiscipline | .unconsumedSpecs => false

theorem DiagnosticKind.isRejection_iff (k : DiagnosticKind) :
    k.isRejection = true ↔ k = .contentMismatch ∨ k = .scopeMismatch ∨ k = .exhaustedSpecs := by
  cases k <;> simp [isRejection]

theorem DiagnosticKind.ne_stackDiscipline {k : DiagnosticKind} (h : k.isRejection = true) :
    k ≠ .stackDiscipline := by
  rintro rfl
  exact absurd h (by decide)

/-- The verdict agrees with what was found: a rejected token is told of, and an accepted one at most
disturbs the stack. -/
structure Reading.Judged (r : Reading) : Prop where
  quiet : r.accepted = true → ∀ d ∈ r.found, d.kind = .stackDiscipline
  rejected : r.accepted = false → ∃ d ∈ r.found, d.kind.isRejection = true

namespace Reading.Judged

variable {r next : Reading}

theorem append (h : Judged r) (k : Judged next) : Judged (r ++ next) where
  quiet := by
    intro accepted d member
    obtain ⟨first, second⟩ := Bool.and_eq_true_iff.mp accepted
    rcases List.mem_append.mp member with member | member
    · exact h.quiet first d member
    · exact k.quiet second d member
  rejected := by
    intro rejected
    rcases Bool.and_eq_false_iff.mp rejected with first | second
    · obtain ⟨d, member, rejection⟩ := h.rejected first
      exact ⟨d, List.mem_append_left _ member, rejection⟩
    · obtain ⟨d, member, rejection⟩ := k.rejected second
      exact ⟨d, List.mem_append_right _ member, rejection⟩

theorem numbered (h : Judged r) (number : Option Int) : Judged (r.numbered number) where
  quiet := by
    intro accepted d member
    obtain ⟨e, found, rfl⟩ := List.mem_map.mp member
    exact h.quiet accepted e found
  rejected := by
    intro rejected
    obtain ⟨d, member, rejection⟩ := h.rejected rejected
    exact ⟨_, List.mem_map_of_mem member, rejection⟩

theorem composable : Composable fun _ r => r.Judged where
  nil := fun _ => ⟨by simp, by simp⟩
  append := append
  numbered := numbered

end Reading.Judged

namespace Cursor

variable (config : Config) (c : Cursor)

theorem passing_judged (step : Cursor × List CloseMismatch) : (passing step).Judged where
  quiet := by simp [passing]
  rejected := by simp [passing]

theorem readText_judged (x : Lexeme) : (c.readText config x).Judged := by
  have outcome := c.readText_outcome config x
  generalize c.readText config x = r at outcome
  cases outcome with
  | exhausted => exact ⟨by simp, fun _ => ⟨_, List.mem_singleton_self _, rfl⟩⟩
  | wrongText => exact ⟨by simp, fun _ => ⟨_, List.mem_singleton_self _, rfl⟩⟩
  | accepted => exact ⟨by simp, by simp⟩
  | wrongScopes =>
    exact ⟨by simp, fun _ => ⟨_, List.mem_append_right _ (List.mem_singleton_self _), rfl⟩⟩

theorem read_judged (x : Lexeme) : (c.read config x).Judged := by
  rw [read]
  split_ifs
  · exact passing_judged _
  · exact (passing_judged _).append (c.flush.1.readText_judged config x)

/-- A reading of lines rejects exactly what it tells of. -/
theorem readLines_judged (stop : Bool) (number : Nat) (lines : List (List Lexeme)) :
    (c.readLines config stop number lines).Judged :=
  Reading.Judged.composable.readLines (read_judged config) c stop number lines

end Cursor

end TokenScopes
