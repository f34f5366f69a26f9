import TokenScopes.Proofs.Checker.Order
import TokenScopes.Proofs.Checker.Verdicts

namespace TokenScopes

/-- What a diagnostic says is so; `left` are the spans that were to come when it was recorded. -/
def Diagnostic.Genuine (config : Config) (left : List Span) (d : Diagnostic) : Prop :=
  match d.kind with
  | .scopeMismatch =>
    d.expected ≠ d.actual ∧ config.rootScope ∉ d.expected ∧ config.rootScope ∉ d.actual ∧
      d.diff = some (.between d.expected d.actual) ∧ Text.allBlank d.tokenText.toList = false
  | .contentMismatch =>
    ∃ text, d.expected = [text] ∧ d.actual = [d.tokenText] ∧ text ≠ d.tokenText ∧ text ≠ "" ∧
      Text.allBlank d.tokenText.toList = false ∧ d.diff = none
  | .exhaustedSpecs => Text.allBlank d.tokenText.toList = false ∧ left = []
  | .stackDiscipline =>
    ∃ (name : Text) (top : Option Text),
      d.expected = [name] ∧ d.actual = top.toList ∧ top ≠ some name
  | .unconsumedSpecs =>
    d.expected = (left.filter (!·.isZeroWidth)).map (·.source) ∧ d.expected ≠ []

theorem top_ne_of_mem_closeMismatches {stack names : List Text} {m : CloseMismatch}
    (member : m ∈ closeMismatches stack names) : m.top ≠ some m.name := by
  obtain ⟨⟨name, j⟩, -, found⟩ := List.mem_filterMap.mp member
  dsimp only at found
  split_ifs at found with top
  obtain rfl := Option.some.inj found
  exact top

theorem top_ne_of_mem_walkMismatches {stack : List Text} {spans : List Span} {m : CloseMismatch}
    (member : m ∈ walkMismatches stack spans) : m.top ≠ some m.name := by
  obtain ⟨v, -, found⟩ := List.mem_flatMap.mp member
  exact top_ne_of_mem_closeMismatches found

namespace Reading

/-- All that a reading found is genuine where it ends. -/
def Genuine (config : Config) (r : Reading) : Prop :=
  ∀ d ∈ r.found, d.Genuine config r.cursor.remaining

variable {config : Config}

theorem genuine_mismatches {ms : List CloseMismatch} (differ : ∀ m ∈ ms, m.top ≠ some m.name)
    (left : List Span) : ∀ d ∈ ms.map Diagnostic.ofCloseMismatch, d.Genuine config left := by
  rw [List.forall_mem_map]
  intro m member
  exact ⟨m.name, m.top, rfl, rfl, differ m member⟩

end Reading

namespace Cursor

variable (config : Config) (c : Cursor)

/-- A name that is reported differs from the top it stood against. -/
theorem flush_genuine (left : List Span) :
    ∀ d ∈ c.flush.2.map Diagnostic.ofCloseMismatch, d.Genuine config left := by
  rw [flush_mismatches]
  exact Reading.genuine_mismatches (fun _ => top_ne_of_mem_walkMismatches) left

/-- What is compared has no root marker left. -/
theorem root_notMem_compared (path : List Text) :
    config.rootScope ∉ config.compared path := by
  simp [Config.compared, Scope.withoutRoot]

/-- A text in front and a token that is not blank make what is found genuine. -/
theorem readText_genuine (x : Lexeme) (text : x.isBlank = false)
    (front : ∀ span rest, c.remaining = span :: rest → span.isZeroWidth = false) :
    (c.readText config x).Genuine config := by
  have outcome := c.readText_outcome config x
  generalize c.readText config x = r at outcome
  cases outcome with
  | exhausted spans => exact List.forall_mem_singleton.mpr ⟨text, spans⟩
  | @wrongText span rest spans differs =>
    have source : span.source ≠ "" := by simpa [Span.isZeroWidth] using front span rest spans
    exact List.forall_mem_singleton.mpr ⟨span.source, rfl, rfl, differs, source, text, rfl⟩
  | accepted spans same scopes =>
    exact Reading.genuine_mismatches (fun _ => top_ne_of_mem_closeMismatches) _
  | wrongScopes spans same scopes =>
    refine List.forall_mem_append.mpr
      ⟨Reading.genuine_mismatches (fun _ => top_ne_of_mem_closeMismatches) _, ?_⟩
    exact List.forall_mem_singleton.mpr ⟨scopes, root_notMem_compared config _,
      root_notMem_compared config _, rfl, text⟩

/-- Whatever a token is rejected for is so in the state it leads to. -/
theorem read_genuine (x : Lexeme) : (c.read config x).Genuine config := by
  cases blank : x.isBlank with
  | true =>
    rw [read, if_pos blank]
    exact c.flush_genuine config _
  | false =>
    rw [read, if_neg (by simp [blank])]
    exact List.forall_mem_append.mpr ⟨c.flush_genuine config _,
      c.flush.1.readText_genuine config x blank fun _ _ => c.flush_front⟩

theorem readEnd_genuine : c.readEnd.Genuine config := by
  rw [readEnd]
  refine List.forall_mem_append.mpr ⟨c.flush_genuine config _, ?_⟩
  cases texts : (c.flush.1.remaining.filter (!·.isZeroWidth)).map (·.source) with
  | nil => simp
  | cons first rest =>
    exact List.forall_mem_singleton.mpr ⟨texts.symm, List.cons_ne_nil first rest⟩

end Cursor

/-- One thing that a verifier does: it turns to a line, checks a token, or looks at what is left. -/
inductive Move where
  | turnTo (number : Option Int)
  | check (line : Text) (token : Token)
  | finish

namespace Verifier

def move (v : Verifier) : Move → Verifier
  | .turnTo number => v.atLine number
  | .check line token => (v.check line token).2
  | .finish => v.finish.2

def follow (v : Verifier) (moves : List Move) : Verifier :=
  moves.foldl move v

end Verifier

/-- The moves of a call. A line is checked token by token, up to the last on which there is a
verdict. -/
def Call.moves (v : Verifier) : Call → List Move
  | .check line token => [.check line token]
  | .checkLine line tokens number stopAtFirst =>
    let checked := ((v.atLine number).verdicts line stopAtFirst tokens).length
    .turnTo number :: (tokens.take checked).map (.check line) ++ [.turnTo none]
  | .finish => [.finish]

namespace Verifier

variable (v : Verifier)

def movesOf (v : Verifier) : List Call → List Move
  | [] => []
  | call :: rest => call.moves v ++ (v.perform call).movesOf rest

theorem follow_append (moves more : List Move) :
    v.follow (moves ++ more) = (v.follow moves).follow more :=
  List.foldl_append

theorem follow_checks (line : Text) (tokens : List Token) :
    v.follow (tokens.map (.check line)) = v.checkEach line tokens :=
  List.foldl_map

/-- A call does what its moves do. -/
theorem follow_moves (call : Call) : v.follow (call.moves v) = v.perform call := by
  cases call with
  | check line token => rfl
  | checkLine line tokens number stopAtFirst =>
    have checks := (v.atLine number).follow_checks line
    rw [perform, checkLine, checkTokens_eq_verdicts, Call.moves, follow_append]
    simp only [← checks]
    rfl
  | finish => rfl

theorem follow_movesOf (calls : List Call) : v.follow (v.movesOf calls) = v.performAll calls := by
  induction calls generalizing v with
  | nil => rfl
  | cons call rest ih =>
    rw [movesOf, follow_append, follow_moves, ih]
    rfl

theorem move_config (m : Move) : (v.move m).config = v.config := by
  cases m with
  | turnTo number => rfl
  | check line token => rw [move, check_eq, after_config]
  | finish => rw [move, finish_eq, after_config]

theorem follow_config (moves : List Move) : (v.follow moves).config = v.config := by
  induction moves generalizing v with
  | nil => rfl
  | cons m rest ih => exact (ih (v.move m)).trans (v.move_config m)

/-- What a verifier adds to its log on the way to a state: mismatches of the stack and at most one
more diagnostic after them, which tell of the state it comes to. -/
structure Adds (v w : Verifier) (reports last : List Diagnostic) : Prop where
  entries : w.log.entries = v.log.entries ++ (reports ++ last)
  quiet : ∀ d ∈ reports, d.kind = .stackDiscipline
  single : last.length ≤ 1
  genuine : ∀ d ∈ reports ++ last, d.Genuine v.config w.cursor.remaining

theorem after_adds {r : Reading} {reports last : List Diagnostic} (found : r.found = reports ++ last)
    (quiet : ∀ d ∈ reports, d.kind = .stackDiscipline) (single : last.length ≤ 1)
    (genuine : r.Genuine v.config) :
    v.Adds (v.after r) (reports.map (·.numbered v.log.line)) (last.map (·.numbered v.log.line)) where
  entries := by rw [after_log, DiagnosticLog.recordAll_entries, found, List.map_append]
  quiet := List.forall_mem_map.mpr quiet
  single := by rwa [List.length_map]
  genuine := by
    rw [← List.map_append, ← found]
    exact List.forall_mem_map.mpr genuine

/-- One move adds mismatches of the stack and at most one more diagnostic. -/
theorem move_adds (m : Move) : ∃ reports last, v.Adds (v.move m) reports last := by
  cases m with
  | turnTo number => exact ⟨[], [], (List.append_nil _).symm, by simp, by simp, by simp⟩
  | check line token =>
    have told := v.cursor.read_told v.config (token.lexeme line)
    have genuine := v.cursor.read_genuine v.config (token.lexeme line)
    rw [move, check_eq]
    generalize v.cursor.read v.config (token.lexeme line) = r at told genuine
    have quiet (ms : List CloseMismatch) (d : Diagnostic) (member : d ∈ ms.map .ofCloseMismatch) :
        d.kind = .stackDiscipline := kind_of_mem_mismatches member
    cases told with
    | accepted c n ms =>
      exact ⟨_, _, v.after_adds (List.append_nil _).symm (quiet ms) (by simp) genuine⟩
    | rejected n ms => exact ⟨_, _, v.after_adds rfl (quiet ms) (by simp) genuine⟩
  | finish =>
    obtain ⟨ms, last, found, single⟩ := v.cursor.readEnd_found
    rw [move, finish_eq]
    refine ⟨_, _, v.after_adds found (fun d => kind_of_mem_mismatches) ?_
      (v.cursor.readEnd_genuine v.config)⟩
    rcases single with rfl | ⟨first, rest, rfl⟩ <;> simp

/-- A diagnostic is recorded at a place of the log by the move that comes after others. Unless it is a
mismatch of the stack it is the newest then, so the move ends in the state it was recorded in; and it
is genuine there. -/
structure RecordedBy (v : Verifier) (done : List Move) (m : Move) (place : Nat) (d : Diagnostic) :
    Prop where
  before : (v.follow done).log.entries.length ≤ place
  recorded : (v.follow (done ++ [m])).log.entries[place]? = some d
  newest : d.kind ≠ .stackDiscipline →
    (v.follow (done ++ [m])).log.entries.length = place + 1
  genuine : d.Genuine v.config (v.follow (done ++ [m])).cursor.remaining

theorem follow_recorded {v : Verifier} (fresh : v.log.entries = []) (moves : List Move) {place : Nat}
    {d : Diagnostic} (entry : (v.follow moves).log.entries[place]? = some d) :
    ∃ done m, done ++ [m] <+: moves ∧ v.RecordedBy done m place d := by
  -- By induction on the moves: an entry is there before the last of them, or the last one records
  -- it.
  induction moves using List.reverseRecOn with
  | nil => simp [follow, fresh] at entry
  | append_singleton moves m ih =>
    obtain ⟨reports, last, adds⟩ := (v.follow moves).move_adds m
    have step : v.follow (moves ++ [m]) = (v.follow moves).move m := v.follow_append moves [m]
    by_cases earlier : place < (v.follow moves).log.entries.length
    · rw [step, adds.entries, List.getElem?_append_left earlier] at entry
      obtain ⟨done, n, initial, recorded⟩ := ih entry
      exact ⟨done, n, initial.trans (List.prefix_append moves [m]), recorded⟩
    · have added : (reports ++ last)[place - (v.follow moves).log.entries.length]? = some d := by
        rwa [step, adds.entries, List.getElem?_append_right (Nat.not_lt.mp earlier)] at entry
      refine ⟨moves, m, List.prefix_rfl, Nat.not_lt.mp earlier, entry, fun other => ?_, ?_⟩
      · -- Only the last of what a move adds is no mismatch of the stack.
        have behind : reports.length ≤ place - (v.follow moves).log.entries.length := by
          by_contra within
          rw [List.getElem?_append_left (Nat.not_le.mp within)] at added
          exact other (adds.quiet d (List.mem_of_getElem? added))
        rw [List.getElem?_append_right behind] at added
        have inside := (List.getElem?_eq_some_iff.mp added).1
        have single := adds.single
        rw [step, adds.entries, List.length_append, List.length_append]
        omega
      · have genuine := adds.genuine d (List.mem_of_getElem? added)
        rwa [follow_config, ← step] at genuine

/-- Calls come down to moves, and each diagnostic in the log was recorded by one of them, on a state of
which it tells the truth. -/
theorem recorded_genuine (config : Config) (spans : List Span) (echoes : Bool) (calls : List Call) :
    (start config spans echoes).follow ((start config spans echoes).movesOf calls) =
        (start config spans echoes).performAll calls ∧
      ∀ place d, ((start config spans echoes).performAll calls).log.entries[place]? = some d →
        ∃ done m, done ++ [m] <+: (start config spans echoes).movesOf calls ∧
          (start config spans echoes).RecordedBy done m place d := by
  have moves := (start config spans echoes).follow_movesOf calls
  refine ⟨moves, fun place d entry => ?_⟩
  rw [← moves] at entry
  exact follow_recorded rfl _ entry

def strayCalls : List Call :=
  [.checkLine "ac" [.covering 0 1 ["y"], .covering 1 1 []] (some 1) false, .finish,
    .check "d" (.covering 0 1 ["block"]), .check "e" (.covering 0 1 [])]

def straySpans : List Span :=
  [{ opens := ["block"] }, { source := "a", scopes := ["x"] }, { source := "b" },
    { source := "d", closes := ["parens"] }]

/-- A line goes wrong in both ways; after a premature end a close fails, and then a token is too
many. -/
theorem strayCalls_recorded :
    ((start {} straySpans false).performAll strayCalls).log.entries.map (·.kind) =
        [.scopeMismatch, .contentMismatch, .unconsumedSpecs, .stackDiscipline, .exhaustedSpecs] ∧
      ∀ place d, ((start {} straySpans false).performAll strayCalls).log.entries[place]? = some d →
        ∃ done m, done ++ [m] <+: (start {} straySpans false).movesOf strayCalls ∧
          (start {} straySpans false).RecordedBy done m place d :=
  ⟨by decide +kernel, (recorded_genuine {} straySpans false strayCalls).2⟩

end Verifier

end TokenScopes
