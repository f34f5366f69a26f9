import Mathlib.Data.List.Forall2
import TokenScopes.Proofs.Checker.Recording

namespace TokenScopes

/-- A span that went by; it is skipped when a token came with another text. -/
structure Passage where
  span : Span
  skipped : Bool

namespace Passage

def applied (ps : List Passage) : List Span :=
  (ps.filter (!·.skipped)).map Passage.span

def left (ps : List Passage) : List Span :=
  (ps.filter (·.skipped)).map Passage.span

theorem applied_append (ps qs : List Passage) : applied (ps ++ qs) = applied ps ++ applied qs := by
  simp [applied]

theorem left_append (ps qs : List Passage) : left (ps ++ qs) = left ps ++ left qs := by
  simp [left]

end Passage

def ofKind (kind : DiagnosticKind) (ds : List Diagnostic) : List Diagnostic :=
  ds.filter (·.kind == kind)

theorem ofKind_append (kind : DiagnosticKind) (ds es : List Diagnostic) :
    ofKind kind (ds ++ es) = ofKind kind ds ++ ofKind kind es :=
  List.filter_append _ _

theorem ofKind_numbered (kind : DiagnosticKind) (ds : List Diagnostic) (number : Option Int) :
    ofKind kind (ds.map (·.numbered number)) = (ofKind kind ds).map (·.numbered number) := by
  simp only [ofKind, List.filter_map]
  rfl

/-- A content mismatch that tells of a span. -/
def TellsOf (span : Span) (d : Diagnostic) : Prop :=
  ∃ token, token ≠ span.source ∧ d.unnumbered = .wrongText token span.source

/-- Passages account for a reading that starts at a cursor. -/
structure Accounts (c : Cursor) (ps : List Passage) (r : Reading) : Prop where
  spans : c.remaining = ps.map Passage.span ++ r.cursor.remaining
  position : r.cursor.position = c.position + ps.length
  counted : r.counted =
    ((ps.map Passage.span).filter (!·.isZeroWidth)).length +
      (ofKind .exhaustedSpecs r.found).length
  skippedTexts : ∀ p ∈ ps, p.skipped = true → p.span.isZeroWidth = false
  skips : List.Forall₂ TellsOf (Passage.left ps) (ofKind .contentMismatch r.found)
  stack : r.cursor.stack.path = stackAfter c.stack.path (Passage.applied ps)
  mismatches : (ofKind .stackDiscipline r.found).map Diagnostic.unnumbered =
    (walkMismatches c.stack.path (Passage.applied ps)).map Diagnostic.ofCloseMismatch

namespace Accounts

variable {c : Cursor} {ps qs : List Passage} {r next : Reading}

theorem nil (c : Cursor) : Accounts c [] { accepted := true, cursor := c } where
  spans := rfl
  position := rfl
  counted := rfl
  skippedTexts := by simp
  skips := .nil
  stack := rfl
  mismatches := rfl

theorem append (h : Accounts c ps r) (k : Accounts r.cursor qs next) :
    Accounts c (ps ++ qs) (r ++ next) where
  spans := by rw [h.spans, k.spans]; simp
  position := by
    have first := h.position
    have second := k.position
    simp only [Reading.append_cursor, List.length_append]
    omega
  counted := by
    have first := h.counted
    have second := k.counted
    simp only [Reading.append_counted, Reading.append_found, ofKind_append, List.map_append,
      List.filter_append, List.length_append]
    omega
  skippedTexts := by
    intro p member
    rcases List.mem_append.mp member with member | member
    · exact h.skippedTexts p member
    · exact k.skippedTexts p member
  skips := by
    rw [Passage.left_append, Reading.append_found, ofKind_append]
    exact List.rel_append h.skips k.skips
  stack := by
    rw [Reading.append_cursor, k.stack, h.stack, Passage.applied_append, stackAfter_append]
  mismatches := by
    rw [Reading.append_found, ofKind_append, List.map_append, h.mismatches, k.mismatches, h.stack,
      Passage.applied_append, walkMismatches_append, List.map_append]

/-- The passages of a reading are as many as its cursor moved on. -/
theorem take_append (h : Accounts c ps r) (more : List Passage) :
    (ps ++ more).take (r.cursor.position - c.position) = ps := by
  have moved : r.cursor.position - c.position = ps.length := by
    rw [h.position, Nat.add_sub_cancel_left]
  rw [moved, List.take_left' rfl]

theorem numbered (h : Accounts c ps r) (number : Option Int) :
    Accounts c ps (r.numbered number) where
  spans := h.spans
  position := h.position
  counted := by
    rw [Reading.numbered, ofKind_numbered, List.length_map]
    exact h.counted
  skippedTexts := h.skippedTexts
  skips := by
    rw [Reading.numbered, ofKind_numbered, List.forall₂_map_right_iff]
    exact h.skips
  stack := h.stack
  mismatches := by
    rw [Reading.numbered, ofKind_numbered, List.map_map]
    exact h.mismatches

end Accounts

theorem ofKind_stack_mismatches (ms : List CloseMismatch) :
    ofKind .stackDiscipline (ms.map .ofCloseMismatch) = ms.map .ofCloseMismatch := by
  simp [ofKind]

theorem ofKind_other_mismatches {kind : DiagnosticKind} (h : kind ≠ .stackDiscipline)
    (ms : List CloseMismatch) : ofKind kind (ms.map .ofCloseMismatch) = [] := by
  simp [ofKind, h.symm]

theorem unnumbered_mismatches (ms : List CloseMismatch) :
    (ms.map Diagnostic.ofCloseMismatch).map Diagnostic.unnumbered =
      ms.map Diagnostic.ofCloseMismatch := by
  simp

namespace Cursor

variable (config : Config) (c : Cursor)

/-- A flush passes its boundary and applies all of it. -/
theorem flush_accounts : Accounts c (c.boundary.map (⟨·, false⟩)) (passing c.flush) := by
  have spans : (c.boundary.map fun s => (⟨s, false⟩ : Passage)).map Passage.span = c.boundary := by
    simp [Function.comp_def]
  have applied : Passage.applied (c.boundary.map (⟨·, false⟩)) = c.boundary := by
    simp [Passage.applied, List.filter_map, Function.comp_def]
  have left : Passage.left (c.boundary.map (⟨·, false⟩)) = [] := by
    simp [Passage.left, List.filter_map, Function.comp_def]
  have texts : c.boundary.filter (!·.isZeroWidth) = [] := by
    rw [List.filter_eq_nil_iff]
    intro span member
    simp [c.isZeroWidth_of_mem_boundary member]
  constructor
  · rw [spans]
    exact c.boundary_append_remaining.symm
  · simp [passing]
  · rw [spans, texts, passing, ofKind_other_mismatches (by decide)]
    rfl
  · simp
  · rw [left, passing, ofKind_other_mismatches (by decide)]
    exact .nil
  · simp [passing, applied]
  · rw [passing, ofKind_stack_mismatches, unnumbered_mismatches, applied, flush_mismatches]

/-- A text that is read against a text in front accounts for at most that one span. -/
theorem readText_accounts (x : Lexeme)
    (front : ∀ span rest, c.remaining = span :: rest → span.isZeroWidth = false) :
    ∃ ps, Accounts c ps (c.readText config x) := by
  have outcome := c.readText_outcome config x
  generalize c.readText config x = r at outcome
  cases outcome with
  | exhausted spans =>
    refine ⟨[], ⟨rfl, rfl, rfl, by simp, .nil, rfl, rfl⟩⟩
  | @wrongText span rest spans text =>
    have source := front _ _ spans
    refine ⟨[⟨span, true⟩], ⟨spans, rfl, ?_, ?_, ?_, rfl, rfl⟩⟩
    · simp [source, ofKind, Diagnostic.wrongText]
    · simp [source]
    · exact .cons ⟨x.text, Ne.symm text, rfl⟩ .nil
  | @accepted span rest spans text scopes =>
    have source := front _ _ spans
    refine ⟨[⟨span, false⟩], ⟨spans, rfl, ?_, ?_, ?_, ?_, ?_⟩⟩
    · simp [source, ofKind_other_mismatches]
    · simp
    · rw [ofKind_other_mismatches (by decide)]
      exact .nil
    · simp [Passage.applied, stackAfter]
    · rw [ofKind_stack_mismatches, unnumbered_mismatches]
      simp [Passage.applied, walkMismatches_cons]
  | @wrongScopes span rest spans text scopes =>
    have source := front _ _ spans
    refine ⟨[⟨span, false⟩], ⟨spans, rfl, ?_, ?_, ?_, ?_, ?_⟩⟩
    · simp [source, ofKind, Diagnostic.wrongScopes]
    · simp
    · rw [ofKind_append, ofKind_other_mismatches (by decide)]
      exact .nil
    · simp [Passage.applied, stackAfter]
    · rw [ofKind_append, ofKind_stack_mismatches, List.map_append, unnumbered_mismatches]
      simp [Passage.applied, walkMismatches_cons, ofKind, Diagnostic.wrongScopes]

/-- A token is accounted for by the boundary before it and at most one more span. -/
theorem read_accounts (x : Lexeme) : ∃ ps, Accounts c ps (c.read config x) := by
  by_cases blank : x.isBlank
  · rw [read, if_pos blank]
    exact ⟨_, c.flush_accounts⟩
  · rw [read, if_neg blank]
    obtain ⟨ps, accounts⟩ := c.flush.1.readText_accounts config x fun _ _ h => c.flush_front h
    exact ⟨_, c.flush_accounts.append accounts⟩

theorem accounts_composable : Reading.Composable fun c r => ∃ ps, Accounts c ps r where
  nil := fun c => ⟨[], .nil c⟩
  append := fun ⟨ps, accounts⟩ ⟨qs, later⟩ => ⟨ps ++ qs, accounts.append later⟩
  numbered := fun ⟨ps, accounts⟩ number => ⟨ps, accounts.numbered number⟩

/-- Reporting what is left passes nothing. -/
theorem unconsumed_accounts (first : Text) (rest : List Text) :
    Accounts c [] ⟨false, c, 0, [.unconsumed first rest]⟩ :=
  ⟨rfl, rfl, rfl, by simp, .nil, rfl, rfl⟩

theorem readEnd_accounts : ∃ ps, Accounts c ps c.readEnd := by
  rw [readEnd]
  split
  · exact ⟨_, c.flush_accounts.append (.nil _)⟩
  · exact ⟨_, c.flush_accounts.append (unconsumed_accounts _ _ _)⟩

/-- Put together from its parts, a whole input is accounted for. -/
theorem readInput_accounts (stop : Bool) (lines : List (List Lexeme)) :
    ∃ ps, Accounts c ps (c.readInput config stop lines) := by
  have accounts := accounts_composable.readLines (read_accounts config) c stop 1 lines
  rw [readInput]
  split_ifs
  · exact accounts_composable.append accounts (readEnd_accounts _)
  · exact accounts

end Cursor

theorem Call.reading_accounts (config : Config) (c : Cursor) (call : Call) :
    ∃ ps, Accounts c ps (call.reading config c) := by
  cases call with
  | check line token => exact c.read_accounts config _
  | checkLine line tokens number stopAtFirst =>
    have accounts := Cursor.accounts_composable.readAll (Cursor.read_accounts config) c stopAtFirst
      (tokens.map (·.lexeme line))
    exact Cursor.accounts_composable.numbered accounts number
  | finish => exact c.readEnd_accounts

namespace Verifier

/-- All that a verifier did so far as one reading. -/
def history (v : Verifier) : Reading where
  accepted := true
  cursor := v.cursor
  counted := v.tokensChecked
  found := v.log.entries

/-- Passages account for a verifier that was started on spans. -/
structure Accounted (root : Text) (spans : List Span) (ps : List Passage) (v : Verifier) :
    Prop where
  within : v.cursor.position ≤ spans.length
  passed : ps.map Passage.span = spans.take v.cursor.position
  remaining : v.cursor.remaining = spans.drop v.cursor.position
  counted : v.tokensChecked =
    ((spans.take v.cursor.position).filter (!·.isZeroWidth)).length +
      (ofKind .exhaustedSpecs v.log.entries).length
  skippedTexts : ∀ p ∈ ps, p.skipped = true → p.span.isZeroWidth = false
  skips : List.Forall₂ TellsOf (Passage.left ps) (ofKind .contentMismatch v.log.entries)
  stack : v.cursor.stack.path = stackAfter [root] (Passage.applied ps)
  mismatches : (ofKind .stackDiscipline v.log.entries).map Diagnostic.unnumbered =
    (walkMismatches [root] (Passage.applied ps)).map Diagnostic.ofCloseMismatch

theorem Accounted.ofAccounts {root : Text} {spans : List Span} {ps : List Passage} {v : Verifier}
    (h : Accounts (.start spans root) ps v.history) : Accounted root spans ps v := by
  have position : v.cursor.position = ps.length := by
    simpa [history, Cursor.start] using h.position
  have all : spans = ps.map Passage.span ++ v.cursor.remaining := h.spans
  have passed : spans.take v.cursor.position = ps.map Passage.span := by
    rw [all, position]
    exact List.take_left' (List.length_map _)
  refine ⟨?_, passed.symm, ?_, ?_, h.skippedTexts, h.skips, h.stack, h.mismatches⟩
  · rw [position, all]
    simp
  · conv_rhs => rw [all, position]
    exact (List.drop_left' (List.length_map _)).symm
  · rw [passed]
    exact h.counted

/-- A call extends the passages that account for a verifier. -/
theorem perform_accounts {c : Cursor} {ps : List Passage} {v : Verifier} (call : Call)
    (line : v.log.line = none) (h : Accounts c ps v.history) :
    ∃ qs, Accounts c (ps ++ qs) (v.perform call).history := by
  obtain ⟨qs, accounts⟩ := call.reading_accounts v.config v.cursor
  have history : (v.perform call).history =
      { v.history ++ call.reading v.config v.cursor with accepted := true } := by
    rw [perform_eq v call line]
    simp [Verifier.history, line]
  refine ⟨qs, ?_⟩
  rw [history]
  obtain ⟨spans, position, counted, skippedTexts, skips, stack, mismatches⟩ := h.append accounts
  exact ⟨spans, position, counted, skippedTexts, skips, stack, mismatches⟩

/-- No call moves the cursor back. -/
theorem position_le_perform {v : Verifier} (call : Call) (line : v.log.line = none) :
    v.cursor.position ≤ (v.perform call).cursor.position := by
  obtain ⟨ps, accounts⟩ := call.reading_accounts v.config v.cursor
  rw [perform_eq v call line, after_cursor, accounts.position]
  exact Nat.le_add_right _ _

/-- One choice of passages accounts for all states on the way. -/
theorem performAll_accounts {c : Cursor} {ps : List Passage} {v : Verifier} (calls : List Call)
    (line : v.log.line = none) (h : Accounts c ps v.history) :
    ∃ qs, ∀ done, done <+: calls →
      Accounts c ((ps ++ qs).take ((v.performAll done).cursor.position - c.position))
        (v.performAll done).history := by
  induction calls generalizing v ps with
  | nil =>
    refine ⟨[], fun done initial => ?_⟩
    rw [List.prefix_nil.mp initial]
    exact (h.take_append []).symm ▸ h
  | cons call rest ih =>
    -- Later passages extend earlier ones, so those of the last state contain all the others.
    obtain ⟨qs, accounts⟩ := perform_accounts call line h
    obtain ⟨more, later⟩ := ih (perform_line call line) accounts
    refine ⟨qs ++ more, fun done initial => ?_⟩
    cases done with
    | nil => exact (h.take_append (qs ++ more)).symm ▸ h
    | cons first others =>
      obtain ⟨rfl, shorter⟩ := List.cons_prefix_cons.mp initial
      rw [← List.append_assoc]
      exact later others shorter

/-- In every state of a verifier the books are right, and no call moves it back: one marking of the
spans as applied or skipped serves all states that a sequence of calls leads through. -/
theorem accounted_throughout (config : Config) (spans : List Span) (echoes : Bool)
    (calls : List Call) :
    ∃ ps : List Passage, ∀ done, done <+: calls →
      Accounted config.rootScope spans
          (ps.take ((start config spans echoes).performAll done).cursor.position)
          ((start config spans echoes).performAll done) ∧
        ∀ call, ((start config spans echoes).performAll done).cursor.position ≤
          (((start config spans echoes).performAll done).perform call).cursor.position := by
  have fresh : Accounts (.start spans config.rootScope) [] (start config spans echoes).history :=
    .nil _
  obtain ⟨ps, accounts⟩ := performAll_accounts calls rfl fresh
  refine ⟨ps, fun done initial => ⟨?_, fun call => ?_⟩⟩
  · have books := Accounted.ofAccounts (accounts done initial)
    simpa [Cursor.start] using books
  · exact position_le_perform call (performAll_line done rfl)

end Verifier

end TokenScopes
