import Mathlib.Computability.RegularExpressions
import TokenScopes.Proofs.Checker.Recording

namespace TokenScopes

open Diagnostic

namespace DiagnosticKind

open RegularExpression

def stoppingShape : RegularExpression DiagnosticKind :=
  (char stackDiscipline).star *
    (1 + (char contentMismatch + char scopeMismatch + char exhaustedSpecs + char unconsumedSpecs))

def keepGoingShape : RegularExpression DiagnosticKind :=
  (char stackDiscipline + char contentMismatch + char scopeMismatch).star *
    ((char exhaustedSpecs).star + (1 + char unconsumedSpecs))

/-- What the kinds of the diagnostics of a run may be, in order. -/
def shape (stop : Bool) : RegularExpression DiagnosticKind :=
  if stop then stoppingShape else keepGoingShape

theorem mem_star {R : RegularExpression DiagnosticKind} {ds : List Diagnostic}
    (h : ∀ d ∈ ds, [d.kind] ∈ R.matches') : ds.map (·.kind) ∈ R.star.matches' := by
  rw [matches'_star, Language.mem_kstar]
  refine ⟨ds.map fun d => [d.kind], ?_, List.forall_mem_map.mpr h⟩
  rw [← List.flatMap_def, List.map_eq_flatMap]

/-- Mismatches of the stack and at most one failure have the shape of a run that stops. -/
theorem mem_stoppingShape {before after : List Diagnostic}
    (quiet : ∀ d ∈ before, d.kind = .stackDiscipline)
    (last : after = [] ∨ ∃ d, after = [d] ∧ d.kind ≠ .stackDiscipline) :
    (before ++ after).map (·.kind) ∈ stoppingShape.matches' := by
  rw [List.map_append, stoppingShape, matches'_mul]
  refine Language.append_mem_mul (mem_star ?_) ?_
  · intro d member
    rw [quiet d member]
    rfl
  · simp only [matches'_add, matches'_epsilon, matches'_char, Language.mem_add, Language.mem_one]
    rcases last with rfl | ⟨d, rfl, kind⟩
    · exact .inl rfl
    · right
      rw [List.map_singleton]
      cases named : d.kind with
      | stackDiscipline => exact absurd named kind
      | contentMismatch => exact .inl (.inl (.inl rfl))
      | scopeMismatch => exact .inl (.inl (.inr rfl))
      | exhaustedSpecs => exact .inl (.inr rfl)
      | unconsumedSpecs => exact .inr rfl

theorem mem_keepGoingShape {before after : List Diagnostic}
    (going : ∀ d ∈ before,
      d.kind = .stackDiscipline ∨ d.kind = .contentMismatch ∨ d.kind = .scopeMismatch)
    (last : (∀ d ∈ after, d.kind = .exhaustedSpecs) ∨
      ∃ d, after = [d] ∧ d.kind = .unconsumedSpecs) :
    (before ++ after).map (·.kind) ∈ keepGoingShape.matches' := by
  rw [List.map_append, keepGoingShape, matches'_mul]
  refine Language.append_mem_mul (mem_star ?_) ?_
  · intro d member
    simp only [matches'_add, matches'_char, Language.mem_add]
    rcases going d member with kind | kind | kind
    · rw [kind]
      exact .inl (.inl rfl)
    · rw [kind]
      exact .inl (.inr rfl)
    · rw [kind]
      exact .inr rfl
  · rw [matches'_add, Language.mem_add]
    rcases last with many | ⟨d, rfl, kind⟩
    · left
      apply mem_star
      intro d member
      rw [many d member]
      rfl
    · right
      rw [List.map_singleton, kind, matches'_add, Language.mem_add]
      exact .inr rfl

end DiagnosticKind

theorem kind_of_mem_mismatches {ms : List CloseMismatch} {d : Diagnostic}
    (h : d ∈ ms.map ofCloseMismatch) : d.kind = .stackDiscipline := by
  obtain ⟨m, -, rfl⟩ := List.mem_map.mp h
  rfl

/-- What one token adds to the log: mismatches of the stack, and its rejection after them. -/
inductive Reading.Told : Reading → Prop
  | accepted (c : Cursor) (n : Nat) (ms : List CloseMismatch) :
    Told ⟨true, c, n, ms.map ofCloseMismatch⟩
  | rejected {c : Cursor} (n : Nat) (ms : List CloseMismatch) {d : Diagnostic}
    (kind : d.kind.isRejection = true) (line : d.lineNumber = none)
    (exhausted : d.kind = .exhaustedSpecs → c.remaining = []) :
    Told ⟨false, c, n, ms.map ofCloseMismatch ++ [d]⟩

theorem Reading.Told.pass {r : Reading} (h : Told r) (c : Cursor) (ms : List CloseMismatch) :
    Told (Cursor.passing (c, ms) ++ r) := by
  cases h with
  | accepted d n more =>
    have told := Told.accepted d (0 + n) (ms ++ more)
    rw [List.map_append] at told
    exact told
  | @rejected d n more e kind line exhausted =>
    have told := Told.rejected (0 + n) (ms ++ more) kind line exhausted
    rw [List.map_append, List.append_assoc] at told
    exact told

namespace Cursor

variable (config : Config) (c : Cursor)

/-- A token is rejected last, after the boundary before it. -/
theorem read_told (x : Lexeme) : (c.read config x).Told := by
  cases blank : x.isBlank with
  | true =>
    rw [read, if_pos blank]
    exact .accepted _ _ _
  | false =>
    rw [read, if_neg (by simp [blank])]
    apply Reading.Told.pass
    have outcome := c.flush.1.readText_outcome config x
    generalize c.flush.1.readText config x = r at outcome
    cases outcome with
    | exhausted spans => exact .rejected 1 [] rfl rfl fun _ => spans
    | wrongText => exact .rejected 1 [] rfl rfl (by simp [Diagnostic.wrongText])
    | accepted => exact .accepted _ _ _
    | wrongScopes => exact .rejected 1 _ rfl rfl (by simp [Diagnostic.wrongScopes])

/-- When no spans are left there are none after a token either, and it is too many or blank. -/
theorem read_exhausted (x : Lexeme) (h : c.remaining = []) :
    (c.read config x).cursor.remaining = [] ∧
      ∀ d ∈ (c.read config x).found, d.kind = .exhaustedSpecs := by
  obtain ⟨position, remaining, stack⟩ := c
  subst h
  have flushed : flush ⟨position, [], stack⟩ = (⟨position, [], stack⟩, []) := rfl
  rw [read, flushed]
  split_ifs
  · simp [passing]
  · simp [passing, readText, Diagnostic.exhausted]

/-- The end of an input finds mismatches of the stack, and at most one thing after them. -/
theorem readEnd_found : ∃ (ms : List CloseMismatch) (left : List Diagnostic),
    c.readEnd.found = ms.map ofCloseMismatch ++ left ∧
      (left = [] ∨ ∃ first rest, left = [.unconsumed first rest]) := by
  rw [readEnd]
  split
  · exact ⟨_, [], rfl, .inl rfl⟩
  · exact ⟨_, _, rfl, .inr ⟨_, _, rfl⟩⟩

theorem readEnd_nothing (h : c.remaining = []) : c.readEnd.found = [] := by
  obtain ⟨position, remaining, stack⟩ := c
  subst h
  rfl

end Cursor

/-- What the end of the input adds after a reading of the lines. -/
def Reading.closing (stop : Bool) (r : Reading) : List Diagnostic :=
  if r.accepted || !stop then r.cursor.readEnd.found else []

theorem Cursor.readInput_found (config : Config) (stop : Bool) (c : Cursor)
    (lines : List (List Lexeme)) :
    (c.readInput config stop lines).found =
      (c.readLines config stop 1 lines).found ++ (c.readLines config stop 1 lines).closing stop := by
  rw [readInput, Reading.closing]
  split_ifs
  · rfl
  · rw [List.append_nil]

section Stopping

/-- Up to a rejection that ends it, a reading finds mismatches of the stack only. -/
structure Reading.Halts (r : Reading) : Prop where
  quiet : r.accepted = true → ∀ d ∈ r.found, d.kind = .stackDiscipline
  rejected : r.accepted = false → ∃ before d, r.found = before ++ [d] ∧
    (∀ e ∈ before, e.kind = .stackDiscipline) ∧ d.kind.isRejection = true

namespace Reading.Halts

variable {r next : Reading}

theorem nothing (c : Cursor) : Halts { accepted := true, cursor := c } :=
  ⟨by simp, by simp⟩

theorem ofTold (h : Told r) : Halts r := by
  cases h with
  | accepted c n ms => exact ⟨fun _ _ => kind_of_mem_mismatches, by simp⟩
  | rejected n ms kind =>
    exact ⟨by simp, fun _ => ⟨_, _, rfl, fun _ => kind_of_mem_mismatches, kind⟩⟩

theorem append (h : Halts r) (accepted : r.accepted = true) (k : Halts next) :
    Halts (r ++ next) where
  quiet := by
    intro both
    rw [append_accepted, accepted, Bool.true_and] at both
    exact List.forall_mem_append.mpr ⟨h.quiet accepted, k.quiet both⟩
  rejected := by
    intro one
    rw [append_accepted, accepted, Bool.true_and] at one
    obtain ⟨before, d, found, quiet, kind⟩ := k.rejected one
    refine ⟨r.found ++ before, d, by rw [append_found, found, List.append_assoc], ?_, kind⟩
    exact List.forall_mem_append.mpr ⟨h.quiet accepted, quiet⟩

theorem numbered (h : Halts r) (number : Option Int) : Halts (r.numbered number) where
  quiet := fun accepted => List.forall_mem_map.mpr (h.quiet accepted)
  rejected := by
    intro rejected
    obtain ⟨before, d, found, quiet, kind⟩ := h.rejected rejected
    refine ⟨before.map (·.numbered number), d.numbered number, ?_, ?_, kind⟩
    · simp [Reading.numbered, found]
    · exact List.forall_mem_map.mpr quiet

end Reading.Halts

namespace Cursor

variable (config : Config) (c : Cursor)

theorem readAll_halts (xs : List Lexeme) : (c.readAll config true xs).Halts := by
  induction xs generalizing c with
  | nil => exact .nothing c
  | cons x rest ih =>
    have here := Reading.Halts.ofTold (c.read_told config x)
    rw [readAll]
    simp only [Bool.not_true, Bool.false_and, Bool.or_false]
    split_ifs with accepted
    · exact here.append accepted (ih _)
    · exact here

theorem readLines_halts (number : Nat) (lines : List (List Lexeme)) :
    (c.readLines config true number lines).Halts := by
  -- By induction on the lines: nothing is read behind a rejection.
  induction lines generalizing c number with
  | nil => exact .nothing c
  | cons xs rest ih =>
    have line := (c.readAll_halts config xs).numbered (some number)
    rw [readLines]
    simp only [Bool.not_true, Bool.or_false]
    split_ifs with accepted
    · exact line.append accepted (ih _ _)
    · exact line

/-- A run that stops finds mismatches of the stack, and at most one failure after them. -/
theorem readInput_stopping (lines : List (List Lexeme)) :
    ∃ before after : List Diagnostic, (c.readInput config true lines).found = before ++ after ∧
      (∀ d ∈ before, d.kind = .stackDiscipline) ∧
      (after = [] ∨ ∃ d, after = [d] ∧ d.kind ≠ .stackDiscipline) := by
  have halts := c.readLines_halts config 1 lines
  rw [readInput_found]
  generalize c.readLines config true 1 lines = r at halts
  cases accepted : r.accepted with
  | true =>
    obtain ⟨ms, left, found, last⟩ := r.cursor.readEnd_found
    refine ⟨r.found ++ ms.map ofCloseMismatch, left, ?_, ?_, ?_⟩
    · simp [Reading.closing, accepted, found]
    · exact List.forall_mem_append.mpr
        ⟨halts.quiet accepted, fun _ => kind_of_mem_mismatches⟩
    · refine last.imp_right ?_
      rintro ⟨first, rest, rfl⟩
      exact ⟨_, rfl, by simp [Diagnostic.unconsumed]⟩
  | false =>
    obtain ⟨before, d, found, quiet, kind⟩ := halts.rejected accepted
    refine ⟨before, [d], by simp [Reading.closing, accepted, found], quiet, .inr ⟨d, rfl, ?_⟩⟩
    exact DiagnosticKind.ne_stackDiscipline kind

end Cursor

end Stopping

section KeepGoing

/-- A reading finds other things as long as there are spans, and tokens too many afterwards. -/
structure Reading.RunsOut (c : Cursor) (r : Reading) (before after : List Diagnostic) : Prop where
  found : r.found = before ++ after
  going : ∀ d ∈ before,
    d.kind = .stackDiscipline ∨ d.kind = .contentMismatch ∨ d.kind = .scopeMismatch
  exhausted : ∀ d ∈ after, d.kind = .exhaustedSpecs
  ended : after ≠ [] → r.cursor.remaining = []
  none_left : c.remaining = [] → before = [] ∧ r.cursor.remaining = []

namespace Reading.RunsOut

variable {c : Cursor} {r next : Reading} {before after before' after' : List Diagnostic}

theorem append (h : RunsOut c r before after) (k : RunsOut r.cursor next before' after') :
    ∃ front back, RunsOut c (r ++ next) front back := by
  have found : (r ++ next).found = before ++ after ++ (before' ++ after') := by
    rw [append_found, h.found, k.found]
  have none_left (nothing : c.remaining = []) : before = [] ∧ before' = [] ∧
      next.cursor.remaining = [] := by
    obtain ⟨first, left⟩ := h.none_left nothing
    exact ⟨first, k.none_left left⟩
  by_cases stays : after = []
  · subst stays
    refine ⟨before ++ before', after', by simpa using found, ?_, k.exhausted, k.ended, ?_⟩
    · exact List.forall_mem_append.mpr ⟨h.going, k.going⟩
    · intro nothing
      obtain ⟨first, second, left⟩ := none_left nothing
      exact ⟨by rw [first, second, List.nil_append], left⟩
  · -- The spans have run out within the first part, so the second only finds more tokens.
    obtain ⟨second, left⟩ := k.none_left (h.ended stays)
    subst second
    refine ⟨before, after ++ after', by simpa using found, h.going, ?_, fun _ => left, ?_⟩
    · exact List.forall_mem_append.mpr ⟨h.exhausted, k.exhausted⟩
    · exact fun nothing => ⟨(none_left nothing).1, left⟩

theorem numbered (h : RunsOut c r before after) (number : Option Int) :
    RunsOut c (r.numbered number) (before.map (·.numbered number))
      (after.map (·.numbered number)) where
  found := by rw [Reading.numbered, h.found, List.map_append]
  going := List.forall_mem_map.mpr h.going
  exhausted := List.forall_mem_map.mpr h.exhausted
  ended := by
    intro something
    exact h.ended (by simpa using something)
  none_left := by
    intro nothing
    obtain ⟨first, left⟩ := h.none_left nothing
    exact ⟨by rw [first, List.map_nil], left⟩

theorem composable : Composable fun c r => ∃ before after, RunsOut c r before after where
  nil := fun c => ⟨[], [], rfl, by simp, by simp, by simp, fun nothing => ⟨rfl, nothing⟩⟩
  append := fun ⟨_, _, first⟩ ⟨_, _, second⟩ => first.append second
  numbered := fun ⟨_, _, runs⟩ number => ⟨_, _, runs.numbered number⟩

end Reading.RunsOut

namespace Cursor

variable (config : Config) (c : Cursor)

theorem read_runsOut (x : Lexeme) :
    ∃ before after, Reading.RunsOut c (c.read config x) before after := by
  by_cases nothing : c.remaining = []
  · obtain ⟨left, exhausted⟩ := c.read_exhausted config x nothing
    exact ⟨[], _, rfl, by simp, exhausted, fun _ => left, fun _ => ⟨rfl, left⟩⟩
  · have told := c.read_told config x
    generalize c.read config x = r at told
    cases told with
    | accepted d n ms =>
      refine ⟨_, [], (List.append_nil _).symm, ?_, by simp, by simp, fun h => absurd h nothing⟩
      exact fun _ member => .inl (kind_of_mem_mismatches member)
    | @rejected d n ms e kind line ended =>
      have quiet (f : Diagnostic) (member : f ∈ ms.map ofCloseMismatch) :
          f.kind = .stackDiscipline ∨ f.kind = .contentMismatch ∨ f.kind = .scopeMismatch :=
        .inl (kind_of_mem_mismatches member)
      have going (other : e.kind = .contentMismatch ∨ e.kind = .scopeMismatch) :
          ∃ before after, Reading.RunsOut c ⟨false, d, n, ms.map ofCloseMismatch ++ [e]⟩
            before after := by
        refine ⟨_, [], (List.append_nil _).symm, ?_, by simp, by simp, fun h => absurd h nothing⟩
        exact List.forall_mem_append.mpr ⟨quiet, List.forall_mem_singleton.mpr (.inr other)⟩
      rcases e.kind.isRejection_iff.mp kind with content | scopes | many
      · exact going (.inl content)
      · exact going (.inr scopes)
      · exact ⟨_, _, rfl, quiet, List.forall_mem_singleton.mpr many, fun _ => ended many,
          fun h => absurd h nothing⟩

/-- A run that goes on finds other things as long as there are spans; then all tokens are too many,
or some spans are left. -/
theorem readInput_keepGoing (lines : List (List Lexeme)) :
    ∃ before after : List Diagnostic, (c.readInput config false lines).found = before ++ after ∧
      (∀ d ∈ before,
        d.kind = .stackDiscipline ∨ d.kind = .contentMismatch ∨ d.kind = .scopeMismatch) ∧
      ((∀ d ∈ after, d.kind = .exhaustedSpecs) ∨
        ∃ d, after = [d] ∧ d.kind = .unconsumedSpecs) := by
  obtain ⟨before, after, runs⟩ :=
    Reading.RunsOut.composable.readLines (read_runsOut config) c false 1 lines
  rw [readInput_found]
  generalize c.readLines config false 1 lines = r at runs
  have closing : r.closing false = r.cursor.readEnd.found := by simp [Reading.closing]
  rw [closing]
  by_cases stays : after = []
  · subst stays
    obtain ⟨ms, left, found, last⟩ := r.cursor.readEnd_found
    refine ⟨before ++ ms.map ofCloseMismatch, left, by simp [found, runs.found], ?_, ?_⟩
    · exact List.forall_mem_append.mpr
        ⟨runs.going, fun _ member => .inl (kind_of_mem_mismatches member)⟩
    · rcases last with rfl | ⟨first, rest, rfl⟩
      · exact .inl (by simp)
      · exact .inr ⟨_, rfl, rfl⟩
  · have nothing := r.cursor.readEnd_nothing (runs.ended stays)
    exact ⟨before, after, by rw [nothing, List.append_nil, runs.found], runs.going,
      .inl runs.exhausted⟩

end Cursor

end KeepGoing

/-- Only tokens that are too many follow one of them, and nothing follows spans that are left. -/
def InOrder (ds : List Diagnostic) : Prop :=
  ds.Pairwise fun d e => d.kind ≠ .unconsumedSpecs ∧
    (d.kind = .exhaustedSpecs → e.kind = .exhaustedSpecs)

theorem InOrder.ofParts {before after : List Diagnostic}
    (going : ∀ d ∈ before, d.kind ≠ .unconsumedSpecs ∧ d.kind ≠ .exhaustedSpecs)
    (last : (∀ d ∈ after, d.kind = .exhaustedSpecs) ∨ ∃ d, after = [d]) :
    InOrder (before ++ after) := by
  have harmless {d : Diagnostic} (member : d ∈ before) (e : Diagnostic) :
      d.kind ≠ .unconsumedSpecs ∧ (d.kind = .exhaustedSpecs → e.kind = .exhaustedSpecs) :=
    ⟨(going d member).1, fun many => absurd many (going d member).2⟩
  refine List.pairwise_append.mpr ⟨?_, ?_, fun d member e _ => harmless member e⟩
  · exact List.pairwise_of_forall_mem_list fun d member e _ => harmless member e
  · rcases last with many | ⟨d, rfl⟩
    · refine List.pairwise_of_forall_mem_list fun d hd e he => ?_
      exact ⟨by simp [many d hd], fun _ => many e he⟩
    · exact List.pairwise_singleton _ _

/-- The mode of a run decides in which order kinds may stand in what it finds. -/
theorem Cursor.readInput_order (config : Config) (c : Cursor) (stop : Bool)
    (lines : List (List Lexeme)) :
    (c.readInput config stop lines).found.map (·.kind) ∈ (DiagnosticKind.shape stop).matches' ∧
      InOrder (c.readInput config stop lines).found := by
  cases stop with
  | true =>
    obtain ⟨before, after, found, quiet, last⟩ := c.readInput_stopping config lines
    rw [found]
    refine ⟨DiagnosticKind.mem_stoppingShape quiet last, .ofParts ?_ ?_⟩
    · intro d member
      simp [quiet d member]
    · rcases last with rfl | ⟨d, rfl, -⟩
      · exact .inl (by simp)
      · exact .inr ⟨d, rfl⟩
  | false =>
    obtain ⟨before, after, found, going, last⟩ := c.readInput_keepGoing config lines
    rw [found]
    refine ⟨DiagnosticKind.mem_keepGoingShape going last, .ofParts ?_ ?_⟩
    · intro d member
      rcases going d member with kind | kind | kind <;> simp [kind]
    · exact last.imp_right fun ⟨d, one, _⟩ => ⟨d, one⟩

end TokenScopes
