import TokenScopes.Proofs.Checker.Order

namespace TokenScopes

open Diagnostic

/-- What is found on one line before it is numbered. -/
structure Reading.OneLine (r : Reading) : Prop where
  unplaced : ∀ d ∈ r.found, d.lineNumber = none
  ends : r.found.Pairwise fun d _ => d.kind = .stackDiscipline ∨ d.kind = .scopeMismatch

/-- What is found on `count` lines from line `first` on. -/
structure Reading.Placed (first count : Nat) (r : Reading) : Prop where
  placed : ∀ d ∈ r.found, ∃ n : Nat, d.lineNumber = some (n : Int) ∧ first ≤ n ∧ n < first + count
  ascending : r.found.Pairwise fun d e =>
    ∃ m n : Int, d.lineNumber = some m ∧ e.lineNumber = some n ∧ m ≤ n
  ends : r.found.Pairwise fun d e =>
    d.kind = .contentMismatch ∨ d.kind = .exhaustedSpecs → e.lineNumber ≠ d.lineNumber

namespace Reading

variable {r next : Reading}

theorem OneLine.ofTold (h : Told r) : OneLine r := by
  have quiet (ms : List CloseMismatch) : ∀ d ∈ ms.map ofCloseMismatch, d.lineNumber = none := by
    intro d member
    obtain ⟨m, -, rfl⟩ := List.mem_map.mp member
    rfl
  have harmless (ms : List CloseMismatch) : (ms.map ofCloseMismatch).Pairwise fun d _ =>
      d.kind = .stackDiscipline ∨ d.kind = .scopeMismatch :=
    List.pairwise_of_forall_mem_list fun _ member _ _ => .inl (kind_of_mem_mismatches member)
  cases h with
  | accepted c n ms => exact ⟨quiet ms, harmless ms⟩
  | @rejected c n ms d kind line ended =>
    constructor
    · exact List.forall_mem_append.mpr ⟨quiet ms, List.forall_mem_singleton.mpr line⟩
    · refine List.pairwise_append.mpr ⟨harmless ms, List.pairwise_singleton _ _, ?_⟩
      exact fun e member _ _ => .inl (kind_of_mem_mismatches member)

/-- A line goes on only after what keeps spans and tokens aligned. -/
theorem Told.aligned (h : Told r) (on : r.accepted = true ∨ r.isAligned = true) :
    ∀ d ∈ r.found, d.kind = .stackDiscipline ∨ d.kind = .scopeMismatch := by
  cases h with
  | accepted c n ms => exact fun d member => .inl (kind_of_mem_mismatches member)
  | @rejected c n ms d kind line ended =>
    have last : d.kind = .scopeMismatch := by simpa [isAligned] using on
    refine List.forall_mem_append.mpr ⟨?_, List.forall_mem_singleton.mpr (.inr last)⟩
    exact fun e member => .inl (kind_of_mem_mismatches member)

theorem OneLine.append (h : OneLine r) (k : OneLine next)
    (aligned : ∀ d ∈ r.found, d.kind = .stackDiscipline ∨ d.kind = .scopeMismatch) :
    OneLine (r ++ next) where
  unplaced := List.forall_mem_append.mpr ⟨h.unplaced, k.unplaced⟩
  ends := List.pairwise_append.mpr ⟨h.ends, k.ends, fun d member _ _ => aligned d member⟩

theorem OneLine.placed (h : OneLine r) (number : Nat) :
    Placed number 1 (r.numbered (some (number : Int))) := by
  have here {d : Diagnostic} (member : d ∈ r.found) :
      (d.numbered (some (number : Int))).lineNumber = some (number : Int) := by
    simp [Diagnostic.numbered, h.unplaced d member]
  constructor
  · refine List.forall_mem_map.mpr fun d member => ?_
    exact ⟨number, here member, Nat.le_refl _, Nat.lt_succ_self _⟩
  · refine List.pairwise_map.mpr (List.pairwise_of_forall_mem_list fun d first e second => ?_)
    exact ⟨_, _, here first, here second, Int.le_refl _⟩
  · refine List.pairwise_map.mpr (h.ends.imp fun {d _} harmless failed => ?_)
    have kind : d.kind = .contentMismatch ∨ d.kind = .exhaustedSpecs := failed
    rcases harmless with stack | scopes
    · simp [stack] at kind
    · simp [scopes] at kind

variable {first count count' : Nat}

theorem Placed.nothing (c : Cursor) : Placed first count { accepted := true, cursor := c } :=
  ⟨by simp, .nil, .nil⟩

theorem Placed.widen (h : Placed first count r) (more : count ≤ count') :
    Placed first count' r where
  placed := by
    intro d member
    obtain ⟨n, line, above, below⟩ := h.placed d member
    exact ⟨n, line, above, by omega⟩
  ascending := h.ascending
  ends := h.ends

/-- Behind some lines the numbers go on where they ended. -/
theorem Placed.append (h : Placed first count r) (k : Placed (first + count) count' next) :
    Placed first (count + count') (r ++ next) := by
  have apart {d e : Diagnostic} (hd : d ∈ r.found) (he : e ∈ next.found) :
      ∃ m n : Nat, d.lineNumber = some (m : Int) ∧ e.lineNumber = some (n : Int) ∧ m < n := by
    obtain ⟨m, line, -, below⟩ := h.placed d hd
    obtain ⟨n, line', above, -⟩ := k.placed e he
    exact ⟨m, n, line, line', by omega⟩
  constructor
  · refine List.forall_mem_append.mpr ⟨(h.widen (Nat.le_add_right _ _)).placed, ?_⟩
    intro d member
    obtain ⟨n, line, above, below⟩ := k.placed d member
    exact ⟨n, line, by omega, by omega⟩
  · refine List.pairwise_append.mpr ⟨h.ascending, k.ascending, fun d hd e he => ?_⟩
    obtain ⟨m, n, line, line', less⟩ := apart hd he
    exact ⟨m, n, line, line', by omega⟩
  · refine List.pairwise_append.mpr ⟨h.ends, k.ends, fun d hd e he _ => ?_⟩
    obtain ⟨m, n, line, line', less⟩ := apart hd he
    rw [line, line', ne_eq, Option.some_inj]
    omega

theorem closing_unplaced (stop : Bool) (r : Reading) : ∀ d ∈ r.closing stop,
    d.lineNumber = none ∧ (d.kind = .stackDiscipline ∨ d.kind = .unconsumedSpecs) := by
  intro d member
  obtain ⟨ms, left, found, last⟩ := r.cursor.readEnd_found
  rw [closing, found] at member
  split_ifs at member
  · rcases List.mem_append.mp member with member | member
    · obtain ⟨m, -, rfl⟩ := List.mem_map.mp member
      exact ⟨rfl, .inl rfl⟩
    · rcases last with rfl | ⟨first, rest, rfl⟩
      · simp at member
      · rw [List.mem_singleton.mp member]
        exact ⟨rfl, .inr rfl⟩
  · simp at member

end Reading

/-- What a run finds on its lines and at its end. -/
structure Shaped (stop : Bool) (lineCount : Nat) (onLines atEnd : List Diagnostic) : Prop where
  kinds : (onLines ++ atEnd).map (·.kind) ∈ (DiagnosticKind.shape stop).matches'
  order : InOrder (onLines ++ atEnd)
  placed : ∀ d ∈ onLines, ∃ n : Nat, d.lineNumber = some (n : Int) ∧ 1 ≤ n ∧ n ≤ lineCount
  ascending : onLines.Pairwise fun d e =>
    ∃ m n : Int, d.lineNumber = some m ∧ e.lineNumber = some n ∧ m ≤ n
  unplaced : ∀ d ∈ atEnd, d.lineNumber = none ∧
    (d.kind = .stackDiscipline ∨ d.kind = .unconsumedSpecs)
  ends : (onLines ++ atEnd).Pairwise fun d e =>
    d.kind = .contentMismatch ∨ d.kind = .exhaustedSpecs → e.lineNumber ≠ d.lineNumber

namespace Cursor

variable (config : Config) (c : Cursor)

/-- What is found on a line tells nothing behind a failure that ends the line. -/
theorem readAll_oneLine (stop : Bool) (xs : List Lexeme) :
    (c.readAll config stop xs).OneLine := by
  induction xs generalizing c with
  | nil => exact ⟨by simp [readAll], .nil⟩
  | cons x rest ih =>
    have told := c.read_told config x
    rw [readAll]
    split_ifs with on
    · rw [Bool.or_eq_true, Bool.and_eq_true] at on
      exact (Reading.OneLine.ofTold told).append (ih _) (told.aligned (on.imp_right And.right))
    · exact .ofTold told

theorem readLines_placed (stop : Bool) (number : Nat) (lines : List (List Lexeme)) :
    (c.readLines config stop number lines).Placed number lines.length := by
  -- By induction on the lines, each of which is placed under its number.
  induction lines generalizing c number with
  | nil => exact .nothing c
  | cons xs rest ih =>
    have line := (c.readAll_oneLine config stop xs).placed number
    rw [readLines, List.length_cons, Nat.add_comm]
    split_ifs
    · exact line.append (ih _ _)
    · exact line.widen (by omega)

theorem readLines_shaped (stop : Bool) (lines : List (List Lexeme)) :
    Shaped stop lines.length (c.readLines config stop 1 lines).found
      ((c.readLines config stop 1 lines).closing stop) := by
  have placed := c.readLines_placed config stop 1 lines
  have atEnd := (c.readLines config stop 1 lines).closing_unplaced stop
  obtain ⟨kinds, order⟩ := c.readInput_order config stop lines
  rw [readInput_found] at kinds order
  refine ⟨kinds, order, ?_, placed.ascending, atEnd, ?_⟩
  · intro d member
    obtain ⟨n, line, above, below⟩ := placed.placed d member
    exact ⟨n, line, above, by omega⟩
  · refine List.pairwise_append.mpr ⟨placed.ends, ?_, ?_⟩
    · refine List.pairwise_of_forall_mem_list fun d member e _ failed => ?_
      rcases (atEnd d member).2 with kind | kind <;> simp [kind] at failed
    · intro d hd e he _
      obtain ⟨n, line, -⟩ := placed.placed d hd
      rw [line, (atEnd e he).1]
      exact (Option.some_ne_none _).symm

end Cursor

namespace Case

def linesReading (c : Case) (config : Config) (spans : List Span) : Reading :=
  (Cursor.start spans config.rootScope).readLines config config.stopOnMismatch 1
    (c.lines.map Line.lexemes)

theorem reading_found (c : Case) (config : Config) (spans : List Span) :
    (c.reading config spans).found = (c.linesReading config spans).found ++
      (c.linesReading config spans).closing config.stopOnMismatch :=
  Cursor.readInput_found _ _ _ _

theorem checkLines_linesReading (c : Case) (config : Config) (spans : List Span) (echoes : Bool) :
    (Verifier.start config spans echoes).checkLines 1 c.lines =
      ((c.linesReading config spans).accepted || !config.stopOnMismatch,
        (Verifier.start config spans echoes).after (c.linesReading config spans)) :=
  Verifier.checkLines_eq _ _ _ rfl

/-- The diagnostics of a check are those of its lines, in the order of their numbers, and those of
its end, which have none; the mode of the check decides which kinds may follow each other. -/
theorem diagnostics_shaped {c : Case} {config : Config} {echoes : Bool} {result : CaseResult}
    {echoed : List Text} (returns : c.check config echoes = .ok (result, echoed)) :
    ∃ (spans : List Span) (completed : Bool) (lined : Verifier) (atEnd : List Diagnostic),
      Spec.spans c.spec = .ok spans ∧
      (Verifier.start config spans echoes).checkLines 1 c.lines = (completed, lined) ∧
      (if completed then lined.finish.2.log.entries = lined.log.entries ++ atEnd else atEnd = []) ∧
      result.diagnostics = lined.log.entries ++ atEnd ∧
      Shaped config.stopOnMismatch c.lines.length lined.log.entries atEnd := by
  have recorded {v : Verifier} (h : v.log.line = none) (r : Reading) :
      (v.after r).log.entries = v.log.entries ++ r.found := by simp [h]
  cases spec : Spec.spans c.spec with
  | error fault => simp [check_eq, spec, Except.map] at returns
  | ok spans =>
    have diagnostics : result.diagnostics = (c.reading config spans).found := by
      rw [check_eq, spec] at returns
      rw [← (Prod.mk.inj (Except.ok.inj returns)).1]
      rfl
    have shaped := (Cursor.start spans config.rootScope).readLines_shaped config
      config.stopOnMismatch (c.lines.map Line.lexemes)
    rw [List.length_map] at shaped
    have entries : ((Verifier.start config spans echoes).after
        (c.linesReading config spans)).log.entries = (c.linesReading config spans).found :=
      recorded rfl _
    refine ⟨spans, _, _, (c.linesReading config spans).closing config.stopOnMismatch, rfl,
      c.checkLines_linesReading config spans echoes, ?_, ?_, ?_⟩
    · rw [Verifier.finish_eq, recorded (by simp [Verifier.start]), Reading.closing]
      split_ifs
      · rfl
      · rfl
    · rw [diagnostics, reading_found, entries]
    · rw [entries]
      exact shaped

def overlong : Case where
  name := "overlong"
  lines := [⟨"ab", [.covering 0 1 ["source"], .covering 1 1 ["source", "b"]]⟩,
    ⟨"c", [.covering 0 1 ["source"]]⟩]
  spec := [.span { source := "a", closes := ["block"] }, .span { source := "b" }]

/-- Two tokens on a line, and a third on the next, for which no span is left. -/
theorem overlong_diagnostics_shaped :
    ∃ result echoed, overlong.check { stopOnMismatch := false } true = .ok (result, echoed) ∧
      result.diagnostics.map (fun d => (d.kind, d.lineNumber)) =
        [(.stackDiscipline, some 1), (.scopeMismatch, some 1), (.exhaustedSpecs, some 2)] ∧
      ∃ (spans : List Span) (completed : Bool) (lined : Verifier) (atEnd : List Diagnostic),
        Spec.spans overlong.spec = .ok spans ∧
        (Verifier.start { stopOnMismatch := false } spans true).checkLines 1 overlong.lines =
          (completed, lined) ∧
        (if completed then lined.finish.2.log.entries = lined.log.entries ++ atEnd
          else atEnd = []) ∧
        result.diagnostics = lined.log.entries ++ atEnd ∧
        Shaped false overlong.lines.length lined.log.entries atEnd :=
  ⟨_, _, rfl, by decide +kernel, diagnostics_shaped rfl⟩

end Case

end TokenScopes
