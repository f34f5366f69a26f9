import TokenScopes.Proofs.Scope.Walk

namespace TokenScopes

namespace ScopeStack

def passNext (passed : ScopeStack × List CloseMismatch) (span : Span) :
    ScopeStack × List CloseMismatch :=
  let closed := (passed.1.opened span.opens).close span.closes
  (closed.1, passed.2 ++ closed.2)

/-- Opens and closes the scopes of spans one after the other: the stack in the end, and the mismatches
on the way. -/
def passAll (s : ScopeStack) (spans : List Span) : ScopeStack × List CloseMismatch :=
  spans.foldl passNext (s, [])

theorem path_injective : Function.Injective path := by
  intro s t same
  have entries : s.fromTop = t.fromTop := by
    rw [fromTop_eq_reverse_path, same, ← fromTop_eq_reverse_path]
  cases s
  exact congrArg ScopeStack.mk entries

/-- Spans that are passed one after the other are walked over. -/
theorem foldl_passNext (passed : ScopeStack × List CloseMismatch) (spans : List Span) :
    (spans.foldl passNext passed).1.path = stackAfter passed.1.path spans ∧
      (spans.foldl passNext passed).2 = passed.2 ++ walkMismatches passed.1.path spans := by
  induction spans generalizing passed with
  | nil => exact ⟨rfl, (List.append_nil _).symm⟩
  | cons span rest ih =>
    obtain ⟨stack, mismatches⟩ := ih (passNext passed span)
    have here : (passNext passed span).1.path = (visit passed.1.path span).left :=
      path_pass passed.1 span
    have now : (passNext passed span).2 = passed.2 ++ (visit passed.1.path span).mismatches :=
      congrArg (passed.2 ++ ·) (pass_mismatches passed.1 span)
    rw [here] at stack mismatches
    rw [now, List.append_assoc, ← walkMismatches_cons] at mismatches
    exact ⟨stack, mismatches⟩

end ScopeStack

namespace Cursor

variable {c d : Cursor} {span : Span} {spans : List Span} {reports : List CloseMismatch}

/-- The loop in closed form: it passes the spans without text at the front. -/
theorem flush_eq (c : Cursor) :
    c.flush = (⟨c.position + c.boundary.length, c.remaining.dropWhile Span.isZeroWidth,
      (c.stack.passAll c.boundary).1⟩, (c.stack.passAll c.boundary).2) := by
  obtain ⟨path, mismatches⟩ := ScopeStack.foldl_passNext (c.stack, []) c.boundary
  have stack : c.flush.1.stack = (c.stack.passAll c.boundary).1 :=
    ScopeStack.path_injective (c.flush_path.trans path.symm)
  have reports : c.flush.2 = (c.stack.passAll c.boundary).2 :=
    c.flush_mismatches.trans mismatches.symm
  rw [← stack, ← reports, ← flush_position, ← flush_remaining]

/-- Rounds of a flush, with the spans they pass and the mismatches they report. -/
inductive Rounds : Cursor → List Span → List CloseMismatch → Cursor → Prop
  | done (c : Cursor) : Rounds c [] [] c
  | next {c d : Cursor} {span : Span} {spans : List Span} {reports : List CloseMismatch}
    (front : c.peek? = some span) (zero : span.isZeroWidth = true)
    (later : Rounds (c.advance.pass span).1 spans reports d) :
    Rounds c (span :: spans) ((c.advance.pass span).2 ++ reports) d

/-- A flush begins with the round that can be taken, if there is one. -/
theorem flush_next (front : c.peek? = some span) (zero : span.isZeroWidth = true) :
    c.boundary = span :: (c.advance.pass span).1.boundary ∧
      c.flush = ((c.advance.pass span).1.flush.1,
        (c.advance.pass span).2 ++ (c.advance.pass span).1.flush.2) := by
  obtain ⟨position, remaining, stack⟩ := c
  obtain ⟨rest, rfl⟩ := List.head?_eq_some_iff.mp front
  constructor
  · exact List.takeWhile_cons_of_pos zero
  · rw [flush, flushFrom, if_pos zero]
    rfl

/-- Whatever rounds were taken, the flush goes on from where they led. -/
theorem Rounds.flush (h : Rounds c spans reports d) :
    c.boundary = spans ++ d.boundary ∧ c.flush = (d.flush.1, reports ++ d.flush.2) := by
  induction h with
  | done c => exact ⟨rfl, rfl⟩
  | next front zero _ ih =>
    obtain ⟨run, rest⟩ := flush_next front zero
    rw [run, rest, ih.1, ih.2, List.append_assoc]
    exact ⟨rfl, rfl⟩

theorem rounds_boundary (c : Cursor) : Rounds c c.boundary c.flush.2 c.flush.1 := by
  generalize left : c.remaining = remaining
  -- By induction on the spans at the front, each of which is one round.
  induction remaining generalizing c with
  | nil =>
    rw [boundary, left, c.flush_of_nil left]
    exact .done c
  | cons span rest ih =>
    cases zero : span.isZeroWidth with
    | true =>
      have front : c.peek? = some span := by rw [peek?, left, List.head?_cons]
      have behind : (c.advance.pass span).1.remaining = rest := by simp only [pass, advance, left]
      obtain ⟨run, flushed⟩ := flush_next front zero
      rw [run, flushed]
      exact .next front zero (ih _ behind)
    | false =>
      rw [boundary, left, List.takeWhile_cons_of_neg (by simp [zero]), c.flush_of_text left zero]
      exact .done c

/-- A flush splits the spans that are left into the run of those without text at the front and a rest
that starts with a text, if it is not empty. It moves behind the run, and to the stack and the reports
of passing it span by span. Rounds that can be taken are always rounds on the way there, so there are
no more of them than the run has spans; and a second flush changes nothing. -/
theorem flush_passes_run (c : Cursor) :
    ∃ run rest : List Span, c.remaining = run ++ rest ∧ (∀ span ∈ run, span.isZeroWidth = true) ∧
      (∀ span ∈ rest.head?, span.isZeroWidth = false) ∧
      c.flush = (⟨c.position + run.length, rest, (c.stack.passAll run).1⟩,
        (c.stack.passAll run).2) ∧
      (∀ spans reports d, Rounds c spans reports d →
        ∃ later more, Rounds d later more c.flush.1 ∧ run = spans ++ later ∧
          c.flush.2 = reports ++ more) ∧
      c.flush.1.flush = (c.flush.1, []) := by
  refine ⟨c.boundary, c.remaining.dropWhile Span.isZeroWidth, ?_, ?_, ?_, c.flush_eq, ?_,
    c.flush_flush⟩
  · exact List.takeWhile_append_dropWhile.symm
  · exact fun span => c.isZeroWidth_of_mem_boundary
  · intro span front
    obtain ⟨rest, split⟩ := List.head?_eq_some_iff.mp front
    exact c.flush_front (c.flush_remaining.trans split)
  · intro spans reports d rounds
    obtain ⟨run, flushed⟩ := rounds.flush
    rw [run, flushed]
    exact ⟨d.boundary, d.flush.2, d.rounds_boundary, rfl, rfl⟩

def openBlock : Span := ⟨"", ["meta.block"], [], []⟩

def strayClose : Cursor :=
  Cursor.start [openBlock, ⟨"", [], [], ["meta.group"]⟩, ⟨"x", [], [], []⟩] "source"

/-- After a scope was opened, another is closed, all before the first text. -/
theorem strayClose_second_round :
    Rounds strayClose [openBlock] [] (strayClose.advance.pass openBlock).1 ∧
      ∃ later more, Rounds (strayClose.advance.pass openBlock).1 later more strayClose.flush.1 ∧
        more = [⟨"meta.group", some "meta.block"⟩] := by
  obtain ⟨run, rest, -, -, -, -, rounds, -⟩ := flush_passes_run strayClose
  have first : Rounds strayClose [openBlock] [] (strayClose.advance.pass openBlock).1 :=
    .next rfl rfl (.done _)
  obtain ⟨later, more, further, -, reports⟩ := rounds _ _ _ first
  exact ⟨first, later, more, further, reports.symm⟩

end Cursor

end TokenScopes
