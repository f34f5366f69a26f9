import TokenScopes.Checker.Cursor
import TokenScopes.Proofs.Scope.Stack

namespace TokenScopes

/-- A span with the stack its text stands on: what it opens is there, what it closes still is. -/
structure Visit where
  span : Span
  stack : List Text

namespace Visit

def path (v : Visit) : List Text :=
  v.stack ++ v.span.scopes

def left (v : Visit) : List Text :=
  v.stack.rdrop v.span.closes.length

def mismatches (v : Visit) : List CloseMismatch :=
  closeMismatches v.stack v.span.closes

end Visit

def visit (stack : List Text) (span : Span) : Visit :=
  ⟨span, stack ++ span.opens⟩

def walk (stack : List Text) : List Span → List Visit
  | [] => []
  | span :: rest => visit stack span :: walk (visit stack span).left rest

def stackAfter (stack : List Text) (spans : List Span) : List Text :=
  spans.foldl (fun current span => (visit current span).left) stack

def walkMismatches (stack : List Text) (spans : List Span) : List CloseMismatch :=
  (walk stack spans).flatMap Visit.mismatches

/-- A walk goes on from the stack its first part leaves. -/
theorem walk_append (stack : List Text) (before after : List Span) :
    walk stack (before ++ after) = walk stack before ++ walk (stackAfter stack before) after := by
  induction before generalizing stack with
  | nil => rfl
  | cons span rest ih => exact congrArg (visit stack span :: ·) (ih _)

theorem stackAfter_append (stack : List Text) (before after : List Span) :
    stackAfter stack (before ++ after) = stackAfter (stackAfter stack before) after :=
  List.foldl_append

theorem walkMismatches_append (stack : List Text) (before after : List Span) :
    walkMismatches stack (before ++ after) =
      walkMismatches stack before ++ walkMismatches (stackAfter stack before) after := by
  simp [walkMismatches, walk_append]

@[simp] theorem walkMismatches_nil (stack : List Text) : walkMismatches stack [] = [] := rfl

theorem walkMismatches_cons (stack : List Text) (span : Span) (rest : List Span) :
    walkMismatches stack (span :: rest) =
      (visit stack span).mismatches ++ walkMismatches (visit stack span).left rest :=
  List.flatMap_cons

theorem map_span_walk (stack : List Text) (spans : List Span) :
    (walk stack spans).map Visit.span = spans := by
  induction spans generalizing stack with
  | nil => rfl
  | cons span rest ih => exact congrArg (span :: ·) (ih _)

/-- A walk is silent exactly when each span closes names that end its stack. -/
theorem walkMismatches_eq_nil_iff (stack : List Text) (spans : List Span) :
    walkMismatches stack spans = [] ↔ ∀ v ∈ walk stack spans, v.span.closes <:+ v.stack := by
  simp only [walkMismatches, List.flatMap_eq_nil_iff, Visit.mismatches, closeMismatches_eq_nil_iff]

namespace ScopeStack

/-- A stack that passes a span is left as the walk leaves it. -/
@[simp] theorem path_pass (s : ScopeStack) (span : Span) :
    (s.pass span).1.path = (visit s.path span).left := by
  simp [pass, visit, Visit.left]

@[simp] theorem pass_mismatches (s : ScopeStack) (span : Span) :
    (s.pass span).2 = (visit s.path span).mismatches := by
  simp [pass, visit, Visit.mismatches]

@[simp] theorem pathOn_eq (s : ScopeStack) (suffixes : List Text) (span : Span) :
    s.pathOn suffixes span = Scope.stripDecorations suffixes (visit s.path span).path := by
  simp [pathOn, visit, Visit.path]

end ScopeStack

namespace Cursor

/-- The spans that a flush passes. -/
def boundary (c : Cursor) : List Span :=
  c.remaining.takeWhile Span.isZeroWidth

theorem flushFrom_spec (position : Nat) (s : ScopeStack) (spans : List Span) :
    (flushFrom position s spans).1.position =
        position + (spans.takeWhile Span.isZeroWidth).length ∧
      (flushFrom position s spans).1.remaining = spans.dropWhile Span.isZeroWidth ∧
      (flushFrom position s spans).1.stack.path =
        stackAfter s.path (spans.takeWhile Span.isZeroWidth) ∧
      (flushFrom position s spans).2 =
        walkMismatches s.path (spans.takeWhile Span.isZeroWidth) := by
  -- By induction on the spans: a flush walks over those without text at the front.
  induction spans generalizing position s with
  | nil => exact ⟨rfl, rfl, rfl, rfl⟩
  | cons span rest ih =>
    by_cases zero : span.isZeroWidth
    · obtain ⟨position_eq, remaining_eq, stack_eq, mismatches_eq⟩ := ih (position + 1) (s.pass span).1
      simp only [flushFrom, zero, if_true, List.takeWhile_cons, List.dropWhile_cons,
        List.length_cons, position_eq, remaining_eq, stack_eq, mismatches_eq,
        ScopeStack.pass_mismatches, ScopeStack.path_pass, walkMismatches_cons]
      refine ⟨by omega, trivial, rfl, trivial⟩
    · simp [flushFrom, zero, stackAfter]

variable (c : Cursor)

@[simp] theorem flush_position : c.flush.1.position = c.position + c.boundary.length :=
  (flushFrom_spec c.position c.stack c.remaining).1

@[simp] theorem flush_remaining : c.flush.1.remaining = c.remaining.dropWhile Span.isZeroWidth :=
  (flushFrom_spec c.position c.stack c.remaining).2.1

@[simp] theorem flush_path : c.flush.1.stack.path = stackAfter c.stack.path c.boundary :=
  (flushFrom_spec c.position c.stack c.remaining).2.2.1

@[simp] theorem flush_mismatches : c.flush.2 = walkMismatches c.stack.path c.boundary :=
  (flushFrom_spec c.position c.stack c.remaining).2.2.2

theorem boundary_append_remaining : c.boundary ++ c.flush.1.remaining = c.remaining := by
  simp [boundary]

theorem isZeroWidth_of_mem_boundary {span : Span} (h : span ∈ c.boundary) : span.isZeroWidth :=
  List.mem_takeWhile_imp h

/-- After a flush a text stands in front. -/
theorem flush_front {span : Span} {rest : List Span} (h : c.flush.1.remaining = span :: rest) :
    span.isZeroWidth = false := by
  rw [flush_remaining] at h
  simpa [h] using List.head?_dropWhile_not Span.isZeroWidth c.remaining

theorem flush_of_text {span : Span} {rest : List Span} (front : c.remaining = span :: rest)
    (visible : span.isZeroWidth = false) : c.flush = (c, []) := by
  obtain ⟨position, remaining, stack⟩ := c
  subst front
  rw [flush, flushFrom, if_neg (by simp [visible])]

theorem flush_of_nil (nothing : c.remaining = []) : c.flush = (c, []) := by
  obtain ⟨position, remaining, stack⟩ := c
  subst nothing
  rfl

/-- After a flush there is nothing to flush. -/
theorem flush_flush : c.flush.1.flush = (c.flush.1, []) := by
  cases left : c.flush.1.remaining with
  | nil => exact c.flush.1.flush_of_nil left
  | cons span rest => exact c.flush.1.flush_of_text left (c.flush_front left)

end Cursor

end TokenScopes
