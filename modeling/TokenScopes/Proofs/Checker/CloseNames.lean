import TokenScopes.Proofs.Checker.Acceptance
import TokenScopes.Proofs.Checker.Order
import TokenScopes.Proofs.Checker.Verdicts

namespace TokenScopes

open Diagnostic

/-- Spans that differ in the names they close, but not in their number. -/
structure Span.ClosesAlike (s t : Span) : Prop where
  source : t.source = s.source
  opens : t.opens = s.opens
  scopes : t.scopes = s.scopes
  count : t.closes.length = s.closes.length

def withoutStack (ds : List Diagnostic) : List Diagnostic :=
  ds.filter (·.kind != .stackDiscipline)

theorem withoutStack_append (ds es : List Diagnostic) :
    withoutStack (ds ++ es) = withoutStack ds ++ withoutStack es :=
  List.filter_append _ _

theorem withoutStack_numbered (ds : List Diagnostic) (number : Option Int) :
    withoutStack (ds.map (·.numbered number)) = (withoutStack ds).map (·.numbered number) := by
  simp only [withoutStack, List.filter_map]
  rfl

@[simp] theorem withoutStack_mismatches (ms : List CloseMismatch) :
    withoutStack (ms.map ofCloseMismatch) = [] := by
  simp [withoutStack]

namespace Span.ClosesAlike

variable {s t : Span}

theorem isZeroWidth (h : ClosesAlike s t) : t.isZeroWidth = s.isZeroWidth := by
  rw [Span.isZeroWidth, Span.isZeroWidth, h.source]

theorem path (h : ClosesAlike s t) (stack : List Text) :
    (visit stack t).path = (visit stack s).path := by
  simp only [visit, Visit.path, h.opens, h.scopes]

theorem left (h : ClosesAlike s t) (stack : List Text) :
    (visit stack t).left = (visit stack s).left := by
  simp only [visit, Visit.left, h.opens, h.count]

/-- Both stacks lose as many entries, whatever the names are. -/
theorem pass (h : ClosesAlike s t) {stack stack' : ScopeStack} (same : stack'.path = stack.path) :
    (stack'.pass t).1.path = (stack.pass s).1.path := by
  rw [ScopeStack.path_pass, ScopeStack.path_pass, same, h.left]

end Span.ClosesAlike

/-- The texts that are left do not depend on what spans close. -/
theorem texts_of_closesAlike {ss ts : List Span} (h : List.Forall₂ Span.ClosesAlike ss ts) :
    (ts.filter (!·.isZeroWidth)).map (·.source) = (ss.filter (!·.isZeroWidth)).map (·.source) := by
  induction h with
  | nil => rfl
  | @cons s t _ _ here _ ih =>
    rw [List.filter_cons, List.filter_cons, here.isZeroWidth]
    cases s.isZeroWidth with
    | true => exact ih
    | false =>
      simp only [Bool.not_false, if_true, List.map_cons, ih, here.source]

/-- Cursors at one place, before spans that differ in the names they close. -/
structure Cursor.Twins (c d : Cursor) : Prop where
  position : d.position = c.position
  remaining : List.Forall₂ Span.ClosesAlike c.remaining d.remaining
  path : d.stack.path = c.stack.path

/-- Readings that differ in the mismatches of the stack alone. -/
structure Reading.Twins (r s : Reading) : Prop where
  accepted : s.accepted = r.accepted
  counted : s.counted = r.counted
  cursor : r.cursor.Twins s.cursor
  found : withoutStack s.found = withoutStack r.found

namespace Reading.Twins

variable {r s r' s' : Reading}

theorem nothing {c d : Cursor} (h : c.Twins d) :
    Twins { accepted := true, cursor := c } { accepted := true, cursor := d } :=
  ⟨rfl, rfl, h, rfl⟩

theorem append (h : Twins r s) (k : Twins r' s') : Twins (r ++ r') (s ++ s') where
  accepted := by rw [append_accepted, append_accepted, h.accepted, k.accepted]
  counted := by rw [append_counted, append_counted, h.counted, k.counted]
  cursor := k.cursor
  found := by
    rw [append_found, append_found, withoutStack_append, withoutStack_append, h.found, k.found]

theorem numbered (h : Twins r s) (number : Option Int) :
    Twins (r.numbered number) (s.numbered number) where
  accepted := h.accepted
  counted := h.counted
  cursor := h.cursor
  found := by
    rw [Reading.numbered, Reading.numbered, withoutStack_numbered, withoutStack_numbered, h.found]

end Reading.Twins

/-- Whether a rejected token leaves spans and tokens aligned does not depend on the mismatches that
were found with it. -/
theorem Reading.Told.isAligned_eq {r : Reading} (h : Told r) (rejected : r.accepted = false) :
    r.isAligned = ((withoutStack r.found).getLast?.map (·.kind) == some .scopeMismatch) := by
  cases h with
  | accepted c n ms => cases rejected
  | @rejected c n ms d kind line exhausted =>
    have other := DiagnosticKind.ne_stackDiscipline kind
    have kept : withoutStack [d] = [d] := List.filter_cons_of_pos (by simp [other])
    rw [isAligned, withoutStack_append, withoutStack_mismatches, kept, List.nil_append,
      List.getLast?_concat, List.getLast?_singleton]

namespace Cursor

variable (config : Config) {c d : Cursor}

/-- A flush of twins: only the mismatches on the way differ. -/
theorem flushFrom_twins {ss ts : List Span} (alike : List.Forall₂ Span.ClosesAlike ss ts)
    (position : Nat) {stack stack' : ScopeStack} (path : stack'.path = stack.path) :
    (flushFrom position stack ss).1.Twins (flushFrom position stack' ts).1 := by
  induction alike generalizing position stack stack' with
  | nil => exact ⟨rfl, .nil, path⟩
  | @cons s t _ _ here later ih =>
    rw [flushFrom, flushFrom, here.isZeroWidth]
    cases s.isZeroWidth with
    | true => exact ih (position + 1) (here.pass path)
    | false => exact ⟨rfl, .cons here later, path⟩

theorem flush_twins (h : c.Twins d) : Reading.Twins (passing c.flush) (passing d.flush) where
  accepted := rfl
  counted := rfl
  cursor := by
    rw [flush, flush, h.position]
    exact flushFrom_twins h.remaining c.position h.path
  found := by rw [passing, passing, withoutStack_mismatches, withoutStack_mismatches]

/-- The text and the path of the front span decide what becomes of a text, and neither depends on the
names it closes. -/
theorem readText_twins (h : c.Twins d) (x : Lexeme) :
    Reading.Twins (c.readText config x) (d.readText config x) := by
  obtain ⟨position, remaining, stack⟩ := c
  obtain ⟨position', remaining', stack'⟩ := d
  obtain ⟨rfl, alike, path⟩ := h
  cases alike with
  | nil => exact ⟨rfl, rfl, ⟨rfl, .nil, path⟩, rfl⟩
  | @cons s t _ _ here later =>
    have passed := here.pass path
    have expected : (visit stack'.path t).path = (visit stack.path s).path := by
      rw [path, here.path]
    simp only [readText, here.source, expected]
    split_ifs
    · exact ⟨rfl, rfl, ⟨rfl, later, passed⟩, by simp [passing]⟩
    · exact ⟨rfl, rfl, ⟨rfl, later, passed⟩, by simp [passing, withoutStack_append]⟩
    · exact ⟨rfl, rfl, ⟨rfl, later, path⟩, rfl⟩

/-- A token has the same verdict before twins and leaves twins behind. -/
theorem read_twins (h : c.Twins d) (x : Lexeme) :
    Reading.Twins (c.read config x) (d.read config x) := by
  have flushed := flush_twins h
  rw [read, read]
  split_ifs
  · exact flushed
  · exact flushed.append (readText_twins config flushed.cursor x)

/-- Both readings of a token go on in the line, or neither does. -/
theorem goesOn_twins (h : c.Twins d) (x : Lexeme) (stopAtFirst : Bool) :
    ((d.read config x).accepted || (!stopAtFirst && (d.read config x).isAligned)) =
      ((c.read config x).accepted || (!stopAtFirst && (c.read config x).isAligned)) := by
  have twins := read_twins config h x
  rw [twins.accepted]
  cases accepted : (c.read config x).accepted with
  | true => rfl
  | false =>
    have rejected : (d.read config x).accepted = false := twins.accepted.trans accepted
    rw [(c.read_told config x).isAligned_eq accepted, (d.read_told config x).isAligned_eq rejected,
      twins.found]

theorem readAll_twins (h : c.Twins d) (stopAtFirst : Bool) (xs : List Lexeme) :
    Reading.Twins (c.readAll config stopAtFirst xs) (d.readAll config stopAtFirst xs) := by
  induction xs generalizing c d with
  | nil => exact .nothing h
  | cons x rest ih =>
    have here := read_twins config h x
    rw [readAll, readAll]
    simp only [goesOn_twins config h]
    split_ifs
    · exact here.append (ih here.cursor)
    · exact here

theorem verdicts_twins (h : c.Twins d) (stopAtFirst : Bool) (xs : List Lexeme) :
    d.verdicts config stopAtFirst xs = c.verdicts config stopAtFirst xs := by
  induction xs generalizing c d with
  | nil => rfl
  | cons x rest ih =>
    have here := read_twins config h x
    have on := goesOn_twins config h x stopAtFirst
    rw [verdicts, verdicts]
    simp only [on, ih here.cursor]
    rw [here.accepted]

theorem readLines_twins (h : c.Twins d) (stop : Bool) (number : Nat) (lines : List (List Lexeme)) :
    Reading.Twins (c.readLines config stop number lines) (d.readLines config stop number lines) := by
  -- By induction on the lines; each of them leaves twins behind.
  induction lines generalizing c d number with
  | nil => exact .nothing h
  | cons xs rest ih =>
    have line := (readAll_twins config h stop xs).numbered (some number)
    rw [readLines, readLines]
    simp only [line.accepted]
    split_ifs
    · exact line.append (ih line.cursor _)
    · exact line

/-- The verdicts of all lines are the same. -/
theorem lineVerdicts_twins (h : c.Twins d) (stop : Bool) (lines : List (List Lexeme)) :
    d.lineVerdicts config stop lines = c.lineVerdicts config stop lines := by
  induction lines generalizing c d with
  | nil => rfl
  | cons xs rest ih =>
    have line := readAll_twins config h stop xs
    rw [lineVerdicts, lineVerdicts]
    simp only [line.accepted, ih line.cursor, verdicts_twins config h]

theorem readEnd_twins (h : c.Twins d) : Reading.Twins c.readEnd d.readEnd := by
  have flushed := flush_twins h
  have texts := texts_of_closesAlike flushed.cursor.remaining
  simp only [passing] at texts
  rw [readEnd, readEnd, texts]
  apply flushed.append
  split
  · exact .nothing flushed.cursor
  · exact ⟨rfl, rfl, flushed.cursor, rfl⟩

theorem readInput_twins (h : c.Twins d) (stop : Bool) (lines : List (List Lexeme)) :
    Reading.Twins (c.readInput config stop lines) (d.readInput config stop lines) := by
  have read := readLines_twins config h stop 1 lines
  rw [readInput, readInput]
  simp only [read.accepted]
  split_ifs
  · exact read.append (readEnd_twins read.cursor)
  · exact read

end Cursor

namespace Case

/-- When mismatches of the stack are tolerated, they are what a case may find and still pass. -/
theorem passed_resultOf_tolerant (c : Case) {config : Config}
    (tolerant : config.failOnStackError = false) (r : Reading) :
    (c.resultOf config r).passed = (withoutStack r.found).isEmpty := by
  simp only [resultOf, tolerant, Bool.false_or]
  rw [Bool.eq_iff_iff, withoutStack, List.isEmpty_iff, List.filter_eq_nil_iff]
  simp

/-- The names that spans close decide what is reported of the stack, and nothing else of a run. -/
theorem check_closesAlike (c : Case) {renamed : List Value} {ss ts : List Span}
    (normal : Spec.spans c.spec = .ok ss) (normal' : Spec.spans renamed = .ok ts)
    (alike : List.Forall₂ Span.ClosesAlike ss ts) (config : Config) (echoes : Bool) :
    ∃ r s echoed echoed', c.check config echoes = .ok (r, echoed) ∧
      Case.check { c with spec := renamed } config echoes = .ok (s, echoed') ∧
      Case.verdicts { c with spec := renamed } config = c.verdicts config ∧
      s.tokensChecked = r.tokensChecked ∧
      withoutStack s.diagnostics = withoutStack r.diagnostics ∧
      (config.failOnStackError = false → s.passed = r.passed) := by
  have start : (Cursor.start ss config.rootScope).Twins (Cursor.start ts config.rootScope) :=
    ⟨rfl, alike, rfl⟩
  have runs : Reading.Twins (c.reading config ss) (c.reading config ts) :=
    Cursor.readInput_twins config start config.stopOnMismatch (c.lines.map Line.lexemes)
  refine ⟨_, _, _, _, by rw [check_eq, normal]; rfl, by rw [check_eq, normal']; rfl, ?_,
    runs.counted, runs.found, fun tolerant => ?_⟩
  · have same := Cursor.lineVerdicts_twins config start config.stopOnMismatch
      (c.lines.map Line.lexemes)
    rw [verdicts_eq, verdicts_eq, normal, normal']
    exact congrArg Except.ok same
  · have found := congrArg List.isEmpty runs.found
    rw [← c.passed_resultOf_tolerant tolerant, ← c.passed_resultOf_tolerant tolerant] at found
    exact found

def misnamedSpans : List Span :=
  [{ opens := ["block.cpp"] }, { source := "int", scopes := ["type"], closes := ["class.cpp"] }]

def tolerant : Config where
  failOnStackError := false

/-- The block closes another scope than it opened. Its verdicts stay, and the wrong name is
reported. -/
theorem block_check_closesAlike :
    Spec.spans block.spec = .ok blockSpans ∧
      Spec.spans (misnamedSpans.map .span) = .ok misnamedSpans ∧
      List.Forall₂ Span.ClosesAlike blockSpans misnamedSpans ∧
      (Case.check { block with spec := misnamedSpans.map .span } tolerant true).map
        (·.1.diagnostics) = .ok [(ofCloseMismatch ⟨"class.cpp", "block.cpp"⟩).numbered (some 1)] ∧
      ∃ r s echoed echoed', block.check tolerant true = .ok (r, echoed) ∧
        Case.check { block with spec := misnamedSpans.map .span } tolerant true =
          .ok (s, echoed') ∧
        Case.verdicts { block with spec := misnamedSpans.map .span } tolerant =
          block.verdicts tolerant ∧
        s.tokensChecked = r.tokensChecked ∧
        withoutStack s.diagnostics = withoutStack r.diagnostics ∧
        (tolerant.failOnStackError = false → s.passed = r.passed) := by
  have normal : Spec.spans block.spec = .ok blockSpans := rfl
  have normal' : Spec.spans (misnamedSpans.map .span) = .ok misnamedSpans := rfl
  have alike : List.Forall₂ Span.ClosesAlike blockSpans misnamedSpans :=
    .cons ⟨rfl, rfl, rfl, rfl⟩ (.cons ⟨rfl, rfl, rfl, by decide⟩ .nil)
  exact ⟨normal, normal', alike, rfl, block.check_closesAlike normal normal' alike tolerant true⟩

end Case

end TokenScopes
