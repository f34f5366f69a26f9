import TokenScopes.Proofs.Checker.Accounting
import TokenScopes.Proofs.Checker.KeepGoing

namespace TokenScopes

/-- The places of a walk where a text stands. -/
def textVisits (stack : List Text) (spans : List Span) : List Visit :=
  (walk stack spans).filter (!·.span.isZeroWidth)

/-- Tokens that say what visits expect, one to one and in order. -/
structure Matches (config : Config) (vs : List Visit) (xs : List Lexeme) : Prop where
  texts : vs.map (·.span.source) = xs.map (·.text)
  scopes : ∀ pair ∈ vs.zip xs, config.compared pair.1.path = config.compared pair.2.scopes

namespace Matches

variable {config : Config} {v : Visit} {vs : List Visit} {x : Lexeme} {xs : List Lexeme}

theorem nil_iff : Matches config vs [] ↔ vs = [] := by
  constructor
  · intro h
    simpa using h.texts
  · rintro rfl
    exact ⟨rfl, by simp⟩

theorem not_of_nil : ¬Matches config [] (x :: xs) := by
  intro h
  simpa using h.texts

theorem cons_iff : Matches config (v :: vs) (x :: xs) ↔
    v.span.source = x.text ∧ config.compared v.path = config.compared x.scopes ∧
      Matches config vs xs := by
  constructor
  · rintro ⟨texts, scopes⟩
    simp only [List.map_cons, List.cons.injEq] at texts
    have head := scopes (v, x) (by simp)
    exact ⟨texts.1, head, texts.2, fun pair member => scopes pair (by simp [member])⟩
  · rintro ⟨text, path, texts, scopes⟩
    refine ⟨by simp [text, texts], fun pair member => ?_⟩
    rcases List.mem_cons.mp member with rfl | member
    · exact path
    · exact scopes pair member

end Matches

namespace Cursor

variable (config : Config) (c : Cursor)

/-- What is still to come suits the tokens that are still to come. -/
def Admits (xs : List Lexeme) : Prop :=
  Matches config (textVisits c.stack.path c.remaining) (xs.filter (!·.isBlank))

theorem textVisits_cons (stack : List Text) {span : Span} (rest : List Span)
    (text : span.isZeroWidth = false) :
    textVisits stack (span :: rest) =
      visit stack span :: textVisits (visit stack span).left rest := by
  have here : (visit stack span).span.isZeroWidth = false := text
  simp only [textVisits, walk, List.filter_cons, here, Bool.not_false, if_true]

theorem textVisits_of_zeroWidth (stack : List Text) (spans : List Span)
    (h : ∀ span ∈ spans, span.isZeroWidth = true) : textVisits stack spans = [] := by
  rw [textVisits, List.filter_eq_nil_iff]
  intro v member
  have span : v.span ∈ spans := by
    rw [← map_span_walk stack spans]
    exact List.mem_map_of_mem member
  simp [h v.span span]

/-- A flush passes no place where a text stands. -/
theorem textVisits_flush :
    textVisits c.flush.1.stack.path c.flush.1.remaining = textVisits c.stack.path c.remaining := by
  conv_rhs => rw [← c.boundary_append_remaining, textVisits, walk_append, List.filter_append]
  rw [flush_path]
  have boundary := textVisits_of_zeroWidth c.stack.path c.boundary
    fun _ => c.isZeroWidth_of_mem_boundary
  rw [textVisits] at boundary
  rw [boundary, List.nil_append, textVisits]

/-- So what is still to come suits tokens after a flush when it did before. -/
theorem admits_flush (xs : List Lexeme) : c.flush.1.Admits config xs ↔ c.Admits config xs := by
  rw [Admits, Admits, textVisits_flush]

/-- Blank tokens need no text. -/
theorem admits_cons_blank {x : Lexeme} (blank : x.isBlank = true) (xs : List Lexeme) :
    c.Admits config (x :: xs) ↔ c.Admits config xs := by
  simp [Admits, blank]

theorem readText_admits {x : Lexeme} (blank : x.isBlank = false) (xs : List Lexeme)
    (front : ∀ span rest, c.remaining = span :: rest → span.isZeroWidth = false) :
    c.Admits config (x :: xs) ↔
      (c.readText config x).accepted = true ∧ (c.readText config x).cursor.Admits config xs := by
  have outcome := c.readText_outcome config x
  generalize c.readText config x = r at outcome
  have kept : (x :: xs).filter (!·.isBlank) = x :: xs.filter (!·.isBlank) :=
    List.filter_cons_of_pos (by simp [blank])
  have here {span : Span} {rest : List Span} (spans : c.remaining = span :: rest) :
      c.Admits config (x :: xs) ↔ span.source = x.text ∧
        config.compared (visit c.stack.path span).path = config.compared x.scopes ∧
        Matches config (textVisits (visit c.stack.path span).left rest)
          (xs.filter (!·.isBlank)) := by
    rw [Admits, spans, kept, textVisits_cons _ _ (front span rest spans), Matches.cons_iff]
    rfl
  cases outcome with
  | exhausted spans =>
    rw [Admits, spans, kept]
    exact iff_of_false Matches.not_of_nil (by simp)
  | wrongText spans text => simp [here spans, text]
  | accepted spans text scopes =>
    rw [here spans, Admits]
    simp [text, scopes]
  | wrongScopes spans text scopes => simp [here spans, scopes]

/-- The step: a token is accepted, and what is behind it suits the tokens that follow. -/
theorem read_admits (x : Lexeme) (xs : List Lexeme) :
    c.Admits config (x :: xs) ↔
      (c.read config x).accepted = true ∧ (c.read config x).cursor.Admits config xs := by
  cases blank : x.isBlank with
  | true =>
    rw [admits_cons_blank config c blank, ← admits_flush config c, read, if_pos blank]
    simp [passing]
  | false =>
    rw [← admits_flush config c, c.flush.1.readText_admits config blank xs
      fun _ _ h => c.flush_front h, read, if_neg (by simp [blank])]
    simp [passing]

theorem readAll_admits (stopAtFirst : Bool) (xs ys : List Lexeme) :
    c.Admits config (xs ++ ys) ↔
      (c.readAll config stopAtFirst xs).accepted = true ∧
        (c.readAll config stopAtFirst xs).cursor.Admits config ys := by
  induction xs generalizing c with
  | nil => simp [readAll]
  | cons x rest ih =>
    rw [List.cons_append, read_admits, ih, readAll]
    cases accepted : (c.read config x).accepted with
    | true => simp [accepted]
    | false =>
      split_ifs
      · simp [accepted]
      · simp [accepted]

/-- The whole input, by induction on its lines. In what lines they stand does not count. -/
theorem readLines_admits (stop : Bool) (number : Nat) (lines : List (List Lexeme))
    (ys : List Lexeme) :
    c.Admits config (lines.flatten ++ ys) ↔
      (c.readLines config stop number lines).accepted = true ∧
        (c.readLines config stop number lines).cursor.Admits config ys := by
  induction lines generalizing c number with
  | nil => simp [readLines]
  | cons xs rest ih =>
    rw [List.flatten_cons, List.append_assoc, readAll_admits config c stop, readLines]
    cases accepted : (c.readAll config stop xs).accepted with
    | true =>
      rw [if_pos (by simp [Reading.numbered, accepted])]
      simp only [Reading.append_accepted, Reading.append_cursor, Reading.numbered, accepted,
        Bool.true_and, true_and]
      exact ih _ _
    | false =>
      split_ifs
      · simp [Reading.numbered, accepted]
      · simp [Reading.numbered, accepted]

theorem readEnd_cursor : c.readEnd.cursor = c.flush.1 := by
  rw [readEnd]
  split <;> rfl

/-- The end of the input is accepted when no text is left. -/
theorem readEnd_accepted : c.readEnd.accepted = true ↔ c.flush.1.remaining = [] := by
  cases spans : c.flush.1.remaining with
  | nil => simp only [readEnd, spans, List.filter_nil, List.map_nil, passing,
      Reading.append_accepted, Bool.and_self]
  | cons span rest =>
    have kept : (span :: rest).filter (!·.isZeroWidth) = span :: rest.filter (!·.isZeroWidth) :=
      List.filter_cons_of_pos (by simp [c.flush_front spans])
    simp only [readEnd, spans, kept, List.map_cons, Reading.append_accepted, Bool.and_false,
      Bool.false_eq_true, reduceCtorEq]

theorem readEnd_admits : c.Admits config [] ↔ c.readEnd.accepted = true := by
  rw [← admits_flush config c, Admits, List.filter_nil, Matches.nil_iff, readEnd_accepted]
  cases spans : c.flush.1.remaining with
  | nil => simp [textVisits, walk]
  | cons span rest => simp [textVisits_cons _ _ (c.flush_front spans)]

/-- An input is accepted exactly when the specification suits its tokens. -/
theorem readInput_accepted_iff (stop : Bool) (lines : List (List Lexeme)) :
    (c.readInput config stop lines).accepted = true ↔ c.Admits config lines.flatten := by
  have all := c.readLines_admits config stop 1 lines []
  rw [List.append_nil, readEnd_admits] at all
  rw [all, readInput]
  cases accepted : (c.readLines config stop 1 lines).accepted with
  | true => simp [accepted]
  | false =>
    split_ifs
    · simp [accepted]
    · simp [accepted]

theorem readEnd_accepted_iff :
    c.readEnd.accepted = true ↔ ∀ d ∈ c.readEnd.found, d.kind = .stackDiscipline := by
  rw [readEnd]
  split
  · simp [passing]
  · simp [passing, Diagnostic.unconsumed]

/-- An input is accepted exactly when nothing but mismatches of the stack is found. -/
theorem readInput_accepted_iff_found (stop : Bool) (lines : List (List Lexeme)) :
    (c.readInput config stop lines).accepted = true ↔
      ∀ d ∈ (c.readInput config stop lines).found, d.kind = .stackDiscipline := by
  rw [readInput]
  cases accepted : (c.readLines config stop 1 lines).accepted with
  | true =>
    have before := (c.readLines_judged config stop 1 lines).quiet accepted
    simp only [accepted, Bool.true_or, if_true, Reading.append_accepted, Reading.append_found,
      Bool.true_and, readEnd_accepted_iff, List.forall_mem_append]
    exact ⟨fun later => ⟨before, later⟩, fun all => all.2⟩
  | false =>
    obtain ⟨d, found, rejection⟩ := (c.readLines_judged config stop 1 lines).rejected accepted
    have other := DiagnosticKind.ne_stackDiscipline rejection
    split_ifs
    · simp only [Reading.append_accepted, accepted, Bool.false_and, Bool.false_eq_true, false_iff]
      intro all
      exact other (all d (List.mem_append_left _ found))
    · simp only [accepted, Bool.false_eq_true, false_iff]
      intro all
      exact other (all d found)

/-- An accepted input consumes all spans, so it finds what the walk over all of them finds. -/
theorem readInput_mismatches (stop : Bool) (lines : List (List Lexeme))
    (h : (c.readInput config stop lines).accepted = true) :
    (c.readInput config stop lines).found.map Diagnostic.unnumbered =
      (walkMismatches c.stack.path c.remaining).map Diagnostic.ofCloseMismatch := by
  obtain ⟨ps, accounts⟩ := c.readInput_accounts config stop lines
  have discipline := (c.readInput_accepted_iff_found config stop lines).mp h
  have remaining : (c.readInput config stop lines).cursor.remaining = [] := by
    rw [readInput] at h ⊢
    split_ifs at h ⊢ with completed
    · rw [Reading.append_cursor, readEnd_cursor]
      exact (readEnd_accepted _).mp (Bool.and_eq_true_iff.mp h).2
    · simp [h] at completed
  have all : ofKind .stackDiscipline (c.readInput config stop lines).found =
      (c.readInput config stop lines).found := by
    rw [ofKind, List.filter_eq_self]
    intro d member
    simp [discipline d member]
  have contents : ofKind .contentMismatch (c.readInput config stop lines).found = [] := by
    rw [ofKind, List.filter_eq_nil_iff]
    intro d member
    simp [discipline d member]
  -- Without a content mismatch nothing was skipped, so all spans were applied.
  have skips := accounts.skips
  rw [contents, List.forall₂_nil_right_iff, Passage.left, List.map_eq_nil_iff,
    List.filter_eq_nil_iff] at skips
  have applied : Passage.applied ps = c.remaining := by
    rw [accounts.spans, remaining, List.append_nil, Passage.applied]
    congr 1
    rw [List.filter_eq_self]
    intro p member
    simpa using skips p member
  have mismatches := accounts.mismatches
  rw [all, applied] at mismatches
  exact mismatches

end Cursor

namespace Case

def texts (c : Case) : List Lexeme :=
  (c.lines.flatMap Line.lexemes).filter (!·.isBlank)

theorem passed_resultOf (c : Case) (config : Config) (r : Reading) :
    (c.resultOf config r).passed = true ↔
      (∀ d ∈ r.found, d.kind = .stackDiscipline) ∧
        (config.failOnStackError = true → r.found = []) := by
  simp only [resultOf, Bool.not_eq_true', List.any_eq_false, Bool.or_eq_true, not_or,
    Bool.not_eq_true, bne_eq_false_iff_eq]
  constructor
  · intro all
    refine ⟨fun d member => (all d member).2, fun strict => ?_⟩
    by_contra something
    obtain ⟨d, member⟩ := List.exists_mem_of_ne_nil _ something
    exact absurd strict (by simp [(all d member).1])
  · rintro ⟨discipline, strict⟩ d member
    refine ⟨?_, discipline d member⟩
    by_contra counts
    rw [Bool.not_eq_false] at counts
    simp [strict counts] at member

/-- A case passes exactly when its tokens match the texts of the walk over its specification and,
if that counts, each span closes names that end its stack. -/
theorem passed_iff_matches (c : Case) (config : Config) (echoes : Bool) (spans : List Span)
    (normalized : Spec.spans c.spec = .ok spans) :
    ∃ result echoed, c.check config echoes = .ok (result, echoed) ∧
      (result.passed = true ↔
        Matches config (textVisits [config.rootScope] spans) c.texts ∧
          (config.failOnStackError = true →
            ∀ v ∈ walk [config.rootScope] spans, v.span.closes <:+ v.stack)) := by
  refine ⟨_, _, by rw [check_eq, normalized]; rfl, ?_⟩
  have admitted := (Cursor.start spans config.rootScope).readInput_accepted_iff config
    config.stopOnMismatch (c.lines.map Line.lexemes)
  have found := (Cursor.start spans config.rootScope).readInput_accepted_iff_found config
    config.stopOnMismatch (c.lines.map Line.lexemes)
  have mismatches := (Cursor.start spans config.rootScope).readInput_mismatches config
    config.stopOnMismatch (c.lines.map Line.lexemes)
  rw [passed_resultOf, ← walkMismatches_eq_nil_iff]
  rw [← List.flatMap_def] at admitted
  rw [reading, ← found]
  constructor
  · rintro ⟨accepted, strict⟩
    refine ⟨admitted.mp accepted, fun counts => ?_⟩
    have silent := mismatches accepted
    rw [strict counts] at silent
    exact List.map_eq_nil_iff.mp silent.symm
  · rintro ⟨matched, strict⟩
    have accepted := admitted.mpr matched
    refine ⟨accepted, fun counts => ?_⟩
    have silent := mismatches accepted
    rw [show walkMismatches (Cursor.start spans config.rootScope).stack.path
      (Cursor.start spans config.rootScope).remaining = [] from strict counts] at silent
    exact List.map_eq_nil_iff.mp silent

def block : Case where
  name := "block"
  lines := [⟨"int ", [⟨0, 3, ["source", "block", "type.c"], by decide⟩, ⟨3, 4, [], by decide⟩]⟩]
  spec := [.span { opens := ["block.cpp"] },
    .map [(.text "source", .text "int"), (.text "scopes", .ofTexts ["type"]),
      (.text "scopesEnd", .ofTexts ["block.cpp"])]]

def blockSpans : List Span :=
  [{ opens := ["block.cpp"] }, { source := "int", scopes := ["type"], closes := ["block.cpp"] }]

/-- A block that a boundary opens and the span of its text closes. -/
theorem block_passed_iff_matches :
    Spec.spans block.spec = .ok blockSpans ∧
      ∃ result echoed, block.check {} true = .ok (result, echoed) ∧
        (result.passed = true ↔
          Matches {} (textVisits ["source"] blockSpans) block.texts ∧
            (({} : Config).failOnStackError = true →
              ∀ v ∈ walk ["source"] blockSpans, v.span.closes <:+ v.stack)) :=
  ⟨rfl, passed_iff_matches block {} true blockSpans rfl⟩

end Case

end TokenScopes
