import TokenScopes.Proofs.Checker.Recording

namespace TokenScopes

/-- One reading breaks off where another goes on: they are the same and accept, or both reject. -/
inductive Reading.Cut (short long : Reading) : Prop
  | whole (accepted : short.accepted = true) (same : long = short)
  | broken (rejected : short.accepted = false) (alike : long.accepted = false)
    (found : short.found <+: long.found) (counted : short.counted ≤ long.counted)

namespace Reading.Cut

variable {short long : Reading}

theorem refl (r : Reading) : Cut r r := by
  cases h : r.accepted with
  | true => exact .whole h rfl
  | false => exact .broken h h (List.prefix_refl _) (Nat.le_refl _)

theorem numbered (h : Cut short long) (number : Option Int) :
    Cut (short.numbered number) (long.numbered number) := by
  cases h with
  | whole accepted same => exact .whole accepted (by rw [same])
  | broken rejected alike found counted => exact .broken rejected alike (found.map _) counted

/-- What is read before the cut is read twice alike. -/
theorem append_left (r : Reading) (h : Cut short long) : Cut (r ++ short) (r ++ long) := by
  cases h with
  | whole accepted same => exact same ▸ refl _
  | broken rejected alike found counted =>
    refine .broken ?_ ?_ ?_ ?_
    · simp [rejected]
    · simp [alike]
    · exact (List.prefix_append_right_inj _).mpr found
    · exact Nat.add_le_add_left counted _

/-- What follows a rejected reading keeps it cut. -/
theorem append_right (h : Cut short long) (rejected : short.accepted = false) (next : Reading) :
    Cut short (long ++ next) := by
  cases h with
  | whole accepted same => simp [rejected] at accepted
  | broken rejected alike found counted =>
    refine .broken rejected ?_ ?_ ?_
    · simp [alike]
    · exact found.trans (List.prefix_append _ _)
    · exact counted.trans (Nat.le_add_right _ _)

end Reading.Cut

namespace Cursor

variable (config : Config) (c : Cursor)

theorem readAll_withStop (stop stopAtFirst : Bool) (xs : List Lexeme) :
    c.readAll { config with stopOnMismatch := stop } stopAtFirst xs =
      c.readAll config stopAtFirst xs := by
  induction xs generalizing c with
  | nil => rfl
  | cons x rest ih =>
    have head : c.read { config with stopOnMismatch := stop } x = c.read config x := rfl
    simp only [readAll, head, ih]

theorem readLines_withStop (stop stopAtFirst : Bool) (number : Nat) (lines : List (List Lexeme)) :
    c.readLines { config with stopOnMismatch := stop } stopAtFirst number lines =
      c.readLines config stopAtFirst number lines := by
  induction lines generalizing c number with
  | nil => rfl
  | cons xs rest ih => simp only [readLines, readAll_withStop, ih]

/-- On one line the stopping run reads nothing behind a rejected token. -/
theorem readAll_cut (xs : List Lexeme) :
    Reading.Cut (c.readAll config true xs) (c.readAll config false xs) := by
  induction xs generalizing c with
  | nil => exact .refl _
  | cons x rest ih =>
    cases accepted : (c.read config x).accepted with
    | true =>
      simp only [readAll, accepted, Bool.true_or, if_true]
      exact (ih _).append_left _
    | false =>
      simp only [readAll, accepted, Bool.false_or, Bool.not_true, Bool.false_and, Bool.not_false,
        Bool.true_and, Bool.false_eq_true, if_false]
      -- One run ends here; whether the other goes on depends on the kind of the failure.
      split_ifs
      · exact (Reading.Cut.refl _).append_right accepted _
      · exact .refl _

theorem readLines_cut (number : Nat) (lines : List (List Lexeme)) :
    Reading.Cut (c.readLines config true number lines) (c.readLines config false number lines) := by
  -- By induction on the lines. The one on which a token is rejected cuts the rest.
  induction lines generalizing c number with
  | nil => exact .refl _
  | cons xs rest ih =>
    have cut := (c.readAll_cut config xs).numbered (some number)
    simp only [readLines, Bool.not_true, Bool.or_false, Bool.not_false, Bool.or_true, if_true]
    cases cut with
    | whole accepted same =>
      rw [same, if_pos accepted]
      exact (ih _ _).append_left _
    | broken rejected alike found counted =>
      rw [if_neg (by simp [rejected])]
      exact (Reading.Cut.broken rejected alike found counted).append_right rejected _

/-- The two readings of an input are one, or the stopping one found a rejection and the other
extends it. -/
theorem readInput_stop_or_extend (lines : List (List Lexeme)) :
    c.readInput config false lines = c.readInput config true lines ∨
      (∃ d ∈ (c.readInput config true lines).found, d.kind.isRejection = true) ∧
        (c.readInput config true lines).found <+: (c.readInput config false lines).found ∧
        (c.readInput config true lines).counted ≤ (c.readInput config false lines).counted := by
  have cut := c.readLines_cut config 1 lines
  simp only [readInput, Bool.not_true, Bool.or_false, Bool.not_false, Bool.or_true, if_true]
  cases cut with
  | whole accepted same =>
    left
    rw [same, if_pos accepted]
  | broken rejected alike found counted =>
    right
    rw [if_neg (by simp [rejected])]
    refine ⟨(c.readLines_judged config true 1 lines).rejected rejected, ?_, ?_⟩
    · exact found.trans (List.prefix_append _ _)
    · exact counted.trans (Nat.le_add_right _ _)

end Cursor

namespace Case

theorem reading_withStop (c : Case) (config : Config) (stop : Bool) (spans : List Span) :
    c.reading { config with stopOnMismatch := stop } spans =
      (Cursor.start spans config.rootScope).readInput config stop (c.lines.map Line.lexemes) := by
  simp only [reading, Cursor.readInput, Cursor.readLines_withStop]

/-- A rejection fails a case, however stack mismatches count. -/
theorem not_passed_of_rejection {c : Case} {config : Config} {r : Reading} {d : Diagnostic}
    (found : d ∈ r.found) (rejection : d.kind.isRejection = true) :
    (c.resultOf config r).passed = false := by
  have other := DiagnosticKind.ne_stackDiscipline rejection
  simp only [resultOf, Bool.not_eq_false', List.any_eq_true]
  exact ⟨d, found, by simp [other]⟩

/-- A check that goes on after failures extends one that stops at the first; when the stopping one
rejects no token, they are the same. -/
theorem keepGoing_extends_stopping (c : Case) (config : Config) (echoes : Bool) :
    (∃ fault,
      c.check { config with stopOnMismatch := true } echoes = .error fault ∧
      c.check { config with stopOnMismatch := false } echoes = .error fault) ∨
    ∃ short shortEcho long longEcho,
      c.check { config with stopOnMismatch := true } echoes = .ok (short, shortEcho) ∧
      c.check { config with stopOnMismatch := false } echoes = .ok (long, longEcho) ∧
      short.passed = long.passed ∧
      short.diagnostics <+: long.diagnostics ∧
      shortEcho <+: longEcho ∧
      short.tokensChecked ≤ long.tokensChecked ∧
      ((∀ d ∈ short.diagnostics, d.kind ≠ .contentMismatch ∧ d.kind ≠ .scopeMismatch ∧
          d.kind ≠ .exhaustedSpecs) →
        short = long ∧ shortEcho = longEcho) := by
  cases spec : Spec.spans c.spec with
  | error fault => exact .inl ⟨fault, by simp [check_eq, spec, Except.map], by
      simp [check_eq, spec, Except.map]⟩
  | ok spans =>
    right
    simp only [check_eq, spec, Except.map, reading_withStop]
    refine ⟨_, _, _, _, rfl, rfl, ?_⟩
    rcases (Cursor.start spans config.rootScope).readInput_stop_or_extend config
      (c.lines.map Line.lexemes) with same | ⟨⟨d, found, rejection⟩, extends_, counted⟩
    · rw [same]
      exact ⟨rfl, List.prefix_refl _, List.prefix_refl _, Nat.le_refl _, fun _ => ⟨rfl, rfl⟩⟩
    · refine ⟨?_, extends_, ?_, counted, ?_⟩
      · rw [not_passed_of_rejection found rejection,
          not_passed_of_rejection (extends_.subset found) rejection]
      · obtain ⟨more, appended⟩ := extends_
        cases echoes with
        | false => exact List.prefix_refl _
        | true => simp [← appended]
      · intro quiet
        rcases d.kind.isRejection_iff.mp rejection with kind | kind | kind
        · exact absurd kind (quiet d found).1
        · exact absurd kind (quiet d found).2.1
        · exact absurd kind (quiet d found).2.2

end Case

end TokenScopes
