import TokenScopes.Proofs.Checker.Recording

namespace TokenScopes

namespace Verifier

/-- The verdicts on the tokens of a line, as far as they are checked. -/
def verdicts (v : Verifier) (line : Text) (stopAtFirst : Bool) : List Token → List Bool
  | [] => []
  | token :: rest =>
    match v.check line token with
    | (true, next) => true :: next.verdicts line stopAtFirst rest
    | (false, next) =>
      false :: if stopAtFirst || !next.isAligned then [] else next.verdicts line stopAtFirst rest

/-- The verdicts on the tokens of lines from a number on, as far as the lines are checked. -/
def lineVerdicts (v : Verifier) (number : Nat) : List Line → List (List Bool)
  | [] => []
  | line :: rest =>
    (v.atLine (some number)).verdicts line.text v.config.stopOnMismatch line.tokens ::
      match v.checkLine line.text line.tokens (some number) v.config.stopOnMismatch with
      | (passed, next) =>
        if !passed && v.config.stopOnMismatch then [] else next.lineVerdicts (number + 1) rest

/-- Checks tokens one after the other, whatever the verdicts. -/
def checkEach (v : Verifier) (line : Text) (tokens : List Token) : Verifier :=
  tokens.foldl (fun v token => (v.check line token).2) v

/-- A line is checked up to its last verdict, and passes when no verdict rejects. -/
theorem checkTokens_eq_verdicts (v : Verifier) (line : Text) (stopAtFirst : Bool)
    (tokens : List Token) :
    v.checkTokens line stopAtFirst tokens =
      ((v.verdicts line stopAtFirst tokens).all id,
        v.checkEach line (tokens.take (v.verdicts line stopAtFirst tokens).length)) := by
  induction tokens generalizing v with
  | nil => rfl
  | cons token rest ih =>
    have each (n : Nat) : v.checkEach line ((token :: rest).take (n + 1)) =
        (v.check line token).2.checkEach line (rest.take n) := rfl
    rw [checkTokens, verdicts]
    cases outcome : v.check line token with
    | mk accepted next =>
      rw [outcome] at each
      cases accepted with
      | true => simp only [List.length_cons, each, ih next, List.all_cons, id_eq, Bool.true_and]
      | false =>
        cases ends : stopAtFirst || !next.isAligned with
        | true =>
          have one := each 0
          simp only [ends, if_true, List.length_cons, List.length_nil, one, List.take_zero]
          rfl
        | false =>
          simp only [ends, Bool.false_eq_true, if_false, List.length_cons, each, ih next,
            List.all_cons, id_eq, Bool.false_and]

end Verifier

namespace Cursor

/-- The verdicts of reading texts. -/
def verdicts (config : Config) (stopAtFirst : Bool) (c : Cursor) : List Lexeme → List Bool
  | [] => []
  | x :: rest =>
    let r := c.read config x
    r.accepted ::
      if r.accepted || (!stopAtFirst && r.isAligned) then
        r.cursor.verdicts config stopAtFirst rest
      else []

def lineVerdicts (config : Config) (stop : Bool) (c : Cursor) :
    List (List Lexeme) → List (List Bool)
  | [] => []
  | xs :: rest =>
    let r := c.readAll config stop xs
    c.verdicts config stop xs ::
      if !r.accepted && stop then [] else r.cursor.lineVerdicts config stop rest

end Cursor

namespace Verifier

variable (v : Verifier)

theorem verdicts_eq (line : Text) (stopAtFirst : Bool) (tokens : List Token) :
    v.verdicts line stopAtFirst tokens =
      v.cursor.verdicts v.config stopAtFirst (tokens.map (·.lexeme line)) := by
  induction tokens generalizing v with
  | nil => rfl
  | cons token rest ih =>
    rw [verdicts, List.map_cons, Cursor.verdicts, check_eq]
    cases accepted : (v.cursor.read v.config (token.lexeme line)).accepted with
    | true => simp only [ih, after_config, after_cursor, Bool.true_or, if_true]
    | false =>
      obtain ⟨d, found, -⟩ := (v.cursor.read_judged v.config (token.lexeme line)).rejected accepted
      have aligned := v.isAligned_after _ (List.ne_nil_of_mem found)
      simp only [aligned, ih, after_config, after_cursor, Bool.false_or]
      cases stopAtFirst <;>
        cases (v.cursor.read v.config (token.lexeme line)).isAligned <;> rfl

/-- The verdicts of a verifier on lines are those of its cursor. -/
theorem lineVerdicts_eq (number : Nat) (lines : List Line) (h : v.log.line = none) :
    v.lineVerdicts number lines =
      v.cursor.lineVerdicts v.config v.config.stopOnMismatch (lines.map Line.lexemes) := by
  induction lines generalizing v number with
  | nil => rfl
  | cons line rest ih =>
    have next (r : Reading) := ih (v.after r) (number + 1) (by simpa using h)
    have here := (v.atLine (some number)).verdicts_eq line.text v.config.stopOnMismatch line.tokens
    rw [lineVerdicts, here, checkLine_eq v _ _ _ _ h, List.map_cons, Cursor.lineVerdicts]
    simp only [next]
    rfl

/-- Lines are checked to the end when nothing stops, or when no verdict rejects. -/
theorem checkLines_eq_verdicts (number : Nat) (lines : List Line) (h : v.log.line = none) :
    (v.checkLines number lines).1 =
      (!v.config.stopOnMismatch || (v.lineVerdicts number lines).all (·.all id)) := by
  induction lines generalizing v number with
  | nil => simp [checkLines, lineVerdicts]
  | cons line rest ih =>
    have here : (v.checkLine line.text line.tokens (some number) v.config.stopOnMismatch).1 =
        ((v.atLine (some number)).verdicts line.text v.config.stopOnMismatch line.tokens).all id :=
      congrArg Prod.fst (checkTokens_eq_verdicts _ _ _ _)
    rw [checkLines, lineVerdicts, List.all_cons, ← here, checkLine_eq v _ _ _ _ h]
    generalize v.cursor.readAll v.config v.config.stopOnMismatch
      (line.tokens.map (·.lexeme line.text)) = r
    have later := ih (v.after (r.numbered (some number))) (number + 1) (by simpa using h)
    rw [after_config] at later
    cases r.accepted <;> cases stop : v.config.stopOnMismatch <;> simp [later, stop]

end Verifier

namespace Case

/-- The verdicts on the tokens of a case, line by line. -/
def verdicts (c : Case) (config : Config) : Except SpecFault (List (List Bool)) :=
  (Spec.spans c.spec).map fun spans => (Verifier.start config spans false).lineVerdicts 1 c.lines

theorem verdicts_eq (c : Case) (config : Config) :
    c.verdicts config = (Spec.spans c.spec).map fun spans =>
      (Cursor.start spans config.rootScope).lineVerdicts config config.stopOnMismatch
        (c.lines.map Line.lexemes) := by
  have each (spans : List Span) :=
    (Verifier.start config spans false).lineVerdicts_eq 1 c.lines rfl
  rw [verdicts]
  congr 1
  funext spans
  exact each spans

end Case

end TokenScopes
