import TokenScopes.Proofs.Checker.Shape
import TokenScopes.Proofs.Checker.Verdicts

namespace TokenScopes

/-- A token that is rejected is told of by its text. -/
theorem Cursor.read_tokenText (config : Config) (c : Cursor) (x : Lexeme) {d : Diagnostic}
    (found : d ∈ (c.read config x).found) (kind : d.kind.isRejection = true) :
    d.tokenText = x.text := by
  have quiet {ms : List CloseMismatch} (member : d ∈ ms.map Diagnostic.ofCloseMismatch) : False :=
    DiagnosticKind.ne_stackDiscipline kind (kind_of_mem_mismatches member)
  rw [read] at found
  split_ifs at found
  · exact (quiet found).elim
  · have outcome := c.flush.1.readText_outcome config x
    generalize c.flush.1.readText config x = r at outcome found
    rcases List.mem_append.mp found with found | found
    · exact (quiet found).elim
    · cases outcome with
      | exhausted | wrongText => rw [List.mem_singleton.mp found]; rfl
      | accepted => exact (quiet found).elim
      | wrongScopes =>
        rcases List.mem_append.mp found with found | found
        · exact (quiet found).elim
        · rw [List.mem_singleton.mp found]
          rfl

namespace Verifier

/-- A token is rejected with a diagnostic. It is recorded last, and only mismatches of the stack are
recorded with it. -/
structure Rejects (v : Verifier) (line : Text) (token : Token) (d : Diagnostic) : Prop where
  rejected : (v.check line token).1 = false
  kind : d.kind.isRejection = true
  text : d.tokenText = token.textOn line
  recorded : ∃ reports, (∀ e ∈ reports, e.kind = .stackDiscipline) ∧
    (v.check line token).2.log.entries = v.log.entries ++ reports ++ [d]

/-- The check of a token ends its line: any rejection does when the first is to stop it, else only
one after which spans and tokens are not aligned. -/
def EndsLine (v : Verifier) (line : Text) (stopAtFirst : Bool) (token : Token) : Prop :=
  (v.check line token).1 = false ∧
    (stopAtFirst = true ∨
      ∃ d, v.Rejects line token d ∧ (d.kind = .contentMismatch ∨ d.kind = .exhaustedSpecs))

/-- The state in which the token at a place is checked, if all before it are. -/
def before (v : Verifier) (line : Text) (tokens : List Token) (n : Nat) : Verifier :=
  v.checkEach line (tokens.take n)

/-- Of tokens that are checked one after the other the one at a place ends the line. -/
def EndsAt (v : Verifier) (line : Text) (stopAtFirst : Bool) (tokens : List Token) (n : Nat) :
    Prop :=
  ∃ token, tokens[n]? = some token ∧ (v.before line tokens n).EndsLine line stopAtFirst token

/-- As many tokens of a line are checked as it takes to come to the first that ends the line, that
one included; all of them if none does. -/
def Feeds (v : Verifier) (line : Text) (stopAtFirst : Bool) (tokens : List Token) (count : Nat) :
    Prop :=
  (∃ n, v.EndsAt line stopAtFirst tokens n ∧ (∀ m < n, ¬v.EndsAt line stopAtFirst tokens m) ∧
      count = n + 1) ∨
    (∀ n, ¬v.EndsAt line stopAtFirst tokens n) ∧ count = tokens.length

variable {v : Verifier} {line : Text} {token : Token}

theorem Rejects.getLast? {d : Diagnostic} (h : v.Rejects line token d) :
    (v.check line token).2.log.entries.getLast? = some d := by
  obtain ⟨reports, -, recorded⟩ := h.recorded
  rw [recorded, List.getLast?_concat]

/-- A rejected token is told of, after what is wrong with the stack. -/
theorem exists_rejects (rejected : (v.check line token).1 = false) :
    ∃ d, v.Rejects line token d := by
  have told := v.cursor.read_told v.config (token.lexeme line)
  have text (d : Diagnostic) := @Cursor.read_tokenText v.config v.cursor (token.lexeme line) d
  have checked := v.check_eq line token
  generalize v.cursor.read v.config (token.lexeme line) = r at told text checked
  cases told with
  | accepted c n ms =>
    rw [checked] at rejected
    cases rejected
  | @rejected c n ms d kind _ _ =>
    have named : d.tokenText = token.textOn line :=
      text d (List.mem_append_right _ (List.mem_singleton_self d)) kind
    have quiet (e : Diagnostic) (member : e ∈ ms.map Diagnostic.ofCloseMismatch) :
        e.kind = .stackDiscipline := kind_of_mem_mismatches member
    refine ⟨d.numbered v.log.line, rejected, kind, named,
      (ms.map Diagnostic.ofCloseMismatch).map (·.numbered v.log.line), ?_, ?_⟩
    · exact List.forall_mem_map.mpr quiet
    · rw [checked]
      simp

/-- The last diagnostic is that of the token, and says whether the line goes on. -/
theorem endsLine_iff (stopAtFirst : Bool) :
    v.EndsLine line stopAtFirst token ↔ (v.check line token).1 = false ∧
      (stopAtFirst || !(v.check line token).2.isAligned) = true := by
  refine and_congr_right fun rejected => ?_
  obtain ⟨d, rejects⟩ := exists_rejects rejected
  have only {e : Diagnostic} (other : v.Rejects line token e) : e = d := by
    have last := other.getLast?
    rw [rejects.getLast?] at last
    exact (Option.some.inj last).symm
  have aligned : (v.check line token).2.isAligned = (d.kind == .scopeMismatch) := by
    rw [isAligned, rejects.getLast?]
    rfl
  rw [aligned, Bool.or_eq_true, Bool.not_eq_true', beq_eq_false_iff_ne]
  refine or_congr_right ⟨?_, fun other => ⟨d, rejects, ?_⟩⟩
  · rintro ⟨e, other, kind⟩
    rw [← only other]
    rcases kind with kind | kind <;> simp [kind]
  · rcases d.kind.isRejection_iff.mp rejects.kind with content | scopes | many
    · exact .inl content
    · exact absurd scopes other
    · exact .inr many

variable {stopAtFirst : Bool} {rest : List Token}

theorem endsAt_zero :
    v.EndsAt line stopAtFirst (token :: rest) 0 ↔ v.EndsLine line stopAtFirst token := by
  simp [EndsAt, before, checkEach]

/-- Whether a later token ends the line is asked behind the first. -/
theorem endsAt_succ (n : Nat) :
    v.EndsAt line stopAtFirst (token :: rest) (n + 1) ↔
      (v.check line token).2.EndsAt line stopAtFirst rest n := Iff.rfl

theorem Feeds.stop (ends : v.EndsLine line stopAtFirst token) :
    v.Feeds line stopAtFirst (token :: rest) 1 :=
  .inl ⟨0, endsAt_zero.mpr ends, by simp, rfl⟩

theorem Feeds.goOn {count : Nat} (on : ¬v.EndsLine line stopAtFirst token)
    (h : (v.check line token).2.Feeds line stopAtFirst rest count) :
    v.Feeds line stopAtFirst (token :: rest) (count + 1) := by
  have first : ¬v.EndsAt line stopAtFirst (token :: rest) 0 := fun ends => on (endsAt_zero.mp ends)
  rcases h with ⟨n, here, earlier, length⟩ | ⟨nowhere, length⟩
  · refine .inl ⟨n + 1, (endsAt_succ n).mpr here, fun m less => ?_, by rw [length]⟩
    cases m with
    | zero => exact first
    | succ m =>
      rw [endsAt_succ]
      exact earlier m (Nat.lt_of_succ_lt_succ less)
  · refine .inr ⟨fun n => ?_, by rw [length, List.length_cons]⟩
    cases n with
    | zero => exact first
    | succ n =>
      rw [endsAt_succ]
      exact nowhere n

/-- There is a verdict on each token up to the first that ends the line. -/
theorem feeds_verdicts (v : Verifier) (line : Text) (stopAtFirst : Bool) (tokens : List Token) :
    v.Feeds line stopAtFirst tokens (v.verdicts line stopAtFirst tokens).length := by
  induction tokens generalizing v with
  | nil => exact .inr ⟨by simp [EndsAt], rfl⟩
  | cons token rest ih =>
    have ends := @endsLine_iff v line token stopAtFirst
    have later := ih (v.check line token).2
    rw [verdicts]
    cases checked : v.check line token with
    | mk accepted next =>
      obtain rfl : (v.check line token).2 = next := by rw [checked]
      obtain rfl : (v.check line token).1 = accepted := by rw [checked]
      -- An accepted token never ends its line, a rejected one as its last diagnostic has it.
      cases accepted : (v.check line token).1 with
      | true => exact .goOn (by simp [ends, accepted]) later
      | false =>
        cases stops : stopAtFirst || !(v.check line token).2.isAligned with
        | true =>
          simp only [stops, if_true]
          exact .stop (ends.mpr ⟨accepted, stops⟩)
        | false =>
          simp only [stops, Bool.false_eq_true, if_false]
          exact .goOn (by simp [ends, stops]) later

/-- What the check of a line does: it checks as many tokens as `count` says and adds diagnostics. -/
structure LineCheck (v : Verifier) (line : Text) (tokens : List Token) (number : Option Int)
    (stopAtFirst : Bool) (count : Nat) (added : List Diagnostic) : Prop where
  verdicts : ((v.atLine number).verdicts line stopAtFirst tokens).length = count
  feeds : (v.atLine number).Feeds line stopAtFirst tokens count
  state : (v.checkLine line tokens number stopAtFirst).2 =
    ((v.atLine number).before line tokens count).atLine none
  rejects : ∀ n token, n < count → tokens[n]? = some token →
    (((v.atLine number).before line tokens n).check line token).1 = false →
    ∃ d, ((v.atLine number).before line tokens n).Rejects line token d ∧
      (((v.atLine number).before line tokens n).check line token).2.log.entries.getLast? = some d
  entries : (v.checkLine line tokens number stopAtFirst).2.log.entries = v.log.entries ++ added
  passes : (v.checkLine line tokens number stopAtFirst).1 = true ↔
    ∀ d ∈ added, d.kind = .stackDiscipline
  numbered : ∀ d ∈ added, d.lineNumber = number
  unnumbered : (v.checkLine line tokens number stopAtFirst).2.log.line = none

/-- In any state the check of a line feeds exactly the tokens up to the first that ends the line. It
passes when nothing but mismatches of the stack is added, numbers what it adds and leaves no number
behind. -/
theorem checkLine_stops (v : Verifier) (line : Text) (tokens : List Token) (number : Option Int)
    (stopAtFirst : Bool) :
    ∃ count added, v.LineCheck line tokens number stopAtFirst count added := by
  have placed := v.cursor.readAll_oneLine v.config stopAtFirst (tokens.map (·.lexeme line))
  have judged := Reading.Judged.composable.readAll (Cursor.read_judged v.config) v.cursor
    stopAtFirst (tokens.map (·.lexeme line))
  have run : v.checkLine line tokens number stopAtFirst =
      ((v.cursor.readAll v.config stopAtFirst (tokens.map (·.lexeme line))).accepted,
        ((v.atLine number).after
          (v.cursor.readAll v.config stopAtFirst (tokens.map (·.lexeme line)))).atLine none) := by
    rw [checkLine, checkTokens_eq]
    rfl
  generalize v.cursor.readAll v.config stopAtFirst (tokens.map (·.lexeme line)) = r at *
  refine ⟨_, r.found.map (·.numbered number), rfl, feeds_verdicts _ _ _ _, ?_,
    fun n token _ _ rejected => ?_, ?_, ?_, ?_, rfl⟩
  · rw [checkLine, checkTokens_eq_verdicts]
    rfl
  · obtain ⟨d, rejects⟩ := exists_rejects rejected
    exact ⟨d, rejects, rejects.getLast?⟩
  · rw [run]
    exact DiagnosticLog.recordAll_entries _ _
  · rw [run]
    have quiet := (judged.numbered number).quiet
    have rejected := (judged.numbered number).rejected
    cases accepted : r.accepted with
    | true => exact iff_of_true rfl (quiet accepted)
    | false =>
      refine iff_of_false Bool.false_ne_true fun silent => ?_
      obtain ⟨d, member, rejection⟩ := rejected accepted
      exact DiagnosticKind.ne_stackDiscipline rejection (silent d member)
  · refine List.forall_mem_map.mpr fun d member => ?_
    simp [Diagnostic.numbered, placed.unplaced d member]

end Verifier

end TokenScopes
