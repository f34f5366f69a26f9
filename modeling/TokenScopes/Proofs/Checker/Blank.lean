import Mathlib.Data.List.Forall2
import TokenScopes.Proofs.Checker.Recording

namespace TokenScopes

namespace Diagnostic

/-- The diagnostic up to the place of a stack mismatch. -/
def unplaced (d : Diagnostic) : Diagnostic :=
  if d.kind = .stackDiscipline then d.unnumbered else d

@[simp] theorem unplaced_kind (d : Diagnostic) : d.unplaced.kind = d.kind := by
  rw [unplaced]
  split_ifs <;> rfl

@[simp] theorem unplaced_unnumbered (d : Diagnostic) : d.unplaced.unnumbered = d.unnumbered := by
  rw [unplaced]
  split_ifs <;> rfl

theorem map_unplaced_numbered (ds : List Diagnostic) (number : Option Int) :
    (ds.map (·.numbered number)).map unplaced =
      (ds.map unplaced).map fun d => (d.numbered number).unplaced := by
  rw [List.map_map, List.map_map]
  apply List.map_congr_left
  intro d member
  by_cases stack : d.kind = .stackDiscipline
  · simp only [Function.comp_apply, unplaced, numbered_kind, stack, if_true, unnumbered_kind]
    rfl
  · simp [unplaced, stack]

theorem map_unplaced_mismatches (ms : List CloseMismatch) (number : Option Int) :
    ((ms.map ofCloseMismatch).map (·.numbered number)).map unplaced =
      (ms.map ofCloseMismatch).map unplaced := by
  simp [unplaced]

end Diagnostic

/-- A cursor is behind another by boundary spans, whose mismatches it still owes. -/
structure Cursor.Lags (behind ahead : Cursor) (owed : List CloseMismatch) : Prop where
  meet : behind.flush.1 = ahead.flush.1
  owes : behind.flush.2 = owed ++ ahead.flush.2

namespace Cursor

namespace Lags

variable {behind ahead c : Cursor} {owed : List CloseMismatch}

theorem refl (c : Cursor) : Lags c c [] := ⟨rfl, rfl⟩

/-- The cursor in front may pass its boundary; the other one owes what it met there. -/
theorem flush_ahead (h : Lags behind ahead owed) :
    Lags behind ahead.flush.1 (owed ++ ahead.flush.2) where
  meet := by rw [flush_flush, h.meet]
  owes := by rw [flush_flush, h.owes, List.append_nil]

end Lags
end Cursor

open Diagnostic

/-- A reading finds what another one finds, with the mismatches that were owed before it and without
those that are owed after it. -/
structure Reading.Trails (owed : List CloseMismatch) (trailing leading : Reading)
    (still : List CloseMismatch) : Prop where
  accepted : trailing.accepted = leading.accepted
  counted : trailing.counted = leading.counted
  cursor : trailing.cursor.Lags leading.cursor still
  found : (trailing.found ++ still.map ofCloseMismatch).map unplaced =
    (owed.map ofCloseMismatch ++ leading.found).map unplaced

namespace Reading.Trails

variable {owed still later : List CloseMismatch} {t l t' l' : Reading}

theorem append (h : Trails owed t l still) (k : Trails still t' l' later) :
    Trails owed (t ++ t') (l ++ l') later where
  accepted := by rw [append_accepted, append_accepted, h.accepted, k.accepted]
  counted := by rw [append_counted, append_counted, h.counted, k.counted]
  cursor := k.cursor
  found := by
    have first := h.found
    have second := k.found
    simp only [append_found, List.map_append, List.append_assoc] at first second ⊢
    rw [second, ← List.append_assoc, first, List.append_assoc]

theorem numbered (h : Trails owed t l still) (number : Option Int) :
    Trails owed (t.numbered number) (l.numbered number) still where
  accepted := h.accepted
  counted := h.counted
  cursor := h.cursor
  found := by
    have same := congrArg (List.map fun d : Diagnostic => (d.numbered number).unplaced) h.found
    rw [← map_unplaced_numbered, ← map_unplaced_numbered] at same
    simpa only [Reading.numbered, List.map_append, map_unplaced_mismatches] using same

theorem refl (r : Reading) : Trails [] r r [] :=
  ⟨rfl, rfl, .refl _, by rw [List.map_nil, List.append_nil, List.nil_append]⟩

/-- Mismatches met in front are owed behind. -/
theorem pass_ahead {c : Cursor} {ms : List CloseMismatch} (h : Trails (owed ++ ms) t l still) :
    Trails owed t (Cursor.passing (c, ms) ++ l) still where
  accepted := by rw [h.accepted, append_accepted, Cursor.passing, Bool.true_and]
  counted := by rw [h.counted, append_counted, Cursor.passing, Nat.zero_add]
  cursor := h.cursor
  found := by
    rw [h.found, append_found, Cursor.passing]
    simp only [List.map_append, List.append_assoc]

theorem isAligned (h : Trails owed t l []) (found : l.found ≠ []) : t.isAligned = l.isAligned := by
  have kinds (ds : List Diagnostic) : ds.getLast?.map (·.kind) =
      (ds.map unplaced).getLast?.map (·.kind) := by
    simp [Option.map_map, Function.comp_def]
  have same := h.found
  rw [List.map_nil, List.append_nil, List.map_append] at same
  rw [Reading.isAligned, Reading.isAligned, kinds, same, kinds l.found,
    List.getLast?_append_of_ne_nil _ (by simpa using found)]

end Reading.Trails

namespace Cursor

variable (config : Config) (stop : Bool) {behind ahead : Cursor} {owed : List CloseMismatch}

/-- At the next flush both cursors have passed the same boundary. -/
theorem passing_trails (h : Lags behind ahead owed) :
    Reading.Trails owed (passing behind.flush) (passing ahead.flush) [] where
  accepted := rfl
  counted := rfl
  cursor := by
    rw [passing, passing, h.meet]
    exact .refl _
  found := by simp only [passing, h.owes, List.map_nil, List.append_nil, List.map_append]

/-- A text finds what is owed; after it the two cursors are one. -/
theorem read_trails (h : Lags behind ahead owed) {x : Lexeme} (text : x.isBlank = false) :
    Reading.Trails owed (behind.read config x) (ahead.read config x) [] := by
  have here := (passing_trails h).append (.refl (ahead.flush.1.readText config x))
  rw [read, read, if_neg (by simp [text]), if_neg (by simp [text]), h.meet]
  exact here

theorem readEnd_trails (h : Lags behind ahead owed) :
    Reading.Trails owed behind.readEnd ahead.readEnd [] := by
  rw [readEnd, readEnd, h.meet]
  exact (passing_trails h).append (.refl _)

/-- Without its blank tokens a line is read alike, and up to a failure that ends it nothing is owed
any more. -/
theorem readAll_trails (h : Lags behind ahead owed) (xs : List Lexeme) :
    ∃ still, Reading.Trails owed (behind.readAll config stop (xs.filter (!·.isBlank)))
        (ahead.readAll config stop xs) still ∧
      (stop = true → (ahead.readAll config stop xs).accepted = false → still = []) := by
  induction xs generalizing behind ahead owed with
  | nil => exact ⟨owed, ⟨rfl, rfl, h, by simp [readAll]⟩, by simp [readAll]⟩
  | cons x rest ih =>
    cases blank : x.isBlank with
    | true =>
      obtain ⟨still, trails, settled⟩ := ih h.flush_ahead
      have passes : ahead.readAll config stop (x :: rest) =
          passing ahead.flush ++ ahead.flush.1.readAll config stop rest := by
        rw [readAll, read, if_pos blank]
        rfl
      rw [List.filter_cons_of_neg (by simp [blank]), passes]
      refine ⟨still, trails.pass_ahead, fun stops rejected => settled stops ?_⟩
      simpa [passing] using rejected
    | false =>
      -- Both readings fail alike, so both of them end here or both go on.
      have here := read_trails config h blank
      have goesOn : ((behind.read config x).accepted ||
            (!stop && (behind.read config x).isAligned)) =
          ((ahead.read config x).accepted || (!stop && (ahead.read config x).isAligned)) := by
        rw [here.accepted]
        cases accepted : (ahead.read config x).accepted with
        | true => rfl
        | false =>
          obtain ⟨d, found, -⟩ := (ahead.read_judged config x).rejected accepted
          rw [here.isAligned (List.ne_nil_of_mem found)]
      rw [List.filter_cons_of_pos (by simp [blank]), readAll, readAll]
      simp only [goesOn]
      split_ifs with on
      · obtain ⟨still, trails, settled⟩ := ih here.cursor
        refine ⟨still, here.append trails, fun stops rejected => settled stops ?_⟩
        rcases (Bool.or_eq_true _ _).mp on with accepted | going
        · rwa [Reading.append_accepted, accepted, Bool.true_and] at rejected
        · simp [stops] at going
      · exact ⟨[], here, fun _ _ => rfl⟩

theorem readLines_trails (h : Lags behind ahead owed) (number : Nat) (lines : List (List Lexeme)) :
    ∃ still, Reading.Trails owed
        (behind.readLines config stop number (lines.map (·.filter (!·.isBlank))))
        (ahead.readLines config stop number lines) still ∧
      (stop = true → (ahead.readLines config stop number lines).accepted = false → still = []) := by
  -- By induction on the lines. What is owed after one of them is carried to the next.
  induction lines generalizing behind ahead owed number with
  | nil => exact ⟨owed, ⟨rfl, rfl, h, by simp [readLines]⟩, by simp [readLines]⟩
  | cons xs rest ih =>
    obtain ⟨still, trails, settled⟩ := readAll_trails config stop h xs
    have line := trails.numbered (some number)
    rw [List.map_cons, readLines, readLines]
    simp only [line.accepted]
    split_ifs with on
    · obtain ⟨later, more, settled'⟩ := ih line.cursor (number + 1)
      refine ⟨later, line.append more, fun stops rejected => settled' stops ?_⟩
      rcases (Bool.or_eq_true _ _).mp on with accepted | going
      · rwa [Reading.append_accepted, accepted, Bool.true_and] at rejected
      · simp [stops] at going
    · exact ⟨still, line, settled⟩

/-- Blank tokens make no difference to a whole input but for the places of stack mismatches. -/
theorem readInput_trails (c : Cursor) (lines : List (List Lexeme)) :
    Reading.Trails [] (c.readInput config stop (lines.map (·.filter (!·.isBlank))))
      (c.readInput config stop lines) [] := by
  obtain ⟨still, trails, settled⟩ := readLines_trails config stop (.refl c) 1 lines
  rw [readInput, readInput]
  simp only [trails.accepted]
  split_ifs with on
  · exact trails.append (readEnd_trails trails.cursor)
  · simp only [Bool.or_eq_true, Bool.not_eq_true', not_or, Bool.not_eq_true, Bool.not_eq_false] at on
    obtain rfl := settled on.2 on.1
    exact trails

end Cursor

/-- What a check says about the tokens of a case. -/
structure Findings where
  passed : Bool
  tokensChecked : Nat
  diagnostics : List Diagnostic

def CaseResult.findings (view : Diagnostic → Diagnostic) (r : CaseResult) : Findings :=
  ⟨r.passed, r.tokensChecked, r.diagnostics.map view⟩

/-- Readings that look alike through a view of the diagnostics. -/
structure Reading.Agree (view : Diagnostic → Diagnostic) (r s : Reading) : Prop where
  counted : r.counted = s.counted
  found : r.found.map view = s.found.map view

namespace Reading.Agree

variable {view : Diagnostic → Diagnostic} {r s t : Reading}

theorem symm (h : Agree view r s) : Agree view s r :=
  ⟨h.counted.symm, h.found.symm⟩

theorem trans (h : Agree view r s) (k : Agree view s t) : Agree view r t :=
  ⟨h.counted.trans k.counted, h.found.trans k.found⟩

theorem ofTrails (h : Trails [] r s []) : Agree unplaced r s where
  counted := h.counted
  found := by simpa using h.found

end Reading.Agree

namespace Case

theorem findings_congr {view : Diagnostic → Diagnostic} (kinds : ∀ d, (view d).kind = d.kind)
    (c d : Case) (config : Config) {r s : Reading} (agree : Reading.Agree view r s) :
    (c.resultOf config r).findings view = (d.resultOf config s).findings view := by
  have seen (ds : List Diagnostic) :
      (ds.any fun d => config.failOnStackError || d.kind != .stackDiscipline) =
        (ds.map view).any fun d => config.failOnStackError || d.kind != .stackDiscipline := by
    rw [List.any_map]
    simp only [Function.comp_def, kinds]
  simp only [CaseResult.findings, resultOf]
  rw [seen r.found, seen s.found, agree.found, agree.counted]

/-- Through any view of the diagnostics a check is decided by its reading. -/
theorem check_findings (c : Case) (config : Config) (echoes : Bool)
    (view : Diagnostic → Diagnostic) :
    (c.check config echoes).map (·.1.findings view) =
      (Spec.spans c.spec).map fun spans =>
        (c.resultOf config (c.reading config spans)).findings view := by
  rw [check_eq]
  cases Spec.spans c.spec <;> rfl

end Case

/-- Tokens of a line that differ by tokens whose text there is empty or white space. -/
inductive BlankEdit (line : Text) : List Token → List Token → Prop
  | nil : BlankEdit line [] []
  | keep (t : Token) {ts us : List Token} (rest : BlankEdit line ts us) :
    BlankEdit line (t :: ts) (t :: us)
  | insert {t : Token} {ts us : List Token} (blank : Text.allBlank (t.textOn line).toList = true)
    (rest : BlankEdit line ts us) : BlankEdit line ts (t :: us)
  | delete {t : Token} {ts us : List Token} (blank : Text.allBlank (t.textOn line).toList = true)
    (rest : BlankEdit line ts us) : BlankEdit line (t :: ts) us

structure Line.BlankEdited (l m : Line) : Prop where
  text : m.text = l.text
  tokens : BlankEdit l.text l.tokens m.tokens

def Line.texts (l : Line) : List Lexeme :=
  l.lexemes.filter (!·.isBlank)

/-- Edits of blank tokens leave the other tokens of a line as they are. -/
theorem BlankEdit.texts {line : Text} {ts us : List Token} (h : BlankEdit line ts us) :
    (ts.map (·.lexeme line)).filter (!·.isBlank) = (us.map (·.lexeme line)).filter (!·.isBlank) := by
  have skipped {t : Token} (blank : Text.allBlank (t.textOn line).toList = true) :
      ¬(!(t.lexeme line).isBlank) = true := by
    simpa [Lexeme.isBlank, Token.lexeme] using blank
  induction h with
  | nil => rfl
  | keep t _ ih => rw [List.map_cons, List.map_cons, List.filter_cons, List.filter_cons, ih]
  | insert blank _ ih => rw [ih, List.map_cons, List.filter_cons, if_neg (skipped blank)]
  | delete blank _ ih => rw [List.map_cons, List.filter_cons, if_neg (skipped blank), ih]

theorem Line.BlankEdited.texts {l m : Line} (h : l.BlankEdited m) : l.texts = m.texts := by
  rw [Line.texts, Line.texts, Line.lexemes, Line.lexemes, h.text]
  exact h.tokens.texts

namespace Case

/-- Lines with the same texts are read alike, up to the places of stack mismatches. -/
theorem reading_congr {c d : Case} (texts : c.lines.map Line.texts = d.lines.map Line.texts)
    (config : Config) (spans : List Span) :
    Reading.Agree unplaced (c.reading config spans) (d.reading config spans) := by
  have lines (e : Case) : (e.lines.map Line.lexemes).map (·.filter (!·.isBlank)) =
      e.lines.map Line.texts := by
    rw [List.map_map]
    rfl
  have trails (e : Case) := Cursor.readInput_trails config config.stopOnMismatch
    (.start spans config.rootScope) (e.lines.map Line.lexemes)
  have here := trails c
  have there := trails d
  rw [lines, texts] at here
  rw [lines] at there
  exact (Reading.Agree.ofTrails here).symm.trans (.ofTrails there)

/-- Inserting and deleting blank tokens on any lines changes nothing but the places of stack
mismatches. -/
theorem check_blankEdit (c : Case) {lines : List Line}
    (edited : List.Forall₂ Line.BlankEdited c.lines lines) (config : Config) (echoes : Bool) :
    (Case.check { c with lines := lines } config echoes).map (·.1.findings unplaced) =
      (c.check config echoes).map (·.1.findings unplaced) := by
  have texts : lines.map Line.texts = c.lines.map Line.texts := by
    rw [← List.forall₂_eq_eq_eq, List.forall₂_map_left_iff, List.forall₂_map_right_iff]
    exact edited.flip.imp fun _ _ same => same.texts.symm
  rw [check_findings, check_findings]
  congr 1
  funext spans
  exact findings_congr unplaced_kind _ _ config
    (reading_congr (c := { c with lines := lines }) (d := c) texts config spans)

def parted : Case where
  name := "parted"
  lines := [⟨"a ", [.covering 0 1 ["source"]]⟩, ⟨"b", [.covering 0 1 ["source"]]⟩]
  spec := [.span { source := "a" }, .span { closes := ["block"] }, .span { source := "b" }]

def partedSpaced : List Line :=
  [⟨"a ", [.covering 0 1 ["source"], .covering 1 1 []]⟩, ⟨"b", [.covering 0 1 ["source"]]⟩]

/-- The blank token lets the boundary pass on the first line. -/
theorem parted_check_blankEdit :
    List.Forall₂ Line.BlankEdited parted.lines partedSpaced ∧
      (Case.check { parted with lines := partedSpaced } {} true).map (·.1.findings unplaced) =
        (parted.check {} true).map (·.1.findings unplaced) ∧
      (Case.check { parted with lines := partedSpaced } {} true).map
        (·.1.diagnostics.map (·.lineNumber)) = .ok [some 1] ∧
      (parted.check {} true).map (·.1.diagnostics.map (·.lineNumber)) = .ok [some 2] := by
  have edited : List.Forall₂ Line.BlankEdited parted.lines partedSpaced :=
    .cons ⟨rfl, .keep _ (.insert rfl .nil)⟩ (.cons ⟨rfl, .keep _ .nil⟩ .nil)
  exact ⟨edited, check_blankEdit parted edited {} true, rfl, rfl⟩

end Case

end TokenScopes
