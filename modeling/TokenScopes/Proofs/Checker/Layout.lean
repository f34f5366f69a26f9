import TokenScopes.Proofs.Checker.Acceptance
import TokenScopes.Proofs.Checker.Blank

namespace TokenScopes

open Diagnostic

namespace Lexeme

/-- A token whose line is its own text. -/
def token (x : Lexeme) : Token :=
  .covering 0 x.text.length x.scopes

@[simp] theorem token_lexeme (x : Lexeme) : x.token.lexeme x.text = x := by
  have all : x.text.toList.take x.text.length = x.text.toList := by
    rw [← Text.length_toList, List.take_length]
  simp [Token.lexeme, Token.textOn, token, Token.covering, all]

end Lexeme

namespace Verifier

/-- Checks texts one after the other up to the first failure, and the end only if there is none. -/
def feed (v : Verifier) : List Lexeme → Verifier
  | [] => v.finish.2
  | x :: rest =>
    match v.check x.text x.token with
    | (true, next) => next.feed rest
    | (false, next) => next

def findings (view : Diagnostic → Diagnostic) (v : Verifier) : Findings :=
  ⟨!v.failed, v.tokensChecked, v.log.entries.map view⟩

end Verifier

namespace Reading

/-- The reading up to line numbers. -/
def unnumbered (r : Reading) : Reading :=
  { r with found := r.found.map Diagnostic.unnumbered }

theorem unnumbered_append (r next : Reading) :
    (r ++ next).unnumbered = r.unnumbered ++ next.unnumbered := by
  simp only [unnumbered, append_found, List.map_append]
  rfl

theorem unnumbered_numbered (r : Reading) (number : Option Int) :
    (r.numbered number).unnumbered = r.unnumbered := by
  simp only [unnumbered, numbered, List.map_map]
  rfl

theorem Agree.ofUnnumbered {r s : Reading} (h : r.unnumbered = s.unnumbered) :
    Agree Diagnostic.unnumbered r s := by
  have counted : r.unnumbered.counted = s.unnumbered.counted := by rw [h]
  have found : r.unnumbered.found = s.unnumbered.found := by rw [h]
  exact ⟨counted, found⟩

theorem Agree.coarsen {r s : Reading} (h : Agree unplaced r s) :
    Agree Diagnostic.unnumbered r s := by
  have views (ds : List Diagnostic) :
      (ds.map unplaced).map Diagnostic.unnumbered = ds.map Diagnostic.unnumbered := by
    rw [List.map_map]
    exact List.map_congr_left fun d _ => unplaced_unnumbered d
  refine ⟨h.counted, ?_⟩
  rw [← views, h.found, views]

def ended (r : Reading) : Reading :=
  if r.accepted then r ++ r.cursor.readEnd else r

theorem ended_append {r : Reading} (accepted : r.accepted = true) (next : Reading) :
    (r ++ next).ended = r ++ next.ended := by
  rw [ended, ended, append_accepted, accepted, Bool.true_and, append_cursor, append_assoc]
  split_ifs <;> rfl

theorem ended_of_rejected {r : Reading} (rejected : r.accepted = false) : r.ended = r := by
  rw [ended, if_neg (by simp [rejected])]

end Reading

namespace Cursor

variable (config : Config) (c : Cursor)

/-- Reads texts up to the first failure, and the end if there is none. -/
def readFlat (config : Config) (c : Cursor) : List Lexeme → Reading
  | [] => c.readEnd
  | x :: rest =>
    let r := c.read config x
    if r.accepted then r ++ r.cursor.readFlat config rest else r

/-- Texts are read as those in front, and the others only if these are accepted. -/
theorem readFlat_append (xs ys : List Lexeme) :
    c.readFlat config (xs ++ ys) =
      if (c.readAll config true xs).accepted then
        c.readAll config true xs ++ (c.readAll config true xs).cursor.readFlat config ys
      else c.readAll config true xs := by
  induction xs generalizing c with
  | nil => exact (Reading.nothing_append _ c).symm
  | cons x rest ih =>
    rw [List.cons_append, readFlat, readAll]
    simp only [Bool.not_true, Bool.false_and, Bool.or_false]
    cases accepted : (c.read config x).accepted with
    | true =>
      simp only [if_true, ih, Reading.append_accepted, accepted, Bool.true_and,
        Reading.append_cursor, Reading.append_assoc]
      split_ifs <;> rfl
    | false => simp [accepted]

/-- A stopping run over lines reads the texts of all lines, but for the numbers. -/
theorem readLines_flat (number : Nat) (lines : List (List Lexeme)) :
    (c.readLines config true number lines).ended.unnumbered =
      (c.readFlat config lines.flatten).unnumbered := by
  induction lines generalizing c number with
  | nil => exact congrArg Reading.unnumbered (Reading.nothing_append _ c)
  | cons xs rest ih =>
    rw [List.flatten_cons, readFlat_append, readLines]
    simp only [Bool.not_true, Bool.or_false]
    cases accepted : (c.readAll config true xs).accepted with
    | true =>
      have line : ((c.readAll config true xs).numbered (some (number : Int))).accepted = true :=
        accepted
      rw [if_pos line, if_pos rfl, Reading.ended_append line, Reading.unnumbered_append, ih,
        Reading.unnumbered_numbered, Reading.unnumbered_append]
      rfl
    | false =>
      -- The failure ends the line and with it the run, so neither side reads the other lines.
      have line : ((c.readAll config true xs).numbered (some (number : Int))).accepted = false :=
        accepted
      rw [if_neg (by simp [line]), if_neg (by simp), Reading.ended_of_rejected line,
        Reading.unnumbered_numbered]

/-- Up to the numbers, the layout in lines is lost. -/
theorem readInput_flat (lines : List (List Lexeme)) :
    (c.readInput config true lines).unnumbered = (c.readFlat config lines.flatten).unnumbered := by
  rw [← readLines_flat config c 1 lines, readInput, Reading.ended]
  simp only [Bool.not_true, Bool.or_false]

/-- A stopping check of an input finds, up to the numbers, what one loop finds over tokens that have
the same texts. -/
theorem readInput_texts {lines : List (List Lexeme)} {xs : List Lexeme}
    (texts : lines.flatten.filter (!·.isBlank) = xs.filter (!·.isBlank)) :
    Reading.Agree unnumbered (c.readInput config true lines) (c.readFlat config xs) := by
  have flat (input : List (List Lexeme)) :
      Reading.Agree unnumbered (c.readInput config true input)
        (c.readFlat config input.flatten) :=
    .ofUnnumbered (c.readInput_flat config input)
  have filtered (input : List (List Lexeme)) :
      Reading.Agree unnumbered (c.readInput config true input)
        (c.readFlat config (input.flatten.filter (!·.isBlank))) := by
    have trails := Reading.Agree.ofTrails (c.readInput_trails config true input)
    rw [List.filter_flatten]
    exact trails.symm.coarsen.trans (flat _)
  -- The tokens of the loop are those of an input of one line.
  have here := filtered lines
  have loop := flat [xs]
  have there := filtered [xs]
  rw [List.flatten_singleton] at loop there
  rw [texts] at here
  exact here.trans (there.symm.trans loop)

end Cursor

/-- Feeding texts records their reading. -/
theorem Verifier.feed_eq (v : Verifier) (xs : List Lexeme) :
    v.feed xs = v.after (v.cursor.readFlat v.config xs) := by
  induction xs generalizing v with
  | nil => rw [feed, finish_eq, Cursor.readFlat]
  | cons x rest ih =>
    rw [feed, check_eq, Lexeme.token_lexeme, Cursor.readFlat]
    cases (v.cursor.read v.config x).accepted with
    | true => simp only [if_true, ih, after_config, after_cursor, after_append]
    | false => simp

theorem Case.findings_feed (c : Case) (config : Config) (spans : List Span) (echoes : Bool)
    (xs : List Lexeme) (view : Diagnostic → Diagnostic) :
    ((Verifier.start config spans echoes).feed xs).findings view =
      (c.resultOf config
        ((Cursor.start spans config.rootScope).readFlat config xs)).findings view := by
  have unchanged : (fun d : Diagnostic => d.numbered none) = id := funext numbered_none
  rw [Verifier.feed_eq]
  simp only [Verifier.findings, CaseResult.findings, resultOf, Verifier.failed, Verifier.after,
    Verifier.start, DiagnosticLog.hasErrors, DiagnosticLog.recordAll_entries, unchanged,
    List.map_id, List.nil_append, Nat.zero_add]

namespace Case

/-- A stopping check sees the texts of its tokens only: it finds, up to line numbers, what one loop
over any tokens of the same texts finds. -/
theorem check_feed (c : Case) {config : Config} (stops : config.stopOnMismatch = true)
    {xs : List Lexeme} (texts : c.texts = xs.filter (!·.isBlank)) (echoes : Bool) :
    (c.check config echoes).map (·.1.findings unnumbered) =
      (Spec.spans c.spec).map fun spans =>
        ((Verifier.start config spans echoes).feed xs).findings unnumbered := by
  rw [check_findings]
  congr 1
  funext spans
  rw [c.findings_feed config spans echoes xs]
  rw [Case.texts, List.flatMap_def] at texts
  have agree := (Cursor.start spans config.rootScope).readInput_texts config texts
  rw [← stops] at agree
  exact findings_congr unnumbered_kind c c config agree

/-- How tokens are laid out in lines, at offsets and between blank ones makes no difference to a
check that stops at the first failure, but for the line numbers: it does what one loop does that
hands over the flattened tokens. -/
theorem check_layout {config : Config} (stops : config.stopOnMismatch = true) {c d : Case}
    (spec : c.spec = d.spec) (texts : c.texts = d.texts) (echoes : Bool) :
    (c.check config echoes).map (·.1.findings unnumbered) =
        (d.check config echoes).map (·.1.findings unnumbered) ∧
      ∀ xs : List Lexeme, xs.filter (!·.isBlank) = c.texts →
        (c.check config echoes).map (·.1.findings unnumbered) =
          (Spec.spans c.spec).map fun spans =>
            ((Verifier.start config spans echoes).feed xs).findings unnumbered := by
  have loop (e : Case) (xs : List Lexeme) (same : xs.filter (!·.isBlank) = e.texts) :=
    e.check_feed stops same.symm echoes
  refine ⟨?_, loop c⟩
  have flat : (c.lines.flatMap Line.lexemes).filter (!·.isBlank) = c.texts := rfl
  rw [loop c _ flat, loop d _ (flat.trans texts), spec]

def twoLines : Case where
  name := "two lines"
  lines := [⟨"a b", [.covering 0 1 ["source"], .covering 1 1 [], .covering 2 1 ["source"]]⟩,
    ⟨"c", [.covering 0 1 ["source"]]⟩]
  spec := [.span { source := "a" }, .span { source := "x" }, .span { source := "c" }]

def fourLines : Case :=
  { twoLines with
    lines := [⟨"", []⟩, ⟨"a", [.covering 0 1 ["source"]]⟩,
      ⟨" b", [.covering 1 1 ["source"]]⟩, ⟨"c", [.covering 0 1 ["source"]]⟩] }

/-- Four tokens, one of them blank, in two lines; the text of the third is not that of its span.
Then each text on a line of its own after an empty line. -/
theorem twoLines_check_layout :
    ({} : Config).stopOnMismatch = true ∧ twoLines.spec = fourLines.spec ∧
      twoLines.texts = fourLines.texts ∧
      (twoLines.check {} true).map (·.1.findings unnumbered) =
        (fourLines.check {} true).map (·.1.findings unnumbered) ∧
      ∀ xs : List Lexeme, xs.filter (!·.isBlank) = twoLines.texts →
        (twoLines.check {} true).map (·.1.findings unnumbered) =
          (Spec.spans twoLines.spec).map fun spans =>
            ((Verifier.start {} spans true).feed xs).findings unnumbered := by
  have stops : ({} : Config).stopOnMismatch = true := rfl
  have spec : twoLines.spec = fourLines.spec := rfl
  have texts : twoLines.texts = fourLines.texts := by decide +kernel
  exact ⟨stops, spec, texts, check_layout stops spec texts true⟩

end Case

end TokenScopes
