import Mathlib.Data.List.TakeWhile
import TokenScopes.Command.Outcome

namespace TokenScopes

namespace Text

variable {half : Fin 0x800}

/-- Nothing that is dropped from the front as a sequence is a half. -/
theorem half_mem_afterSequence? {cs after : List CodePoint}
    (dropped : afterSequence? cs = some after) :
    .half half ∈ after ↔ .half half ∈ cs := by
  unfold afterSequence? at dropped
  split at dropped
  · next rest =>
    have parameters : .half half ∉ rest.takeWhile isParameter := by
      intro member
      have parameter := List.mem_takeWhile_imp member
      cases parameter
    split at dropped
    · next c more found =>
      split at dropped
      · cases dropped
        have split : rest = rest.takeWhile isParameter ++ .char c :: after := by
          rw [← found, List.takeWhile_append_dropWhile]
        rw [split]
        simp [parameters]
      · cases dropped
    · cases dropped
  · cases dropped

theorem half_mem_dropSequences (cs : List CodePoint) :
    .half half ∈ dropSequences cs ↔ .half half ∈ cs := by
  fun_induction dropSequences cs with
  | case1 cs after dropped ih => rw [ih, half_mem_afterSequence? dropped]
  | case2 => rfl
  | case3 c rest none ih => rw [List.mem_cons, List.mem_cons, ih]

theorem plainFrom_fails_iff (position : Nat) (cs : List CodePoint) :
    (∃ f, plainFrom position cs = .error f) ↔ ∃ half, .half half ∈ cs := by
  induction cs generalizing position with
  | nil => simp [plainFrom]
  | cons c cs ih =>
    cases c with
    | char c =>
      have later := ih (position + 1)
      rw [plainFrom]
      cases rest : plainFrom (position + 1) cs with
      | error f => simpa [Except.map, rest] using later
      | ok read => simpa [Except.map, rest] using later
    | half h => simp [plainFrom]

end Text

theorem printed_fails_iff (s : Text) :
    (∃ f, printed s = .error f) ↔ ∃ half, .half half ∈ s.toList := by
  have plain := Text.plainFrom_fails_iff 0 (Text.dropSequences s.toList)
  simp only [Text.half_mem_dropSequences] at plain
  rw [← plain, printed, Text.plain, withoutSequences, Text.toList_ofList]
  cases Text.plainFrom 0 (Text.dropSequences s.toList) with
  | error f => simp [Except.map]
  | ok cs => simp [Except.map]

/-- Lines are printed one after the other, up to the first that cannot be. -/
theorem printedLines_append (lines more : List Text) :
    printedLines (lines ++ more) = do
      let here ← printedLines lines
      return here ++ (← printedLines more) := by
  induction lines with
  | nil =>
    rw [List.nil_append, printedLines]
    cases printedLines more with
    | error f => rfl
    | ok later => simp [bind, Except.bind, pure, Except.pure]
  | cons line lines ih =>
    rw [List.cons_append, printedLines, printedLines, ih]
    cases printed (line ++ "\n") with
    | error f => rfl
    | ok here =>
      cases printedLines lines with
      | error f => rfl
      | ok rest =>
        cases printedLines more with
        | error f => rfl
        | ok later => simp [bind, Except.bind, pure, Except.pure, String.append_assoc]

/-- Lines can be printed if no half of a surrogate pair is in them, and only then. -/
theorem printedLines_fails_iff (lines : List Text) :
    (∃ f, printedLines lines = .error f) ↔ ∃ s ∈ lines, ∃ half, .half half ∈ s.toList := by
  induction lines with
  | nil => simp [printedLines]
  | cons line lines ih =>
    have first : (∃ f, printed (line ++ "\n") = .error f) ↔ ∃ half, .half half ∈ line.toList := by
      simpa using printed_fails_iff (line ++ "\n")
    simp only [List.mem_cons, exists_eq_or_imp]
    rw [← ih, ← first, printedLines]
    cases printed (line ++ "\n") with
    | error f => simp [bind, Except.bind]
    | ok here =>
      cases printedLines lines with
      | error f => simp [bind, Except.bind]
      | ok rest => simp [bind, Except.bind, pure, Except.pure]

end TokenScopes
