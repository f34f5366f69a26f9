import Mathlib.Data.List.Basic
import TokenScopes.Command.Arguments

namespace TokenScopes

namespace Argument

variable {α : Type} (options : List (OptionName α))

/-- Whether an argument is an option that takes the next argument as its value. -/
def wantsValue (arg : String) : Bool :=
  isOption arg &&
    match findOption options arg with
    | .ok (option, none) => option.takesValue
    | _ => false

/-- Whether an option may stand behind arguments: no two dashes ended the options among them, and the
last one does not want a value. -/
def takesOption : List String → Bool
  | [] => true
  | arg :: rest =>
    if arg = "--" then false
    else if wantsValue options arg then
      match rest with
      | [] => false
      | _ :: rest => takesOption rest
    else takesOption rest

/-- An argument that wants no value is read, or refused, without a look at those behind it. -/
theorem readAll_single {arg : String} (goesOn : arg ≠ "--") (single : wantsValue options arg = false) :
    ∃ first : Except UsageFault (Argument α), ∀ rest, readAll options (arg :: rest) = do
      return (← first) :: (← readAll options rest) := by
  by_cases named : isOption arg = true
  · cases found : findOption options arg with
    | error f => exact ⟨.error f, fun rest => by simp [readAll, goesOn, named, found]; rfl⟩
    | ok option =>
      obtain ⟨option, attached⟩ := option
      cases attached with
      | some v =>
        cases takes : option.takesValue with
        | true =>
          exact ⟨.ok (.value option.meaning v),
            fun rest => by simp [readAll, goesOn, named, found, takes]; rfl⟩
        | false =>
          exact ⟨.error (.unexpectedValue option.long),
            fun rest => by simp [readAll, goesOn, named, found, takes]; rfl⟩
      | none =>
        have takes : option.takesValue = false := by simpa [wantsValue, named, found] using single
        exact ⟨.ok (.flag option.meaning),
          fun rest => by simp [readAll, goesOn, named, found, takes]; rfl⟩
  · exact ⟨.ok (.plain arg), fun rest => by simp [readAll, goesOn, named]; rfl⟩

theorem readAll_pair {arg : String} (goesOn : arg ≠ "--") (wants : wantsValue options arg = true) :
    ∃ option : OptionName α, ∀ value rest, readAll options (arg :: value :: rest) = do
      return .value option.meaning value :: (← readAll options rest) := by
  obtain ⟨named, waits⟩ := Bool.and_eq_true_iff.mp wants
  split at waits
  · next option found =>
    exact ⟨option, fun value rest => by simp [readAll, goesOn, named, found, waits]⟩
  · cases waits

/-- Arguments that an option may stand behind are read apart from what follows. -/
theorem readAll_append {before : List String} (apart : takesOption options before = true)
    (after : List String) :
    readAll options (before ++ after) = do
      return (← readAll options before) ++ (← readAll options after) := by
  fun_induction takesOption options before with
  | case1 =>
    rw [List.nil_append, readAll]
    cases readAll options after <;> rfl
  | case2 => cases apart
  | case3 => cases apart
  | case4 arg goesOn wants value rest ih =>
    obtain ⟨option, pair⟩ := readAll_pair options goesOn wants
    simp only [List.cons_append, pair, ih apart, bind_assoc, pure_bind]
  | case5 arg rest goesOn single ih =>
    obtain ⟨first, alone⟩ := readAll_single options goesOn (Bool.eq_false_iff.mpr single)
    simp only [List.cons_append, alone, ih apart, bind_assoc, pure_bind]

end Argument

end TokenScopes
