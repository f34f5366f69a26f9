import Mathlib.Data.List.TakeDrop
import Mathlib.Data.List.TakeWhile
import TokenScopes.Decimal.Literal

namespace TokenScopes

/-- A property of what is found, if anything is. -/
def Finds {α : Type} (P : α → Prop) : Option α → Prop
  | some a => P a
  | none => True

namespace Finds

variable {α β : Type} {P P' : α → Prop} {Q : β → Prop} {found : Option α}

/-- What one reader finds is handed to the next. -/
theorem bind (h : Finds P found) {next : α → Option β} (after : ∀ a, P a → Finds Q (next a)) :
    Finds Q (found >>= next) := by
  cases found with
  | some a => exact after a h
  | none => trivial

theorem map (h : Finds P found) {g : α → β} (after : ∀ a, P a → Q (g a)) :
    Finds Q (found.map g) := by
  cases found with
  | some a => exact after a h
  | none => trivial

theorem mono (h : Finds P found) (further : ∀ a, P a → P' a) : Finds P' found := by
  cases found with
  | some a => exact further a h
  | none => trivial

theorem ite {c : Prop} [Decidable c] {other : Option α} (yes : Finds P found)
    (no : Finds P other) : Finds P (if c then found else other) := by
  split
  · exact yes
  · exact no

theorem of_eq {a : α} (h : Finds P found) (hit : found = some a) : P a := by
  rw [hit] at h
  exact h

end Finds

/-- What is left is an end of the text. -/
abbrev Leaves {α : Type} (cs : List Char) (found : Option (α × List Char)) : Prop :=
  Finds (fun read => read.2 <:+ cs) found

theorem Leaves.of_suffix {α : Type} {cs rest : List Char} {found : Option (α × List Char)}
    (h : Leaves rest found) (left : rest <:+ cs) : Leaves cs found :=
  h.mono fun _ further => further.trans left

theorem span_suffix (p : Char → Bool) (cs : List Char) : (cs.span p).2 <:+ cs := by
  rw [List.span_eq_takeWhile_dropWhile]
  exact List.dropWhile_suffix p

/-- A run ends where the text does or its next character is of another kind. -/
theorem cut_append {α : Type} {p : α → Bool} {run rest : List α} (inside : ∀ c ∈ run, p c = true)
    (stops : ∀ c ∈ rest.head?, p c = false) :
    (run ++ rest).takeWhile p = run ∧ (run ++ rest).dropWhile p = rest := by
  rw [List.takeWhile_append_of_pos inside, List.dropWhile_append_of_pos inside]
  cases rest with
  | nil => exact ⟨List.append_nil run, rfl⟩
  | cons c rest => simp [stops c rfl]

theorem Decimal.signed_suffix (cs : List Char) : (signed cs).2 <:+ cs := by
  fun_cases signed cs with
  | case1 rest => exact List.suffix_cons _ _
  | case2 rest => exact List.suffix_cons _ _
  | case3 => exact List.suffix_rfl

end TokenScopes
