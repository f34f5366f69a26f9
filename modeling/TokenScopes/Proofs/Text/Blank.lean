import Mathlib.Data.List.DropRight
import TokenScopes.Text.Blank

namespace TokenScopes.Text

variable {cs : List CodePoint}

theorem trimChars_eq (cs : List CodePoint) :
    trimChars cs = (cs.dropWhile isBlank).rdropWhile isBlank := rfl

theorem mem_of_mem_trimChars {c : CodePoint} (member : c ∈ trimChars cs) : c ∈ cs := by
  rw [trimChars_eq] at member
  exact (List.dropWhile_sublist isBlank).mem ((List.rdropWhile_prefix _ _).mem member)

/-- What the blanks in front are dropped from starts with no blank, even when it is cut short. -/
theorem dropWhile_of_prefix {ds : List CodePoint} (initial : ds <+: cs.dropWhile isBlank) :
    ds.dropWhile isBlank = ds := by
  cases ds with
  | nil => rfl
  | cons d ds =>
    have first := List.head?_dropWhile_not isBlank cs
    obtain ⟨rest, split⟩ := initial
    rw [← split, List.cons_append, List.head?_cons] at first
    exact List.dropWhile_cons_of_neg (by simpa using first)

/-- What is trimmed has no blank at either end, so trimming it again changes nothing. -/
theorem trimChars_trimChars (cs : List CodePoint) : trimChars (trimChars cs) = trimChars cs := by
  have initial : trimChars cs <+: cs.dropWhile isBlank := List.rdropWhile_prefix _ _
  rw [trimChars_eq (trimChars cs), dropWhile_of_prefix initial, trimChars_eq,
    List.rdropWhile_idempotent]

/-- Nothing is left of blank texts only. -/
theorem trimChars_eq_nil_iff : trimChars cs = [] ↔ allBlank cs = true := by
  rw [trimChars_eq, List.rdropWhile_eq_nil_iff, allBlank, List.all_eq_true]
  constructor
  · intro blank
    -- A rest that starts with no blank is blank only if it is empty.
    cases rest : cs.dropWhile isBlank with
    | nil => exact List.dropWhile_eq_nil_iff.mp rest
    | cons d ds =>
      have first := List.head?_dropWhile_not isBlank cs
      rw [rest] at blank first
      simp [blank d (List.mem_cons_self ..)] at first
  · intro blank c member
    exact blank c ((List.dropWhile_sublist isBlank).mem member)

theorem allBlank_trimChars (cs : List CodePoint) : allBlank (trimChars cs) = allBlank cs := by
  rw [Bool.eq_iff_iff, ← trimChars_eq_nil_iff, ← trimChars_eq_nil_iff, trimChars_trimChars]

theorem toList_trim (s : Text) : (trim s).toList = trimChars s.toList := rfl

theorem trim_trim (s : Text) : trim (trim s) = trim s := by
  rw [trim, toList_trim, trimChars_trimChars, trim]

end TokenScopes.Text
