import Mathlib.Data.List.Forall2

namespace TokenScopes

/-- A value with a property, or a fault of a kind. -/
def Yields {ε α : Type} (S : ε → Prop) (P : α → Prop) : Except ε α → Prop
  | .ok a => P a
  | .error f => S f

namespace Yields

variable {ε α β : Type} {S S' : ε → Prop} {P P' : α → Prop} {Q : β → Prop} {r r' : Except ε α}
  {f : ε}

@[simp] theorem ok {a : α} : Yields S P (.ok a) ↔ P a := .rfl

@[simp] theorem pure {a : α} : Yields S P (Pure.pure a) ↔ P a := .rfl

@[simp] theorem error : Yields S P (.error f) ↔ S f := .rfl

@[simp] theorem throw : Yields S P (throw f) ↔ S f := .rfl

@[simp] theorem throw_bind {next : β → Except ε α} :
    Yields S P (MonadExcept.throw f >>= next) ↔ S f := .rfl

/-- Both stages have a share in the faults, and the last one gives the value. -/
theorem bind (h : Yields S P r) {next : α → Except ε β} (after : ∀ a, P a → Yields S Q (next a)) :
    Yields S Q (r >>= next) := by
  cases r with
  | ok a => exact after a h
  | error f => exact h

theorem map (h : Yields S P r) {g : α → β} (after : ∀ a, P a → Q (g a)) :
    Yields S Q (r.map g) := by
  cases r with
  | ok a => exact after a h
  | error f => exact h

theorem mono (h : Yields S P r) (faults : ∀ f, S f → S' f) (values : ∀ a, P a → P' a) :
    Yields S' P' r := by
  cases r with
  | ok a => exact values a h
  | error f => exact faults f h

theorem ite {c : Prop} [Decidable c] (yes : Yields S P r) (no : Yields S P r') :
    Yields S P (if c then r else r') := by
  split
  · exact yes
  · exact no

/-- A list is gone through up to the first element that is refused. -/
theorem mapM {bad : α → Prop} {good : α → β → Prop} {f : α → Except ε β}
    (each : ∀ a, Yields (fun _ => bad a) (good a) (f a)) (as : List α) :
    Yields (fun _ => ∃ a ∈ as, bad a) (List.Forall₂ good as) (as.mapM f) := by
  induction as with
  | nil => exact .nil
  | cons a as ih =>
    rw [List.mapM_cons]
    refine ((each a).mono (fun _ found => ⟨a, List.mem_cons_self .., found⟩) fun _ => id).bind ?_
    intro b here
    refine (ih.mono (fun _ ⟨c, member, found⟩ => ⟨c, List.mem_cons_of_mem a member, found⟩)
      fun _ => id).bind fun bs later => ?_
    exact .cons here later

theorem fault (h : Yields S P r) (refused : r = .error f) : S f := by
  rw [refused] at h
  exact h

end Yields

end TokenScopes
