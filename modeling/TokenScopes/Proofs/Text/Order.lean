import Mathlib.Order.Defs.LinearOrder
import TokenScopes.Text.Basic

namespace TokenScopes

/-- Halves of surrogate pairs have numbers that no character has. -/
theorem CodePoint.toNat_injective : Function.Injective CodePoint.toNat := by
  intro c d same
  -- No character has a number between those of the halves.
  cases c with
  | char c =>
    cases d with
    | char d => rw [Char.toNat_inj.mp same]
    | half p => exact absurd same (char_ne_half c p)
  | half p =>
    cases d with
    | char d => exact absurd same.symm (char_ne_half d p)
    | half q => rw [Fin.ext (Nat.add_left_cancel same)]
where
  char_ne_half (c : Char) (p : Fin 0x800) : c.toNat ≠ 0xD800 + p := by
    rcases c.valid with low | ⟨high, -⟩
    · exact fun same => by
        have : c.toNat < 0xD800 := low
        omega
    · have : 0xDFFF < c.toNat := high
      omega

namespace Text

theorem codes_injective : Function.Injective codes := fun _ _ same =>
  toList_injective ((List.map_inj_right fun _ _ code => CodePoint.toNat_injective code).mp same)

instance : LinearOrder Text where
  le_refl s := List.le_refl s.codes
  le_trans _ _ _ below above := List.le_trans below above
  lt_iff_le_not_ge s t := by
    have less : s < t ↔ ¬t ≤ s := List.not_le.symm
    rw [less]
    exact ⟨fun h => ⟨(List.le_total s.codes t.codes).resolve_right h, h⟩, And.right⟩
  le_antisymm _ _ below above := codes_injective (List.le_antisymm below above)
  le_total s t := List.le_total s.codes t.codes
  toDecidableLE := inferInstance

end Text

end TokenScopes
