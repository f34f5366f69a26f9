import Mathlib.Data.List.Forall2
import TokenScopes.Proofs.Json.RoundTrip
import TokenScopes.Proofs.Value.CanonicalForm

namespace TokenScopes

namespace Value

/-- Values that are equal up to the order of keys, at every depth. -/
inductive Alike : Value → Value → Prop where
  | null : Alike .null .null
  | bool (b : Bool) : Alike (.bool b) (.bool b)
  | int (i : Int) : Alike (.int i) (.int i)
  | text (s : Text) : Alike (.text s) (.text s)
  | list {items others : List Value} (length : items.length = others.length)
      (members : ∀ pair ∈ items.zip others, Alike pair.1 pair.2) :
      Alike (.list items) (.list others)
  | map {fields others : List (Text × Value)}
      (keys : (fields.map Prod.fst).Perm (others.map Prod.fst))
      (values : ∀ f ∈ fields, ∀ g ∈ others, f.1 = g.1 → Alike f.2 g.2) :
      Alike (.ofFields fields) (.ofFields others)

theorem ofFields_injective : Function.Injective ofFields := by
  intro fields others equal
  have entries := Value.map.inj equal
  have pair : Function.Injective fun (f : Text × Value) => ((.text f.1 : Value), f.2) := by
    rintro ⟨k, v⟩ ⟨k', v'⟩ same
    simpa using same
  exact pair.list_map entries

theorem map_canonical_eq_iff {items others : List Value} :
    items.map canonical = others.map canonical ↔
      items.length = others.length ∧
        ∀ pair ∈ items.zip others, pair.1.canonical = pair.2.canonical := by
  rw [← List.forall₂_eq_eq_eq, List.forall₂_map_left_iff, List.forall₂_map_right_iff,
    List.forall₂_iff_zip]
  simp only [Prod.forall]

end Value

namespace Json

open Value

theorem Exact.fields {fields : List (Text × Value)} (h : Exact (.ofFields fields)) :
    (fields.map Prod.fst).Nodup ∧ ∀ f ∈ fields, Exact f.2 := by
  generalize equal : Value.ofFields fields = v at h
  cases h with
  | map distinct _ members =>
    obtain rfl := ofFields_injective equal
    exact ⟨distinct, members⟩
  | _ => cases equal

theorem Exact.items {items : List Value} (h : Exact (.list items)) : ∀ v ∈ items, Exact v := by
  generalize equal : Value.list items = v at h
  cases h with
  | list members =>
    obtain rfl := Value.list.inj equal
    exact members
  | _ => cases equal

variable {v w : Value}

/-- The canonical form of what JSON text denotes exactly is denoted exactly too. -/
theorem Exact.canonical (h : Exact v) : Exact v.canonical := by
  induction h with
  | null => exact .null
  | bool b => exact .bool b
  | int small => exact .int small
  | text apart => exact .text apart
  | list _ ih =>
    rw [canonical_list]
    apply Exact.list
    intro v member
    obtain ⟨u, given, rfl⟩ := List.mem_map.mp member
    exact ih u given
  | @map fields distinct keys _ ih =>
    rw [← keys_canonicalField] at distinct
    obtain ⟨perm, ascending⟩ := sortFields_spec distinct
    rw [canonical_ofFields]
    apply Exact.map ascending.nodup
    · intro f member
      obtain ⟨g, given, rfl⟩ := List.mem_map.mp (perm.mem_iff.mp member)
      exact keys g given
    · intro f member
      obtain ⟨g, given, rfl⟩ := List.mem_map.mp (perm.mem_iff.mp member)
      exact ih g given

theorem Exact.canonical_canonical (_ : Exact v) : v.canonical.canonical = v.canonical :=
  v.canonical_canonical

theorem Alike.canonical_eq (alike : Alike v w) (hv : Exact v) (hw : Exact w) :
    v.canonical = w.canonical := by
  -- By induction on the values, whose fields are the same up to their order.
  induction alike with
  | null => rfl
  | bool b => rfl
  | int i => rfl
  | text s => rfl
  | list length members ih =>
    rw [canonical_list, canonical_list, map_canonical_eq_iff.mpr ⟨length, fun pair member => ?_⟩]
    have sides := List.of_mem_zip member
    exact ih pair member (hv.items _ sides.1) (hw.items _ sides.2)
  | @map fields others keys values ih =>
    obtain ⟨distinct, exact_⟩ := hv.fields
    obtain ⟨distinct', exact'⟩ := hw.fields
    rw [← keys_canonicalField] at distinct distinct' keys
    rw [← keys_canonicalField others] at keys
    rw [canonical_ofFields, canonical_ofFields, (sortFields_eq_iff distinct distinct').mpr]
    apply perm_of_keys distinct keys
    intro f member g other key
    obtain ⟨f, given, rfl⟩ := List.mem_map.mp member
    obtain ⟨g, given', rfl⟩ := List.mem_map.mp other
    exact ih f given g given' key (exact_ f given) (exact' g given')

/-- Fields that are equal when they are sorted were permuted. -/
theorem alike_of_canonical_eq (hv : Exact v) (hw : Exact w) (equal : v.canonical = w.canonical) :
    Alike v w := by
  induction hv generalizing w with
  | null =>
    cases hw with
    | null => exact .null
    | _ => cases equal
  | bool b =>
    cases hw with
    | bool => cases equal; exact .bool b
    | _ => cases equal
  | int small =>
    cases hw with
    | int => cases equal; exact .int _
    | _ => cases equal
  | @text s _ =>
    cases hw with
    | text => cases equal; exact .text s
    | _ => cases equal
  | list _ ih =>
    cases hw with
    | list members =>
      rw [canonical_list, canonical_list, Value.list.injEq, map_canonical_eq_iff] at equal
      refine .list equal.1 fun pair member => ?_
      have sides := List.of_mem_zip member
      exact ih _ sides.1 (members _ sides.2) (equal.2 pair member)
    | _ => cases equal
  | @map fields distinct _ _ ih =>
    cases hw with
    | @map others distinct' _ members =>
      rw [canonical_ofFields, canonical_ofFields] at equal
      rw [← keys_canonicalField] at distinct distinct'
      have perm := (sortFields_eq_iff distinct distinct').mp (ofFields_injective equal)
      have keys := perm.map Prod.fst
      rw [keys_canonicalField, keys_canonicalField] at keys
      refine .map keys fun f member g other key => ?_
      -- A key determines its field, so the two fields have the same canonical value.
      have image : canonicalField f ∈ others.map canonicalField :=
        perm.mem_iff.mp (List.mem_map_of_mem member)
      have same := List.inj_on_of_nodup_map distinct' image (List.mem_map_of_mem other) key
      exact ih f member (members g other) (Prod.ext_iff.mp same).2
    | _ => cases equal

/-- The canonical form decides whether values are equal up to the order of keys. -/
theorem alike_iff_canonical_eq (hv : Exact v) (hw : Exact w) :
    Alike v w ↔ v.canonical = w.canonical :=
  ⟨fun alike => Alike.canonical_eq alike hv hw, alike_of_canonical_eq hv hw⟩

/-- The text of a value is read back as a value that is equal up to the order of keys and that has
the same text; and values have the same text exactly when they are equal up to that order. -/
theorem pretty_round_trip (hv : Exact v) (hw : Exact w) :
    ∃ text back, pretty v = .ok text ∧ read text = .ok back ∧ Alike v back ∧
      pretty back = .ok text ∧ (pretty v = pretty w ↔ Alike v w) := by
  have stable := hv.canonical_canonical
  have again : Exact v.canonical.canonical := hv.canonical.canonical
  refine ⟨prettyText v, v.canonical, hv.canonical.pretty_eq, hv.canonical.read_prettyText,
    ?_, ?_, ?_⟩
  · exact alike_of_canonical_eq hv hv.canonical stable.symm
  · rw [again.pretty_eq, prettyText, stable, prettyText]
  · rw [alike_iff_canonical_eq hv hw, hv.canonical.pretty_eq, hw.canonical.pretty_eq,
      Except.ok.injEq]
    constructor
    · intro same
      have reads := hv.canonical.read_prettyText
      rw [same, hw.canonical.read_prettyText] at reads
      exact (Except.ok.inj reads).symm
    · intro same
      rw [prettyText, same, prettyText]

def escapedFields : List (Text × Value) :=
  [("é😀", .ofFields []), ("a\n\"", .list [.int (-7), .null, .text "\x7f"])]

theorem apart_escapedFields : ∀ f ∈ escapedFields, f.1.Apart := by
  decide

theorem exact_of_perm_escapedFields {fields : List (Text × Value)}
    (perm : fields.Perm escapedFields) : Exact (.ofFields fields) := by
  apply Exact.map ((perm.map Prod.fst).nodup_iff.mpr (by decide))
    fun f member => apart_escapedFields f (perm.mem_iff.mp member)
  intro f member
  rcases List.mem_cons.mp (perm.mem_iff.mp member) with rfl | member
  · exact .map .nil (by simp) (by simp)
  · rw [List.mem_singleton] at member
    subst member
    have short : 7 < 10 ^ Decimal.digitLimit :=
      Nat.lt_of_lt_of_le (by decide : 7 < 10 ^ 1) (Nat.pow_le_pow_right (by decide) (by decide))
    apply Exact.list
    simp only [List.mem_cons, List.not_mem_nil, or_false, forall_eq_or_imp, forall_eq]
    exact ⟨.int short, .null, .text (apart_ofString _)⟩

/-- Fields with a key that needs an escape and one beyond the basic plane, in another order. -/
theorem pretty_round_trip_reordered :
    ∃ text back, pretty (.ofFields escapedFields) = .ok text ∧ read text = .ok back ∧
      Alike (.ofFields escapedFields) back ∧ pretty back = .ok text ∧
      (pretty (.ofFields escapedFields) = pretty (.ofFields escapedFields.reverse) ↔
        Alike (.ofFields escapedFields) (.ofFields escapedFields.reverse)) :=
  pretty_round_trip (exact_of_perm_escapedFields (.refl _))
    (exact_of_perm_escapedFields (List.reverse_perm _))

end Json
end TokenScopes
