import Mathlib.Data.List.Nodup
import TokenScopes.Proofs.Text.Order
import TokenScopes.Value.Canonical

namespace TokenScopes.Value

/-- Keys in ascending order, none of them twice. -/
def Ascending (fields : List (Text × Value)) : Prop :=
  fields.Pairwise fun a b => a.1 < b.1

theorem Ascending.nodup {fields : List (Text × Value)} (h : Ascending fields) :
    (fields.map Prod.fst).Nodup := by
  rw [List.Nodup, List.pairwise_map]
  exact h.imp ne_of_lt

theorem Ascending.eq_of_key {fields : List (Text × Value)} (h : Ascending fields)
    {a b : Text × Value} (ha : a ∈ fields) (hb : b ∈ fields) (key : a.1 = b.1) : a = b :=
  List.inj_on_of_nodup_map h.nodup ha hb key

/-- Nothing is dropped where no key stands twice. -/
theorem lastOfEach_ascending {fields : List (Text × Value)} (h : Ascending fields) :
    lastOfEach fields = fields := by
  induction fields with
  | nil => rfl
  | cons a fields ih =>
    obtain ⟨below, rest⟩ := List.pairwise_cons.mp h
    cases fields with
    | nil => rfl
    | cons b fields =>
      have differ : a.1 ≠ b.1 := ne_of_lt (below b (List.mem_cons_self ..))
      rw [lastOfEach, if_neg differ, ih rest]

theorem key_le_trans (a b c : Text × Value) (forth : decide (a.1 ≤ b.1) = true)
    (further : decide (b.1 ≤ c.1) = true) : decide (a.1 ≤ c.1) = true := by
  simp only [decide_eq_true_eq] at forth further ⊢
  exact le_trans forth further

theorem key_le_total (a b : Text × Value) :
    (decide (a.1 ≤ b.1) || decide (b.1 ≤ a.1)) = true := by
  simp only [Bool.or_eq_true, decide_eq_true_eq]
  exact le_total a.1 b.1

theorem pairwise_mergeSort (fields : List (Text × Value)) :
    (fields.mergeSort fun a b => decide (a.1 ≤ b.1)).Pairwise fun a b => a.1 ≤ b.1 :=
  (List.pairwise_mergeSort key_le_trans key_le_total fields).imp of_decide_eq_true

/-- Fields with different keys have one order. -/
theorem sortFields_of_perm {fields sorted : List (Text × Value)} (perm : fields.Perm sorted)
    (h : Ascending sorted) : sortFields fields = sorted := by
  have ordered := pairwise_mergeSort fields
  have below : sorted.Pairwise fun a b => a.1 ≤ b.1 := h.imp le_of_lt
  have unique : ∀ a b, a ∈ fields.mergeSort (fun a b => decide (a.1 ≤ b.1)) → b ∈ sorted →
      a.1 ≤ b.1 → b.1 ≤ a.1 → a = b := by
    intro a b ha hb forth back
    exact h.eq_of_key (perm.mem_iff.mp (List.mem_mergeSort.mp ha)) hb
      (le_antisymm forth back)
  have same := List.Perm.eq_of_pairwise unique ordered below
    ((List.mergeSort_perm ..).trans perm)
  rw [sortFields, same, lastOfEach_ascending h]

/-- Sorting by keys that differ puts them in ascending order. -/
theorem ascending_mergeSort {fields : List (Text × Value)}
    (distinct : (fields.map Prod.fst).Nodup) :
    Ascending (fields.mergeSort fun a b => decide (a.1 ≤ b.1)) := by
  have keys := ((List.mergeSort_perm fields fun a b => decide (a.1 ≤ b.1)).map
    Prod.fst).nodup_iff.mpr distinct
  rw [List.Nodup, List.pairwise_map] at keys
  apply (pairwise_mergeSort fields).imp₂ _ keys
  intro a b below differ
  by_contra above
  exact differ (le_antisymm below (not_lt.mp above))

/-- Where no key stands twice, sorting neither drops nor adds a field. -/
theorem sortFields_spec {fields : List (Text × Value)}
    (distinct : (fields.map Prod.fst).Nodup) :
    (sortFields fields).Perm fields ∧ Ascending (sortFields fields) := by
  have perm := List.mergeSort_perm fields fun a b => decide (a.1 ≤ b.1)
  have ascending := ascending_mergeSort distinct
  rw [sortFields_of_perm perm.symm ascending]
  exact ⟨perm, ascending⟩

/-- Sorting forgets the order in which fields are given, and nothing else. -/
theorem sortFields_eq_iff {fields others : List (Text × Value)}
    (distinct : (fields.map Prod.fst).Nodup) (distinct' : (others.map Prod.fst).Nodup) :
    sortFields fields = sortFields others ↔ fields.Perm others := by
  obtain ⟨perm, -⟩ := sortFields_spec distinct
  obtain ⟨perm', ascending⟩ := sortFields_spec distinct'
  constructor
  · intro equal
    exact perm.symm.trans (equal ▸ perm')
  · intro reordered
    exact sortFields_of_perm (reordered.trans perm'.symm) ascending

/-- Fields with the same keys and with equal values for equal keys differ only in their order. -/
theorem perm_of_keys {fields others : List (Text × Value)}
    (distinct : (fields.map Prod.fst).Nodup)
    (keys : (fields.map Prod.fst).Perm (others.map Prod.fst))
    (values : ∀ f ∈ fields, ∀ g ∈ others, f.1 = g.1 → f.2 = g.2) : fields.Perm others := by
  have distinct' := keys.nodup_iff.mp distinct
  rw [List.perm_ext_iff_of_nodup distinct.of_map distinct'.of_map]
  intro f
  constructor
  · intro member
    obtain ⟨g, other, key⟩ := List.mem_map.mp (keys.mem_iff.mp (List.mem_map_of_mem member))
    rwa [Prod.ext key.symm (values f member g other key.symm)]
  · intro member
    obtain ⟨g, other, key⟩ := List.mem_map.mp (keys.mem_iff.mpr (List.mem_map_of_mem member))
    rwa [← Prod.ext key (values g other f member key)]

theorem canonicalItems_eq (items : List Value) : canonicalItems items = items.map canonical := by
  induction items with
  | nil => rfl
  | cons v items ih => rw [canonicalItems, ih, List.map_cons]

theorem canonical_list (items : List Value) :
    canonical (.list items) = .list (items.map canonical) := by
  rw [canonical, canonicalItems_eq]

@[simp] theorem canonical_text (s : Text) : canonical (.text s) = .text s := rfl

@[simp] theorem canonical_int (i : Int) : canonical (.int i) = .int i := rfl

def canonicalField (f : Text × Value) : Text × Value :=
  (f.1, f.2.canonical)

theorem keys_canonicalField (fields : List (Text × Value)) :
    (fields.map canonicalField).map Prod.fst = fields.map Prod.fst := by
  rw [List.map_map]
  rfl

theorem canonicalFields_ofFields (fields : List (Text × Value)) :
    canonicalFields (fields.map fun (k, v) => (.text k, v)) = fields.map canonicalField := by
  induction fields with
  | nil => rfl
  | cons f fields ih =>
    rw [List.map_cons, canonicalFields, ih, List.map_cons]
    rfl

/-- The canonical form of a mapping with text keys: fields in canonical form, sorted. -/
theorem canonical_ofFields (fields : List (Text × Value)) :
    canonical (.ofFields fields) = .ofFields (sortFields (fields.map canonicalField)) := by
  rw [ofFields, canonical, canonicalFields_ofFields]

/-- The canonical form of a mapping whose fields have been put in order. -/
theorem canonical_of_sorted {fields sorted : List (Text × Value)}
    (perm : (fields.map canonicalField).Perm sorted)
    (keys : (sorted.map Prod.fst).Pairwise (· < ·)) :
    canonical (.ofFields fields) = .ofFields sorted := by
  have ascending : Ascending sorted := List.pairwise_map.mp keys
  rw [canonical_ofFields, sortFields_of_perm perm ascending]

theorem canonical_ofTexts (ss : List Text) : canonical (.ofTexts ss) = .ofTexts ss := by
  rw [ofTexts, canonical, canonicalItems_eq, List.map_map]
  rfl

end TokenScopes.Value
