import TokenScopes.Proofs.Json.RoundTrip
import TokenScopes.Proofs.Value.Canonical
import TokenScopes.Spec.Normalize

namespace TokenScopes

theorem Value.insertField_of_new {key : Text} {fields : Fields}
    (h : key ∉ fields.map Prod.fst) (v : Value) :
    Value.insertField fields key v = fields ++ [(key, v)] := by
  induction fields with
  | nil => rfl
  | cons f fields ih =>
    rw [List.map_cons, List.mem_cons, not_or] at h
    rw [Value.insertField, if_neg (Ne.symm h.1), ih h.2, List.cons_append]

/-- Different keys are put in one behind the other. -/
theorem Fields.foldl_insertField (done : Fields) {fields : Fields}
    (distinct : ((done ++ fields).map Prod.fst).Nodup) :
    (fields.map fun (k, v) => ((.text k : Value), v)).foldl
      (fun fields (k, v) => Value.insertField fields k.display v) done = done ++ fields := by
  induction fields generalizing done with
  | nil => exact (List.append_nil done).symm
  | cons f fields ih =>
    obtain ⟨key, v⟩ := f
    have new := Value.insertField_of_new (Json.key_new distinct) v
    have later := ih (done ++ [(key, v)]) (by simpa using distinct)
    rw [List.append_assoc] at later
    rw [List.map_cons, List.foldl_cons]
    change List.foldl _ (Value.insertField done key v) _ = _
    rw [new, later, List.singleton_append]

/-- A mapping with different text keys is its own list of fields. -/
theorem Fields.ofEntries_ofFields {fields : Fields} (distinct : (fields.map Prod.fst).Nodup) :
    Fields.ofEntries (fields.map fun (k, v) => (.text k, v)) = fields :=
  Fields.foldl_insertField [] distinct

theorem Entry.readNames_texts (field : String) (ss : List Text) :
    Entry.readNames field (ss.map .text) = .ok ss := by
  induction ss with
  | nil => rfl
  | cons s ss ih =>
    rw [List.map_cons, Entry.readNames, ih]
    rfl

theorem Entry.readScopes_ofTexts (field : String) (ss : List Text) :
    Entry.readScopes field (some (.ofTexts ss)) = .ok ss :=
  Entry.readNames_texts field ss

/-- A list that is left out where it is empty is read back from both forms. -/
theorem Entry.readScopes_unless_empty (field : String) (ss : List Text) :
    Entry.readScopes field (if ss.isEmpty then none else some (.ofTexts ss)) = .ok ss := by
  cases ss with
  | nil => rfl
  | cons s ss => exact Entry.readScopes_ofTexts field (s :: ss)

namespace Span

def sortedFields (s : Span) : Fields :=
  [(("scopes" : Text), .ofTexts s.scopes)] ++
    (if s.opens.isEmpty then [] else [(("scopesBegin" : Text), .ofTexts s.opens)]) ++
    (if s.closes.isEmpty then [] else [(("scopesEnd" : Text), .ofTexts s.closes)]) ++
    [(("source" : Text), .text s.source)]

/-- The fields that are left out do not disturb the order. -/
theorem sortedFields_ascending (s : Span) : Value.Ascending s.sortedFields := by
  have keys : (s.sortedFields.map Prod.fst).Sublist
      (["scopes", "scopesBegin", "scopesEnd", "source"] : List Text) := by
    cases opens : s.opens.isEmpty <;> cases closes : s.closes.isEmpty <;>
      simp [sortedFields, opens, closes]
  have order : (["scopes", "scopesBegin", "scopesEnd", "source"] : List Text).Pairwise (· < ·) := by
    decide
  exact List.pairwise_map.mp (order.sublist keys)

/-- The canonical form of a span's entry. -/
theorem canonical_toValue (s : Span) : s.toValue.canonical = .ofFields s.sortedFields := by
  -- In the order of the keys the source comes last, behind the scopes.
  have moved {α : Type} (a b : α) (o c : List α) :
      ([a] ++ o ++ [b] ++ c).Perm ([b] ++ o ++ c ++ [a]) := by
    have middle : (o ++ b :: c).Perm (b :: (o ++ c)) := List.perm_middle
    simpa using (List.perm_append_singleton a (o ++ b :: c)).symm.trans (middle.append_right [a])
  rw [toValue, Value.canonical_ofFields]
  congr 1
  apply Value.sortFields_of_perm _ (sortedFields_ascending s)
  simp only [List.map_append, List.map_cons, List.map_nil, apply_ite (List.map _),
    Value.canonicalField, Value.canonical, Value.canonical_ofTexts]
  exact moved _ _ _ _

/-- No text of a span has the two halves of a pair in a row. -/
structure Apart (s : Span) : Prop where
  source : s.source.Apart
  opens : ∀ name ∈ s.opens, name.Apart
  scopes : ∀ name ∈ s.scopes, name.Apart
  closes : ∀ name ∈ s.closes, name.Apart

theorem exact_ofTexts {ss : List Text} (apart : ∀ s ∈ ss, s.Apart) :
    Json.Exact (.ofTexts ss) := by
  apply Json.Exact.list
  intro v member
  obtain ⟨s, listed, rfl⟩ := List.mem_map.mp member
  exact .text (apart s listed)

/-- JSON text denotes the entry of a span exactly, since it holds texts only. -/
theorem exact_sortedFields {s : Span} (apart : s.Apart) :
    Json.Exact (.ofFields s.sortedFields) := by
  have kinds : ∀ f ∈ s.sortedFields, f.1.Apart ∧ Json.Exact f.2 := by
    intro f member
    simp only [sortedFields, List.mem_append, List.mem_singleton, List.mem_ite_nil_left] at member
    rcases member with ((rfl | ⟨-, rfl⟩) | ⟨-, rfl⟩) | rfl
    · exact ⟨Json.apart_ofString _, exact_ofTexts apart.scopes⟩
    · exact ⟨Json.apart_ofString _, exact_ofTexts apart.opens⟩
    · exact ⟨Json.apart_ofString _, exact_ofTexts apart.closes⟩
    · exact ⟨Json.apart_ofString _, .text apart.source⟩
  exact .map s.sortedFields_ascending.nodup (fun f member => (kinds f member).1)
    fun f member => (kinds f member).2

theorem sourceOf_sortedFields (s : Span) :
    Entry.sourceOf s.sortedFields = some (.text s.source) := by
  cases opens : s.opens.isEmpty <;> cases closes : s.closes.isEmpty <;>
    simp [Entry.sourceOf, sortedFields, opens, closes, Fields.firstOf?, Fields.get?,
      Entry.sourceKeys]

theorem opens_sortedFields (s : Span) : s.sortedFields.firstOf? Entry.opensKeys =
    if s.opens.isEmpty then none else some (.ofTexts s.opens) := by
  cases opens : s.opens.isEmpty <;> cases closes : s.closes.isEmpty <;>
    simp [sortedFields, opens, closes, Fields.firstOf?, Fields.get?, Entry.opensKeys]

theorem scopes_sortedFields (s : Span) :
    s.sortedFields.get? Entry.scopesKey = some (.ofTexts s.scopes) := by
  simp [sortedFields, Fields.get?, Entry.scopesKey]

theorem closes_sortedFields (s : Span) : s.sortedFields.firstOf? Entry.closesKeys =
    if s.closes.isEmpty then none else some (.ofTexts s.closes) := by
  cases opens : s.opens.isEmpty <;> cases closes : s.closes.isEmpty <;>
    simp [sortedFields, opens, closes, Fields.firstOf?, Fields.get?, Entry.closesKeys]

theorem literal_sortedFields (s : Span) : s.sortedFields.get? Entry.literalKey = none := by
  cases opens : s.opens.isEmpty <;> cases closes : s.closes.isEmpty <;>
    simp [sortedFields, opens, closes, Fields.get?, Entry.literalKey]

/-- The canonical entry of a span stands for that span. -/
theorem entrySpans_sortedFields (s : Span) :
    Spec.entrySpans (.ofFields s.sortedFields) = .ok [⟨s, s.sortedFields⟩] := by
  have fields := Fields.ofEntries_ofFields s.sortedFields_ascending.nodup
  have classified :
      Entry.classify (.ofFields s.sortedFields) = .ok (.structured s.sortedFields) := by
    have known : Entry.structuredKeys.any s.sortedFields.has = true := by
      simp [sortedFields, Entry.structuredKeys, Fields.has, Entry.scopesKey]
    rw [Value.ofFields, Entry.classify, fields, if_pos known]
  have kept : Entry.isPlaceholder (.structured s.sortedFields) = false := by
    rw [Entry.isPlaceholder, literal_sortedFields]
  have read : Entry.toSpan (.structured s.sortedFields) = .ok ⟨s, s.sortedFields⟩ := by
    rw [Entry.toSpan, sourceOf_sortedFields, opens_sortedFields, scopes_sortedFields,
      closes_sortedFields, Entry.readScopes_unless_empty, Entry.readScopes_ofTexts,
      Entry.readScopes_unless_empty]
    rfl
  rw [Value.ofFields] at classified ⊢
  rw [Spec.entrySpans, classified]
  · simp only [bind, Except.bind, kept, read]
    rfl
  · intro _ equal
    cases equal

end Span
end TokenScopes
