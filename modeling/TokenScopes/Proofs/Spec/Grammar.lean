import Mathlib.Data.List.Forall2
import Mathlib.Data.List.Induction
import TokenScopes.Proofs.Outcome
import TokenScopes.Spec.Normalize

namespace TokenScopes

/-- The value under a key, which counts by its text. Of several entries with one key the last
counts. -/
def Value.under? (entries : List (Value × Value)) (key : Text) : Option Value :=
  (entries.reverse.find? (·.1.display == key)).map Prod.snd

/-- A field that holds a text. One that is absent or null holds the empty text. -/
inductive HoldsText : Option Value → Text → Prop
  | absent : HoldsText none ""
  | null : HoldsText (some .null) ""
  | text (s : Text) : HoldsText (some (.text s)) s

/-- A field that holds names. One that is absent or null holds none. -/
inductive HoldsNames : Option Value → List Text → Prop
  | absent : HoldsNames none []
  | null : HoldsNames (some .null) []
  | list (names : List Text) : HoldsNames (some (.list (names.map .text))) names
  | tuple (names : List Text) : HoldsNames (some (.tuple (names.map .text))) names

/-- The fields of an entry by their keys. -/
abbrev Lookup := Text → Option Value

namespace Lookup

variable (field : Lookup)

def IsStructured : Prop :=
  ∃ key ∈ (["scopes", "source", "sourceText", "scopesBegin", "scopesOpened", "scopesEnd",
    "scopesClosed"] : List Text), field key ≠ none

def HasBlankLiteral : Prop :=
  ∃ s, field "c" = some (.text s) ∧ Text.allBlank s.toList = true

/-- The text that a structured entry declares: the first spelling that is present, or the literal
where that is missing or null. -/
def declaredText : Option Value :=
  match (field "source").or (field "sourceText") with
  | none | some .null => field "c"
  | some v => some v

def declaredOpens : Option Value :=
  (field "scopesBegin").or (field "scopesOpened")

def declaredCloses : Option Value :=
  (field "scopesEnd").or (field "scopesClosed")

/-- A span that says what the fields of a structured entry declare. -/
structure Declares (s : Span) : Prop where
  source : HoldsText field.declaredText s.source
  opens : HoldsNames field.declaredOpens s.opens
  scopes : HoldsNames (field "scopes") s.scopes
  closes : HoldsNames field.declaredCloses s.closes

/-- Some field of a structured entry holds neither null nor what it should. -/
inductive Unfit : Prop
  | source (other : ∀ s, ¬HoldsText field.declaredText s)
  | opens (other : ∀ names, ¬HoldsNames field.declaredOpens names)
  | scopes (other : ∀ names, ¬HoldsNames (field "scopes") names)
  | closes (other : ∀ names, ¬HoldsNames field.declaredCloses names)

theorem Declares.not_unfit {field : Lookup} {s : Span} (h : field.Declares s) : ¬field.Unfit := by
  intro unfit
  cases unfit with
  | source other => exact other _ h.source
  | opens other => exact other _ h.opens
  | scopes other => exact other _ h.scopes
  | closes other => exact other _ h.closes

end Lookup

open Value (under?)

/-- The entries without a meaning. -/
inductive Malformed : Value → Prop
  | foreign {v : Value} (span : ∀ s, v ≠ .span s) (mapping : ∀ entries, v ≠ .map entries) :
    Malformed v
  | structured {entries : List (Value × Value)}
    (structured : Lookup.IsStructured (under? entries))
    (kept : ¬Lookup.HasBlankLiteral (under? entries)) (unfit : Lookup.Unfit (under? entries)) :
    Malformed (.map entries)
  | legacy {entries : List (Value × Value)} (flat : ¬Lookup.IsStructured (under? entries))
    (literal : under? entries "c" ≠ none) {key : Text} (known : key ∈ (["c", "t"] : List Text))
    (unfit : ∀ s, ¬HoldsText (under? entries key) s) : Malformed (.map entries)
  | unrecognised {entries : List (Value × Value)} (flat : ¬Lookup.IsStructured (under? entries))
    (literal : under? entries "c" = none) : Malformed (.map entries)

/-- The entries with a meaning, and the spans they stand for. -/
inductive Denotes : Value → List DeclaredSpan → Prop
  | built (s : Span) : Denotes (.span s) [⟨s, []⟩]
  | structured {entries : List (Value × Value)} {s : Span}
    (structured : Lookup.IsStructured (under? entries))
    (kept : ¬Lookup.HasBlankLiteral (under? entries))
    (declared : Lookup.Declares (under? entries) s) :
    Denotes (.map entries) [⟨s, Fields.ofEntries entries⟩]
  | dropped {entries : List (Value × Value)} (structured : Lookup.IsStructured (under? entries))
    (blank : Lookup.HasBlankLiteral (under? entries)) : Denotes (.map entries) []
  | legacy {entries : List (Value × Value)} {literal tags : Text}
    (flat : ¬Lookup.IsStructured (under? entries)) (present : under? entries "c" ≠ none)
    (text : HoldsText (under? entries "c") literal) (tagged : HoldsText (under? entries "t") tags) :
    Denotes (.map entries)
      (if Text.allBlank literal.toList then []
      else [⟨{ source := literal, scopes := Scope.ofTagString tags }, Fields.ofEntries entries⟩])

/-- No entry both has a meaning and lacks one. -/
theorem Denotes.not_malformed {v : Value} {ds : List DeclaredSpan} (h : Denotes v ds) :
    ¬Malformed v := by
  intro malformed
  cases h with
  | built s =>
    cases malformed with
    | foreign span _ => exact span s rfl
  | structured structured kept declared =>
    cases malformed with
    | foreign _ mapping => exact mapping _ rfl
    | structured _ _ unfit => exact declared.not_unfit unfit
    | legacy flat _ _ _ => exact flat structured
    | unrecognised flat _ => exact flat structured
  | dropped structured blank =>
    cases malformed with
    | foreign _ mapping => exact mapping _ rfl
    | structured _ kept _ => exact kept blank
    | legacy flat _ _ _ => exact flat structured
    | unrecognised flat _ => exact flat structured
  | legacy flat present text tagged =>
    cases malformed with
    | foreign _ mapping => exact mapping _ rfl
    | structured structured _ _ => exact flat structured
    | legacy _ _ known unfit =>
      rcases List.mem_pair.mp known with rfl | rfl
      · exact unfit _ text
      · exact unfit _ tagged
    | unrecognised _ literal => exact present literal

namespace Fields

theorem get?_cons (name : Text) (v : Value) (fields : Fields) (key : Text) :
    get? ((name, v) :: fields) key = if name = key then some v else get? fields key := by
  by_cases same : name = key
  · simp [get?, same]
  · simp [get?, same]

theorem get?_insertField (fields : Fields) (name : Text) (v : Value) (key : Text) :
    get? (Value.insertField fields name v) key = if name = key then some v else get? fields key := by
  induction fields with
  | nil => exact get?_cons name v [] key
  | cons f fields ih =>
    obtain ⟨first, held⟩ := f
    rw [Value.insertField]
    by_cases replaced : first = name
    · rw [if_pos replaced, get?_cons, get?_cons, replaced]
      by_cases here : name = key
      · rw [if_pos here, if_pos here]
      · rw [if_neg here, if_neg here, if_neg here]
    · rw [if_neg replaced, get?_cons, get?_cons, ih]
      by_cases here : first = key
      · have other : name ≠ key := fun same => replaced (here.trans same.symm)
        rw [if_pos here, if_pos here, if_neg other]
      · rw [if_neg here, if_neg here]

/-- The fields of a mapping are looked up as its entries are. -/
theorem get?_ofEntries (entries : List (Value × Value)) :
    get? (ofEntries entries) = under? entries := by
  funext key
  induction entries using List.reverseRecOn with
  | nil => rfl
  | append_singleton entries last ih =>
    obtain ⟨name, v⟩ := last
    have split : ofEntries (entries ++ [(name, v)]) =
        Value.insertField (ofEntries entries) name.display v := List.foldl_append
    rw [split, get?_insertField, ih, under?, under?, List.reverse_append]
    by_cases here : name.display = key
    · simp [here]
    · simp [here]

theorem has_eq (fields : Fields) (key : Text) : fields.has key = (fields.get? key).isSome := by
  rw [has, get?, Option.isSome_map, List.isSome_find?]

theorem firstOf?_pair (fields : Fields) (first second : Text) :
    fields.firstOf? [first, second] = (fields.get? first).or (fields.get? second) := by
  rw [firstOf?, List.findSome?_cons, List.findSome?_cons, List.findSome?_nil]
  cases fields.get? first with
  | some v => rfl
  | none => cases fields.get? second <;> rfl

end Fields

namespace Entry

variable (fields : Fields)

theorem any_structuredKeys_iff :
    structuredKeys.any fields.has = true ↔ Lookup.IsStructured fields.get? := by
  simp only [List.any_eq_true, Fields.has_eq, Option.isSome_iff_ne_none]
  rfl

theorem isPlaceholder_structured_iff :
    isPlaceholder (.structured fields) = true ↔ Lookup.HasBlankLiteral fields.get? := by
  simp only [isPlaceholder, Lookup.HasBlankLiteral, literalKey]
  cases found : fields.get? "c" with
  | none => simp
  | some v => cases v <;> simp

theorem sourceOf_eq : sourceOf fields = Lookup.declaredText fields.get? := by
  rw [sourceOf, sourceKeys, Fields.firstOf?_pair]
  rfl

theorem readText_yields (name : String) (v : Option Value) :
    Yields (fun _ => ∀ s, ¬HoldsText v s) (HoldsText v) (readText name v) := by
  cases v with
  | none => exact .absent
  | some v =>
    cases v with
    | null => exact .null
    | text s => exact .text s
    | _ => exact fun s holds => by cases holds

theorem readNames_yields (name : String) (items : List Value) :
    Yields (fun _ => ∀ names : List Text, items ≠ names.map .text)
      (fun names => items = names.map .text) (readNames name items) := by
  induction items with
  | nil => exact rfl
  | cons v rest ih =>
    cases v with
    | text s =>
      rw [readNames]
      cases later : readNames name rest with
      | ok names =>
        rw [later] at ih
        exact congrArg (.text s :: ·) ih
      | error fault =>
        rw [later] at ih
        intro names all
        obtain ⟨_, others, -, -, tail⟩ := List.map_eq_cons_iff.mp all.symm
        exact ih others tail.symm
    | _ =>
      intro names all
      obtain ⟨s, ss, -, other, -⟩ := List.map_eq_cons_iff.mp all.symm
      exact Value.noConfusion other

/-- A list of names is read, or the field holds no such list. -/
theorem readScopes_yields (name : String) (v : Option Value) :
    Yields (fun _ => ∀ names, ¬HoldsNames v names) (HoldsNames v) (readScopes name v) := by
  cases v with
  | none => exact .absent
  | some v =>
    cases v with
    | null => exact .null
    | list items =>
      refine (readNames_yields name items).mono ?_ ?_
      · intro _ unfit names holds
        cases holds with
        | list => exact unfit names rfl
      · rintro names rfl
        exact .list names
    | tuple items =>
      refine (readNames_yields name items).mono ?_ ?_
      · intro _ unfit names holds
        cases holds with
        | tuple => exact unfit names rfl
      · rintro names rfl
        exact .tuple names
    | _ =>
      intro names holds
      cases holds

/-- A structured entry declares what its fields hold, or one of them is unfit. -/
theorem toSpan_structured_yields :
    Yields (fun _ => Lookup.Unfit fields.get?)
      (fun d => d.fields = fields ∧ Lookup.Declares fields.get? d.span)
      (toSpan (.structured fields)) := by
  have source := readText_yields "source" (sourceOf fields)
  have opens := readScopes_yields "scopesBegin" (fields.firstOf? opensKeys)
  have scopes := readScopes_yields scopesKey (fields.get? scopesKey)
  have closes := readScopes_yields "scopesEnd" (fields.firstOf? closesKeys)
  rw [toSpan, sourceOf_eq, opensKeys, closesKeys, Fields.firstOf?_pair, Fields.firstOf?_pair] at *
  refine (source.mono (fun _ => .source) fun _ => id).bind fun text textHolds => ?_
  refine (opens.mono (fun _ => .opens) fun _ => id).bind fun opened opensHold => ?_
  refine (scopes.mono (fun _ => .scopes) fun _ => id).bind fun carried scopesHold => ?_
  refine (closes.mono (fun _ => .closes) fun _ => id).bind fun closed closesHold => ?_
  exact ⟨rfl, textHolds, opensHold, scopesHold, closesHold⟩

end Entry

def SpecFault.shift (f : SpecFault) (n : Nat) : SpecFault :=
  { f with index := f.index + n }

namespace Spec

theorem entrySpans_map (entries : List (Value × Value)) :
    entrySpans (.map entries) = (do
      let entry ← Entry.classify (.map entries)
      if entry.isPlaceholder then return []
      return [← entry.toSpan]) := rfl

theorem classify_structured {entries : List (Value × Value)}
    (structured : Lookup.IsStructured (under? entries)) :
    Entry.classify (.map entries) = .ok (.structured (Fields.ofEntries entries)) := by
  rw [← Fields.get?_ofEntries] at structured
  rw [Entry.classify, if_pos ((Entry.any_structuredKeys_iff _).mpr structured)]

theorem classify_flat {entries : List (Value × Value)}
    (flat : ¬Lookup.IsStructured (under? entries)) :
    Entry.classify (.map entries) = (
      if (under? entries "c").isSome then do
        let literal ← Entry.readText "c" (under? entries "c")
        let tags ← Entry.readText "t" (under? entries "t")
        return .legacy literal tags (Fields.ofEntries entries)
      else .error .unrecognised) := by
  rw [← Fields.get?_ofEntries] at flat ⊢
  rw [Entry.classify, if_neg fun known => flat ((Entry.any_structuredKeys_iff _).mp known),
    Entry.literalKey, Entry.tagsKey, Fields.has_eq]

/-- An entry that is not structured has a literal and tags, or it is malformed. -/
theorem classify_flat_yields {entries : List (Value × Value)}
    (flat : ¬Lookup.IsStructured (under? entries)) :
    Yields (fun _ => Malformed (.map entries))
      (fun entry => ∃ literal tags, entry = .legacy literal tags (Fields.ofEntries entries) ∧
        under? entries "c" ≠ none ∧ HoldsText (under? entries "c") literal ∧
        HoldsText (under? entries "t") tags)
      (Entry.classify (.map entries)) := by
  have text := Entry.readText_yields "c" (under? entries "c")
  have tagged := Entry.readText_yields "t" (under? entries "t")
  rw [classify_flat flat]
  split_ifs with given
  · have present : under? entries "c" ≠ none := Option.isSome_iff_ne_none.mp given
    refine (text.mono (fun _ => .legacy flat present (by simp)) fun _ => id).bind ?_
    intro literal textHolds
    refine (tagged.mono (fun _ => .legacy flat present (by simp)) fun _ => id).bind ?_
    intro tags tagsHold
    exact ⟨literal, tags, rfl, present, textHolds, tagsHold⟩
  · exact .unrecognised flat (by simpa using given)

/-- An entry gives the spans it stands for, or it is malformed. -/
theorem entrySpans_yields (v : Value) :
    Yields (fun _ => Malformed v) (Denotes v) (entrySpans v) := by
  cases v with
  | span s => exact .built s
  | map entries =>
    rw [entrySpans_map]
    by_cases structured : Lookup.IsStructured (under? entries)
    · have read := Entry.toSpan_structured_yields (Fields.ofEntries entries)
      have blank := Entry.isPlaceholder_structured_iff (Fields.ofEntries entries)
      rw [Fields.get?_ofEntries] at read blank
      rw [classify_structured structured]
      change Yields _ _ (if Entry.isPlaceholder _ = true then _ else _)
      split_ifs with placeholder
      · exact .dropped structured (blank.mp placeholder)
      · have kept := fun literal => placeholder (blank.mpr literal)
        refine (read.mono (fun _ => .structured structured kept) fun _ => id).bind ?_
        rintro ⟨s, _⟩ ⟨rfl, declared⟩
        exact .structured structured kept declared
    · apply (classify_flat_yields structured).bind
      rintro _ ⟨literal, tags, rfl, present, text, tagged⟩
      have legacy := Denotes.legacy structured present text tagged
      change Yields _ _ (if Text.allBlank literal.toList = true then _ else _)
      split_ifs at legacy ⊢ with blank
      · exact legacy
      · exact legacy
  | _ => exact .foreign (fun _ same => Value.noConfusion same) fun _ same => Value.noConfusion same

/-- An entry is refused exactly when it is malformed. -/
theorem entrySpans_isError_iff (v : Value) :
    (∃ cause, entrySpans v = .error cause) ↔ Malformed v := by
  have yields := entrySpans_yields v
  constructor
  · rintro ⟨cause, refused⟩
    exact yields.fault refused
  · intro malformed
    cases result : entrySpans v with
    | error cause => exact ⟨cause, rfl⟩
    | ok ds =>
      rw [result] at yields
      exact absurd malformed yields.not_malformed

theorem entrySpans_isOk_iff (v : Value) : (∃ ds, entrySpans v = .ok ds) ↔ ¬Malformed v := by
  rw [← entrySpans_isError_iff]
  cases entrySpans v <;> simp

/-- The first malformed entry is refused; without one all entries have their spans. -/
theorem normalizeFrom_yields (index : Nat) (entries : List Value) :
    Yields
      (fun fault : SpecFault => ∃ front v back, entries = front ++ v :: back ∧ Malformed v ∧
        (∀ w ∈ front, ¬Malformed w) ∧ fault.index = (index + front.length : Nat))
      (fun ds => (∀ v ∈ entries, ¬Malformed v) ∧
        ∃ parts, List.Forall₂ (fun v part => entrySpans v = .ok part) entries parts ∧
          ds = parts.flatten)
      (normalizeFrom index entries) := by
  induction entries generalizing index with
  | nil => exact ⟨by simp, [], .nil, rfl⟩
  | cons v rest ih =>
    rw [normalizeFrom]
    cases here : entrySpans v with
    | error cause =>
      have malformed := (entrySpans_isError_iff v).mp ⟨cause, here⟩
      exact ⟨[], v, rest, rfl, malformed, by simp, rfl⟩
    | ok part =>
      have wellFormed := (entrySpans_isOk_iff v).mp ⟨part, here⟩
      refine (Yields.mono (ih (index + 1)) ?_ fun _ => id).bind ?_
      · rintro fault ⟨front, w, back, rfl, malformed, before, place⟩
        refine ⟨v :: front, w, back, rfl, malformed, ?_, ?_⟩
        · exact List.forall_mem_cons.mpr ⟨wellFormed, before⟩
        · rw [place, List.length_cons]
          omega
      · rintro _ ⟨later, parts, alike, rfl⟩
        refine ⟨?_, part :: parts, .cons here alike, rfl⟩
        exact List.forall_mem_cons.mpr ⟨wellFormed, later⟩

/-- Entries that stand further back have faults with greater indices, and no other difference. -/
theorem normalizeFrom_shift (index n : Nat) (entries : List Value) :
    normalizeFrom (index + n) entries = (normalizeFrom index entries).mapError (·.shift n) := by
  induction entries generalizing index with
  | nil => rfl
  | cons v rest ih =>
    have later := ih (index + 1)
    rw [Nat.add_right_comm] at later
    rw [normalizeFrom, normalizeFrom, later]
    cases entrySpans v with
    | error cause => rfl
    | ok part => cases normalizeFrom (index + 1) rest <;> rfl

/-- What stands in front is normalized first; its faults come first too. -/
theorem normalizeFrom_append (index : Nat) (front back : List Value) :
    normalizeFrom index (front ++ back) =
      (normalizeFrom index front).bind fun before =>
        (normalizeFrom (index + front.length) back).map (before ++ ·) := by
  induction front generalizing index with
  | nil =>
    change normalizeFrom index back = (normalizeFrom index back).map ([] ++ ·)
    cases normalizeFrom index back <;> rfl
  | cons v rest ih =>
    rw [List.cons_append, normalizeFrom, normalizeFrom, ih, List.length_cons,
      Nat.add_right_comm index 1, Nat.add_assoc index]
    cases entrySpans v with
    | error cause => rfl
    | ok part =>
      cases normalizeFrom (index + 1) rest with
      | error fault => rfl
      | ok later =>
        cases normalizeFrom (index + (rest.length + 1)) back with
        | error fault => rfl
        | ok last => exact congrArg Except.ok (List.append_assoc part later last).symm

theorem normalize_singleton (v : Value) (ds : List DeclaredSpan) :
    normalize [v] = .ok ds ↔ entrySpans v = .ok ds := by
  rw [normalize, normalizeFrom]
  cases entrySpans v with
  | error cause => exact iff_of_false (by rintro ⟨⟩) (by rintro ⟨⟩)
  | ok part =>
    have whole : (Except.ok (part ++ []) : Except SpecFault _) = .ok ds ↔ part = ds := by simp
    exact whole.trans (by simp)

/-- Normalization refuses a list exactly when it has a malformed entry, and then tells of the first.
Otherwise it yields what the entries are normalized to one by one. So lists are normalized part by
part, the faults of a later part being shifted. -/
theorem normalize_decides_grammar (entries : List Value) :
    ((∃ fault, normalize entries = .error fault) ↔ ∃ v ∈ entries, Malformed v) ∧
      (∀ fault, normalize entries = .error fault →
        ∃ front v back, entries = front ++ v :: back ∧ Malformed v ∧
          (∀ w ∈ front, ¬Malformed w) ∧ fault.index = front.length) ∧
      ((∀ v ∈ entries, ¬Malformed v) →
        ∃ parts, List.Forall₂ (fun v part => normalize [v] = .ok part) entries parts ∧
          normalize entries = .ok parts.flatten) ∧
      ∀ more, normalize (entries ++ more) =
        (normalize entries).bind fun before =>
          ((normalize more).mapError (·.shift entries.length)).map (before ++ ·) := by
  have yields := normalizeFrom_yields 0 entries
  have parted (more : List Value) := normalizeFrom_append 0 entries more
  simp only [normalizeFrom_shift 0] at parted
  simp only [← normalize_singleton, Nat.zero_add] at yields
  rw [normalize]
  cases result : normalizeFrom 0 entries with
  | error fault =>
    rw [result] at yields parted
    obtain ⟨front, v, back, split, malformed, before, place⟩ := yields
    have member : v ∈ entries := by simp [split]
    refine ⟨iff_of_true ⟨fault, rfl⟩ ⟨v, member, malformed⟩, ?_, ?_, parted⟩
    · rintro _ ⟨⟩
      exact ⟨front, v, back, split, malformed, before, place⟩
    · intro wellFormed
      exact absurd malformed (wellFormed v member)
  | ok ds =>
    rw [result] at yields parted
    obtain ⟨wellFormed, parts, alike, rfl⟩ := yields
    refine ⟨iff_of_false ?_ ?_, ?_, fun _ => ⟨parts, alike, rfl⟩, parted⟩
    · rintro ⟨fault, ⟨⟩⟩
    · rintro ⟨v, member, malformed⟩
      exact wellFormed v member malformed
    · rintro fault ⟨⟩

end Spec

end TokenScopes
