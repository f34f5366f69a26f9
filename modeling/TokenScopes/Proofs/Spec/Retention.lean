import TokenScopes.Proofs.Spec.Grammar

namespace TokenScopes

/-- A span that says what an entry declares, whether it is kept or not. -/
inductive Declares (v : Value) : Span → Prop
  | built {s : Span} (itself : v = .span s) : Declares v s
  | structured {fields : Fields} {s : Span} (form : Entry.classify v = .ok (.structured fields))
    (declared : Lookup.Declares fields.get? s) : Declares v s
  | legacy {literal tags : Text} {fields : Fields}
    (form : Entry.classify v = .ok (.legacy literal tags fields)) :
    Declares v { source := literal, scopes := Scope.ofTagString tags }

def IsBlankLegacy (v : Value) : Prop :=
  ∃ literal tags fields, Entry.classify v = .ok (.legacy literal tags fields) ∧
    Text.allBlank literal.toList = true

def IsBlankStructured (v : Value) : Prop :=
  ∃ fields, Entry.classify v = .ok (.structured fields) ∧ Lookup.HasBlankLiteral fields.get?

/-- One span for each entry that is not dropped, in order, that says what the entry declares. -/
inductive Kept (dropped : Value → Prop) : List Value → List Span → Prop
  | nil : Kept dropped [] []
  | keep {v : Value} {s : Span} {entries : List Value} {ss : List Span} (stays : ¬dropped v)
    (declared : Declares v s) (rest : Kept dropped entries ss) :
    Kept dropped (v :: entries) (s :: ss)
  | drop {v : Value} {entries : List Value} {ss : List Span} (goes : dropped v)
    (rest : Kept dropped entries ss) : Kept dropped (v :: entries) ss

namespace Kept

variable {P Q : Value → Prop} {entries : List Value} {ss ts : List Span}

theorem congr (h : Kept P entries ss) (same : ∀ v ∈ entries, P v ↔ Q v) : Kept Q entries ss := by
  induction h with
  | nil => exact .nil
  | keep stays declared _ ih =>
    obtain ⟨here, later⟩ := List.forall_mem_cons.mp same
    exact .keep (fun goes => stays (here.mpr goes)) declared (ih later)
  | drop goes _ ih =>
    obtain ⟨here, later⟩ := List.forall_mem_cons.mp same
    exact .drop (here.mp goes) (ih later)

/-- The more entries are dropped, the fewer spans are left. -/
theorem length_le (h : Kept P entries ss) (k : Kept Q entries ts) (fewer : ∀ v, Q v → P v) :
    ss.length ≤ ts.length := by
  induction h generalizing ts with
  | nil => exact Nat.zero_le _
  | keep stays _ _ ih =>
    cases k with
    | keep _ _ rest => exact Nat.succ_le_succ (ih rest)
    | drop goes _ => exact absurd (fewer _ goes) stays
  | drop _ _ ih =>
    cases k with
    | keep _ _ rest => exact Nat.le_succ_of_le (ih rest)
    | drop _ rest => exact ih rest

/-- As many spans are left only if nothing more is dropped. -/
theorem dropped_of_length_le (h : Kept P entries ss) (k : Kept Q entries ts)
    (fewer : ∀ v, Q v → P v) (alike : ts.length ≤ ss.length) : ∀ v ∈ entries, P v → Q v := by
  induction h generalizing ts with
  | nil => simp
  | keep stays _ _ ih =>
    cases k with
    | keep _ _ rest =>
      have later := ih rest (Nat.le_of_succ_le_succ alike)
      exact List.forall_mem_cons.mpr ⟨fun goes => absurd goes stays, later⟩
    | drop goes _ => exact absurd (fewer _ goes) stays
  | drop _ dropped ih =>
    cases k with
    | keep _ _ rest =>
      have bound := dropped.length_le rest fewer
      rw [List.length_cons] at alike
      omega
    | drop goes rest => exact List.forall_mem_cons.mpr ⟨fun _ => goes, ih rest alike⟩

end Kept

open Value (under?)

namespace Spec

theorem classify_legacy {entries : List (Value × Value)} {literal tags : Text}
    (flat : ¬Lookup.IsStructured (under? entries)) (present : under? entries "c" ≠ none)
    (text : HoldsText (under? entries "c") literal) (tagged : HoldsText (under? entries "t") tags) :
    Entry.classify (.map entries) = .ok (.legacy literal tags (Fields.ofEntries entries)) := by
  have read (name : String) {v : Option Value} {s : Text} (holds : HoldsText v s) :
      Entry.readText name v = .ok s := by
    cases holds <;> rfl
  rw [classify_flat flat, if_pos (Option.isSome_iff_ne_none.mpr present), read "c" text,
    read "t" tagged]
  rfl

/-- The placeholders are the entries with a blank literal, of either form. -/
theorem isBlank_iff {v : Value} {entry : Entry} (form : Entry.classify v = .ok entry) :
    IsBlankLegacy v ∨ IsBlankStructured v ↔ entry.isPlaceholder = true := by
  constructor
  · rintro (⟨_, _, _, same, blank⟩ | ⟨fields, same, blank⟩)
    · cases form.symm.trans same
      exact blank
    · cases form.symm.trans same
      exact (Entry.isPlaceholder_structured_iff fields).mpr blank
  · intro placeholder
    cases entry with
    | structured fields =>
      exact .inr ⟨fields, form, (Entry.isPlaceholder_structured_iff fields).mp placeholder⟩
    | legacy literal tags fields => exact .inl ⟨literal, tags, fields, form, placeholder⟩

/-- What an entry stands for is what it declares, unless its literal is blank. -/
theorem kept_of_denotes {v : Value} {part : List DeclaredSpan} (h : Denotes v part)
    {entries : List Value} {ss : List Span}
    (rest : Kept (fun v => IsBlankLegacy v ∨ IsBlankStructured v) entries ss) :
    Kept (fun v => IsBlankLegacy v ∨ IsBlankStructured v) (v :: entries)
      (part.map (·.span) ++ ss) := by
  cases h with
  | built s =>
    refine .keep ?_ (.built rfl) rest
    rintro (⟨_, _, _, form, -⟩ | ⟨_, form, -⟩)
    · cases form
    · cases form
  | structured structured kept declared =>
    have form := classify_structured structured
    rw [← Fields.get?_ofEntries] at kept declared
    refine .keep (fun goes => kept ?_) (.structured form declared) rest
    exact (Entry.isPlaceholder_structured_iff _).mp ((isBlank_iff form).mp goes)
  | dropped structured blank =>
    have form := classify_structured structured
    rw [← Fields.get?_ofEntries] at blank
    exact .drop ((isBlank_iff form).mpr ((Entry.isPlaceholder_structured_iff _).mpr blank)) rest
  | @legacy _ literal tags flat present text tagged =>
    have form := classify_legacy flat present text tagged
    split_ifs with blank
    · exact .drop ((isBlank_iff form).mpr blank) rest
    · exact .keep (fun goes => blank ((isBlank_iff form).mp goes)) (.legacy form) rest

/-- Whatever is put together from the parts of entries keeps all but the blank ones. -/
theorem kept_of_parts {entries : List Value} {parts : List (List DeclaredSpan)}
    (h : List.Forall₂ (fun v part => entrySpans v = .ok part) entries parts) :
    Kept (fun v => IsBlankLegacy v ∨ IsBlankStructured v) entries
      (parts.flatten.map (·.span)) := by
  induction h with
  | nil => exact .nil
  | @cons v _ _ _ here _ ih =>
    have denotes := entrySpans_yields v
    rw [here] at denotes
    rw [List.flatten_cons, List.map_append]
    exact kept_of_denotes denotes ih

/-- All entries but those with a blank literal keep what they declare, in order. So structured
entries are kept together with the rest, and only blank legacy ones are dropped, exactly where no
structured entry has a blank literal. -/
theorem spans_keep_structured_iff {entries : List Value} {ss : List Span}
    (h : spans entries = .ok ss) :
    Kept (fun v => IsBlankLegacy v ∨ IsBlankStructured v) entries ss ∧
      (Kept IsBlankLegacy entries ss ↔ ∀ v ∈ entries, ¬IsBlankStructured v) := by
  have kept : Kept (fun v => IsBlankLegacy v ∨ IsBlankStructured v) entries ss := by
    have yields := normalizeFrom_yields 0 entries
    rw [spans, normalize] at h
    cases result : normalizeFrom 0 entries with
    | error fault =>
      rw [result] at h
      cases h
    | ok ds =>
      rw [result] at yields h
      obtain ⟨-, parts, alike, rfl⟩ := yields
      cases h
      exact kept_of_parts alike
  refine ⟨kept, ?_, ?_⟩
  · intro all v member blank
    have legacy := kept.dropped_of_length_le all (fun _ => .inl) (Nat.le_refl _) v member
      (.inr blank)
    -- One entry has one form.
    obtain ⟨_, _, _, form, -⟩ := legacy
    obtain ⟨_, other, -⟩ := blank
    rw [form] at other
    cases other
  · intro none
    apply kept.congr
    intro v member
    exact or_iff_left (none v member)

def blankBoundary : List Value :=
  [.ofFields [("c", .text "f"), ("t", .text "source name")],
    .ofFields [("c", .text ""), ("scopesBegin", .ofTexts ["parens"])],
    .ofFields [("c", .text " "), ("t", .text "source")],
    .ofFields [("c", .null), ("source", .text "("), ("scopes", .null)]]

def blankBoundarySpans : List Span :=
  [{ source := "f", scopes := Scope.ofTagString "source name" }, { source := "(" }]

/-- A boundary that opens a scope, in a list of legacy entries, and a blank one of these. -/
theorem blankBoundary_keep_structured_iff :
    spans blankBoundary = .ok blankBoundarySpans ∧
      Kept (fun v => IsBlankLegacy v ∨ IsBlankStructured v) blankBoundary blankBoundarySpans ∧
      (Kept IsBlankLegacy blankBoundary blankBoundarySpans ↔
        ∀ v ∈ blankBoundary, ¬IsBlankStructured v) := by
  have normal : spans blankBoundary = .ok blankBoundarySpans := rfl
  exact ⟨normal, spans_keep_structured_iff normal⟩

/-- A blank literal drops a structured entry with all that it declares. -/
theorem blank_literal_drops_structured :
    let v : Value := .ofFields [("c", .text " "), ("source", .text "x"),
      ("scopesBegin", .ofTexts ["parens"])]
    (∃ fields, Entry.classify v = .ok (.structured fields)) ∧
      Declares v { source := "x", opens := ["parens"] } ∧ spans [v] = .ok [] ∧
      ¬Kept IsBlankLegacy [v] [] := by
  intro v
  have form : Entry.classify v = .ok (.structured
      [("c", .text " "), ("source", .text "x"), ("scopesBegin", .ofTexts ["parens"])]) := rfl
  refine ⟨⟨_, form⟩, .structured form ⟨.text "x", .list ["parens"], .absent, .absent⟩, rfl, ?_⟩
  intro kept
  cases kept with
  | drop goes _ =>
    obtain ⟨_, _, _, other, -⟩ := goes
    rw [form] at other
    cases other

end Spec

end TokenScopes
