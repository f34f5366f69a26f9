import TokenScopes.Checker.Config
import TokenScopes.Proofs.Outcome
import TokenScopes.Proofs.Text.Blank

namespace TokenScopes

namespace Config

/-- A name as a section can list it together with others. -/
structure IsName (s : Text) : Prop where
  filled : s ≠ ""
  trimmed : Text.trim s = s
  whole : .char ',' ∉ s.toList

/-- A root scope as it is kept. -/
structure IsRoot (s : Text) : Prop where
  filled : Text.allBlank s.toList = false
  trimmed : Text.trim s = s

/-- A configuration that reading a section leaves as it is. -/
structure Settled (c : Config) : Prop where
  root : IsRoot c.rootScope
  names : ∀ s ∈ c.suffixes, IsName s

section Parts

variable {α : Type} [DecidableEq α] {separator : α} {as part : List α}

theorem splitOn_of_notMem (whole : separator ∉ as) : Text.splitOn separator as = [as] := by
  induction as with
  | nil => rfl
  | cons a as ih =>
    rw [List.mem_cons, not_or] at whole
    rw [Text.splitOn, if_neg (Ne.symm whole.1), ih whole.2]

/-- No part has a separator in it. -/
theorem notMem_of_mem_splitOn (member : part ∈ Text.splitOn separator as) : separator ∉ part := by
  induction as generalizing part with
  | nil =>
    rw [Text.splitOn, List.mem_singleton] at member
    rw [member]
    exact List.not_mem_nil
  | cons a as ih =>
    rw [Text.splitOn] at member
    split_ifs at member with found
    · rcases List.mem_cons.mp member with rfl | later
      · exact List.not_mem_nil
      · exact ih later
    · split at member
      · rw [List.mem_singleton] at member
        simpa [member] using Ne.symm found
      · next first rest parts =>
        rw [parts] at ih
        rcases List.mem_cons.mp member with rfl | later
        · rw [List.mem_cons, not_or]
          exact ⟨Ne.symm found, ih (List.mem_cons_self ..)⟩
        · exact ih (List.mem_cons_of_mem first later)

end Parts

/-- What is read between commas is a name. -/
theorem isName_of_mem_namesIn {s t : Text} (member : s ∈ namesIn t) : IsName s := by
  simp only [namesIn, List.mem_map, List.mem_filter] at member
  obtain ⟨_, ⟨⟨part, split, rfl⟩, filled⟩, rfl⟩ := member
  refine ⟨?_, ?_, ?_⟩
  · rw [ne_eq, ← Text.toList_eq_nil_iff]
    simpa using filled
  · rw [Text.trim, Text.toList_ofList, Text.trimChars_trimChars]
  · rw [Text.toList_ofList]
    exact fun comma => notMem_of_mem_splitOn split (Text.mem_of_mem_trimChars comma)

theorem isName_of_mem_namesOf {s : Text} {v : Value} (member : s ∈ namesOf v) : IsName s := by
  have ofItems {items : List Value} (listed : s ∈ items.flatMap namesOfItem) : IsName s := by
    obtain ⟨item, -, held⟩ := List.mem_flatMap.mp listed
    cases item with
    | text t => exact isName_of_mem_namesIn held
    | _ => cases held
  cases v with
  | text t => exact isName_of_mem_namesIn member
  | list items | tuple items | set items => exact ofItems member
  | _ => cases member

/-- A name by itself is read as it is. -/
theorem namesIn_of_isName {s : Text} (h : IsName s) : namesIn s = [s] := by
  have trimmed : Text.trimChars s.toList = s.toList := by
    rw [← Text.toList_trim, h.trimmed]
  have filled : s.toList.isEmpty = false := by
    simpa using h.filled
  rw [namesIn, splitOn_of_notMem h.whole, List.map_singleton, trimmed]
  simp [filled]

theorem namesOf_ofTexts {ss : List Text} (names : ∀ s ∈ ss, IsName s) :
    namesOf (.ofTexts ss) = ss := by
  have single : ∀ s ∈ ss, namesOfItem (.text s) = [s] := fun s member =>
    namesIn_of_isName (names s member)
  rw [Value.ofTexts, namesOf, List.flatMap_map, List.flatMap_congr single,
    List.flatMap_singleton']

theorem isName_of_mem_defaultSuffixes : ∀ s ∈ Scope.defaultSuffixes, IsName s := by
  have checked : ∀ s ∈ Scope.defaultSuffixes, s ≠ "" ∧ Text.trim s = s ∧ .char ',' ∉ s.toList := by
    decide
  intro s member
  obtain ⟨filled, trimmed, whole⟩ := checked s member
  exact ⟨filled, trimmed, whole⟩

theorem isName_of_mem_suffixesOf {s : Text} {v : Option Value} (member : s ∈ suffixesOf v) :
    IsName s := by
  rw [suffixesOf.eq_def] at member
  split at member
  · exact isName_of_mem_defaultSuffixes s member
  · exact isName_of_mem_defaultSuffixes s member
  · exact isName_of_mem_namesOf member

theorem of_yields (root : Text) (suffixes : List Text) (stop fail : Bool) :
    Yields (fun _ => Text.allBlank root.toList = true)
      (fun c => IsRoot c.rootScope ∧ c.suffixes = suffixes) (of root suffixes stop fail) := by
  rw [of]
  split_ifs with blank
  · exact blank
  · refine ⟨⟨?_, Text.trim_trim root⟩, rfl⟩
    rw [Text.toList_trim, Text.allBlank_trimChars]
    exact Bool.eq_false_iff.mpr blank

/-- Whatever the value, what is read of it is settled. -/
theorem settled_of_section {v : Value} {c : Config} (read : ofSection v = .ok c) : Settled c := by
  have settled {root : Text} {suffixes : List Text} {stop fail : Bool}
      (names : ∀ s ∈ suffixes, IsName s) (made : of root suffixes stop fail = .ok c) :
      Settled c := by
    have yields := of_yields root suffixes stop fail
    rw [made] at yields
    obtain ⟨kept, rfl⟩ := yields
    exact ⟨kept, names⟩
  cases v with
  | map entries => exact settled (fun s => isName_of_mem_suffixesOf) read
  | _ => exact settled isName_of_mem_defaultSuffixes read

/-- A settled configuration is read back from its section. -/
theorem Settled.ofSection_toValue {c : Config} (h : Settled c) : ofSection c.toValue = .ok c := by
  have read : ofSection c.toValue =
      of c.rootScope (namesOf (.ofTexts c.suffixes)) c.stopOnMismatch c.failOnStackError := rfl
  rw [read, namesOf_ofTexts h.names, of, if_neg (Bool.eq_false_iff.mp h.root.filled),
    h.root.trimmed]

end Config

namespace DeclaredConfig

/-- A configuration as its fields declare it. -/
def ofConfig (c : Config) : DeclaredConfig :=
  ⟨c.rootScope, c.suffixes.map .text, .bool c.stopOnMismatch, .bool c.failOnStackError⟩

def HasSwitches (d : DeclaredConfig) : Prop :=
  (∃ stop, d.stopOnMismatch = .bool stop) ∧ ∃ fail, d.failOnStackError = .bool fail

def HasNames (d : DeclaredConfig) : Prop :=
  ∀ v ∈ d.suffixes, ∃ s, v = .text s ∧ Config.IsName s

/-- The root scope that is declared is kept as one of a configuration is. -/
theorem ofFields_yields (entries : List (Value × Value)) :
    Yields (fun _ => True) (fun d => Config.IsRoot d.rootScope) (ofFields entries) := by
  rw [ofFields]
  dsimp only
  split
  · next s _ =>
    have root := (Config.of_yields s [] true true).map (g := (·.rootScope))
      (Q := Config.IsRoot) fun c made => made.1
    refine (root.mono (fun _ _ => trivial) fun _ => id).bind fun kept isRoot => ?_
    split
    · exact isRoot
    · trivial
  · trivial

variable {d : DeclaredConfig}

theorem map_effective_suffixes (names : d.HasNames) :
    d.effective.suffixes.map .text = d.suffixes := by
  rw [effective, List.map_filterMap]
  refine (List.filterMap_congr fun v member => ?_).trans List.filterMap_some
  obtain ⟨s, rfl, -⟩ := names v member
  rfl

theorem ofConfig_effective (switches : d.HasSwitches) (names : d.HasNames) :
    ofConfig d.effective = d := by
  obtain ⟨⟨stop, stops⟩, fail, fails⟩ := switches
  have suffixes := map_effective_suffixes names
  obtain ⟨root, given, _, _⟩ := d
  cases stops
  cases fails
  rw [ofConfig, suffixes]
  rfl

theorem settled_effective {entries : List (Value × Value)} (declared : ofFields entries = .ok d)
    (names : d.HasNames) : d.effective.Settled := by
  have root := ofFields_yields entries
  rw [declared] at root
  refine ⟨root, fun s member => ?_⟩
  obtain ⟨v, given, text⟩ := List.mem_filterMap.mp member
  obtain ⟨t, rfl, isName⟩ := names v given
  cases text
  exact isName

end DeclaredConfig

namespace Config

/-- What the reader of sections makes of any value is read back from its section, and its suffixes
are names. So is a configuration that was declared field by field, if its switches are truth values
and its suffixes are names. -/
theorem section_round_trip :
    (∀ v c, ofSection v = .ok c →
      ofSection c.toValue = .ok c ∧ ∀ s ∈ c.suffixes, IsName s) ∧
    ∀ entries (d : DeclaredConfig), DeclaredConfig.ofFields entries = .ok d →
      d.HasSwitches → d.HasNames →
        ofSection d.toValue = .ok d.effective ∧ DeclaredConfig.ofConfig d.effective = d := by
  constructor
  · intro v c read
    have settled := settled_of_section read
    exact ⟨settled.ofSection_toValue, settled.names⟩
  · intro entries d declared switches names
    have same := DeclaredConfig.ofConfig_effective switches names
    have written : d.toValue = d.effective.toValue := by
      conv_lhs => rw [← same]
      rfl
    rw [written]
    exact ⟨(DeclaredConfig.settled_effective declared names).ofSection_toValue, same⟩

def raggedSection : Value :=
  .ofFields [("root_scope", .text " text\t"),
    ("decoration_suffixes", .list [.text " rs, ,to ml\n", .int 3, .text ",,"]),
    ("stop_on_mismatch", .text "On "), ("fail_on_stack_error", .float .nan)]

def raggedConfig : Config where
  rootScope := "text"
  suffixes := ["rs", "to ml"]

def raggedEntries : List (Value × Value) :=
  [(.text rootKey, .text "\ttext"), (.text suffixesKey, .ofTexts ["rs", "to ml"])]

def raggedDeclared : DeclaredConfig :=
  ⟨"text", [.text "rs", .text "to ml"], .bool true, .bool true⟩

/-- Names with commas, blanks and nothing between them, beside what is no text; and the same
configuration as it is declared field by field. -/
theorem ragged_round_trip :
    (ofSection raggedSection = .ok raggedConfig ∧
      ofSection raggedConfig.toValue = .ok raggedConfig ∧
      ∀ s ∈ raggedConfig.suffixes, IsName s) ∧
    DeclaredConfig.ofFields raggedEntries = .ok raggedDeclared ∧
      raggedDeclared.HasSwitches ∧ raggedDeclared.HasNames ∧
      ofSection raggedDeclared.toValue = .ok raggedConfig := by
  have read : ofSection raggedSection = .ok raggedConfig := rfl
  have settled := section_round_trip.1 _ _ read
  have declared : DeclaredConfig.ofFields raggedEntries = .ok raggedDeclared := rfl
  have switches : raggedDeclared.HasSwitches := ⟨⟨true, rfl⟩, true, rfl⟩
  have names : raggedDeclared.HasNames := by
    intro v member
    have among : v ∈ raggedConfig.suffixes.map .text := member
    obtain ⟨s, listed, rfl⟩ := List.mem_map.mp among
    exact ⟨s, rfl, settled.2 s listed⟩
  exact ⟨⟨read, settled⟩, declared, switches, names,
    (section_round_trip.2 _ _ declared switches names).1⟩

end Config

end TokenScopes
