import Mathlib.Data.List.Forall2
import TokenScopes.Fixture.Load
import TokenScopes.Proofs.Outcome

namespace TokenScopes

namespace Shape

variable {α β γ : Type}

theorem within_eq_ok_iff {part : Text} {r : Checked α} {a : α} :
    within part r = .ok a ↔ r = .ok a := by
  cases r with
  | ok b => exact .rfl
  | error issues => exact iff_of_false (by rintro ⟨⟩) (by rintro ⟨⟩)

theorem both_eq_ok_iff {f : α → β → γ} {r : Checked α} {s : Checked β} {c : γ} :
    both f r s = .ok c ↔ ∃ a b, r = .ok a ∧ s = .ok b ∧ f a b = c := by
  cases r <;> cases s <;> simp [both]

/-- A list is read if each element is. -/
theorem eachFrom_eq_ok_iff {read : Value → Checked α} {index : Nat} {vs : List Value}
    {as : List α} :
    eachFrom read index vs = .ok as ↔ List.Forall₂ (fun v a => read v = .ok a) vs as := by
  induction vs generalizing index as with
  | nil =>
    rw [eachFrom, List.forall₂_nil_left_iff, Except.ok.injEq]
    exact eq_comm
  | cons v vs ih =>
    simp only [eachFrom, both_eq_ok_iff, within_eq_ok_iff, ih, List.forall₂_cons_left_iff]
    constructor
    · rintro ⟨a, as, here, later, rfl⟩
      exact ⟨a, as, here, later, rfl⟩
    · rintro ⟨a, as, here, later, rfl⟩
      exact ⟨a, as, here, later, rfl⟩

/-- Values that are read as lists, with their elements. -/
inductive Collects : Value → List Value → Prop
  | list (items : List Value) : Collects (.list items) items
  | tuple (items : List Value) : Collects (.tuple items) items
  | set (items : List Value) : Collects (.set items) items

/-- Values of three kinds are read as lists. -/
theorem readList_eq_ok_iff {read : Value → Checked α} {v : Value} {as : List α} :
    readList read v = .ok as ↔
      ∃ items, Collects v items ∧ List.Forall₂ (fun v a => read v = .ok a) items as := by
  constructor
  · intro given
    cases v with
    | list items => exact ⟨items, .list items, eachFrom_eq_ok_iff.mp given⟩
    | tuple items => exact ⟨items, .tuple items, eachFrom_eq_ok_iff.mp given⟩
    | set items => exact ⟨items, .set items, eachFrom_eq_ok_iff.mp given⟩
    | _ => cases given
  · rintro ⟨items, collects, each⟩
    cases collects <;> exact eachFrom_eq_ok_iff.mpr each

end Shape

/-- A token covers the part of a line between its offsets, as far as the line goes. -/
theorem Token.exists_parts (t : Token) (line : Text) :
    ∃ before after, line = before ++ t.textOn line ++ after ∧
      before.length = min t.start line.length ∧
      (before ++ t.textOn line).length = min t.stop line.length := by
  have first : (line.toList.take t.stop).take t.start = line.toList.take t.start := by
    rw [List.take_take, Nat.min_eq_left t.start_le_stop]
  have front : Text.ofList (line.toList.take t.start) ++ t.textOn line =
      Text.ofList (line.toList.take t.stop) := by
    rw [textOn, ← Text.ofList_append, ← first, List.take_append_drop]
  refine ⟨.ofList (line.toList.take t.start), .ofList (line.toList.drop t.stop), ?_, ?_, ?_⟩
  · rw [front, ← Text.ofList_append, List.take_append_drop, Text.ofList_toList]
  · exact List.length_take
  · rw [front]
    exact List.length_take

namespace Fixture

/-- What related elements share holds of each element of the first list. -/
theorem forall_mem_of_forall₂ {α β : Type} {R : α → β → Prop} {p : α → Prop} {as : List α}
    {bs : List β} (each : ∀ a b, R a b → p a) (h : List.Forall₂ R as bs) : ∀ a ∈ as, p a :=
  ((List.forall₂_and_left as bs).mp (h.imp fun a b related => ⟨each a b related, related⟩)).1

/-- Offsets that no token has. -/
def TokenData.Disordered (d : TokenData) : Prop :=
  d.start < 0 ∨ d.stop < d.start

def LineData.Disordered (d : LineData) : Prop :=
  ∃ t ∈ d.tokens, t.Disordered

def CaseData.Disordered (d : CaseData) : Prop :=
  ∃ l ∈ d.lines, l.Disordered

/-- The token that data state. On its line it covers the part between the offsets, each of which
counts as the end if it lies beyond. -/
structure TokenData.Makes (line : Text) (d : TokenData) (t : Token) : Prop where
  start : (t.start : Int) = d.start
  stop : (t.stop : Int) = d.stop
  ordered : 0 ≤ d.start ∧ d.start ≤ d.stop
  scopes : t.scopes = d.scopes
  text : ∃ before after, line = before ++ t.textOn line ++ after ∧
    before.length = min t.start line.length ∧
    (before ++ t.textOn line).length = min t.stop line.length

structure LineData.Makes (d : LineData) (l : Line) : Prop where
  text : l.text = d.text
  tokens : List.Forall₂ (TokenData.Makes d.text) d.tokens l.tokens

/-- The case that data state. Without a name of its own it has the default. -/
structure CaseData.Makes (path : Path) (default : Text) (d : CaseData) (c : Case) : Prop where
  name : c.name = if d.name.getD "" = "" then default else d.name.getD ""
  lines : List.Forall₂ LineData.Makes d.lines c.lines
  spec : c.spec = d.spec
  sourcePath : c.sourcePath = some path

theorem TokenData.Makes.not_disordered {line : Text} {d : TokenData} {t : Token}
    (h : d.Makes line t) : ¬d.Disordered := by
  rintro (negative | back)
  · exact absurd h.ordered.1 (Int.not_le.mpr negative)
  · exact absurd h.ordered.2 (Int.not_le.mpr back)

theorem LineData.Makes.not_disordered {d : LineData} {l : Line} (h : d.Makes l) :
    ¬d.Disordered := by
  rintro ⟨t, member, found⟩
  exact forall_mem_of_forall₂ (fun _ _ made => made.not_disordered) h.tokens t member found

theorem CaseData.Makes.not_disordered {path : Path} {default : Text} {d : CaseData} {c : Case}
    (h : d.Makes path default c) : ¬d.Disordered := by
  rintro ⟨l, member, found⟩
  exact forall_mem_of_forall₂ (fun _ _ made => made.not_disordered) h.lines l member found

/-- Offsets out of order are the only fault of a token. -/
theorem tokenOf_yields (line : Text) (d : TokenData) :
    Yields (fun _ => d.Disordered) (d.Makes line) (tokenOf d) := by
  rw [tokenOf, Token.ofOffsets]
  split_ifs with negative order
  · exact .inl negative
  · have start : (d.start.toNat : Int) = d.start := Int.toNat_of_nonneg (Int.not_lt.mp negative)
    have stop : (d.stop.toNat : Int) = d.stop := by omega
    exact ⟨start, stop, ⟨Int.not_lt.mp negative, order⟩, rfl, Token.exists_parts _ line⟩
  · exact .inr (Int.not_le.mp order)

theorem lineOf_yields (d : LineData) : Yields (fun _ => d.Disordered) d.Makes (lineOf d) :=
  (Yields.mapM (tokenOf_yields d.text) d.tokens).map fun _ made => ⟨rfl, made⟩

theorem caseOf_yields (path : Path) (default : Text) (d : CaseData) :
    Yields (fun _ => d.Disordered) (d.Makes path default) (caseOf path default d) := by
  refine (Yields.mapM lineOf_yields d.lines).map fun _ made => ⟨?_, made, rfl, rfl⟩
  cases d.name with
  | none => rfl
  | some n => by_cases empty : n = "" <;> simp [empty]

/-- The first case with offsets out of order is refused; without one all are made, in order. -/
theorem casesFrom_yields (path : Path) (count index : Nat) (data : List CaseData) :
    Yields
      (fun fault => ∃ front d back reason, data = front ++ d :: back ∧ d.Disordered ∧
        (∀ e ∈ front, ¬e.Disordered) ∧ fault = .badToken (index + front.length) reason)
      (List.Forall₂ (fun (d, i) c => CaseData.Makes path (defaultName path count i) d c)
        (data.zipIdx index))
      (casesFrom path count index data) := by
  induction data generalizing index with
  | nil => exact .nil
  | cons d rest ih =>
    have here := caseOf_yields path (defaultName path count index) d
    rw [casesFrom, List.zipIdx_cons]
    cases made : caseOf path (defaultName path count index) d with
    | error reason =>
      rw [made] at here
      exact ⟨[], d, rest, reason, rfl, here, by simp, rfl⟩
    | ok c =>
      rw [made, Yields.ok] at here
      refine (Yields.mono (ih (index + 1)) ?_ fun _ => id).bind fun cs later => ?_
      · rintro fault ⟨front, e, back, reason, rfl, found, before, told⟩
        refine ⟨d :: front, e, back, reason, rfl, found, ?_, ?_⟩
        · exact List.forall_mem_cons.mpr ⟨here.not_disordered, before⟩
        · rw [told, List.length_cons, Nat.add_right_comm, Nat.add_assoc]
      · exact .cons here later

/-- The data of the cases in a payload of the right shape: a list of cases, a mapping that holds a
collection of them, or a mapping that is a case itself. -/
inductive Validates : Value → List CaseData → Prop
  | bare {items : List Value} {data : List CaseData}
    (each : List.Forall₂ (fun v d => readCase v = .ok d) items data) :
    Validates (.list items) data
  | held {entries : List (Value × Value)} {listed : Value} {items : List Value}
    {data : List CaseData} (field : Value.field? entries "cases" = some listed)
    (collects : Shape.Collects listed items)
    (each : List.Forall₂ (fun v d => readCase v = .ok d) items data) :
    Validates (.map entries) data
  | single {entries : List (Value × Value)} {d : CaseData}
    (absent : Value.field? entries "cases" = none) (only : readCase (.map entries) = .ok d) :
    Validates (.map entries) [d]

theorem readCases_eq_ok_iff {listed : Value} {data : List CaseData} :
    readCases listed = .ok data ↔ ∃ items, Shape.Collects listed items ∧
      List.Forall₂ (fun v d => readCase v = .ok d) items data := by
  rw [readCases, Shape.within_eq_ok_iff, Shape.readList_eq_ok_iff]

/-- A payload of the right shape has a list of cases that can be read. -/
theorem validates_iff {payload : Value} {data : List CaseData} :
    Validates payload data ↔
      ∃ listed, casesOf payload = some listed ∧ readCases listed = .ok data := by
  simp only [readCases_eq_ok_iff]
  constructor
  · intro h
    cases h with
    | bare each => exact ⟨_, rfl, _, .list _, each⟩
    | held field collects each => exact ⟨_, by rw [casesOf, field]; rfl, _, collects, each⟩
    | single absent only =>
      exact ⟨_, by rw [casesOf, absent]; rfl, _, .list _, .cons only .nil⟩
  · rintro ⟨listed, given, items, collects, each⟩
    cases payload with
    | list items =>
      cases given
      cases collects
      exact .bare each
    | map entries =>
      cases field : Value.field? entries "cases" with
      | some held =>
        rw [casesOf, field] at given
        cases given
        exact .held field collects each
      | none =>
        rw [casesOf, field] at given
        cases given
        cases collects
        obtain ⟨d, rest, only, none, rfl⟩ := List.forall₂_cons_left_iff.mp each
        cases none
        exact .single field only
    | _ => cases given

/-- What becomes of a document of the right shape. -/
structure Settled (path : Path) (data : List CaseData)
    (result : Except DocumentFault (List Case)) : Prop where
  refused_iff : (∃ fault, result = .error fault) ↔ ∃ d ∈ data, d.Disordered
  named : ∀ fault, result = .error fault → ∃ front d back reason,
    data = front ++ d :: back ∧ d.Disordered ∧ (∀ e ∈ front, ¬e.Disordered) ∧
      fault = .badToken front.length reason
  made : ∀ cs, result = .ok cs →
    List.Forall₂ (fun (d, i) c => CaseData.Makes path (defaultName path data.length i) d c)
      data.zipIdx cs

theorem settled_casesFrom (path : Path) (data : List CaseData) :
    Settled path data (casesFrom path data.length 0 data) := by
  have yields := casesFrom_yields path data.length 0 data
  cases result : casesFrom path data.length 0 data with
  | error fault =>
    rw [result] at yields
    obtain ⟨front, d, back, reason, split, found, before, told⟩ := yields
    rw [Nat.zero_add] at told
    refine ⟨iff_of_true ⟨fault, rfl⟩ ⟨d, by simp [split], found⟩, ?_, ?_⟩
    · rintro _ ⟨⟩
      exact ⟨front, d, back, reason, split, found, before, told⟩
    · rintro _ ⟨⟩
  | ok cs =>
    rw [result] at yields
    refine ⟨iff_of_false ?_ ?_, ?_, ?_⟩
    · rintro ⟨_, ⟨⟩⟩
    · rintro ⟨d, member, found⟩
      rw [← List.zipIdx_map_fst 0 data] at member
      obtain ⟨place, numbered, rfl⟩ := List.mem_map.mp member
      exact forall_mem_of_forall₂ (fun _ _ made => made.not_disordered) yields place numbered found
    · rintro _ ⟨⟩
    · rintro _ ⟨⟩
      exact yields

/-- A document gives a case for each of its cases or a fault, and the fault of one that has the right
shape names the first case with offsets out of order. How the cases are wrapped makes no
difference. -/
theorem cases_all_or_none (path : Path) :
    (∀ payload data, Validates payload data → Settled path data (cases path payload)) ∧
    (∀ payload, (∀ data, ¬Validates payload data) →
      cases path payload = .error .neitherMappingNorList ∨
        ∃ issues, cases path payload = .error (.invalid issues)) ∧
    (∀ text payload, decode path text = .ok payload →
      ofText path text = (cases path payload).mapError fun f => .load ⟨path, .document f⟩) ∧
    (∀ items entries, Value.field? entries "cases" = some (.list items) →
      cases path (.map entries) = cases path (.list items)) ∧
    ∀ entries, Value.field? entries "cases" = none →
      cases path (.map entries) = cases path (.list [.map entries]) := by
  refine ⟨fun payload data shape => ?_, fun payload shapeless => ?_, fun text payload decoded => ?_,
    fun items entries field => ?_, fun entries absent => ?_⟩
  · obtain ⟨listed, given, read⟩ := validates_iff.mp shape
    rw [cases, given]
    simp only [read]
    exact settled_casesFrom path data
  · simp only [validates_iff, not_exists, not_and] at shapeless
    rw [cases]
    cases given : casesOf payload with
    | none => exact .inl rfl
    | some listed =>
      cases read : readCases listed with
      | error issues => exact .inr ⟨issues, by simp only [read]⟩
      | ok data => exact absurd read (shapeless data listed given)
  · rw [ofText, decoded]
    rfl
  · rw [cases, cases, casesOf, casesOf, field, Option.getD_some]
  · rw [cases, cases, casesOf, casesOf, absent, Option.getD_none]

def backwardToken : Value :=
  .list [.ofFields [("lines", .list []), ("spec", .list [])],
    .ofFields [("spec", .list []), ("lines", .list [.ofFields [("text", .text "ab"),
      ("tokens", .list [.ofFields [("start", .text "2"), ("endIndex", .int 1)]])]])]]

def backwardTokenData : List CaseData :=
  [⟨none, [], []⟩, ⟨none, [⟨"ab", [⟨2, 1, []⟩]⟩], []⟩]

/-- Two cases, the second with a token that ends before it starts. -/
theorem backwardToken_refused :
    Validates backwardToken backwardTokenData ∧
      (∃ d ∈ backwardTokenData, d.Disordered) ∧
      ∃ fault, cases (Path.of "a.json") backwardToken = .error fault := by
  have shape : Validates backwardToken backwardTokenData := .bare (.cons rfl (.cons rfl .nil))
  have backward : TokenData.Disordered ⟨2, 1, []⟩ := .inr (by decide)
  have found : ∃ d ∈ backwardTokenData, d.Disordered :=
    ⟨⟨none, [⟨"ab", [⟨2, 1, []⟩]⟩], []⟩, by simp [backwardTokenData], _, List.mem_singleton_self _,
      _, List.mem_singleton_self _, backward⟩
  have settled := (cases_all_or_none (Path.of "a.json")).1 _ _ shape
  exact ⟨shape, found, settled.refused_iff.mpr found⟩

end Fixture

end TokenScopes
