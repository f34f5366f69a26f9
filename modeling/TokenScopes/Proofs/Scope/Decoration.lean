import Mathlib.Data.List.Dedup
import TokenScopes.Proofs.Text.Order
import TokenScopes.Scope.Name

namespace TokenScopes.Scope

/-- A suffix stands after the dot at a place of a name, and at most one newline follows. -/
structure DecoratedAt (suffixes : List Text) (name : Text) (i : Nat) (y : Text) : Prop where
  listed : y ∈ suffixes
  nonempty : y ≠ ""
  dot : name.toList[i]? = some (.char '.')
  rest : name.toList.drop (i + 1) = y.toList ∨ name.toList.drop (i + 1) = y.toList ++ [.char '\n']

/-- The text after a dot is a suffix and what may follow it. -/
structure Splits (suffixes : List Text) (rest : List CodePoint) (y : Text) (after : List CodePoint) :
    Prop where
  listed : y ∈ suffixes
  nonempty : y ≠ ""
  parts : rest = y.toList ++ after
  last : after = [] ∨ after = [.char '\n']

/-- What is left of the text after a dot when the longest suffix goes, if there is one. -/
def Decides (suffixes : List Text) (rest : List CodePoint) : Option (List CodePoint) → Prop
  | none => ∀ y after, ¬Splits suffixes rest y after
  | some after => ∃ y, Splits suffixes rest y after ∧
      ∀ z other, Splits suffixes rest z other → z.length ≤ y.length

/-- A decoration starts at a dot, and what follows it splits into a suffix and its end. -/
theorem decoratedAt_iff {suffixes : List Text} {name : Text} {i : Nat} {y : Text} :
    DecoratedAt suffixes name i y ↔
      name.toList[i]? = some (.char '.') ∧
        ∃ after, Splits suffixes (name.toList.drop (i + 1)) y after := by
  constructor
  · rintro ⟨listed, nonempty, dot, rest⟩
    refine ⟨dot, ?_⟩
    rcases rest with rest | rest
    · exact ⟨[], listed, nonempty, by rw [rest, List.append_nil], .inl rfl⟩
    · exact ⟨[.char '\n'], listed, nonempty, rest, .inr rfl⟩
  · rintro ⟨dot, after, listed, nonempty, parts, rfl | rfl⟩
    · exact ⟨listed, nonempty, dot, .inl (by rw [parts, List.append_nil])⟩
    · exact ⟨listed, nonempty, dot, .inr parts⟩

theorem Splits.congr {suffixes others : List Text}
    (same : ∀ y : Text, y ≠ "" → (y ∈ suffixes ↔ y ∈ others)) (rest : List CodePoint) (y : Text)
    (after : List CodePoint) : Splits suffixes rest y after ↔ Splits others rest y after := by
  constructor
  · rintro ⟨listed, nonempty, parts, last⟩
    exact ⟨(same y nonempty).mp listed, nonempty, parts, last⟩
  · rintro ⟨listed, nonempty, parts, last⟩
    exact ⟨(same y nonempty).mpr listed, nonempty, parts, last⟩

namespace Decides

variable {suffixes others : List Text} {rest : List CodePoint}
  {first second : Option (List CodePoint)}

theorem congr (same : ∀ y after, Splits suffixes rest y after ↔ Splits others rest y after)
    (h : Decides suffixes rest first) : Decides others rest first := by
  cases first with
  | none => exact fun y after split => h y after ((same y after).mpr split)
  | some after =>
    obtain ⟨y, here, longest⟩ := h
    refine ⟨y, (same y after).mp here, fun z other split => ?_⟩
    exact longest z other ((same z other).mpr split)

/-- At most one result meets the rule, since of two longest suffixes neither is longer. -/
theorem unique (h : Decides suffixes rest first) (k : Decides suffixes rest second) :
    first = second := by
  cases first with
  | none =>
    cases second with
    | none => rfl
    | some after =>
      obtain ⟨y, here, -⟩ := k
      exact absurd here (h y after)
  | some after =>
    obtain ⟨y, here, longest⟩ := h
    cases second with
    | none => exact absurd here (k y after)
    | some other =>
      obtain ⟨z, there, longest'⟩ := k
      have length : y.toList.length = z.toList.length := by
        rw [Text.length_toList, Text.length_toList]
        exact Nat.le_antisymm (longest' y after here) (longest z other there)
      rw [(List.append_inj (here.parts.symm.trans there.parts) length).2]

end Decides

theorem listed_iff (suffixes : List Text) (cs : List CodePoint) :
    (!cs.isEmpty && suffixes.contains (Text.ofList cs)) = true ↔
      ∃ y ∈ suffixes, y ≠ "" ∧ y.toList = cs := by
  rw [Bool.and_eq_true, Bool.not_eq_true', List.isEmpty_eq_false_iff, List.contains_iff_mem]
  constructor
  · rintro ⟨nonempty, listed⟩
    refine ⟨_, listed, ?_, Text.toList_ofList _⟩
    rwa [ne_eq, ← Text.toList_eq_nil_iff, Text.toList_ofList]
  · rintro ⟨y, listed, nonempty, rfl⟩
    rw [Text.ofList_toList]
    exact ⟨fun none => nonempty (Text.toList_eq_nil_iff.mp none), listed⟩

/-- The text after a dot is tried as a whole first, so the longest suffix goes. -/
theorem afterDecoration?_decides (suffixes : List Text) (rest : List CodePoint) :
    Decides suffixes rest (afterDecoration? suffixes rest) := by
  rw [afterDecoration?]
  split_ifs with whole ended
  · obtain ⟨y, listed, nonempty, rfl⟩ := (listed_iff suffixes rest).mp whole
    refine ⟨y, ⟨listed, nonempty, (List.append_nil _).symm, .inl rfl⟩, fun z after other => ?_⟩
    have lengths := congrArg List.length other.parts
    simp only [List.length_append, Text.length_toList] at lengths
    omega
  · rw [Bool.and_eq_true, decide_eq_true_eq] at ended
    obtain ⟨y, listed, nonempty, front⟩ := (listed_iff suffixes rest.dropLast).mp ended.2
    have parts : rest = y.toList ++ [.char '\n'] := by
      rw [front, List.dropLast_append_getLast? (CodePoint.char '\n') ended.1]
    refine ⟨y, ⟨listed, nonempty, parts, .inr rfl⟩, fun z after other => ?_⟩
    have lengths := congrArg List.length (other.parts.symm.trans parts)
    simp only [List.length_append, Text.length_toList] at lengths
    rcases other.last with rfl | rfl
    · -- A suffix that is the whole text would have been found before.
      have found := (listed_iff suffixes rest).mpr
        ⟨z, other.listed, other.nonempty, by rw [other.parts, List.append_nil]⟩
      exact absurd found whole
    · simp only [List.length_singleton] at lengths
      omega
  · rintro y after ⟨listed, nonempty, parts, rfl | rfl⟩
    · exact whole ((listed_iff suffixes rest).mpr
        ⟨y, listed, nonempty, by rw [parts, List.append_nil]⟩)
    · apply ended
      rw [Bool.and_eq_true, decide_eq_true_eq, parts, List.getLast?_concat, List.dropLast_concat]
      exact ⟨rfl, (listed_iff suffixes y.toList).mpr ⟨y, listed, nonempty, rfl⟩⟩

/-- What stripping leaves behind the dot at a place, if a decoration starts there. -/
def strippedAt? (suffixes : List Text) (cs : List CodePoint) (i : Nat) : Option (List CodePoint) :=
  if cs[i]? = some (.char '.') then afterDecoration? suffixes (cs.drop (i + 1)) else none

/-- The leftmost dot that starts a decoration decides. -/
theorem stripChars_spec (suffixes : List Text) (cs : List CodePoint) :
    (∀ i, strippedAt? suffixes cs i = none) ∧ stripChars suffixes cs = cs ∨
      ∃ i after, strippedAt? suffixes cs i = some after ∧
        (∀ j < i, strippedAt? suffixes cs j = none) ∧
        stripChars suffixes cs = cs.take i ++ after := by
  induction cs with
  | nil => exact .inl ⟨fun i => by simp [strippedAt?], rfl⟩
  | cons c cs ih =>
    have front : strippedAt? suffixes (c :: cs) 0 =
        if c = '.' then afterDecoration? suffixes cs else none := by
      simp [strippedAt?]
    rw [stripChars, ← front]
    cases here : strippedAt? suffixes (c :: cs) 0 with
    | some after => exact .inr ⟨0, after, here, by simp, rfl⟩
    | none =>
      rcases ih with ⟨nowhere, same⟩ | ⟨i, after, there, first, stripped⟩
      · refine .inl ⟨fun i => ?_, congrArg (c :: ·) same⟩
        cases i with
        | zero => exact here
        | succ i => exact nowhere i
      · refine .inr ⟨i + 1, after, there, fun j less => ?_, congrArg (c :: ·) stripped⟩
        cases j with
        | zero => exact here
        | succ j => exact first j (by omega)

section Search

/-- The suffixes that count, the longest first and equally long ones in ascending order. -/
def alternatives (suffixes : List Text) : List Text :=
  (suffixes.filter fun y : Text => y ≠ "").dedup.mergeSort fun a b =>
    decide (b.length < a.length) || (a.length == b.length && decide (a ≤ b))

/-- What follows an alternative that a text starts with, if the text ends there or before a final
newline. -/
def endAfter? (rest : List CodePoint) (y : Text) : Option (List CodePoint) :=
  (rest.dropPrefix? y.toList).filter fun after => after = [] || after = [.char '\n']

/-- The first alternative that ends a text decides what is left of it. -/
def firstEnd? (ys : List Text) (rest : List CodePoint) : Option (List CodePoint) :=
  ys.findSome? (endAfter? rest)

theorem endAfter?_eq_some_iff {rest : List CodePoint} {y : Text} {after : List CodePoint} :
    endAfter? rest y = some after ↔
      rest = y.toList ++ after ∧ (after = [] ∨ after = [.char '\n']) := by
  simp [endAfter?, Option.filter_eq_some_iff, List.dropPrefix?_eq_some_iff]

theorem firstEnd?_last {ys : List Text} {rest after : List CodePoint}
    (h : firstEnd? ys rest = some after) :
    after.length ≤ rest.length ∧ (after = [] ∨ after = [.char '\n']) := by
  obtain ⟨y, -, found⟩ := List.exists_of_findSome?_eq_some h
  obtain ⟨parts, last⟩ := endAfter?_eq_some_iff.mp found
  exact ⟨by simp [parts], last⟩

/-- Deletes every dot that an alternative follows; the search goes on behind what is deleted. -/
def deleteEach (ys : List Text) : List CodePoint → List CodePoint
  | [] => []
  | c :: cs =>
    match _found : if c = '.' then firstEnd? ys cs else none with
    | some after => deleteEach ys after
    | none => c :: deleteEach ys cs
  termination_by cs => cs.length
  decreasing_by
    · have dot : firstEnd? ys cs = some after := by
        split_ifs at _found
        exact _found
      exact Nat.lt_succ_of_le (firstEnd?_last dot).1
    · exact Nat.lt_succ_self _

theorem mem_alternatives {suffixes : List Text} {y : Text} :
    y ∈ alternatives suffixes ↔ y ∈ suffixes ∧ y ≠ "" := by
  simp [alternatives]

theorem alternatives_pairwise (suffixes : List Text) :
    (alternatives suffixes).Pairwise fun a b => b.length ≤ a.length := by
  apply (List.pairwise_mergeSort _ _ _).imp
  · intro a b order
    simp only [Bool.or_eq_true, decide_eq_true_eq, Bool.and_eq_true, beq_iff_eq] at order
    omega
  · intro a b c forth further
    simp only [Bool.or_eq_true, decide_eq_true_eq, Bool.and_eq_true, beq_iff_eq] at forth further ⊢
    rcases forth with longer | ⟨even, below⟩
    · exact .inl (by omega)
    · rcases further with longer | ⟨even', above⟩
      · exact .inl (by omega)
      · exact .inr ⟨even.trans even', le_trans below above⟩
  · intro a b
    simp only [Bool.or_eq_true, decide_eq_true_eq, Bool.and_eq_true, beq_iff_eq]
    rcases Nat.lt_trichotomy a.length b.length with shorter | even | longer
    · exact .inr (.inl shorter)
    · rcases le_total a b with below | above
      · exact .inl (.inr ⟨even, below⟩)
      · exact .inr (.inr ⟨even.symm, above⟩)
    · exact .inl (.inl longer)

/-- Of alternatives in descending length the first that ends the text is the longest. -/
theorem firstEnd?_decides {ys : List Text} (rest : List CodePoint)
    (sorted : ys.Pairwise fun a b => b.length ≤ a.length) (nonempty : ∀ y ∈ ys, y ≠ "") :
    Decides ys rest (firstEnd? ys rest) := by
  induction ys with
  | nil => exact fun y after split => absurd split.listed List.not_mem_nil
  | cons x ys ih =>
    obtain ⟨below, sorted⟩ := List.pairwise_cons.mp sorted
    rw [firstEnd?, List.findSome?_cons]
    cases here : endAfter? rest x with
    | some after =>
      obtain ⟨parts, last⟩ := endAfter?_eq_some_iff.mp here
      refine ⟨x, ⟨List.mem_cons_self, nonempty x List.mem_cons_self, parts, last⟩, ?_⟩
      intro z other split
      rcases List.mem_cons.mp split.listed with rfl | later
      · exact Nat.le_refl _
      · exact below z later
    | none =>
      refine (ih sorted fun y listed => nonempty y (List.mem_cons_of_mem _ listed)).congr ?_
      intro y after
      constructor
      · rintro ⟨listed, nonempty, parts, last⟩
        exact ⟨List.mem_cons_of_mem _ listed, nonempty, parts, last⟩
      · rintro ⟨listed, nonempty, parts, last⟩
        rcases List.mem_cons.mp listed with rfl | listed
        · rw [endAfter?_eq_some_iff.mpr ⟨parts, last⟩] at here
          cases here
        · exact ⟨listed, nonempty, parts, last⟩

/-- A search over the suffixes by length finds what trying the whole text first does. -/
theorem firstEnd?_alternatives (suffixes : List Text) (rest : List CodePoint) :
    firstEnd? (alternatives suffixes) rest = afterDecoration? suffixes rest := by
  have first := firstEnd?_decides rest (alternatives_pairwise suffixes) fun y listed =>
    (mem_alternatives.mp listed).2
  have same (y : Text) (nonempty : y ≠ "") : y ∈ alternatives suffixes ↔ y ∈ suffixes := by
    rw [mem_alternatives, and_iff_left nonempty]
  exact (first.congr (Splits.congr same rest)).unique (afterDecoration?_decides suffixes rest)

/-- A search that deletes whatever it finds does the same as stripping. -/
theorem deleteEach_alternatives (suffixes : List Text) (cs : List CodePoint) :
    deleteEach (alternatives suffixes) cs = stripChars suffixes cs := by
  induction cs with
  | nil => rw [deleteEach, stripChars]
  | cons c cs ih =>
    rw [deleteEach, stripChars, ← firstEnd?_alternatives]
    split
    · next after found =>
      rw [found]
      have dot : firstEnd? (alternatives suffixes) cs = some after := by
        split_ifs at found
        exact found
      -- A newline is all that can be left, and nothing in it is deleted.
      rcases (firstEnd?_last dot).2 with rfl | rfl
      · simp [deleteEach]
      · simp [deleteEach]
    · next nothing => rw [nothing, ih]

end Search

theorem afterDecoration?_congr {suffixes others : List Text}
    (same : ∀ y : Text, y ≠ "" → (y ∈ suffixes ↔ y ∈ others)) (rest : List CodePoint) :
    afterDecoration? suffixes rest = afterDecoration? others rest :=
  ((afterDecoration?_decides suffixes rest).congr (Splits.congr same rest)).unique
    (afterDecoration?_decides others rest)

/-- Only which suffixes there are counts, but for the empty one. -/
theorem stripChars_congr {suffixes others : List Text}
    (same : ∀ y : Text, y ≠ "" → (y ∈ suffixes ↔ y ∈ others)) (cs : List CodePoint) :
    stripChars suffixes cs = stripChars others cs := by
  induction cs with
  | nil => rfl
  | cons c cs ih => rw [stripChars, stripChars, afterDecoration?_congr same, ih]

theorem strippedAt?_decides (suffixes : List Text) (name : Text) (i : Nat) :
    match strippedAt? suffixes name.toList i with
    | none => ∀ y, ¬DecoratedAt suffixes name i y
    | some after => ∃ y, DecoratedAt suffixes name i y ∧
        name.toList.drop (i + 1) = y.toList ++ after ∧
        ∀ z, DecoratedAt suffixes name i z → z.length ≤ y.length := by
  have decides := afterDecoration?_decides suffixes (name.toList.drop (i + 1))
  simp only [decoratedAt_iff]
  rw [strippedAt?]
  by_cases dot : name.toList[i]? = some (.char '.')
  · rw [if_pos dot]
    generalize afterDecoration? suffixes (name.toList.drop (i + 1)) = left at decides
    cases left with
    | none => exact fun y ⟨_, after, split⟩ => decides y after split
    | some after =>
      obtain ⟨y, here, longest⟩ := decides
      exact ⟨y, ⟨dot, after, here⟩, here.parts, fun z ⟨_, other, split⟩ => longest z other split⟩
  · rw [if_neg dot]
    exact fun y ⟨there, _⟩ => dot there

/-- The decoration of a name that counts, with the texts before and behind it. -/
structure LeadingDecoration (suffixes : List Text) (name before y after : Text) : Prop where
  parts : name = before ++ "." ++ y ++ after
  here : DecoratedAt suffixes name before.length y
  leftmost : ∀ j z, DecoratedAt suffixes name j z → before.length ≤ j
  longest : ∀ z, DecoratedAt suffixes name before.length z → z.length ≤ y.length

/-- A name is left as it is, or loses its leading decoration. -/
theorem stripDecoration_cases (suffixes : List Text) (name : Text) :
    (∀ i y, ¬DecoratedAt suffixes name i y) ∧ stripDecoration suffixes name = name ∨
      ∃ before y after, LeadingDecoration suffixes name before y after ∧
        stripDecoration suffixes name = before ++ after := by
  have decides := strippedAt?_decides suffixes name
  rcases stripChars_spec suffixes name.toList with ⟨nowhere, same⟩ | ⟨i, after, there, first, cut⟩
  · refine .inl ⟨fun i => ?_, by rw [stripDecoration, same, Text.ofList_toList]⟩
    have none := decides i
    rwa [nowhere i] at none
  · have found := decides i
    rw [there] at found
    obtain ⟨y, here, rest, longest⟩ := found
    obtain ⟨inside, dot⟩ := List.getElem?_eq_some_iff.mp here.dot
    have length : (Text.ofList (name.toList.take i)).length = i := by
      rw [← Text.length_toList, Text.toList_ofList, List.length_take,
        Nat.min_eq_left (Nat.le_of_lt inside)]
    refine .inr ⟨Text.ofList (name.toList.take i), y, Text.ofList after, ⟨?_, ?_, ?_, ?_⟩, ?_⟩
    · have split : name.toList = name.toList.take i ++ .char '.' :: (y.toList ++ after) := by
        rw [← rest, ← dot, ← List.drop_eq_getElem_cons inside, List.take_append_drop]
      rw [← Text.toList_inj]
      simpa using split
    · rwa [length]
    · intro j z other
      rw [length]
      by_contra less
      have none := decides j
      rw [first j (Nat.lt_of_not_le less)] at none
      exact none z other
    · rwa [length]
    · rw [stripDecoration, cut, ← Text.ofList_append]

/-- Where no suffix has a dot, none reaches over the last dot of a name. -/
theorem DecoratedAt.behind {suffixes : List Text}
    (dotless : ∀ y ∈ suffixes, CodePoint.char '.' ∉ y.toList)
    {s y z : Text} {i : Nat} (h : DecoratedAt suffixes (s ++ "." ++ y) i z) : s.length ≤ i := by
  by_contra less
  rw [Nat.not_le, ← Text.length_toList] at less
  have chars : (s ++ "." ++ y).toList = s.toList ++ .char '.' :: y.toList := by simp
  have dot : CodePoint.char '.' ∈ (s ++ "." ++ y).toList.drop (i + 1) := by
    rw [chars, List.drop_append_of_le_length less]
    exact List.mem_append_right _ List.mem_cons_self
  have plain := dotless z h.listed
  rcases h.rest with rest | rest
  · rw [rest] at dot
    exact plain dot
  · rw [rest, List.mem_append, List.mem_singleton] at dot
    exact dot.elim plain (by decide)

/-- A suffix that is put behind a dot goes again, if no suffix has a dot in it. -/
theorem stripDecoration_append {suffixes : List Text}
    (dotless : ∀ y ∈ suffixes, CodePoint.char '.' ∉ y.toList)
    (s : Text) {y : Text} (listed : y ∈ suffixes) (nonempty : y ≠ "") :
    stripDecoration suffixes (s ++ "." ++ y) = s := by
  have chars : (s ++ "." ++ y).toList = s.toList ++ .char '.' :: y.toList := by simp
  have decorated : DecoratedAt suffixes (s ++ "." ++ y) s.length y := by
    refine ⟨listed, nonempty, ?_, .inl ?_⟩
    · rw [chars, ← Text.length_toList, List.getElem?_append_right (Nat.le_refl _), Nat.sub_self]
      rfl
    · rw [chars, ← Text.length_toList, List.drop_length_add_append]
      rfl
  rcases stripDecoration_cases suffixes (s ++ "." ++ y) with
    ⟨nowhere, -⟩ | ⟨before, z, after, leading, stripped⟩
  · exact absurd decorated (nowhere _ _)
  · have place : before.length = s.length :=
      Nat.le_antisymm (leading.leftmost _ _ decorated) (leading.here.behind dotless)
    have whole : y.length ≤ z.length := by
      apply leading.longest
      rwa [place]
    have parts : s.toList ++ .char '.' :: y.toList =
        before.toList ++ .char '.' :: (z.toList ++ after.toList) := by
      simpa using congrArg Text.toList leading.parts
    have even : s.toList.length = before.toList.length := by
      rw [Text.length_toList, Text.length_toList, place]
    obtain ⟨front, rest⟩ := List.append_inj parts even
    have lengths := congrArg List.length rest
    simp only [List.length_cons, List.length_append, Text.length_toList] at lengths
    have nothing : after = "" := by
      rw [← Text.toList_eq_nil_iff, ← List.length_eq_zero_iff, Text.length_toList]
      omega
    rw [stripped, nothing, Text.append_empty, ← Text.toList_inj, front]

/-- Stripping deletes what a search over the suffixes finds, the longest suffix tried first. That is
nothing where no suffix stands after a dot at the end of a name, and else one dot with one suffix:
the leftmost dot and the longest suffix there, while a newline behind it stays. So neither order nor
repetition of suffixes counts, and suffixes without dots are taken off as they were put on. -/
theorem stripDecoration_leading (suffixes : List Text) :
    (∀ name,
      stripDecoration suffixes name =
          Text.ofList (deleteEach (alternatives suffixes) name.toList) ∧
        ((∀ i y, ¬DecoratedAt suffixes name i y) ∧ stripDecoration suffixes name = name ∨
          ∃ before y after, LeadingDecoration suffixes name before y after ∧
            stripDecoration suffixes name = before ++ after)) ∧
      (∀ others, (∀ y : Text, y ≠ "" → (y ∈ suffixes ↔ y ∈ others)) →
        ∀ name, stripDecoration suffixes name = stripDecoration others name) ∧
      ((∀ y ∈ suffixes, CodePoint.char '.' ∉ y.toList) →
        ∀ s, ∀ y ∈ suffixes, y ≠ "" → stripDecoration suffixes (s ++ "." ++ y) = s) := by
  refine ⟨fun name => ⟨?_, stripDecoration_cases suffixes name⟩, fun others same name => ?_, ?_⟩
  · rw [deleteEach_alternatives, stripDecoration]
  · rw [stripDecoration, stripDecoration, stripChars_congr same]
  · exact fun dotless s y listed nonempty => stripDecoration_append dotless s listed nonempty

example : stripDecoration ["cpp", "c.cpp", "p"] "name.c.cpp\n" = "name\n" := by decide

end TokenScopes.Scope
