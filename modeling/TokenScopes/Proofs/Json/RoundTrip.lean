import Mathlib.Data.List.Forall2
import TokenScopes.Proofs.Json.Scalar

namespace TokenScopes.Json

variable {rest tail : List Char} {v : Value} {parts : List (List Char)}

def following (depth : Nat) (parts : List (List Char)) : List Char :=
  parts.flatMap fun part => ',' :: newline depth ++ part

@[simp]
theorem following_nil (depth : Nat) : following depth [] = [] := rfl

theorem following_cons (depth : Nat) (part : List Char) (parts : List (List Char)) :
    following depth (part :: parts) =
      ',' :: (newline depth ++ (part ++ following depth parts)) := by
  simp [following]

/-- What stands after a part ends every number. -/
theorem EndsNumber.following {tail : List Char} (h : EndsNumber tail) (depth : Nat)
    (parts : List (List Char)) : EndsNumber (following depth parts ++ tail) := by
  cases parts with
  | nil => exact h
  | cons part parts =>
    rw [following_cons]
    exact .comma _

/-- Text that ends a list or a mapping: the bracket stands on a line of its own. -/
structure Closes (bracket : Char) (rest tail : List Char) : Prop where
  ends : EndsNumber tail
  skip : skipSpace tail = bracket :: rest

theorem Closes.newline {bracket : Char} (h : isSpace bracket = false) (depth : Nat)
    (rest : List Char) : Closes bracket rest (newline depth ++ bracket :: rest) where
  ends := .newline depth _
  skip := by rw [skipSpace_newline, skipSpace_of_not_space h]

theorem readItems_parts (depth : Nat) {items : List Value} (h : List.Forall₂ Denotes parts items)
    {part : List Char} (first : Denotes part v) (closing : Closes ']' rest tail) (acc : List Value)
    (fuel : Nat) (enough : 2 * (part ++ following depth parts).length < fuel) :
    readItems fuel acc (part ++ (following depth parts ++ tail)) =
      .ok (.list (acc.reverse ++ v :: items), rest) := by
  -- By induction on the items, each of which is read up to the comma or bracket behind it.
  induction h generalizing part v acc fuel with
  | nil =>
    obtain ⟨n, rfl⟩ : ∃ n, fuel = n + 1 := ⟨fuel - 1, by omega⟩
    simp only [following_nil, List.append_nil] at enough
    have here := first.reads n tail (by omega) closing.ends
    rw [following_nil, List.nil_append, readItems, here]
    simp only [bind, Except.bind, closing.skip, List.reverse_cons]
    rfl
  | @cons next w parts items second later ih =>
    obtain ⟨n, rfl⟩ : ∃ n, fuel = n + 1 := ⟨fuel - 1, by omega⟩
    -- The comma before the next part pays for the step that reads this one.
    simp only [following_cons, List.length_append, List.length_cons] at enough
    have here := first.reads n (following depth (next :: parts) ++ tail) (by omega)
      (closing.ends.following depth _)
    have there := ih second (v :: acc) n (by rw [List.length_append]; omega)
    rw [readItems, here]
    simp only [following_cons, List.cons_append, List.append_assoc, bind, Except.bind]
    rw [skipSpace_of_not_space (by decide)]
    simp only [skipSpace_newline, second.skipSpace, there, List.reverse_cons, List.append_assoc]
    rfl

/-- The text of a list of parts on lines of their own. -/
theorem bracketed_cons (openWith closeWith : Char) (depth : Nat) (part : List Char)
    (parts : List (List Char)) (rest : List Char) :
    bracketed openWith closeWith depth (part :: parts) ++ rest =
      openWith :: (newline (depth + 1) ++ (part ++ (following (depth + 1) parts ++
        (newline depth ++ closeWith :: rest)))) := by
  simp [bracketed, following]

/-- The text in brackets without its first bracket and its end. -/
theorem bracketed_length (openWith closeWith : Char) (depth : Nat) (part : List Char)
    (parts : List (List Char)) :
    (part ++ following (depth + 1) parts).length + 2 <
      (bracketed openWith closeWith depth (part :: parts)).length := by
  simp [bracketed, following, newline]
  omega

theorem Denotes.list {items : List Value} (h : List.Forall₂ Denotes parts items) (depth : Nat) :
    Denotes (bracketed '[' ']' depth parts) (.list items) := by
  cases h with
  | nil =>
    refine ⟨⟨'[', [']'], rfl, .inr (by decide)⟩, fun fuel rest enough _ => ?_⟩
    obtain ⟨n, rfl⟩ : ∃ n, fuel = n + 1 := ⟨fuel - 1, by simp [bracketed] at enough; omega⟩
    rfl
  | @cons part v parts items first later =>
    refine ⟨⟨'[', _, rfl, .inr (by decide)⟩, fun fuel rest enough _ => ?_⟩
    have room := bracketed_length '[' ']' depth part parts
    obtain ⟨n, rfl⟩ : ∃ n, fuel = n + 1 := ⟨fuel - 1, by omega⟩
    have reads := readItems_parts (depth + 1) later first (.newline (by decide) depth rest) [] n (by omega)
    obtain ⟨c, body, rfl, starts⟩ := first.starts
    have bracket : c ≠ ']' := starts.not_special (by decide)
    rw [bracketed_cons, readValue]
    simp only [skipSpace_newline, List.cons_append] at reads ⊢
    rw [skipSpace_of_not_space starts.not_space]
    split
    · next equal => exact absurd (List.cons.inj equal).1 bracket
    · exact reads

/-- The text of a member: its key, which is read back as it is, and its value. -/
def DenotesMember (part : List Char) (field : Text × Value) : Prop :=
  ∃ cs, part = renderText field.1 ++ ':' :: ' ' :: cs ∧ field.1.Apart ∧ Denotes cs field.2

theorem DenotesMember.skipSpace {part : List Char} {field : Text × Value}
    (h : DenotesMember part field) (after : List Char) :
    skipSpace (part ++ after) = part ++ after := by
  obtain ⟨cs, rfl, -, -⟩ := h
  exact skipSpace_of_not_space (by decide) _

/-- A new key comes last. -/
theorem insert_of_new {key : Text} {fields : List (Text × Value)}
    (h : key ∉ fields.map Prod.fst) (v : Value) :
    Value.insert (.text key) v (fields.map fun (k, w) => (.text k, w)) =
      (fields ++ [(key, v)]).map fun (k, w) => (.text k, w) := by
  induction fields with
  | nil => rfl
  | cons f fields ih =>
    rw [List.map_cons, List.mem_cons, not_or] at h
    have other : (f.1 == key) = false := beq_eq_false_iff_ne.mpr (Ne.symm h.1)
    have same : Value.sameKey (.text f.1) (.text key) = false := by
      simpa [Value.sameKey, Value.sameScalar, Value.numeric?] using other
    simp only [List.map_cons, List.cons_append, Value.insert, same, ih h.2]
    rfl

/-- One member is read, and what comes after it decides how to go on. -/
theorem readMembers_member {part : List Char} {field : Text × Value}
    (h : DenotesMember part field) {done : List (Text × Value)}
    (new : field.1 ∉ done.map Prod.fst) {n : Nat} (enough : 2 * part.length ≤ n)
    {after : List Char} (ends : EndsNumber after) :
    readMembers (n + 1) (done.map fun (k, v) => (.text k, v)) (part ++ after) =
      match skipSpace after with
      | '\x7d' :: rest => .ok (.ofFields (done ++ [field]), rest)
      | ',' :: rest =>
        readMembers n ((done ++ [field]).map fun (k, v) => (.text k, v)) (skipSpace rest)
      | rest => problem .comma rest := by
  obtain ⟨key, v⟩ := field
  obtain ⟨cs, rfl, apart, value⟩ := h
  simp only [List.length_append, List.length_cons] at enough
  have here := value.reads n after (by omega) ends
  obtain ⟨body, front, text⟩ := readText_renderText
    (renderText key ++ (':' :: ' ' :: (cs ++ after))).length apart (':' :: ' ' :: (cs ++ after))
  simp only [List.append_assoc, List.cons_append] at front text ⊢
  rw [front] at text ⊢
  rw [readMembers, text]
  have colon : skipSpace (':' :: ' ' :: (cs ++ after)) = ':' :: ' ' :: (cs ++ after) :=
    skipSpace_of_not_space (by decide) _
  have blank : skipSpace (' ' :: (cs ++ after)) = cs ++ after := value.skipSpace after
  simp only [bind, Except.bind, colon, blank, here, insert_of_new new]
  rfl

theorem key_new {done fields : List (Text × Value)} {field : Text × Value}
    (distinct : ((done ++ field :: fields).map Prod.fst).Nodup) :
    field.1 ∉ done.map Prod.fst := by
  intro member
  rw [List.map_append, List.map_cons, List.nodup_append] at distinct
  exact distinct.2.2 _ member _ (List.mem_cons_self ..) rfl

/-- The same for members. Their keys differ, so each of them comes last among those that were read.
-/
theorem readMembers_parts (depth : Nat) {fields : List (Text × Value)}
    (h : List.Forall₂ DenotesMember parts fields) {part : List Char} {field : Text × Value}
    (first : DenotesMember part field) (closing : Closes '\x7d' rest tail)
    (done : List (Text × Value)) (distinct : ((done ++ field :: fields).map Prod.fst).Nodup)
    (fuel : Nat) (enough : 2 * (part ++ following depth parts).length < fuel) :
    readMembers fuel (done.map fun (k, v) => (.text k, v))
        (part ++ (following depth parts ++ tail)) =
      .ok (.ofFields (done ++ field :: fields), rest) := by
  induction h generalizing part field done fuel with
  | nil =>
    obtain ⟨n, rfl⟩ : ∃ n, fuel = n + 1 := ⟨fuel - 1, by omega⟩
    simp only [following_nil, List.append_nil] at enough
    rw [following_nil, List.nil_append, readMembers_member first (key_new distinct) (by omega)
      closing.ends, closing.skip]
    rfl
  | @cons next f parts fields second later ih =>
    obtain ⟨n, rfl⟩ : ∃ n, fuel = n + 1 := ⟨fuel - 1, by omega⟩
    simp only [following_cons, List.length_append, List.length_cons] at enough
    have there := ih second (done ++ [field]) (by simpa using distinct) n
      (by rw [List.length_append]; omega)
    rw [readMembers_member first (key_new distinct) (by omega) (closing.ends.following depth _)]
    simp only [following_cons, List.cons_append, List.append_assoc]
    rw [skipSpace_of_not_space (by decide)]
    simp only [skipSpace_newline, second.skipSpace, there, List.append_assoc, List.cons_append,
      List.nil_append]

theorem Denotes.map {fields : List (Text × Value)}
    (h : List.Forall₂ DenotesMember parts fields) (distinct : (fields.map Prod.fst).Nodup)
    (depth : Nat) : Denotes (bracketed '\x7b' '\x7d' depth parts) (.ofFields fields) := by
  cases h with
  | nil =>
    refine ⟨⟨'\x7b', ['\x7d'], rfl, .inr (by decide)⟩, fun fuel rest enough _ => ?_⟩
    obtain ⟨n, rfl⟩ : ∃ n, fuel = n + 1 := ⟨fuel - 1, by simp [bracketed] at enough; omega⟩
    rfl
  | @cons part field parts fields first later =>
    refine ⟨⟨'\x7b', _, rfl, .inr (by decide)⟩, fun fuel rest enough _ => ?_⟩
    have room := bracketed_length '\x7b' '\x7d' depth part parts
    obtain ⟨n, rfl⟩ : ∃ n, fuel = n + 1 := ⟨fuel - 1, by omega⟩
    have reads := readMembers_parts (depth + 1) later first (.newline (by decide) depth rest) []
      distinct n (by omega)
    rw [bracketed_cons, readValue, skipSpace_newline, first.skipSpace]
    obtain ⟨cs, rfl, -, -⟩ := first
    exact reads

/-- Values that JSON text denotes exactly: no key stands twice, integers are not too long, and no
text has the two halves of a pair in a row. -/
inductive Exact : Value → Prop where
  | null : Exact .null
  | bool (b : Bool) : Exact (.bool b)
  | int {i : Int} (small : i.natAbs < 10 ^ Decimal.digitLimit) : Exact (.int i)
  | text {s : Text} (apart : s.Apart) : Exact (.text s)
  | list {items : List Value} (members : ∀ v ∈ items, Exact v) : Exact (.list items)
  | map {fields : List (Text × Value)} (distinct : (fields.map Prod.fst).Nodup)
      (keys : ∀ f ∈ fields, f.1.Apart) (members : ∀ f ∈ fields, Exact f.2) :
      Exact (.ofFields fields)

theorem renderItems_eq (depth : Nat) (items : List Value) :
    renderItems depth items = items.map (renderChars depth) := by
  induction items with
  | nil => rfl
  | cons v items ih => rw [renderItems, ih, List.map_cons]

theorem renderMembers_ofFields (depth : Nat) (fields : List (Text × Value)) :
    renderMembers depth (fields.map fun (k, v) => (.text k, v)) =
      fields.map fun f => renderText f.1 ++ ':' :: ' ' :: renderChars depth f.2 := by
  induction fields with
  | nil => rfl
  | cons f fields ih =>
    rw [List.map_cons, renderMembers, ih, List.map_cons]
    rfl

theorem Exact.denotes (h : Exact v) (depth : Nat) : Denotes (renderChars depth v) v := by
  -- By induction on the value, at any depth of indentation.
  induction h generalizing depth with
  | null => exact denotes_null
  | bool b => exact denotes_bool b
  | int small => exact denotes_int small
  | text apart => exact denotes_text apart
  | @list items _ ih =>
    rw [renderChars, renderItems_eq]
    refine Denotes.list ?_ depth
    rw [List.forall₂_map_left_iff, List.forall₂_same]
    exact fun v member => ih v member (depth + 1)
  | @map fields distinct keys _ ih =>
    rw [Value.ofFields, renderChars, renderMembers_ofFields]
    refine Denotes.map ?_ distinct depth
    rw [List.forall₂_map_left_iff, List.forall₂_same]
    exact fun f member => ⟨_, rfl, keys f member, ih f member (depth + 1)⟩

/-- Reading the text of a value gives the value back. -/
theorem Exact.readChars_renderChars (h : Exact v) : readChars (renderChars 0 v) = .ok v := by
  have denotes := h.denotes 0
  have reads := denotes.reads (2 * (renderChars 0 v).length + 2) [] (by omega) .nil
  have front := denotes.skipSpace []
  rw [List.append_nil] at reads front
  obtain ⟨c, body, equal, starts⟩ := denotes.starts
  have mark : c ≠ Char.ofNat 0xFEFF := starts.not_special (by decide)
  rw [readChars, front, reads]
  rw [equal, List.head?_cons, if_neg (by simpa using mark)]
  rfl

theorem faultOfItems?_eq_none {items : List Value} (h : ∀ v ∈ items, fault? v = none) :
    faultOfItems? items = none := by
  induction items with
  | nil => rfl
  | cons v items ih =>
    rw [faultOfItems?, h v (List.mem_cons_self ..), Option.none_or]
    exact ih fun w member => h w (List.mem_cons_of_mem _ member)

theorem faultOfMembers?_eq_none {fields : List (Text × Value)}
    (h : ∀ f ∈ fields, fault? f.2 = none) :
    faultOfMembers? (fields.map fun (k, v) => (.text k, v)) = none := by
  induction fields with
  | nil => rfl
  | cons f fields ih =>
    rw [List.map_cons, faultOfMembers?, h f (List.mem_cons_self ..), Option.none_or]
    exact ih fun g member => h g (List.mem_cons_of_mem _ member)

/-- What is denoted exactly can be written. -/
theorem Exact.fault?_eq_none (h : Exact v) : fault? v = none := by
  induction h with
  | null => rfl
  | bool => rfl
  | int small =>
    rw [fault?]
    exact if_pos small
  | text => rfl
  | list _ ih => exact faultOfItems?_eq_none ih
  | map _ _ _ ih => exact faultOfMembers?_eq_none ih

theorem Exact.pretty_eq (h : Exact v.canonical) : pretty v = .ok (prettyText v) := by
  rw [pretty, h.fault?_eq_none]

/-- Written text is read back as the canonical form. -/
theorem Exact.read_prettyText (h : Exact v.canonical) :
    read (prettyText v) = .ok v.canonical := by
  rw [read, prettyText, String.toList_ofList]
  exact h.readChars_renderChars

end TokenScopes.Json
