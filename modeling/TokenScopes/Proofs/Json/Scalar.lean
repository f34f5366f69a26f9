import TokenScopes.Proofs.Json.Number
import TokenScopes.Proofs.Json.Text

namespace TokenScopes.Json

/-- Characters that a written value starts with. -/
def StartsValue (c : Char) : Prop :=
  c.isDigit = true ∨ c ∈ "-\"[\x7bntf".toList

theorem StartsValue.not_special {c d : Char} (h : StartsValue c)
    (special : d.isDigit = false ∧ d ∉ "-\"[\x7bntf".toList) : c ≠ d := by
  rcases h with digit | listed
  · exact digit_ne digit special.1
  · rintro rfl
    exact special.2 listed

theorem StartsValue.not_space {c : Char} (h : StartsValue c) : isSpace c = false := by
  have blank : c ≠ ' ' := h.not_special (by decide)
  have tab : c ≠ '\t' := h.not_special (by decide)
  have line : c ≠ '\n' := h.not_special (by decide)
  have ret : c ≠ '\r' := h.not_special (by decide)
  simp [isSpace, blank, tab, line, ret]

/-- A text that is read as a value wherever it stands, in as many steps as it has characters, twice. -/
structure Denotes (cs : List Char) (v : Value) : Prop where
  starts : ∃ c body, cs = c :: body ∧ StartsValue c
  reads : ∀ fuel rest, 2 * cs.length ≤ fuel → EndsNumber rest →
    readValue fuel (cs ++ rest) = .ok (v, rest)

variable {cs : List Char} {v : Value}

theorem skipSpace_of_not_space {c : Char} (h : isSpace c = false) (rest : List Char) :
    skipSpace (c :: rest) = c :: rest := by
  rw [skipSpace, List.dropWhile_cons, h]
  rfl

theorem skipSpace_newline (depth : Nat) (rest : List Char) :
    skipSpace (newline depth ++ rest) = skipSpace rest := by
  have spaces : ∀ c ∈ newline depth, isSpace c = true := by
    intro c member
    rcases List.mem_cons.mp member with rfl | member
    · rfl
    · rw [List.eq_of_mem_replicate member]
      rfl
  exact List.dropWhile_append_of_pos spaces

theorem EndsNumber.newline (depth : Nat) (rest : List Char) :
    EndsNumber (newline depth ++ rest) :=
  EndsNumber.cons (by decide) (by decide) (by decide) (by decide)

theorem EndsNumber.comma (rest : List Char) : EndsNumber (',' :: rest) :=
  EndsNumber.cons (by decide) (by decide) (by decide) (by decide)

theorem Denotes.skipSpace (h : Denotes cs v) (rest : List Char) :
    skipSpace (cs ++ rest) = cs ++ rest := by
  obtain ⟨c, body, rfl, starts⟩ := h.starts
  exact skipSpace_of_not_space starts.not_space _

theorem readValue_of_scalar {c : Char} {fuel : Nat} (quote : c ≠ '"') (brace : c ≠ '\x7b')
    (bracket : c ≠ '[') : readValue (fuel + 1) (c :: cs) = readScalar (c :: cs) := by
  rw [readValue]
  · rintro _ equal
    exact quote (List.cons.inj equal).1
  · rintro _ equal
    exact brace (List.cons.inj equal).1
  · rintro _ equal
    exact bracket (List.cons.inj equal).1

theorem Denotes.of_scalar {c : Char} {body : List Char} (starts : StartsValue c) (quote : c ≠ '"')
    (brace : c ≠ '\x7b') (bracket : c ≠ '[')
    (reads : ∀ rest, EndsNumber rest → readScalar (c :: body ++ rest) = .ok (v, rest)) :
    Denotes (c :: body) v where
  starts := ⟨c, body, rfl, starts⟩
  reads := by
    intro fuel rest enough ends
    obtain ⟨n, rfl⟩ : ∃ n, fuel = n + 1 := ⟨fuel - 1, by simp at enough; omega⟩
    rw [← reads rest ends]
    exact readValue_of_scalar quote brace bracket

theorem denotes_null : Denotes "null".toList .null := by
  have letters : "null".toList = ['n', 'u', 'l', 'l'] := rfl
  rw [letters]
  exact .of_scalar (.inr (by decide)) (by decide) (by decide) (by decide) fun _ _ => rfl

theorem denotes_bool (b : Bool) : Denotes (if b then "true" else "false").toList (.bool b) := by
  cases b with
  | true =>
    have letters : "true".toList = ['t', 'r', 'u', 'e'] := rfl
    rw [if_pos rfl, letters]
    exact .of_scalar (.inr (by decide)) (by decide) (by decide) (by decide) fun _ _ => rfl
  | false =>
    have letters : "false".toList = ['f', 'a', 'l', 's', 'e'] := rfl
    rw [if_neg Bool.false_ne_true, letters]
    exact .of_scalar (.inr (by decide)) (by decide) (by decide) (by decide) fun _ _ => rfl

/-- No word is mistaken for a number. -/
theorem words_find?_digit {d : Char} (digit : d.isDigit = true) (sign : Bool) (cs : List Char) :
    (words.find? fun (w, _) => w.isPrefixOf ((if sign then ['-'] else []) ++ d :: cs)) = none := by
  have other {c : Char} (h : c.isDigit = false) : (c == d) = false :=
    beq_eq_false_iff_ne.mpr (digit_ne digit h).symm
  have n := other (c := 'n') (by decide)
  have t := other (c := 't') (by decide)
  have f := other (c := 'f') (by decide)
  have N := other (c := 'N') (by decide)
  have I := other (c := 'I') (by decide)
  have minus := other (c := '-') (by decide)
  cases sign <;> simp [words, List.isPrefixOf, n, t, f, N, I, minus]

/-- The text of an integer that is not too long. -/
theorem denotes_int {i : Int} (small : i.natAbs < 10 ^ Decimal.digitLimit) :
    Denotes (toString i).toList (.int i) := by
  obtain ⟨d, ds, front, digit⟩ := toDigits_front i.natAbs
  have text := toList_toString_int i
  rw [front] at text
  have reads : ∀ rest, EndsNumber rest →
      readScalar ((toString i).toList ++ rest) = .ok (.int i, rest) := by
    intro rest ends
    have number := readNumber_toString i small ends
    have word := words_find?_digit digit (decide (i < 0)) (ds ++ rest)
    rw [text] at number ⊢
    rw [readScalar]
    simp only [decide_eq_true_eq, List.append_assoc, List.cons_append] at number word ⊢
    rw [word]
    exact number
  rw [text] at reads ⊢
  by_cases negative : i < 0
  · rw [if_pos negative] at reads ⊢
    exact .of_scalar (.inr (by decide)) (by decide) (by decide) (by decide) reads
  · rw [if_neg negative] at reads ⊢
    exact .of_scalar (.inl digit) (digit_ne digit (by decide)) (digit_ne digit (by decide))
      (digit_ne digit (by decide)) reads

/-- The text of a text, in quotes. -/
theorem denotes_text {s : Text} (apart : s.Apart) : Denotes (renderText s) (.text s) where
  starts := ⟨'"', _, rfl, .inr (by decide)⟩
  reads := by
    intro fuel rest enough ends
    obtain ⟨n, rfl⟩ : ∃ n, fuel = n + 1 := ⟨fuel - 1, by simp [renderText] at enough; omega⟩
    obtain ⟨body, front, text⟩ :=
      readText_renderText (renderText s ++ rest).length apart rest
    rw [front] at text ⊢
    rw [readValue, text]
    rfl

end TokenScopes.Json
