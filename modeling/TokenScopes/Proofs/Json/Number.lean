import Mathlib.Data.List.Basic
import Mathlib.Data.List.TakeDrop
import TokenScopes.Json.Reader
import TokenScopes.Proofs.Text.Front

namespace TokenScopes.Json

/-- Text that does not go on with a number. -/
def EndsNumber (rest : List Char) : Prop :=
  ∀ c ∈ rest.head?, c.isDigit = false ∧ c ≠ '.' ∧ c ≠ 'e' ∧ c ≠ 'E'

theorem EndsNumber.nil : EndsNumber [] := by
  simp [EndsNumber]

theorem EndsNumber.cons {c : Char} {rest : List Char} (digit : c.isDigit = false) (point : c ≠ '.')
    (lower : c ≠ 'e') (upper : c ≠ 'E') : EndsNumber (c :: rest) := by
  intro d head
  rw [List.head?_cons, Option.mem_some_iff] at head
  subst head
  exact ⟨digit, point, lower, upper⟩

variable {rest : List Char}

theorem EndsNumber.readFraction (h : EndsNumber rest) : readFraction rest = ([], rest) := by
  cases rest with
  | nil => rfl
  | cons c cs =>
    have point := (h c rfl).2.1
    rw [Json.readFraction.eq_def]
    split
    · next equal => exact absurd (List.cons.inj equal).1 point
    · rfl

theorem EndsNumber.readExponent (h : EndsNumber rest) : readExponent rest = (none, rest) := by
  cases rest with
  | nil => rfl
  | cons c cs =>
    have ends := h c rfl
    simp [Json.readExponent, ends.2.2.1, ends.2.2.2]

theorem EndsNumber.span_digits (h : EndsNumber rest) (ds : List Char)
    (digits : ∀ d ∈ ds, d.isDigit = true) : (ds ++ rest).span Char.isDigit = (ds, rest) := by
  obtain ⟨taken, left⟩ := cut_append digits fun c head => (h c head).1
  rw [List.span_eq_takeWhile_dropWhile, taken, left]

theorem isDigit_of_mem_toDigits {n : Nat} {d : Char} (h : d ∈ Nat.toDigits 10 n) :
    d.isDigit = true :=
  Nat.isDigit_of_mem_toDigits (by decide) (by decide) h

theorem toDigits_front (n : Nat) : ∃ d ds, Nat.toDigits 10 n = d :: ds ∧ d.isDigit = true := by
  obtain ⟨d, ds, front⟩ := List.exists_cons_of_ne_nil (Nat.toDigits_ne_nil (n := n) (b := 10))
  exact ⟨d, ds, front, isDigit_of_mem_toDigits (n := n) (by simp [front])⟩

theorem digitChar_ne_zero : ∀ d < 10, 0 < d → Nat.digitChar d ≠ '0' := by
  decide

/-- Only zero is written with a zero in front. -/
theorem toDigits_head {n : Nat} (h : 0 < n) :
    ∃ d ds, Nat.toDigits 10 n = d :: ds ∧ d ≠ '0' := by
  induction n using Nat.strongRecOn with
  | ind n ih =>
    by_cases small : n < 10
    · exact ⟨_, [], Nat.toDigits_of_lt_base small, digitChar_ne_zero n small h⟩
    · obtain ⟨d, ds, front, nonzero⟩ := ih (n / 10) (by omega) (by omega)
      refine ⟨d, ds ++ [Nat.digitChar (n % 10)], ?_, nonzero⟩
      rw [Nat.toDigits_of_base_le (by decide) (by omega), front]
      rfl

/-- The digits of a natural number are read to the last, and no further. -/
theorem readWhole_toDigits (n : Nat) (h : EndsNumber rest) :
    readWhole (Nat.toDigits 10 n ++ rest) = (Nat.toDigits 10 n, rest) := by
  by_cases zero : n = 0
  · subst zero
    rfl
  · obtain ⟨d, ds, front, nonzero⟩ := toDigits_head (Nat.pos_of_ne_zero zero)
    have digits := h.span_digits (Nat.toDigits 10 n) fun _ => isDigit_of_mem_toDigits
    rw [front] at digits ⊢
    rw [readWhole.eq_def]
    split
    · next equal => exact absurd (List.cons.inj equal).1 nonzero
    · exact digits

theorem digitsOf_toDigits (n : Nat) :
    digitsOf (Nat.toDigits 10 n) = (Nat.toDigits 10 n).map (·.toNat - 48) := by
  rw [digitsOf, ← List.filterMap_eq_map]
  apply List.filterMap_congr
  intro d member
  simp [Text.asciiDigit?, isDigit_of_mem_toDigits member]

/-- They stand for that number. -/
theorem ofDigits_toDigits (n : Nat) :
    Text.ofDigits 10 (digitsOf (Nat.toDigits 10 n)) = n := by
  conv_rhs => rw [← Nat.ofDigitChars_ten_toDigits (n := n)]
  rw [digitsOf_toDigits, Text.ofDigits, List.foldl_map, Nat.ofDigitChars_eq_foldl]
  simp only [Nat.mul_comm 10]
  rfl

theorem toList_toString_int (i : Int) :
    (toString i).toList = (if i < 0 then ['-'] else []) ++ Nat.toDigits 10 i.natAbs := by
  cases i with
  | ofNat n =>
    have sign : ¬Int.ofNat n < 0 := by simp
    rw [if_neg sign]
    exact Nat.toList_repr
  | negSucc n =>
    rw [if_pos (Int.negSucc_lt_zero n)]
    change ("-" ++ Nat.repr (n + 1)).toList = _
    rw [String.toList_append, Nat.toList_repr]
    rfl

theorem applySign_natAbs (i : Int) : Decimal.applySign (decide (i < 0)) i.natAbs = i := by
  by_cases negative : i < 0
  · simp only [Decimal.applySign, negative, decide_true, if_true]
    omega
  · simp only [Decimal.applySign, negative, decide_false, Bool.false_eq_true, if_false]
    omega

theorem digit_ne {d c : Char} (digit : d.isDigit = true) (other : c.isDigit = false) : d ≠ c := by
  rintro rfl
  rw [digit] at other
  exact absurd other (by decide)

/-- An integer that is not too long is read back from its digits. -/
theorem readNumber_toString (i : Int) (small : i.natAbs < 10 ^ Decimal.digitLimit)
    (h : EndsNumber rest) : readNumber ((toString i).toList ++ rest) = .ok (.int i, rest) := by
  have count : ¬Decimal.digitLimit < (digitsOf (Nat.toDigits 10 i.natAbs)).length := by
    rw [digitsOf_toDigits, List.length_map, Nat.not_lt]
    exact (Nat.length_toDigits_le_iff (by decide) (by decide)).mpr small
  have nonempty : (Nat.toDigits 10 i.natAbs).isEmpty = false := by
    simp [Nat.toDigits_ne_nil]
  have value := applySign_natAbs i
  rw [toList_toString_int]
  by_cases negative : i < 0
  · rw [decide_eq_true negative] at value
    rw [if_pos negative]
    simp [readNumber, readWhole_toDigits _ h, h.readFraction, h.readExponent, count,
      ofDigits_toDigits, value, Nat.toDigits_ne_nil]
  · rw [decide_eq_false negative] at value
    rw [if_neg negative, List.nil_append]
    have whole := readWhole_toDigits i.natAbs h
    obtain ⟨d, ds, front, digit⟩ := toDigits_front i.natAbs
    have sign : d ≠ '-' := digit_ne digit (by decide)
    rw [front, List.cons_append] at whole ⊢
    rw [front] at count nonempty
    have read := ofDigits_toDigits i.natAbs
    rw [front] at read
    simp [readNumber, whole, sign, h.readFraction, h.readExponent, count, read, value]

end TokenScopes.Json
