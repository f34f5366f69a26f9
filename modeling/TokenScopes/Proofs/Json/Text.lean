import Mathlib.Data.List.Chain
import Mathlib.Tactic.SplitIfs
import TokenScopes.Json.Printer
import TokenScopes.Json.Reader

namespace TokenScopes

/-- No high half stands directly before a low one, so reading the text back joins none. -/
def Text.Apart (s : Text) : Prop :=
  s.toList.IsChain fun c d => Json.joined? c d = none

instance (s : Text) : Decidable s.Apart :=
  inferInstanceAs (Decidable (s.toList.IsChain _))

namespace Json

theorem hexDigit?_hexDigit : ∀ d < 16, Text.hexDigit? (Text.hexDigit d) = some d := by
  decide

theorem hexDigits_four (n : Nat) :
    Text.hexDigits 4 n = [Text.hexDigit (n / 16 / 16 / 16 % 16), Text.hexDigit (n / 16 / 16 % 16),
      Text.hexDigit (n / 16 % 16), Text.hexDigit (n % 16)] := rfl

/-- The four digits of a code unit are read as that unit. -/
theorem hexValue_hexDigits {n : Nat} (h : n < 0x10000) :
    hexValue (Text.hexDigits 4 n) = some n := by
  have digit (m : Nat) : Text.hexDigit? (Text.hexDigit (m % 16)) = some (m % 16) :=
    hexDigit?_hexDigit _ (Nat.mod_lt _ (by decide))
  have whole : (((n / 16 / 16 / 16 % 16) * 16 + n / 16 / 16 % 16) * 16 + n / 16 % 16) * 16 +
      n % 16 = n := by omega
  simp [hexValue, hexDigits_four, digit, Text.ofDigits, whole]

theorem joined?_char (last : CodePoint) (c : Char) : joined? last (.char c) = none := by
  cases last <;> rfl

theorem joined?_high (last : CodePoint) {place : Fin 0x800} (high : place.val < 0x400) :
    joined? last (.half place) = none := by
  cases last with
  | char => rfl
  | half => exact if_neg fun pair => absurd pair.2 (by omega)

/-- Texts without halves have none to join. -/
theorem apart_ofString (s : String) : Text.Apart s :=
  (List.isChain_map _).mpr (List.pairwise_of_forall fun _ c => joined?_char _ c).isChain

variable (opened : Nat) (acc : List CodePoint)

/-- The escape of a code unit is read as that unit; something has to follow it. -/
theorem readText_codeUnit {n : Nat} (h : n < 0x10000) {rest : List Char} (more : rest ≠ []) :
    readText opened acc (codeUnitEscape n ++ rest) = readText opened (addCodeUnit acc n) rest := by
  have value := hexValue_hexDigits h
  rw [hexDigits_four] at value
  rw [codeUnitEscape, hexDigits_four]
  simp [readText, value, more]

/-- A code unit that does not end a pair is a code point by itself. -/
theorem addCodeUnit_of_apart {c : CodePoint} (apart : ∀ last ∈ acc.head?, joined? last c = none) :
    addCodeUnit acc c.toNat = c :: acc := by
  cases acc with
  | nil => rw [addCodeUnit, c.ofNat_toNat]
  | cons last before => rw [addCodeUnit, c.ofNat_toNat, apart last rfl]

/-- A high unit and a low one are the character beyond the basic plane that they halve. -/
theorem addCodeUnit_pair {n : Nat} (h : n < 0x100000) :
    addCodeUnit (addCodeUnit acc (0xD800 + n / 0x400)) (0xDC00 + n % 0x400) =
      .char (Char.ofNat (0x10000 + n)) :: acc := by
  let high : Fin 0x800 := ⟨n / 0x400, by omega⟩
  let low : Fin 0x800 := ⟨0x400 + n % 0x400, by omega⟩
  have first : addCodeUnit acc (0xD800 + n / 0x400) = .half high :: acc :=
    addCodeUnit_of_apart (c := .half high) acc fun last _ =>
      joined?_high last (by show n / 0x400 < 0x400; omega)
  have second : CodePoint.ofNat (0xDC00 + n % 0x400) = .half low := by
    rw [← CodePoint.ofNat_toNat (.half low)]
    exact congrArg CodePoint.ofNat (by simp only [CodePoint.toNat, low]; omega)
  have pair : joined? (.half high) (.half low) = some (Char.ofNat (0x10000 + n)) := by
    have whole : 0x10000 + n / 0x400 * 0x400 + (0x400 + n % 0x400 - 0x400) = 0x10000 + n := by
      omega
    simp only [joined?, high, low, whole]
    exact if_pos ⟨by omega, by omega⟩
  rw [first, addCodeUnit, second, pair]

/-- Whatever is written for a character is read as that character. -/
theorem readText_escapeChar (c : Char) {rest : List Char} (more : rest ≠ []) :
    readText opened acc (escapeChar c ++ rest) = readText opened (.char c :: acc) rest := by
  have unit : addCodeUnit acc c.toNat = .char c :: acc :=
    addCodeUnit_of_apart (c := .char c) acc fun last _ => joined?_char last c
  unfold escapeChar
  split_ifs with quote backslash newline ret tab back form printable basic
  · subst quote
    rfl
  · subst backslash
    rfl
  · subst newline
    rfl
  · subst ret
    rfl
  · subst tab
    rfl
  · subst back
    rfl
  · subst form
    rfl
  · have visible : ¬c.toNat < 32 := by omega
    simp [readText, visible, backslash]
  · rw [readText_codeUnit opened acc basic more, unit]
  · have valid : c.toNat < 0xD800 ∨ 0xDFFF < c.toNat ∧ c.toNat < 0x110000 := c.valid
    have whole : 0x10000 + (c.toNat - 0x10000) = c.toNat := by omega
    simp only [List.append_assoc]
    rw [readText_codeUnit opened acc (by omega) (by simp [codeUnitEscape]),
      readText_codeUnit opened _ (by omega) more, addCodeUnit_pair acc (by omega), whole,
      Char.ofNat_toNat]

theorem readText_escapeCode {c : CodePoint} (apart : ∀ last ∈ acc.head?, joined? last c = none)
    {rest : List Char} (more : rest ≠ []) :
    readText opened acc (escapeCode c ++ rest) = readText opened (c :: acc) rest := by
  cases c with
  | char c => exact readText_escapeChar opened acc c more
  | half place =>
    have small : (CodePoint.half place).toNat < 0x10000 := by
      have := place.isLt
      simp only [CodePoint.toNat]
      omega
    rw [← addCodeUnit_of_apart acc apart]
    exact readText_codeUnit opened acc small more

theorem readText_flatMap {cs : List CodePoint}
    (apart : (acc.head?.toList ++ cs).IsChain fun c d => joined? c d = none) (rest : List Char) :
    readText opened acc (cs.flatMap escapeCode ++ '"' :: rest) =
      .ok (.ofList (acc.reverse ++ cs), rest) := by
  -- By induction on the code points; what was read last must not join the next.
  induction cs generalizing acc with
  | nil => simp [readText]
  | cons c cs ih =>
    -- What was read last and what comes next are no pair.
    have here : ∀ last ∈ acc.head?, joined? last c = none := by
      intro last member
      rw [Option.mem_def.mp member] at apart
      exact (List.isChain_cons_cons.mp apart).1
    have later : (c :: cs).IsChain fun c d => joined? c d = none :=
      apart.suffix (List.suffix_append _ _)
    rw [List.flatMap_cons, List.append_assoc, readText_escapeCode opened acc here (by simp),
      ih (c :: acc) later]
    simp

/-- After its opening quote a written string is read to its end. -/
theorem readText_renderText {s : Text} (apart : s.Apart) (rest : List Char) :
    ∃ body, renderText s ++ rest = '"' :: body ∧
      readText opened [] body = .ok (s, rest) := by
  refine ⟨s.toList.flatMap escapeCode ++ '"' :: rest, by simp [renderText], ?_⟩
  rw [readText_flatMap opened [] apart]
  simp

end Json

end TokenScopes
