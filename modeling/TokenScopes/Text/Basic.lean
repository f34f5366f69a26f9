namespace TokenScopes

/-- A code point: a character, or half of a surrogate pair that stands alone. -/
inductive CodePoint where
  | char (c : Char)
  /-- The half at a place from U+D800 on. -/
  | half (place : Fin 0x800)
  deriving DecidableEq, Inhabited

namespace CodePoint

instance : Coe Char CodePoint := ⟨char⟩

def toNat : CodePoint → Nat
  | char c => c.toNat
  | half place => 0xD800 + place

/-- The code point of a number; one that is too large counts as zero. -/
def ofNat (n : Nat) : CodePoint :=
  if h : n - 0xD800 < 0x800 then
    if 0xD800 ≤ n then half ⟨n - 0xD800, h⟩ else char (Char.ofNat n)
  else char (Char.ofNat n)

theorem ofNat_toNat (c : CodePoint) : ofNat c.toNat = c := by
  cases c with
  | char c =>
    have valid : c.toNat < 0xD800 ∨ 0xDFFF < c.toNat ∧ c.toNat < 0x110000 := c.valid
    rw [toNat, ofNat]
    split
    · split
      · omega
      · rw [Char.ofNat_toNat]
    · rw [Char.ofNat_toNat]
  | half place =>
    have within := place.isLt
    simp [toNat, ofNat]

def isHalf : CodePoint → Bool
  | char _ => false
  | half _ => true

/-- The character, where halves have no meaning of their own. -/
def toChar : CodePoint → Char
  | char c => c
  | half _ => '\uFFFD'

def toLower : CodePoint → CodePoint
  | char c => char c.toLower
  | half place => half place

end CodePoint

/-- A text: any code points in a row. -/
structure Text where
  ofList ::
  toList : List CodePoint
  deriving DecidableEq, Inhabited

namespace Text

def ofString (s : String) : Text :=
  ofList (s.toList.map .char)

instance : Coe String Text := ⟨ofString⟩

instance : Append Text := ⟨fun s t => ofList (s.toList ++ t.toList)⟩

def length (s : Text) : Nat :=
  s.toList.length

def singleton (c : CodePoint) : Text :=
  ofList [c]

/-- Texts are ordered by their code points. -/
def codes (s : Text) : List Nat :=
  s.toList.map CodePoint.toNat

instance : LT Text := ⟨fun s t => List.lt s.codes t.codes⟩

instance : LE Text := ⟨fun s t => ¬t < s⟩

instance (s t : Text) : Decidable (s < t) :=
  List.decidableLT s.codes t.codes

instance (s t : Text) : Decidable (s ≤ t) :=
  inferInstanceAs (Decidable ¬t < s)

def intercalate (separator : Text) (parts : List Text) : Text :=
  ofList (separator.toList.intercalate (parts.map toList))

/-- The characters of a text, where halves have no meaning of their own. -/
def chars (s : Text) : List Char :=
  s.toList.map CodePoint.toChar

def splitOn {α : Type} [DecidableEq α] (separator : α) : List α → List (List α)
  | [] => [[]]
  | a :: as =>
    if a = separator then [] :: splitOn separator as
    else
      match splitOn separator as with
      | [] => [[a]]
      | part :: parts => (a :: part) :: parts

@[simp] theorem toList_ofList (cs : List CodePoint) : (ofList cs).toList = cs := rfl

@[simp] theorem ofList_toList (s : Text) : ofList s.toList = s := rfl

@[simp] theorem toList_append (s t : Text) : (s ++ t).toList = s.toList ++ t.toList := rfl

@[simp] theorem toList_ofString (s : String) : (ofString s).toList = s.toList.map .char := rfl

theorem toList_injective {s t : Text} (h : s.toList = t.toList) : s = t :=
  congrArg ofList h

theorem toList_inj {s t : Text} : s.toList = t.toList ↔ s = t :=
  ⟨toList_injective, congrArg toList⟩

@[simp] theorem length_toList (s : Text) : s.toList.length = s.length := rfl

@[simp] theorem toList_eq_nil_iff {s : Text} : s.toList = [] ↔ s = "" := by
  rw [← toList_inj]
  rfl

theorem ofList_append (cs ds : List CodePoint) : ofList (cs ++ ds) = ofList cs ++ ofList ds := rfl

@[simp] theorem append_eq_empty_iff {s t : Text} : s ++ t = "" ↔ s = "" ∧ t = "" := by
  rw [← toList_eq_nil_iff, toList_append, List.append_eq_nil_iff, toList_eq_nil_iff,
    toList_eq_nil_iff]

@[simp] theorem empty_eq_append_iff {s t : Text} : "" = s ++ t ↔ s = "" ∧ t = "" := by
  rw [eq_comm, append_eq_empty_iff]

@[simp] theorem append_right_inj (s : Text) {t u : Text} : s ++ t = s ++ u ↔ t = u := by
  rw [← toList_inj, toList_append, toList_append, List.append_cancel_left_eq, toList_inj]

theorem append_empty (s : Text) : s ++ "" = s :=
  congrArg ofList (List.append_nil s.toList)

theorem append_assoc (s t u : Text) : s ++ t ++ u = s ++ (t ++ u) :=
  congrArg ofList (List.append_assoc ..)

theorem map_char_inj {cs ds : List Char} :
    cs.map CodePoint.char = ds.map CodePoint.char ↔ cs = ds :=
  List.map_inj_right fun _ _ => CodePoint.char.inj

@[simp] theorem ofString_inj {s t : String} : ofString s = ofString t ↔ s = t := by
  rw [← toList_inj, toList_ofString, toList_ofString, map_char_inj, String.toList_inj]

@[simp] theorem ofString_beq (s t : String) : (ofString s == ofString t) = (s == t) := by
  rw [Bool.eq_iff_iff, beq_iff_eq, beq_iff_eq, ofString_inj]

end Text

end TokenScopes
