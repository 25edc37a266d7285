import AppResources.Literal
import AppResources.Proofs.Numerals

/-!
# Integer literals

An integer literal is a decimal numeral behind one sign or none, or a hexadecimal one behind
`0x` (`IsSigned`, `IsHexadecimal`).  No text is both, and a literal that is out of range is
refused: what is read is decided by the number that the literal writes
(`integer?_of_isSigned`, `integer?_of_isHexadecimal`), not by the length of the text.
-/

namespace AppResources

namespace Literal

/-- A decimal numeral behind one sign or none, with the integer that it writes. -/
inductive IsSigned : List Char → Int → Prop
  /-- Without a sign. -/
  | bare {digits : List Char} {n : Nat} (h : IsNumeral 10 digits n) : IsSigned digits n
  /-- Behind a plus sign. -/
  | plus {digits : List Char} {n : Nat} (h : IsNumeral 10 digits n) : IsSigned ('+' :: digits) n
  /-- Behind a minus sign. -/
  | minus {digits : List Char} {n : Nat} (h : IsNumeral 10 digits n) : IsSigned ('-' :: digits) (-n)

/-- A hexadecimal numeral behind `0x` or `0X`, with the number that it writes. -/
inductive IsHexadecimal : List Char → Nat → Prop
  /-- Behind `0x`. -/
  | lower {digits : List Char} {n : Nat} (h : IsNumeral 16 digits n) :
    IsHexadecimal ('0' :: 'x' :: digits) n
  /-- Behind `0X`. -/
  | upper {digits : List Char} {n : Nat} (h : IsNumeral 16 digits n) :
    IsHexadecimal ('0' :: 'X' :: digits) n

/-- An integer literal, with the scalar that it stands for: hexadecimal ones fit 32 bits,
decimal ones 32 signed bits and are stored in two's complement. -/
inductive IsInteger (text : List Char) : Primitive → Prop
  /-- A hexadecimal literal. -/
  | hexadecimal {n : Nat} (htext : IsHexadecimal text n) (hn : n < 0x100000000) :
    IsInteger text ⟨DataType.hexadecimal, UInt32.ofNat n⟩
  /-- A decimal literal. -/
  | decimal {v : Int} (htext : IsSigned text v) (hmin : -0x80000000 ≤ v) (hmax : v < 0x80000000) :
    IsInteger text ⟨DataType.decimal, UInt32.ofInt v⟩

/-! ## Literals have no blanks -/

theorem isBlank_of_isDigit {base : Nat} {c : Char} {d : Nat} (h : IsDigit base c d)
    (hbase : base ≤ 16) : isBlank c = false := by
  have hblank : ∀ d < 16, isBlank d.digitChar = false ∧ isBlank d.digitChar.toUpper = false := by
    decide
  obtain ⟨hd, rfl | rfl⟩ := h
  · exact (hblank d (Nat.lt_of_lt_of_le hd hbase)).1
  · exact (hblank d (Nat.lt_of_lt_of_le hd hbase)).2

theorem isBlank_of_isNumeral {base : Nat} {text : List Char} {n : Nat} (h : IsNumeral base text n)
    (hbase : base ≤ 16) : ∀ c ∈ text, isBlank c = false := fun c hc =>
  have ⟨_, hd⟩ := h.forall_isDigit c hc
  isBlank_of_isDigit hd hbase

theorem IsSigned.trim_eq {text : List Char} {v : Int} (h : IsSigned text v) : trim text = text := by
  apply trim_eq_self_of_forall
  cases h with
  | bare h => exact isBlank_of_isNumeral h (by decide)
  | plus h => exact List.forall_mem_cons.mpr ⟨rfl, isBlank_of_isNumeral h (by decide)⟩
  | minus h => exact List.forall_mem_cons.mpr ⟨rfl, isBlank_of_isNumeral h (by decide)⟩

theorem IsHexadecimal.trim_eq {text : List Char} {n : Nat} (h : IsHexadecimal text n) :
    trim text = text := by
  apply trim_eq_self_of_forall
  cases h with
  | lower h | upper h =>
    exact List.forall_mem_cons.mpr ⟨rfl, List.forall_mem_cons.mpr
      ⟨rfl, isBlank_of_isNumeral h (by decide)⟩⟩

/-! ## What a literal is read as -/

section Reading
variable {text digits : List Char} {n : Nat} {v : Int}

/-- The scalar of an integer that is written in decimal, if it is in range. -/
def signed? (v : Int) : Option Primitive :=
  if -0x80000000 ≤ v ∧ v < 0x80000000 then some ⟨DataType.decimal, UInt32.ofInt v⟩ else none

/-- The scalar of a number that is written in hexadecimal, if it is in range. -/
def unsigned? (n : Nat) : Option Primitive :=
  if n < 0x100000000 then some ⟨DataType.hexadecimal, UInt32.ofNat n⟩ else none

theorem hexadecimal?_of_isNumeral (h : IsNumeral 16 digits n) :
    hexadecimal? digits = unsigned? n := by
  rw [hexadecimal?, hexNumeral?_eq_some_iff.mpr h, unsigned?]

theorem decimal?_of_isNumeral (h : IsNumeral 10 digits n) (negative : Bool) :
    decimal? negative digits = signed? (if negative then -n else n) := by
  have hword : UInt32.ofInt n = UInt32.ofNat n := by
    rw [UInt32.ofInt, ← UInt32.ofNat_mod_size (x := n)]
    rfl
  rw [decimal?, decimalNumeral?_eq_some_iff.mpr h]
  cases negative with
  | true =>
    have hrange : (-0x80000000 ≤ -(n : Int) ∧ -(n : Int) < 0x80000000) ↔ n ≤ 0x80000000 := by omega
    simp only [signed?, if_true, hrange, UInt32.ofInt_neg, hword]
  | false =>
    have hrange : (-0x80000000 ≤ (n : Int) ∧ (n : Int) < 0x80000000) ↔ n < 0x80000000 := by omega
    simp only [signed?, Bool.false_eq_true, if_false, hrange, hword]

theorem integer?_of_isHexadecimal (h : IsHexadecimal (trim text) n) :
    integer? text = unsigned? n := by
  unfold integer?
  generalize trim text = written at h
  cases h with
  | lower h => exact hexadecimal?_of_isNumeral h
  | upper h => exact hexadecimal?_of_isNumeral h

theorem integer?_of_isSigned (h : IsSigned (trim text) v) : integer? text = signed? v := by
  unfold integer?
  generalize trim text = written at h
  cases h with
  | plus h => exact decimal?_of_isNumeral h false
  | minus h => exact decimal?_of_isNumeral h true
  | @bare _ n h =>
    -- neither a sign nor the `x` of a hexadecimal literal is a decimal digit
    have hdigit : ∀ c, c = 'x' ∨ c = 'X' ∨ c = '-' ∨ c = '+' → c ∉ written := by
      intro c hc hmem
      obtain ⟨d, hd⟩ := h.forall_isDigit c hmem
      have hread := decimalDigit?_eq_some_iff.mpr hd
      rcases hc with rfl | rfl | rfl | rfl <;> cases hread
    split
    · exact absurd (by simp) (hdigit 'x' (by simp))
    · exact absurd (by simp) (hdigit 'X' (by simp))
    · exact absurd (by simp) (hdigit '-' (by simp))
    · exact absurd (by simp) (hdigit '+' (by simp))
    · exact decimal?_of_isNumeral h false

theorem IsHexadecimal.integer?_eq (h : IsHexadecimal text n) : integer? text = unsigned? n :=
  integer?_of_isHexadecimal (h.trim_eq.symm ▸ h)

theorem IsSigned.integer?_eq (h : IsSigned text v) : integer? text = signed? v :=
  integer?_of_isSigned (h.trim_eq.symm ▸ h)

theorem exists_isNumeral_of_hexadecimal? {p : Primitive} (h : hexadecimal? digits = some p) :
    ∃ n, IsNumeral 16 digits n := by
  unfold hexadecimal? at h
  split at h
  · rename_i n hn
    exact ⟨n, hexNumeral?_eq_some_iff.mp hn⟩
  · cases h

theorem exists_isNumeral_of_decimal? {negative : Bool} {p : Primitive}
    (h : decimal? negative digits = some p) : ∃ n, IsNumeral 10 digits n := by
  unfold decimal? at h
  split at h
  · rename_i n hn
    exact ⟨n, decimalNumeral?_eq_some_iff.mp hn⟩
  · cases h

/-- Nothing but literals is read. -/
theorem isLiteral_of_integer? {p : Primitive} (h : integer? text = some p) :
    (∃ n, IsHexadecimal (trim text) n) ∨ ∃ v, IsSigned (trim text) v := by
  unfold integer? at h
  generalize trim text = written at h ⊢
  split at h
  · exact .inl ((exists_isNumeral_of_hexadecimal? h).imp fun _ => .lower)
  · exact .inl ((exists_isNumeral_of_hexadecimal? h).imp fun _ => .upper)
  · obtain ⟨n, hn⟩ := exists_isNumeral_of_decimal? h
    exact .inr ⟨-n, .minus hn⟩
  · obtain ⟨n, hn⟩ := exists_isNumeral_of_decimal? h
    exact .inr ⟨n, .plus hn⟩
  · obtain ⟨n, hn⟩ := exists_isNumeral_of_decimal? h
    exact .inr ⟨n, .bare hn⟩

/-- **What is read are the integer literals in range**, with blanks around them. -/
theorem integer?_eq_some_iff {p : Primitive} :
    integer? text = some p ↔ IsInteger (trim text) p := by
  constructor
  · intro h
    rcases isLiteral_of_integer? h with ⟨n, htext⟩ | ⟨v, htext⟩
    · rw [integer?_of_isHexadecimal htext, unsigned?, Option.ite_none_right_eq_some] at h
      obtain ⟨hn, hp⟩ := h
      cases hp
      exact .hexadecimal htext hn
    · rw [integer?_of_isSigned htext, signed?, Option.ite_none_right_eq_some] at h
      obtain ⟨⟨hmin, hmax⟩, hp⟩ := h
      cases hp
      exact .decimal htext hmin hmax
  · intro h
    cases h with
    | hexadecimal htext hn => rw [integer?_of_isHexadecimal htext, unsigned?, if_pos hn]
    | decimal htext hmin hmax => rw [integer?_of_isSigned htext, signed?, if_pos ⟨hmin, hmax⟩]

end Reading

/-! ## Leading zeros and printed integers -/

section Printed
variable {digits : List Char} {n : Nat}

theorem isHexadecimal_mark {mark : Char} (hmark : mark = 'x' ∨ mark = 'X')
    (h : IsNumeral 16 digits n) : IsHexadecimal ('0' :: mark :: digits) n := by
  rcases hmark with rfl | rfl
  · exact .lower h
  · exact .upper h

theorem isSigned_sign {sign : List Char} (hsign : sign ∈ [[], ['+'], ['-']])
    (h : IsNumeral 10 digits n) : IsSigned (sign ++ digits) (if sign = ['-'] then -n else n) := by
  simp only [List.mem_cons, List.not_mem_nil, or_false] at hsign
  rcases hsign with rfl | rfl | rfl
  · exact .bare h
  · exact .plus h
  · exact .minus h

/-- A printed integer is a literal of it. -/
theorem isSigned_toString (v : Int) : IsSigned (toString v).toList v := by
  cases v with
  | ofNat n =>
    have hdigits : (toString (Int.ofNat n)).toList = Nat.toDigits 10 n := Nat.toList_repr
    rw [hdigits]
    exact .bare (isNumeral_toDigits (by decide) n)
  | negSucc n =>
    have hdigits : (toString (Int.negSucc n)).toList = '-' :: Nat.toDigits 10 (n + 1) := by
      show ("-" ++ (n + 1).repr).toList = _
      rw [String.toList_append, Nat.toList_repr]
      rfl
    rw [hdigits]
    exact .minus (isNumeral_toDigits (by decide) (n + 1))

/-- The word of a signed integer is what it is modulo 2³². -/
theorem ofInt_toInt (i : Int32) : UInt32.ofInt i.toInt = i.toUInt32 := by
  have hword : i.toInt % (2 ^ 32 : Nat) = i.toUInt32.toNat := by
    have hsigned : i.toInt = (i.toUInt32.toNat : Int).bmod (2 ^ 32) :=
      BitVec.toInt_eq_toNat_bmod i.toBitVec
    have hlt : (i.toUInt32.toNat : Int) < (2 ^ 32 : Nat) := Int.ofNat_lt.mpr i.toUInt32.toNat_lt
    rw [hsigned, Int.bmod_emod, Int.emod_eq_of_lt (Int.natCast_nonneg _) hlt]
  calc UInt32.ofInt i.toInt
      = UInt32.ofNat (i.toInt % (2 ^ 32 : Nat)).toNat := rfl
    _ = i.toUInt32 := by rw [hword, Int.toNat_natCast, UInt32.ofNat_toNat]

theorem integer?_of_isNumeral {mark : Char} (hmark : mark = 'x' ∨ mark = 'X') {w : UInt32}
    (h : IsNumeral 16 digits w.toNat) :
    integer? ('0' :: mark :: digits) = some ⟨DataType.hexadecimal, w⟩ := by
  rw [(isHexadecimal_mark hmark h).integer?_eq, unsigned?, if_pos w.toNat_lt, UInt32.ofNat_toNat]

end Printed

/-- **The reader of integers** accepts a literal exactly when its integer is in range, whatever
its length, and reads printed integers back. -/
structure ReadsIntegers : Prop where
  /-- What is read are the literals in range, with blanks around them. -/
  accepts : ∀ text p, integer? text = some p ↔ IsInteger (trim text) p
  /-- The word read is the data of the literal. -/
  word : ∀ text w, word? text = some w ↔ ∃ dataType, IsInteger (trim text) ⟨dataType, w⟩
  /-- Zeros in front of decimal digits do not count. -/
  decimalZeros : ∀ sign ∈ [[], ['+'], ['-']], ∀ digits n, IsNumeral 10 digits n → ∀ count,
    integer? (sign ++ (List.replicate count '0' ++ digits)) = integer? (sign ++ digits)
  /-- Zeros in front of hexadecimal digits do not count. -/
  hexadecimalZeros : ∀ mark, mark = 'x' ∨ mark = 'X' → ∀ digits n, IsNumeral 16 digits n →
    ∀ count, integer? ('0' :: mark :: (List.replicate count '0' ++ digits)) =
      integer? ('0' :: mark :: digits)
  /-- A signed integer that is printed in decimal is read back. -/
  decimal : ∀ i : Int32, integer? (toString i).toList = some ⟨DataType.decimal, i.toUInt32⟩
  /-- A word that is printed in hexadecimal, in lower or upper case, is read back. -/
  hexadecimal : ∀ mark, mark = 'x' ∨ mark = 'X' → ∀ w : UInt32, ∀ digits,
    digits = Nat.toDigits 16 w.toNat ∨ digits = (Nat.toDigits 16 w.toNat).map Char.toUpper →
      integer? ('0' :: mark :: digits) = some ⟨DataType.hexadecimal, w⟩
  /-- So is one that is printed with all its digits. -/
  allDigits : ∀ w : UInt32,
    integer? (hexText 8 w.toNat).toList = some ⟨DataType.hexadecimal, w⟩

theorem readsIntegers : ReadsIntegers where
  accepts _ _ := integer?_eq_some_iff
  word text w := by
    rw [word?, Option.map_eq_some_iff]
    constructor
    · rintro ⟨p, hp, rfl⟩
      exact ⟨p.dataType, integer?_eq_some_iff.mp hp⟩
    · rintro ⟨dataType, h⟩
      exact ⟨_, integer?_eq_some_iff.mpr h, rfl⟩
  decimalZeros sign hsign digits n h count :=
    calc integer? (sign ++ (List.replicate count '0' ++ digits))
        = signed? (if sign = ['-'] then -n else n) :=
          (isSigned_sign hsign (h.zeros count)).integer?_eq
      _ = integer? (sign ++ digits) := (isSigned_sign hsign h).integer?_eq.symm
  hexadecimalZeros mark hmark digits n h count :=
    calc integer? ('0' :: mark :: (List.replicate count '0' ++ digits))
        = unsigned? n := (isHexadecimal_mark hmark (h.zeros count)).integer?_eq
      _ = integer? ('0' :: mark :: digits) := (isHexadecimal_mark hmark h).integer?_eq.symm
  decimal i := by
    have htext : IsSigned (toString i).toList i.toInt := isSigned_toString i.toInt
    rw [htext.integer?_eq, signed?, if_pos ⟨i.le_toInt, i.toInt_lt⟩, ofInt_toInt]
  hexadecimal mark hmark w digits hdigits := by
    have h := isNumeral_toDigits (show 1 < 16 by decide) w.toNat
    rcases hdigits with rfl | rfl
    · exact integer?_of_isNumeral hmark h
    · exact integer?_of_isNumeral hmark (h.map_toUpper (by decide))
  allDigits w := by
    have hvalue : w.toNat % 16 ^ 8 = w.toNat := Nat.mod_eq_of_lt w.toNat_lt
    have h := isNumeral_hexDigits 7 w.toNat
    rw [hvalue] at h
    have hwritten : (hexText 8 w.toNat).toList = '0' :: 'x' :: hexDigits 8 w.toNat := by
      rw [hexText, String.toList_append, String.toList_ofList (l := hexDigits 8 w.toNat)]
      rfl
    rw [hwritten]
    exact integer?_of_isNumeral (.inl rfl) h

/-- The ends of both ranges, and a sign where there may be none. -/
example :
    [" -0002147483648", "2147483648", "0X00ffFFffFF", "0x100000000", "0x+1"].map
      (fun text => word? text.toList) =
    [some 0x80000000, none, some 0xFFFFFFFF, none, none] := by
  decide

end Literal

end AppResources
