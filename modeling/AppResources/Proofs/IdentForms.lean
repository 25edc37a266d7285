import AppResources.Proofs.IntegerLiterals

/-!
# The forms of an identifier

An identifier is a word, three parts and a text.  The parts stand side by side in the word
(`value_ofParts`), so packing and unpacking lose nothing and identifiers are ordered part by
part (`compare_eq_lex`).  The text is a hexadecimal literal of the word with all its digits
(`isHexadecimal_text`).

Other texts write the same identifier: in upper case, behind `0X`, with fewer digits or with
more zeros in front.  A text is read when it is a hexadecimal literal of a word with a type
part, however it is written (`ofText_eq_ok_iff`); so the text of what was read is read again.
-/

namespace AppResources

namespace Ident
variable {text : List Char} {i : Ident}

/-! ## The word and its parts -/

/-- The parts stand side by side in the word. -/
theorem value_ofParts (package type : UInt8) (entry : UInt16) :
    (ofParts package type entry).value =
      package.toUInt32 <<< 24 ||| type.toUInt32 <<< 16 ||| entry.toUInt32 := by
  have hp := package.toNat_lt
  have ht := type.toNat_lt
  have he := entry.toNat_lt
  have hlower : (type.toUInt32 <<< 16 ||| entry.toUInt32).toNat =
      type.toNat * 0x10000 + entry.toNat :=
    toNat_shiftLeft_or rfl he (by rw [UInt8.toNat_toUInt32]; omega) (by decide)
  have hword : (package.toUInt32 <<< 24 ||| (type.toUInt32 <<< 16 ||| entry.toUInt32)).toNat =
      package.toNat * 0x1000000 + (type.toNat * 0x10000 + entry.toNat) := by
    rw [← hlower]
    exact toNat_shiftLeft_or rfl (by omega) (by rw [UInt8.toNat_toUInt32]; omega) (by decide)
  apply UInt32.toNat_inj.mp
  rw [toNat_ofParts, UInt32.or_assoc, hword, Nat.add_assoc]

/-- The word as a number in digits that are its parts. -/
theorem toNat_value (i : Ident) : i.value.toNat =
    0x1000000 * i.package.toNat + (0x10000 * i.type.toNat + i.entry.toNat) := by
  have hvalue := i.value.toNat_lt
  rw [toNat_package, toNat_type, toNat_entry]
  omega

/-- **Identifiers are ordered by package, then by type, then by entry.** -/
theorem compare_eq_lex (i j : Ident) : compare i j =
    compareLex (compareOn package) (compareLex (compareOn type) (compareOn entry)) i j := by
  have hit := i.type.toNat_lt
  have hie := i.entry.toNat_lt
  have hjt := j.type.toNat_lt
  have hje := j.entry.toNat_lt
  have hvalue : compare i j = compare i.value.toNat j.value.toNat :=
    UInt32.compare_eq_toNat_compare_toNat ..
  rw [hvalue, toNat_value i, toNat_value j, compare_mul_add (by omega) (by omega),
    compare_mul_add hie hje]
  simp only [compareLex, compareOn, UInt8.compare_eq_toNat_compare_toNat,
    UInt16.compare_eq_toNat_compare_toNat]

/-! ## The text -/

/-- An identifier is written as a literal of its word. -/
theorem isHexadecimal_text (i : Ident) : Literal.IsHexadecimal i.text.toList i.value.toNat := by
  have hvalue : i.value.toNat % 16 ^ 8 = i.value.toNat := Nat.mod_eq_of_lt i.value.toNat_lt
  have hdigits := isNumeral_hexDigits 7 i.value.toNat
  rw [hvalue] at hdigits
  rw [Ident.text, toList_hexText]
  exact .lower hdigits

/-- What is read as a hexadecimal scalar is a literal of its word. -/
theorem integer?_eq_hexadecimal_iff {w : UInt32} :
    Literal.integer? text = some ⟨DataType.hexadecimal, w⟩ ↔
      Literal.IsHexadecimal (trim text) w.toNat := by
  rw [Literal.integer?_eq_some_iff]
  constructor
  · intro h
    cases h with
    | hexadecimal htext hn => rwa [UInt32.toNat_ofNat_of_lt' hn]
  · intro h
    have hread := Literal.IsInteger.hexadecimal h w.toNat_lt
    rwa [UInt32.ofNat_toNat] at hread

/-- The text of an identifier is read as its word. -/
theorem integer?_text (i : Ident) :
    Literal.integer? i.text.toList = some ⟨DataType.hexadecimal, i.value⟩ := by
  rw [integer?_eq_hexadecimal_iff, i.isHexadecimal_text.trim_eq]
  exact i.isHexadecimal_text

theorem ident?_eq_some_iff : Literal.ident? text = some i ↔
    Literal.IsHexadecimal (trim text) i.value.toNat ∧ i.type ≠ 0 := by
  obtain ⟨w⟩ := i
  rw [← integer?_eq_hexadecimal_iff, ← bne_iff_ne, Literal.ident?]
  cases Literal.integer? text with
  | none => simp
  | some p =>
    obtain ⟨dataType, data⟩ := p
    simp only [Option.ite_none_right_eq_some, Option.some.injEq, Primitive.mk.injEq, mk.injEq]
    constructor
    · rintro ⟨⟨rfl, htype⟩, rfl⟩
      exact ⟨⟨rfl, rfl⟩, htype⟩
    · rintro ⟨⟨rfl, rfl⟩, htype⟩
      exact ⟨⟨rfl, htype⟩, rfl⟩

/-- **What is read are the hexadecimal literals of words with a type part**, with blanks around
them. -/
theorem ofText_eq_ok_iff {text : String} : ofText text = .ok i ↔
    Literal.IsHexadecimal (trim text.toList) i.value.toNat ∧ i.type ≠ 0 := by
  rw [← ident?_eq_some_iff, ofText]
  cases Literal.ident? text.toList <;> simp

theorem ofText_of_not_read {text : String} (h : ∀ i, ofText text ≠ .ok i) :
    ofText text = .error (.invalidIdent text) := by
  unfold ofText at h ⊢
  split
  · rename_i i hread
    exact absurd (by rw [hread]) (h i)
  · rfl

theorem ident?_text (i : Ident) :
    Literal.ident? i.text.toList = if i.type = 0 then none else some i := by
  unfold Literal.ident?
  rw [integer?_text]
  by_cases htype : i.type = 0
  · rw [if_pos htype]
    exact if_neg fun h => bne_iff_ne.mp h.2 htype
  · rw [if_neg htype]
    exact if_pos ⟨rfl, bne_iff_ne.mpr htype⟩

/-- The text of an identifier is read back, unless it has no type part. -/
theorem ofText_text (i : Ident) :
    ofText i.text = if i.type = 0 then .error (.invalidIdent i.text) else .ok i := by
  rw [ofText, ident?_text]
  by_cases htype : i.type = 0
  · rw [if_pos htype, if_pos htype]
  · rw [if_neg htype, if_neg htype]

/-- **An identifier is the same in all its forms**: as a word, in its parts and as a text. -/
structure FormsAgree : Prop where
  /-- It is packed of its parts. -/
  packed : ∀ i : Ident, ofParts i.package i.type i.entry = i
  /-- What is packed is unpacked. -/
  unpacked : ∀ package type entry, (ofParts package type entry).package = package ∧
    (ofParts package type entry).type = type ∧ (ofParts package type entry).entry = entry
  /-- No part reaches into the place of another. -/
  apart : ∀ package type entry, (ofParts package type entry).value =
    package.toUInt32 <<< 24 ||| type.toUInt32 <<< 16 ||| entry.toUInt32
  /-- The order is that of the packages, then of the types, then of the entries. -/
  order : ∀ i j : Ident, compare i j =
    compareLex (compareOn package) (compareLex (compareOn type) (compareOn entry)) i j
  /-- What is read are the hexadecimal literals of words with a type part. -/
  reads : ∀ text i, ofText text = .ok i ↔
    Literal.IsHexadecimal (trim text.toList) i.value.toNat ∧ i.type ≠ 0
  /-- Every other text is refused as no identifier. -/
  refuses : ∀ text, (∀ i, ofText text ≠ .ok i) → ofText text = .error (.invalidIdent text)
  /-- The text of an identifier is read back, unless it has no type part. -/
  text : ∀ i : Ident, ofText i.text =
    if i.type = 0 then .error (.invalidIdent i.text) else .ok i
  /-- However an identifier was written, its text is read as the same identifier. -/
  again : ∀ text i, ofText text = .ok i → ofText i.text = .ok i

theorem formsAgree : FormsAgree where
  packed := ofParts_parts
  unpacked _ _ _ := ⟨package_ofParts .., type_ofParts .., entry_ofParts ..⟩
  apart := value_ofParts
  order := compare_eq_lex
  reads _ _ := ofText_eq_ok_iff
  refuses _ := ofText_of_not_read
  text := ofText_text
  again text i h := by rw [ofText_text, if_neg (ofText_eq_ok_iff.mp h).2]

/-- One identifier, written in other digits and behind blanks. -/
example : ofText " 0X07F01abC\n" = .ok (ofParts 0x07 0xF0 0x1ABC) := by
  decide

end Ident

end AppResources
