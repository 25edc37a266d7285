import AppResources.Digits

/-!
# Resource identifiers

A linked resource is known by a 32-bit **identifier** that packs three parts:
the package in the highest byte, the type in the next byte and the entry in the
lower half.  A part that is zero is unassigned, except that entry zero is a real
entry; an identifier is valid when both its package and its type are assigned.

`ofParts` packs, `package`, `type` and `entry` unpack, and `text` writes all
eight hexadecimal digits.
-/

namespace AppResources

/-- A packed resource identifier. -/
structure Ident where
  /-- The packed word. -/
  value : UInt32
  deriving DecidableEq, Inhabited

namespace Ident

/-- Packs the three parts. -/
def ofParts (package type : UInt8) (entry : UInt16) : Ident :=
  ⟨(package.toUInt32 <<< 24) + (type.toUInt32 <<< 16) + entry.toUInt32⟩

/-- The package part, the highest byte. -/
def package (i : Ident) : UInt8 := (i.value >>> 24).toUInt8

/-- The type part, the second byte. -/
def type (i : Ident) : UInt8 := (i.value >>> 16).toUInt8

/-- The entry part, the lower half. -/
def entry (i : Ident) : UInt16 := i.value.toUInt16

/-! ## Packing and unpacking -/

theorem toNat_ofParts (package type : UInt8) (entry : UInt16) :
    (ofParts package type entry).value.toNat =
      package.toNat * 0x1000000 + type.toNat * 0x10000 + entry.toNat := by
  have hp := package.toNat_lt
  have ht := type.toNat_lt
  have he := entry.toNat_lt
  -- the three parts do not overlap, so nothing is carried out of the word
  simp only [ofParts, UInt32.toNat_add, UInt32.toNat_shiftLeft, UInt8.toNat_toUInt32,
    UInt16.toNat_toUInt32, Nat.shiftLeft_eq, UInt32.toNat_ofNat, Nat.reducePow, Nat.reduceMod]
  omega

theorem toNat_package (i : Ident) : i.package.toNat = i.value.toNat / 0x1000000 := by
  have h := i.value.toNat_lt
  simp only [package, UInt32.toNat_toUInt8, UInt32.toNat_shiftRight, Nat.shiftRight_eq_div_pow,
    UInt32.toNat_ofNat, Nat.reducePow, Nat.reduceMod]
  omega

theorem toNat_type (i : Ident) : i.type.toNat = i.value.toNat / 0x10000 % 0x100 := by
  simp [type, Nat.shiftRight_eq_div_pow]

theorem toNat_entry (i : Ident) : i.entry.toNat = i.value.toNat % 0x10000 := by
  simp [entry]

@[simp] theorem package_ofParts (package type : UInt8) (entry : UInt16) :
    (ofParts package type entry).package = package := by
  have ht := type.toNat_lt
  have he := entry.toNat_lt
  apply UInt8.toNat_inj.mp
  rw [toNat_package, toNat_ofParts]
  omega

@[simp] theorem type_ofParts (package type : UInt8) (entry : UInt16) :
    (ofParts package type entry).type = type := by
  have ht := type.toNat_lt
  have he := entry.toNat_lt
  apply UInt8.toNat_inj.mp
  rw [toNat_type, toNat_ofParts]
  omega

@[simp] theorem entry_ofParts (package type : UInt8) (entry : UInt16) :
    (ofParts package type entry).entry = entry := by
  have he := entry.toNat_lt
  apply UInt16.toNat_inj.mp
  rw [toNat_entry, toNat_ofParts]
  omega

/-- **An identifier is packed of its parts.** -/
theorem ofParts_parts (i : Ident) : ofParts i.package i.type i.entry = i := by
  have h := i.value.toNat_lt
  have hvalue : (ofParts i.package i.type i.entry).value = i.value := by
    apply UInt32.toNat_inj.mp
    rw [toNat_ofParts, toNat_package, toNat_type, toNat_entry]
    omega
  exact (Ident.mk.injEq ..).mpr hvalue

/-! ## Valid identifiers -/

/-- The package and the type are assigned. -/
def isValid (i : Ident) : Bool := i.package != 0 && i.type != 0

/-- The type is assigned; a shared library gets its package part when it is
loaded. -/
def isValidDynamic (i : Ident) : Bool := i.type != 0

theorem isValid_ofParts {package type : UInt8} {entry : UInt16} (hp : package ≠ 0)
    (ht : type ≠ 0) : (ofParts package type entry).isValid = true := by
  simp only [isValid, package_ofParts, type_ofParts, Bool.and_eq_true, bne_iff_ne]
  exact ⟨hp, ht⟩

/-- The written form: `0x` and eight digits. -/
def text (i : Ident) : String := hexText 8 i.value.toNat

instance : Ord Ident := ⟨compareOn value⟩

end Ident

end AppResources
