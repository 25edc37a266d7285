import AppResources.Digits
import Mathlib.Algebra.Group.Nat.Defs
import Mathlib.Data.List.Induction

/-!
# Numerals and the numbers they write

A numeral is one or more digits; one more digit multiplies its number by the base and adds the
value of the digit (`IsNumeral`).  `numeral?` reads exactly the numerals, whatever their length
(`numeral?_eq_some_iff`), with the hexadecimal digits of either case.  Leading zeros do not
count, and the usual ways of writing a number are numerals of it.

A word may hold several numbers side by side, the digits of a numeral in a larger base: putting
one behind another is a shift (`toNat_shiftLeft_or`), and two such words compare front to back
(`compare_mul_add`).
-/

namespace AppResources

/-- The character is the digit with this value, in lower or upper case. -/
def IsDigit (base : Nat) (c : Char) (d : Nat) : Prop :=
  d < base ∧ (c = d.digitChar ∨ c = d.digitChar.toUpper)

instance (base : Nat) (c : Char) (d : Nat) : Decidable (IsDigit base c d) :=
  inferInstanceAs (Decidable (_ ∧ _))

/-- A numeral of a number: a digit, or a shorter numeral and one more digit. -/
inductive IsNumeral (base : Nat) : List Char → Nat → Prop
  /-- A single digit. -/
  | digit {c : Char} {d : Nat} (hd : IsDigit base c d) : IsNumeral base [c] d
  /-- One more digit. -/
  | concat {text : List Char} {n : Nat} {c : Char} {d : Nat} (hn : IsNumeral base text n)
    (hd : IsDigit base c d) : IsNumeral base (text ++ [c]) (base * n + d)

namespace IsNumeral
variable {base : Nat} {text : List Char} {n : Nat}

theorem ne_nil (h : IsNumeral base text n) : text ≠ [] := by
  cases h <;> simp

/-- There is nothing but digits in a numeral. -/
theorem forall_isDigit (h : IsNumeral base text n) : ∀ c ∈ text, ∃ d, IsDigit base c d := by
  induction h with
  | digit hd => exact List.forall_mem_singleton.mpr ⟨_, hd⟩
  | concat _ hd ih => exact List.forall_mem_append.mpr ⟨ih, List.forall_mem_singleton.mpr ⟨_, hd⟩⟩

theorem base_pos (h : IsNumeral base text n) : 0 < base := by
  cases h with
  | digit hd => exact Nat.zero_lt_of_lt hd.1
  | concat _ hd => exact Nat.zero_lt_of_lt hd.1

theorem cons_zero (h : IsNumeral base text n) : IsNumeral base ('0' :: text) n := by
  have hzero : IsDigit base '0' 0 := ⟨h.base_pos, .inl rfl⟩
  induction h with
  | digit hd => simpa using concat (digit hzero) hd
  | concat _ hd ih => exact concat ih hd

/-- **Leading zeros do not count.** -/
theorem zeros (h : IsNumeral base text n) (count : Nat) :
    IsNumeral base (List.replicate count '0' ++ text) n := by
  induction count with
  | zero => exact h
  | succ count ih => exact ih.cons_zero

/-- A numeral in upper case is one of the same number. -/
theorem map_toUpper (h : IsNumeral base text n) (hbase : base ≤ 16) :
    IsNumeral base (text.map Char.toUpper) n := by
  have hupper : ∀ d < 16, d.digitChar.toUpper.toUpper = d.digitChar.toUpper := by decide
  have hdigit : ∀ {c d}, IsDigit base c d → IsDigit base c.toUpper d := by
    rintro c d ⟨hd, rfl | rfl⟩
    · exact ⟨hd, .inr rfl⟩
    · exact ⟨hd, .inr (hupper d (Nat.lt_of_lt_of_le hd hbase))⟩
  induction h with
  | digit hd => exact digit (hdigit hd)
  | concat _ hd ih =>
    rw [List.map_append, List.map_singleton]
    exact concat ih (hdigit hd)

end IsNumeral

/-! ## Numbers as they are usually written -/

/-- The digits of a number without leading zeros are a numeral of it. -/
theorem isNumeral_toDigits {base : Nat} (hbase : 1 < base) (n : Nat) :
    IsNumeral base (Nat.toDigits base n) n := by
  induction n using Nat.strongRecOn with
  | ind n ih =>
    by_cases hn : n < base
    · rw [Nat.toDigits_of_lt_base hn]
      exact .digit ⟨hn, .inl rfl⟩
    · have hless : n / base < n := Nat.div_lt_self (by omega) hbase
      have hlast : IsDigit base (n % base).digitChar (n % base) :=
        ⟨Nat.mod_lt n (by omega), .inl rfl⟩
      rw [Nat.toDigits_of_base_le hbase (Nat.le_of_not_lt hn)]
      simpa only [Nat.div_add_mod] using IsNumeral.concat (ih _ hless) hlast

/-- A fixed count of hexadecimal digits is a numeral of what fits in them. -/
theorem isNumeral_hexDigits (width n : Nat) :
    IsNumeral 16 (hexDigits (width + 1) n) (n % 16 ^ (width + 1)) := by
  have hdigit : ∀ d < 16, IsDigit 16 (hexDigit d) d := by decide
  have hlast : ∀ n, IsDigit 16 (hexDigit (n % 16)) (n % 16) := fun n =>
    hdigit (n % 16) (Nat.mod_lt n (by decide))
  induction width generalizing n with
  | zero => exact .digit (hlast n)
  | succ width ih =>
    have hvalue : n % 16 ^ (width + 2) = 16 * (n / 16 % 16 ^ (width + 1)) + n % 16 :=
      calc n % 16 ^ (width + 2)
          = n % (16 * 16 ^ (width + 1)) := by rw [Nat.pow_succ' (n := width + 1)]
        _ = 16 * (n / 16 % 16 ^ (width + 1)) + n % 16 := by rw [Nat.mod_mul, Nat.add_comm]
    rw [hvalue]
    exact .concat (ih (n / 16)) (hlast n)

/-! ## The readers of digits -/

/-- A property of the ASCII characters may be checked at each of them. -/
theorem forall_ascii {P : Char → Prop} (h : ∀ n < 128, P (Char.ofNat n)) {c : Char}
    (hc : c.toNat < 128) : P c := by
  have hn := h c.toNat hc
  rwa [Char.ofNat_toNat] at hn

theorem toNat_lt_of_le {c last : Char} (h : c ≤ last) (hlast : last.toNat < 128) :
    c.toNat < 128 :=
  Nat.lt_of_le_of_lt h hlast

theorem isDigit_of_decimalDigit? {c : Char} {d : Nat} (h : decimalDigit? c = some d) :
    IsDigit 10 c d := by
  have hc : c.toNat < 128 := by
    unfold decimalDigit? at h
    split at h
    · rename_i hrange
      exact toNat_lt_of_le hrange.2 (by decide)
    · cases h
  exact forall_ascii (P := fun c => ∀ d ∈ decimalDigit? c, IsDigit 10 c d) (by decide) hc d h

theorem isDigit_of_hexDigit? {c : Char} {d : Nat} (h : hexDigit? c = some d) :
    IsDigit 16 c d := by
  have hc : c.toNat < 128 := by
    unfold hexDigit? at h
    split at h
    · rename_i hrange
      exact toNat_lt_of_le hrange.2 (by decide)
    · split at h
      · rename_i hrange
        exact toNat_lt_of_le hrange.2 (by decide)
      · split at h
        · rename_i hrange
          exact toNat_lt_of_le hrange.2 (by decide)
        · cases h
  exact forall_ascii (P := fun c => ∀ d ∈ hexDigit? c, IsDigit 16 c d) (by decide) hc d h

theorem decimalDigit?_eq_some_iff {c : Char} {d : Nat} :
    decimalDigit? c = some d ↔ IsDigit 10 c d := by
  refine ⟨isDigit_of_decimalDigit?, ?_⟩
  rintro ⟨hd, rfl | rfl⟩ <;> revert d <;> decide

theorem hexDigit?_eq_some_iff {c : Char} {d : Nat} : hexDigit? c = some d ↔ IsDigit 16 c d := by
  refine ⟨isDigit_of_hexDigit?, ?_⟩
  rintro ⟨hd, rfl | rfl⟩ <;> revert d <;> decide

/-! ## The reader of numerals -/

section Reader
variable {base : Nat} {digit? : Char → Option Nat} {text : List Char} {c : Char}

@[simp] theorem numeral?_singleton : numeral? base digit? [c] = digit? c := by
  cases hc : digit? c <;> simp [numeral?, ofDigitValues, hc]

/-- The last digit counts as it is, those before it one place higher. -/
theorem numeral?_concat (htext : text ≠ []) :
    numeral? base digit? (text ++ [c]) =
      (numeral? base digit? text).bind fun n => (digit? c).map fun d => base * n + d := by
  have hshort : text.isEmpty = false := by simpa using htext
  have hlong : (text ++ [c]).isEmpty = false := by simp
  rw [numeral?, numeral?, hshort, hlong]
  cases hvalues : text.mapM digit? with
  | none => simp [List.mapM_append, hvalues]
  | some values => cases hc : digit? c <;> simp [List.mapM_append, ofDigitValues, hvalues, hc]

/-- **What is read are the numerals**, each as its number. -/
theorem numeral?_eq_some_iff (hdigit : ∀ c d, digit? c = some d ↔ IsDigit base c d) {n : Nat} :
    numeral? base digit? text = some n ↔ IsNumeral base text n := by
  constructor
  · intro h
    induction text using List.reverseRecOn generalizing n with
    | nil => cases h
    | append_singleton text c ih =>
      cases text with
      | nil =>
        rw [List.nil_append, numeral?_singleton] at h
        exact .digit ((hdigit c n).mp h)
      | cons first rest =>
        rw [numeral?_concat (List.cons_ne_nil first rest)] at h
        obtain ⟨m, hm, hlast⟩ := Option.bind_eq_some_iff.mp h
        obtain ⟨d, hd, rfl⟩ := Option.map_eq_some_iff.mp hlast
        exact .concat (ih hm) ((hdigit c d).mp hd)
  · intro h
    induction h with
    | digit hd => rw [numeral?_singleton, (hdigit _ _).mpr hd]
    | concat hn hd ih =>
      have htext := hn.ne_nil
      rw [numeral?_concat htext, ih, (hdigit _ _).mpr hd]
      rfl

theorem decimalNumeral?_eq_some_iff {n : Nat} :
    numeral? 10 decimalDigit? text = some n ↔ IsNumeral 10 text n :=
  numeral?_eq_some_iff fun _ _ => decimalDigit?_eq_some_iff

theorem hexNumeral?_eq_some_iff {n : Nat} :
    numeral? 16 hexDigit? text = some n ↔ IsNumeral 16 text n :=
  numeral?_eq_some_iff fun _ _ => hexDigit?_eq_some_iff

/-- A hexadecimal numeral writes one number only. -/
theorem IsNumeral.unique {n m : Nat} (hn : IsNumeral 16 text n) (hm : IsNumeral 16 text m) :
    n = m := by
  rw [← hexNumeral?_eq_some_iff] at hn hm
  exact Option.some.inj (hn.symm.trans hm)

end Reader

/-! ## Numbers side by side in a word -/

/-- A number that is shifted above another one leaves it as it is, and nothing is lost of either
while both fit the word. -/
theorem toNat_shiftLeft_or {high low k : UInt32} {place : Nat} (hplace : 2 ^ k.toNat = place)
    (hlow : low.toNat < place) (hhigh : high.toNat * place < 2 ^ 32) (hk : k.toNat < 32) :
    (high <<< k ||| low).toNat = high.toNat * place + low.toNat := by
  subst hplace
  rw [UInt32.toNat_or, UInt32.toNat_shiftLeft, Nat.mod_eq_of_lt hk, Nat.shiftLeft_eq,
    Nat.mod_eq_of_lt hhigh, ← Nat.shiftLeft_eq, Nat.shiftLeft_add_eq_or_of_lt hlow]

/-- Numbers of two digits are compared digit by digit, the higher one first. -/
theorem compare_mul_add {k a b c d : Nat} (hb : b < k) (hd : d < k) :
    compare (k * a + b) (k * c + d) = (compare a c).then (compare b d) := by
  rcases Nat.lt_trichotomy a c with h | rfl | h
  · have hstep : k * a + k ≤ k * c := Nat.mul_le_mul_left k h
    rw [Nat.compare_eq_lt.mpr h, Nat.compare_eq_lt.mpr (by omega)]
    rfl
  · rw [Nat.compare_eq_eq.mpr rfl]
    simp only [Nat.compare_eq_ite_lt, Nat.add_lt_add_iff_left, Ordering.then]
  · have hstep : k * c + k ≤ k * a := Nat.mul_le_mul_left k h
    rw [Nat.compare_eq_gt.mpr h, Nat.compare_eq_gt.mpr (by omega)]
    rfl

end AppResources
