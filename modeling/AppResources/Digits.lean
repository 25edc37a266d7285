/-!
# Numerals

Identifiers, colors and integers are written with ASCII digits.  This module
reads a run of digits in a base (`numeral?`) and writes a number as a fixed
count of lower-case hexadecimal digits (`hexDigits`), most significant first.
A numeral may be of any length and may start with zeros: bounds on its value are
the business of whoever reads it.
-/

namespace AppResources

/-- The value of an ASCII decimal digit. -/
def decimalDigit? (c : Char) : Option Nat :=
  if '0' ≤ c ∧ c ≤ '9' then some (c.toNat - '0'.toNat) else none

/-- The value of an ASCII hexadecimal digit, of either case. -/
def hexDigit? (c : Char) : Option Nat :=
  if '0' ≤ c ∧ c ≤ '9' then some (c.toNat - '0'.toNat)
  else if 'a' ≤ c ∧ c ≤ 'f' then some (c.toNat - 'a'.toNat + 10)
  else if 'A' ≤ c ∧ c ≤ 'F' then some (c.toNat - 'A'.toNat + 10)
  else none

/-- The number that digit values stand for, most significant first. -/
def ofDigitValues (base : Nat) (digits : List Nat) : Nat :=
  digits.foldl (fun n d => base * n + d) 0

/-- Reads a run of one or more digits; anything else in the text refuses it. -/
def numeral? (base : Nat) (digit? : Char → Option Nat) (text : List Char) : Option Nat :=
  if text.isEmpty then none else (text.mapM digit?).map (ofDigitValues base)

/-- The lower-case hexadecimal digit of a value below sixteen. -/
def hexDigit (n : Nat) : Char :=
  if n < 10 then Char.ofNat ('0'.toNat + n) else Char.ofNat ('a'.toNat + (n - 10))

/-- The last `width` hexadecimal digits of a number. -/
def hexDigits : Nat → Nat → List Char
  | 0, _ => []
  | width + 1, n => hexDigits width (n / 16) ++ [hexDigit (n % 16)]

/-- A number behind `0x`, as `width` hexadecimal digits. -/
def hexText (width n : Nat) : String :=
  "0x" ++ String.ofList (hexDigits width n)

theorem toList_hexText (width n : Nat) :
    (hexText width n).toList = '0' :: 'x' :: hexDigits width n := by
  rw [hexText, String.toList_append, String.toList_ofList (l := hexDigits width n)]
  rfl

end AppResources
