import AppResources.Blank
import AppResources.Fault
import AppResources.Ident
import AppResources.Primitive

/-!
# Reading scalars

Scalars are written as literals: `true`, `42`, `0x2a`, `#ff0000`, `@null`,
`@empty`.  Each reader passes over the blanks around its literal and refuses a
text that is anything else.

* A **decimal** integer may carry one sign and has to fit 32 signed bits; a
  **hexadecimal** one stands behind `0x` or `0X`, carries no sign and has to fit
  32 bits.  Both may start with any number of zeros.
* A **color** has three, four, six or eight hexadecimal digits.  In the short
  forms a digit stands for a channel with both its digits equal; a form without
  an alpha channel is opaque.
* A resource **identifier** is a hexadecimal integer with a type part.
-/

namespace AppResources

namespace Literal

/-- Reads the digits of a hexadecimal integer. -/
def hexadecimal? (digits : List Char) : Option Primitive :=
  match numeral? 16 hexDigit? digits with
  | some n => if n < 0x100000000 then some ⟨DataType.hexadecimal, UInt32.ofNat n⟩ else none
  | none => none

/-- Reads the digits of a decimal integer with a given sign; a negative integer
is stored in two's complement. -/
def decimal? (negative : Bool) (digits : List Char) : Option Primitive :=
  match numeral? 10 decimalDigit? digits with
  | some n =>
    if negative then
      if n ≤ 0x80000000 then some ⟨DataType.decimal, -UInt32.ofNat n⟩ else none
    else
      if n < 0x80000000 then some ⟨DataType.decimal, UInt32.ofNat n⟩ else none
  | none => none

/-- Reads an integer, decimal or hexadecimal. -/
def integer? (text : List Char) : Option Primitive :=
  match trim text with
  | '0' :: 'x' :: digits => hexadecimal? digits
  | '0' :: 'X' :: digits => hexadecimal? digits
  | '-' :: digits => decimal? true digits
  | '+' :: digits => decimal? false digits
  | digits => decimal? false digits

/-- The word that an integer literal is stored as. -/
def word? (text : List Char) : Option UInt32 := (integer? text).map Primitive.data

/-- Reads a resource identifier. -/
def ident? (text : List Char) : Option Ident :=
  match integer? text with
  | some p =>
    if p.dataType = DataType.hexadecimal ∧ (Ident.mk p.data).isValidDynamic then some ⟨p.data⟩
    else none
  | none => none

/-- Reads a truth value, in lower, upper or title case. -/
def truth? (text : List Char) : Option Bool :=
  let word := String.ofList (trim text)
  if word = "true" ∨ word = "TRUE" ∨ word = "True" then some true
  else if word = "false" ∨ word = "FALSE" ∨ word = "False" then some false
  else none

/-- Reads a truth value as an encoded scalar. -/
def boolean? (text : List Char) : Option Primitive :=
  (truth? text).map fun b => ⟨DataType.boolean, if b then 0xFFFFFFFF else 0⟩

/-- Reads `@null`, an undefined reference, or `@empty`, a value left empty on
purpose. -/
def nullOrEmpty? (text : List Char) : Option Primitive :=
  let word := String.ofList (trim text)
  if word = "@null" then some ⟨DataType.reference, 0⟩
  else if word = "@empty" then some ⟨DataType.null, 1⟩
  else none

/-- The channel that a single digit stands for. -/
def channel (digit : Nat) : UInt32 := UInt32.ofNat digit * 0x11

/-- Packs four channels. -/
def argb (alpha red green blue : UInt32) : UInt32 :=
  (alpha <<< 24) ||| (red <<< 16) ||| (green <<< 8) ||| blue

/-- Packs the digits of a long form, four bits each. -/
def packDigits (digits : List Nat) : UInt32 :=
  digits.foldl (fun word d => (word <<< 4) ||| UInt32.ofNat d) 0

/-- Reads a color. -/
def color? (text : List Char) : Option Primitive :=
  match trim text with
  | '#' :: written =>
    match written.mapM hexDigit? with
    | some [r, g, b] =>
      some ⟨DataType.colorRgb4, argb 0xFF (channel r) (channel g) (channel b)⟩
    | some [a, r, g, b] =>
      some ⟨DataType.colorArgb4, argb (channel a) (channel r) (channel g) (channel b)⟩
    | some [r₁, r₂, g₁, g₂, b₁, b₂] =>
      some ⟨DataType.colorRgb8, 0xFF000000 ||| packDigits [r₁, r₂, g₁, g₂, b₁, b₂]⟩
    | some [a₁, a₂, r₁, r₂, g₁, g₂, b₁, b₂] =>
      some ⟨DataType.colorArgb8, packDigits [a₁, a₂, r₁, r₂, g₁, g₂, b₁, b₂]⟩
    | _ => none
  | _ => none

end Literal

/-- The identifier that a text writes. -/
def Ident.ofText (text : String) : Except Fault Ident :=
  match Literal.ident? text.toList with
  | some i => .ok i
  | none => .error (.invalidIdent text)

end AppResources
