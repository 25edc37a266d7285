import AppResources.Digits

/-!
# Encoded scalars

A scalar is stored as it will stand in the linked table: a byte that tells the
data type, and a word of data.
-/

namespace AppResources

/-- A scalar in its encoded form. -/
structure Primitive where
  /-- The data type. -/
  dataType : UInt8
  /-- The data. -/
  data : UInt32
  deriving DecidableEq, Inhabited

/-! ## The data types that texts are read as -/
namespace DataType

/-- No data; the data word tells undefined (0) from empty (1). -/
def null : UInt8 := 0x00
/-- A reference to a resource. -/
def reference : UInt8 := 0x01
/-- An integer written in decimal. -/
def decimal : UInt8 := 0x10
/-- An integer written in hexadecimal. -/
def hexadecimal : UInt8 := 0x11
/-- A truth value: all bits set, or none. -/
def boolean : UInt8 := 0x12
/-- A color written `#aarrggbb`. -/
def colorArgb8 : UInt8 := 0x1C
/-- A color written `#rrggbb`. -/
def colorRgb8 : UInt8 := 0x1D
/-- A color written `#argb`. -/
def colorArgb4 : UInt8 := 0x1E
/-- A color written `#rgb`. -/
def colorRgb4 : UInt8 := 0x1F

end DataType

/-- The written form of a scalar. -/
def Primitive.text (p : Primitive) : String :=
  "(primitive) type=" ++ hexText 2 p.dataType.toNat ++ " data=" ++ hexText 8 p.data.toNat

end AppResources
