import AppResources.Literal
import AppResources.ReferenceText
import AppResources.Value

/-!
# Reading items

The text of an attribute is read by the formats that the attribute accepts.
`@null`, `@empty` and references are accepted by every attribute; after them a
color, a truth value and an integer are tried in this order, each only when the
mask has its format.  A text that is none of these is left to the caller, who
will keep it as a string.
-/

namespace AppResources

/-- What the text of an item was read as. -/
structure ItemReading where
  /-- The payload, if the text is an item. -/
  payload : Option Payload
  /-- The names that the text declares in passing. -/
  declared : List Name

/-- The scalar readers with the formats that admit them, in the order in which
they are tried. -/
def scalarReaders : List (FormatMask × (List Char → Option Primitive)) :=
  [(.color, Literal.color?), (.boolean, Literal.boolean?), (.integer, Literal.integer?)]

/-- Reads a scalar of a format that the mask has. -/
def readScalar? (mask : FormatMask) (text : List Char) : Option Primitive :=
  (scalarReaders.filter fun (format, _) => mask.intersects format).findSome? fun (_, read) =>
    read text

/-- Reads the text of an item for an attribute with this mask. -/
def readItem (mask : FormatMask) (text : List Char) : ItemReading :=
  match Literal.nullOrEmpty? text with
  | some scalar => ⟨some (.primitive scalar), []⟩
  | none =>
    match readReference? text with
    | some (target, declares) =>
      ⟨some (.reference target), if declares then target.name.toList else []⟩
    | none => ⟨(readScalar? mask text).map Payload.primitive, []⟩

end AppResources
