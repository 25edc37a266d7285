import AppResources.FormatMask
import AppResources.Primitive
import AppResources.Reference
import AppResources.Source
import AppResources.Styled

/-!
# Values

A **value** is what a slot of an entry holds: a payload, and the particulars of
its declaration — where it stands, its comment, whether it is weak and whether
it is to be translated.  A payload is an **item** (a reference, an `id`
placeholder, a text, a file, a scalar) or an **aggregate** (an attribute, a
style, an array, a plural, a styleable); styles, arrays and plurals hold values
again.

A **weak** value is a placeholder that gives way to any other declaration; an
`id` placeholder is always weak.

Two values are **equal** when their payloads are, at every depth: the particulars
of the declarations do not count, nor does the input that a file comes from.

The texts of a value may be plain strings or handles into a pool, so the type of a
text is a parameter; `Value` alone has plain strings.
-/

namespace AppResources

/-- A symbol of an attribute, and the number it stands for. -/
structure AttributeSymbol where
  /-- The `id` resource that names the symbol. -/
  symbol : Reference
  /-- The number. -/
  value : UInt32
  deriving DecidableEq

/-- The definition of an attribute. -/
structure Attribute where
  /-- The formats accepted. -/
  mask : FormatMask
  /-- The least integer accepted. -/
  min : Int32 := Int32.minValue
  /-- The greatest integer accepted. -/
  max : Int32 := Int32.maxValue
  /-- The symbols accepted. -/
  symbols : List AttributeSymbol := []
  deriving DecidableEq

mutual

/-- The content of a value. -/
inductive Payload (τ : Type := String) where
  /-- A reference. -/
  | reference (target : Reference)
  /-- The placeholder of an identifier that was declared in passing. -/
  | id
  /-- A text kept as it was written. -/
  | rawString (text : τ)
  /-- A text. -/
  | string (text : τ)
  /-- A text with markup. -/
  | styledString (styled : Styled τ)
  /-- A file of the package, and the input it comes from if that is known. -/
  | fileReference (path : τ) (input : Option Source)
  /-- A scalar. -/
  | primitive (scalar : Primitive)
  /-- An attribute. -/
  | attr (definition : Attribute)
  /-- A style: its parent, whether the parent was inferred from the name, and a
  value for each attribute it sets. -/
  | style (parent : Option Reference) (parentInferred : Bool) (items : List (Reference × Value τ))
  /-- An array. -/
  | array (elements : List (Value τ))
  /-- A plural: a value for each quantity that has one. -/
  | plural (zero one two few many other : Option (Value τ))
  /-- A set of attributes. -/
  | styleable (members : List Reference)

/-- A payload and the particulars of its declaration. -/
structure Value (τ : Type := String) where
  /-- Where the value was declared. -/
  source : Source := {}
  /-- The comment at the declaration. -/
  comment : String := ""
  /-- The value was declared weak. -/
  weak : Bool := false
  /-- The value is to be translated. -/
  translatable : Bool := true
  /-- The content. -/
  payload : Payload τ

end

/-- The kind of a payload. -/
inductive ValueKind where
  | reference | id | rawString | string | styledString | fileReference | binaryPrimitive
  | attr | style | array | plural | styleable
  deriving DecidableEq

namespace ValueKind

/-- All kinds, in order. -/
def all : List ValueKind :=
  [reference, id, rawString, string, styledString, fileReference, binaryPrimitive, attr,
    style, array, plural, styleable]

/-- The word for the kind. -/
def text : ValueKind → String
  | reference => "reference"
  | id => "id"
  | rawString => "raw_string"
  | string => "string"
  | styledString => "styled_string"
  | fileReference => "file_reference"
  | binaryPrimitive => "binary_primitive"
  | attr => "attribute"
  | style => "style"
  | array => "array"
  | plural => "plural"
  | styleable => "styleable"

/-- A payload of this kind may stand inside an aggregate. -/
def isItem : ValueKind → Bool
  | attr | style | array | plural | styleable => false
  | _ => true

end ValueKind

/-- The quantities that a plural tells apart. -/
inductive Quantity where
  | zero | one | two | few | many | other
  deriving DecidableEq

namespace Quantity

/-- All quantities, in order. -/
def all : List Quantity := [zero, one, two, few, many, other]

/-- The word for the quantity. -/
def text : Quantity → String
  | zero => "zero"
  | one => "one"
  | two => "two"
  | few => "few"
  | many => "many"
  | other => "other"

end Quantity

namespace Payload

/-- The plural that has the value `values q` for each quantity `q`. -/
def ofQuantities {τ : Type} (values : Quantity → Option (Value τ)) : Payload τ :=
  .plural (values .zero) (values .one) (values .two) (values .few) (values .many) (values .other)

/-- The kind of the payload. -/
def kind {τ : Type} : Payload τ → ValueKind
  | reference _ => .reference
  | id => .id
  | rawString _ => .rawString
  | string _ => .string
  | styledString _ => .styledString
  | fileReference _ _ => .fileReference
  | primitive _ => .binaryPrimitive
  | attr _ => .attr
  | style _ _ _ => .style
  | array _ => .array
  | plural _ _ _ _ _ _ => .plural
  | styleable _ => .styleable

/-- The written form of a payload, on one line: an aggregate shows how much it
holds. -/
def text : Payload → String
  | reference target => target.text
  | id => "(id)"
  | rawString text => "(raw string) " ++ text
  | string text => "(string) \"" ++ text ++ "\""
  | styledString styled =>
    "(styled string) \"" ++ styled.text ++ "\"" ++
      String.join (styled.spans.map fun s =>
        " " ++ s.name ++ ":" ++ toString s.first.toNat ++ "," ++ toString s.last.toNat)
  | fileReference path _ => "(file) " ++ path
  | primitive scalar => scalar.text
  | attr definition =>
    "(attr) " ++ definition.mask.text ++
      if definition.symbols.isEmpty then ""
      else " [" ++ toString definition.symbols.length ++ " symbols]"
  | style parent _ items =>
    "(style)" ++ (match parent with | some p => " parent=" ++ p.text | none => "") ++
      " [" ++ toString items.length ++ " items]"
  | array elements => "(array) [" ++ toString elements.length ++ " elements]"
  | plural zero one two few many other =>
    "(plural) [" ++
      toString ([zero, one, two, few, many, other].countP Option.isSome) ++ " quantities]"
  | styleable members =>
    "(styleable) [" ++ ", ".intercalate (members.map Reference.text) ++ "]"

end Payload

mutual

/-- The payloads are equal. -/
def Payload.same {τ : Type} [BEq τ] : Payload τ → Payload τ → Bool
  | .reference a, .reference b => a == b
  | .id, .id => true
  | .rawString a, .rawString b => a == b
  | .string a, .string b => a == b
  | .styledString a, .styledString b => a == b
  | .fileReference a _, .fileReference b _ => a == b
  | .primitive a, .primitive b => a == b
  | .attr a, .attr b => a == b
  | .style p i xs, .style q j ys => p == q && i == j && sameItems xs ys
  | .array xs, .array ys => sameElements xs ys
  | .plural a b c d e f, .plural a' b' c' d' e' f' =>
    sameOption a a' && sameOption b b' && sameOption c c' && sameOption d d' &&
      sameOption e e' && sameOption f f'
  | .styleable xs, .styleable ys => xs == ys
  | _, _ => false
termination_by structural a => a

/-- The values have equal payloads. -/
def Value.same {τ : Type} [BEq τ] : Value τ → Value τ → Bool
  | ⟨_, _, _, _, p⟩, ⟨_, _, _, _, q⟩ => p.same q
termination_by structural a => a

/-- The styles set equal values for the same attributes, in the same order. -/
def sameItems {τ : Type} [BEq τ] : List (Reference × Value τ) → List (Reference × Value τ) → Bool
  | [], [] => true
  | (k, v) :: xs, (l, w) :: ys => k == l && v.same w && sameItems xs ys
  | _, _ => false
termination_by structural a => a

/-- The arrays hold equal values. -/
def sameElements {τ : Type} [BEq τ] : List (Value τ) → List (Value τ) → Bool
  | [], [] => true
  | v :: xs, w :: ys => v.same w && sameElements xs ys
  | _, _ => false
termination_by structural a => a

/-- Neither value is there, or both are and they are equal. -/
def sameOption {τ : Type} [BEq τ] : Option (Value τ) → Option (Value τ) → Bool
  | none, none => true
  | some v, some w => v.same w
  | _, _ => false
termination_by structural a => a

end

instance {τ : Type} [BEq τ] : BEq (Value τ) := ⟨Value.same⟩

namespace Value

/-- The kind of the payload. -/
def kind (v : Value) : ValueKind := v.payload.kind

/-- The written form: that of the payload. -/
def text (v : Value) : String := v.payload.text

/-- The value gives way to any other declaration. -/
def isWeak (v : Value) : Bool := v.weak || v.kind == .id

/-- The definition, when the value is an attribute. -/
def attribute? (v : Value) : Option Attribute :=
  match v.payload with
  | .attr definition => some definition
  | _ => none

end Value

end AppResources
