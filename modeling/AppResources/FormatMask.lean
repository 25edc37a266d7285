/-!
# Format masks

An attribute accepts values of some formats.  A **mask** is the set of them, one
bit for each; bits without a format are kept but have no name.  `ANY` names the
lower sixteen bits together, so it holds only when all of them are set.
-/

namespace AppResources

/-- The formats an attribute accepts. -/
structure FormatMask where
  /-- The raw bits. -/
  bits : UInt32
  deriving DecidableEq, Inhabited

namespace FormatMask

/-- A reference to another resource. -/
def reference : FormatMask := ⟨0x1⟩
/-- A text. -/
def string : FormatMask := ⟨0x2⟩
/-- An integer. -/
def integer : FormatMask := ⟨0x4⟩
/-- A truth value. -/
def boolean : FormatMask := ⟨0x8⟩
/-- A color. -/
def color : FormatMask := ⟨0x10⟩
/-- A floating-point number. -/
def float : FormatMask := ⟨0x20⟩
/-- A dimension. -/
def dimension : FormatMask := ⟨0x40⟩
/-- A fraction. -/
def fraction : FormatMask := ⟨0x80⟩
/-- Every scalar format. -/
def any : FormatMask := ⟨0xFFFF⟩
/-- One of the attribute's own symbols. -/
def enum : FormatMask := ⟨0x10000⟩
/-- Some of the attribute's own symbols. -/
def flags : FormatMask := ⟨0x20000⟩

/-- The named masks, in the order in which they are listed. -/
def named : List (String × FormatMask) :=
  [("REFERENCE", reference), ("STRING", string), ("INTEGER", integer), ("BOOLEAN", boolean),
    ("COLOR", color), ("FLOAT", float), ("DIMENSION", dimension), ("FRACTION", fraction),
    ("ANY", any), ("ENUM", enum), ("FLAGS", flags)]

/-- No bit is set. -/
def isEmpty (m : FormatMask) : Bool := m.bits == 0

/-- The two masks share a bit. -/
def intersects (m other : FormatMask) : Bool := m.bits &&& other.bits != 0

/-- Every bit of `other` is set in `m`. -/
def contains (m other : FormatMask) : Bool := m.bits &&& other.bits == other.bits

/-- The bits of `m` that `other` lacks. -/
def without (m other : FormatMask) : FormatMask := ⟨m.bits &&& ~~~other.bits⟩

/-- All bits that have a name. -/
def known : FormatMask := ⟨named.foldl (fun bits flag => bits ||| flag.2.bits) 0⟩

/-- The bits that have a name. -/
def truncated (m : FormatMask) : FormatMask := ⟨m.bits &&& known.bits⟩

/-- Lists the names of `whole`, given the bits that no listed name covers yet: a
named mask is listed when all its bits are set and one of them is uncovered. -/
def namesFrom (whole : FormatMask) :
    List (String × FormatMask) → FormatMask → List String × FormatMask
  | [], left => ([], left)
  | (name, flag) :: rest, left =>
    if whole.contains flag && left.intersects flag then
      let (names, unnamed) := namesFrom whole rest (left.without flag)
      (name :: names, unnamed)
    else
      namesFrom whole rest left

/-- The names of the mask. -/
def names (m : FormatMask) : List String := (namesFrom m named m).1

/-- The bits of the mask that no name covers. -/
def unnamed (m : FormatMask) : FormatMask := (namesFrom m named m).2

/-- The written form: `any`, or the names in lower case. -/
def text (m : FormatMask) : String :=
  if m.contains any then "any" else "|".intercalate (m.names.map String.toLower)

end FormatMask

end AppResources
