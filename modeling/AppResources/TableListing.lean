import AppResources.Listing
import AppResources.Table

/-!
# Listings of values and tables

Every part of a table has a listing: this module names the records, their fields
and the words for the cases.
-/

namespace AppResources

/-- The listing of an interned text. -/
def interned (text : String) : Listing := .tagged "StringRef" (.quoted text)

/-- The listing of a handle. -/
def Handle.listing (h : Handle) : Listing := interned h.text

/-- The listing of a pool: how many texts it keeps. -/
def Pool.listing (p : Pool) : Listing := .record "StringPool" [("len", .ofNat p.size)] false

/-- The listing of a source. -/
def Source.listing (s : Source) : Listing :=
  .record "Source" [("path", .quoted s.path), ("line", .ofOption .ofNat s.line)] false

/-- The word for a type. -/
def ResourceType.label : ResourceType → String
  | anim => "Anim"
  | animator => "Animator"
  | array => "Array"
  | attr => "Attr"
  | attrPrivate => "AttrPrivate"
  | bool => "Bool"
  | color => "Color"
  | configVarying => "ConfigVarying"
  | dimen => "Dimen"
  | drawable => "Drawable"
  | font => "Font"
  | fraction => "Fraction"
  | id => "Id"
  | integer => "Integer"
  | interpolator => "Interpolator"
  | layout => "Layout"
  | menu => "Menu"
  | mipmap => "Mipmap"
  | navigation => "Navigation"
  | plurals => "Plurals"
  | raw => "Raw"
  | string => "String"
  | style => "Style"
  | styleable => "Styleable"
  | transition => "Transition"
  | xml => "Xml"

/-- The listing of a name. -/
def Name.listing (n : Name) : Listing :=
  .record "ResourceName"
    [("package", .quoted n.package), ("resource_type", .word n.type.label),
      ("entry", .quoted n.entry)] false

/-- The listing of an identifier, whole and in its parts. -/
def Ident.listing (i : Ident) : Listing :=
  .tagged "ResourceId" (.word (i.text ++ ", package: " ++ hexText 2 i.package.toNat ++
    ", type: " ++ hexText 2 i.type.toNat ++ ", entry: " ++ hexText 4 i.entry.toNat))

/-- The listing of a mask: its names, then the bits without a name. -/
def FormatMask.listing (m : FormatMask) : Listing :=
  let unnamed := m.unnamed.bits.toNat
  let parts := m.names ++
    if unnamed = 0 then [] else ["0x" ++ String.ofList (Nat.toDigits 16 unnamed)]
  .tagged "FormatFlags" (.word (if parts.isEmpty then "0x0" else " | ".intercalate parts))

/-- The word for a kind of reference. -/
def ReferenceKind.label : ReferenceKind → String
  | resource => "Resource"
  | theme => "Attribute"

/-- The listing of a reference. -/
def Reference.listing (r : Reference) : Listing :=
  .record "Reference"
    [("name", .ofOption Name.listing r.name), ("id", .ofOption Ident.listing r.id),
      ("reference_type", .word r.kind.label),
      ("private_reference", .ofBool r.isPrivate)] false

/-- The listing of a span. -/
def Span.listing (s : Span String) : Listing :=
  .record "Span"
    [("name", interned s.name), ("first_char", .ofNat s.first.toNat),
      ("last_char", .ofNat s.last.toNat)] false

/-- The listing of a styled text. -/
def Styled.listing (s : Styled String) : Listing :=
  .record "StyleString"
    [("text", interned s.text), ("spans", .sequence (s.spans.map Span.listing))] false

/-- The listing of a scalar. -/
def Primitive.listing (p : Primitive) : Listing :=
  .record "BinaryPrimitive"
    [("data_type", .ofNat p.dataType.toNat), ("data", .ofNat p.data.toNat)] false

/-- The listing of an attribute's symbol. -/
def AttributeSymbol.listing (s : AttributeSymbol) : Listing :=
  .record "AttributeSymbol"
    [("symbol", s.symbol.listing), ("value", .ofNat s.value.toNat)] false

/-- The listing of an attribute. -/
def Attribute.listing (a : Attribute) : Listing :=
  .record "Attribute"
    [("type_mask", a.mask.listing), ("min_int", .word (toString a.min.toInt)),
      ("max_int", .word (toString a.max.toInt)),
      ("symbols", .sequence (a.symbols.map AttributeSymbol.listing))] false

mutual

/-- The listing of a payload. -/
def Payload.listing : Payload → Listing
  | .reference target => .tagged "Reference" target.listing
  | .id => .word "Id"
  | .rawString text => .tagged "RawString" (interned text)
  | .string text => .tagged "String" (interned text)
  | .styledString styled => .tagged "StyledString" styled.listing
  | .fileReference path input =>
    .tagged "FileReference" (.record "FileReference"
      [("path", interned path), ("file", .ofOption Source.listing input)] false)
  | .primitive scalar => .tagged "BinaryPrimitive" scalar.listing
  | .attr definition => .tagged "Attribute" definition.listing
  | .style parent parentInferred items =>
    .tagged "Style" (.record "Style"
      [("parent", .ofOption Reference.listing parent), ("parent_inferred", .ofBool parentInferred),
        ("entries", .sequence (itemListings items))] false)
  | .array elements =>
    .tagged "Array" (.record "Array" [("elements", .sequence (elementListings elements))] false)
  | .plural zero one two few many other =>
    .tagged "Plural" (.record "Plural"
      [("values", .sequence [optionListing zero, optionListing one, optionListing two,
        optionListing few, optionListing many, optionListing other])] false)
  | .styleable members =>
    .tagged "Styleable" (.record "Styleable"
      [("entries", .sequence (members.map Reference.listing))] false)
termination_by structural a => a

/-- The listing of a value. -/
def Value.listing : Value → Listing
  | ⟨source, comment, weak, translatable, payload⟩ =>
    .record "Value"
      [("source", source.listing), ("comment", .quoted comment), ("weak", .ofBool weak),
        ("translatable", .ofBool translatable), ("data", payload.listing)] false
termination_by structural a => a

/-- The listings of the values that a style sets. -/
def itemListings : List (Reference × Value) → List Listing
  | [] => []
  | (key, value) :: rest =>
    .record "StyleEntry" [("key", key.listing), ("value", value.listing)] false ::
      itemListings rest
termination_by structural a => a

/-- The listings of the values in an array. -/
def elementListings : List Value → List Listing
  | [] => []
  | value :: rest => value.listing :: elementListings rest
termination_by structural a => a

/-- The listing of a value that may be missing. -/
def optionListing : Option Value → Listing
  | none => .word "None"
  | some value => .tagged "Some" value.listing
termination_by structural a => a

end

/-- The word for a state of visibility. -/
def Visibility.label : Visibility → String
  | undefined => "Undefined"
  | internal => "Private"
  | exported => "Public"

/-- The listing of a symbol. -/
def Symbol.listing (s : Symbol) : Listing :=
  .record "Symbol"
    [("state", .word s.state.label), ("source", s.source.listing),
      ("comment", .quoted s.comment)] false

/-- The listing of an identifier part that may be missing. -/
def partListing {α : Type} (toNat : α → Nat) (part : Option α) : Listing :=
  .ofOption (fun p => .ofNat (toNat p)) part

/-- The listing of a slot. -/
def slotListing (key : SlotKey) (value : Option Value) : Listing :=
  .record "ResourceConfigValue"
    [("config", .record "ConfigDescription" [("qualifiers", .quoted key.config.qualifiers)] false),
      ("product", .quoted key.product), ("value", optionListing value)] false

/-- The listing of an entry. -/
def Entry.listing (name : String) (e : Entry) : Listing :=
  .record "ResourceEntry"
    [("name", .quoted name), ("id", partListing UInt16.toNat e.id), ("symbol", e.symbol.listing),
      ("values", .sequence (e.slots.map fun (key, value) => slotListing key value))] false

/-- The listing of the entries of a type. -/
def TypeGroup.listing (type : ResourceType) (g : TypeGroup) : Listing :=
  .record "ResourceTableType"
    [("resource_type", .word type.label), ("id", partListing UInt8.toNat g.id),
      ("symbol", g.symbol.listing),
      ("entries", .sequence (g.entries.map fun (name, e) => e.listing name))] false

/-- The word for a kind of package. -/
def PackageKind.label : PackageKind → String
  | system => "System"
  | vendor => "Vendor"
  | app => "App"
  | dynamic => "Dynamic"

/-- The listing of a package. -/
def Package.listing (name : String) (p : Package) : Listing :=
  .record "ResourceTablePackage"
    [("name", .quoted name), ("id", partListing UInt8.toNat p.id),
      ("package_type", .word p.kind.label),
      ("types", .sequence (p.types.map fun (type, g) => g.listing type))] false

/-- The listing of a policy. -/
def Policy.listing (p : Policy) : Listing :=
  .record "TableConfig"
    [("protect_symbol_visibility", .ofBool p.protectVisibility),
      ("strict_collisions", .ofBool p.strictCollisions),
      ("report_overrides", .ofBool p.reportOverrides)] false

/-- The listing of a table.  The resolver is not shown. -/
def Table.listing (t : Table) : Listing :=
  .record "ResourceTable"
    [("string_pool", t.pool.listing),
      ("packages", .sequence (t.packages.map fun (name, p) => p.listing name)),
      ("config", t.policy.listing)] true

end AppResources
