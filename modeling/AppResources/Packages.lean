import AppResources.Config
import AppResources.Ident
import AppResources.Keyed
import AppResources.Name
import AppResources.Symbol
import AppResources.Value

/-!
# Packages, types, entries and slots

The content of a table is a tree of four levels.  A **package** holds types, a
type holds **entries**, and an entry holds **slots**, one for each pair of a
configuration and a product.  Every level is kept in key order.  A slot may be
empty; an identifier may be recorded on each of the three upper levels.

A level is looked at with `package?`, `group?`, `resource?` and `slot?`, which never
create anything.  It is changed with `withPackage`, `withGroup` and `withEntry`,
which first create what is missing on the way, without identifier, symbol or
content; `edit…` changes only what is already there.
-/

namespace AppResources

/-- The key of a slot. -/
structure SlotKey where
  /-- The configuration the value is meant for. -/
  config : Config := {}
  /-- The product the value is meant for; empty for every product. -/
  product : String := ""
  deriving DecidableEq, Inhabited

namespace SlotKey

/-- By configuration, then by product. -/
instance : Ord SlotKey := ⟨compareLex (compareOn config) (compareOn product)⟩

instance : Std.TransOrd SlotKey :=
  inferInstanceAs (Std.TransCmp (compareLex (compareOn config) (compareOn product)))

instance : Std.LawfulEqOrd SlotKey where
  eq_of_compare {a b} h := by
    obtain ⟨hc, hp⟩ := compareLex_eq_eq.mp h
    cases a; cases b
    cases Std.LawfulEqOrd.eq_of_compare (show compare _ _ = .eq from hc)
    cases Std.LawfulEqOrd.eq_of_compare (show compare _ _ = .eq from hp)
    rfl

end SlotKey

/-- A resource: its values, one slot for each key. -/
@[ext] structure Entry where
  /-- The entry part of the identifier. -/
  id : Option UInt16 := none
  /-- The visibility declared for the resource. -/
  symbol : Symbol := {}
  /-- The slots, by configuration and product. -/
  slots : Keyed SlotKey (Option Value) := []

/-- The entries of one type in a package. -/
@[ext] structure TypeGroup where
  /-- The type part of the identifiers. -/
  id : Option UInt8 := none
  /-- The visibility of the type: exported as soon as an entry is. -/
  symbol : Symbol := {}
  /-- The entries, by name. -/
  entries : Keyed String Entry := []

/-- What a package will be built into. -/
inductive PackageKind where
  /-- The platform itself. -/
  | system
  /-- An addition to the platform by its vendor. -/
  | vendor
  /-- An application. -/
  | app
  /-- A shared library, which gets its package identifier when it is loaded. -/
  | dynamic
  deriving DecidableEq, Inhabited

namespace PackageKind

/-- All kinds, in order. -/
def all : List PackageKind := [system, vendor, app, dynamic]

/-- The word for the kind. -/
def text : PackageKind → String
  | system => "system"
  | vendor => "vendor"
  | app => "app"
  | dynamic => "dynamic"

end PackageKind

/-- The resources that share a package name. -/
@[ext] structure Package where
  /-- The package part of the identifiers. -/
  id : Option UInt8 := none
  /-- What the package will be built into. -/
  kind : PackageKind := .app
  /-- The types, in their order. -/
  types : Keyed ResourceType TypeGroup := []

/-- The content of a table: its packages, by name. -/
abbrev Packages := Keyed String Package

/-- The identifiers recorded along the path of a name. -/
structure RecordedIds where
  /-- The package part. -/
  package : Option UInt8
  /-- The type part. -/
  type : Option UInt8
  /-- The entry part. -/
  entry : Option UInt16
  deriving DecidableEq

/-- A resource together with the levels above it. -/
structure Located where
  /-- The name of the resource. -/
  name : Name
  /-- Its package. -/
  package : Package
  /-- Its type. -/
  group : TypeGroup
  /-- The resource. -/
  entry : Entry

/-- All three parts of the identifier are recorded. -/
def Located.hasIdent (r : Located) : Bool :=
  r.package.id.isSome && r.group.id.isSome && r.entry.id.isSome

namespace Entry

/-- The slot of a key; it may be empty. -/
def slot? (e : Entry) (key : SlotKey) : Option (Option Value) := e.slots.get? key

/-- The slots of a configuration, for every product.  They stand together, so
the search skips what comes before them and stops behind them. -/
def slotsFor (e : Entry) (config : Config) : Keyed SlotKey (Option Value) :=
  (e.slots.dropWhile fun slot => compare slot.1.config config == .lt).takeWhile fun slot =>
    slot.1.config == config

/-- The slots with a property. -/
def slotsIf (e : Entry) (p : SlotKey → Option Value → Bool) : Keyed SlotKey (Option Value) :=
  e.slots.filter fun slot => p slot.1 slot.2

/-- The two entries have the same keys with equal values. -/
def sameSlots (a b : Entry) : Bool := a.slots == b.slots

/-- The same entry with a slot for the key: an empty one if there was none. -/
def withSlot (e : Entry) (key : SlotKey) : Entry :=
  { e with slots := e.slots.update key fun slot? => slot?.getD none }

/-- The same entry with the value in the slot of the key. -/
def store (e : Entry) (key : SlotKey) (v : Value) : Entry :=
  { e with slots := e.slots.update key fun _ => some v }

end Entry

namespace TypeGroup

/-- Changes an entry, after creating it if it is missing. -/
def withEntry (g : TypeGroup) (name : String) (change : Entry → Entry) : TypeGroup :=
  { g with entries := g.entries.update name fun e? => change (e?.getD {}) }

/-- The first entry with a recorded identifier. -/
def entryWithId? (g : TypeGroup) (id : UInt16) : Option (String × Entry) :=
  g.entries.first? fun e => e.id == some id

end TypeGroup

namespace Package

/-- Changes a type, after creating it if it is missing. -/
def withGroup (p : Package) (type : ResourceType) (change : TypeGroup → TypeGroup) : Package :=
  { p with types := p.types.update type fun g? => change (g?.getD {}) }

/-- The first type with a recorded identifier. -/
def groupWithId? (p : Package) (id : UInt8) : Option (ResourceType × TypeGroup) :=
  p.types.first? fun g => g.id == some id

end Package

namespace Packages

/-! ## Looking -/

/-- The package of a name. -/
def package? (ps : Packages) (package : String) : Option Package := Keyed.get? ps package

/-- The type of a package. -/
def group? (ps : Packages) (package : String) (type : ResourceType) : Option TypeGroup :=
  (package? ps package).bind fun p => p.types.get? type

/-- The resource of a name. -/
def resource? (ps : Packages) (name : Name) : Option Entry :=
  (group? ps name.package name.type).bind fun g => g.entries.get? name.entry

/-- The slot of a key in the resource of a name. -/
def slot? (ps : Packages) (name : Name) (key : SlotKey) : Option (Option Value) :=
  (resource? ps name).bind fun e => e.slot? key

/-- The value of a key in the resource of a name. -/
def value? (ps : Packages) (name : Name) (key : SlotKey) : Option Value :=
  (slot? ps name key).join

/-- The resource of a name, with the levels above it. -/
def find? (ps : Packages) (name : Name) : Option Located :=
  match package? ps name.package with
  | none => none
  | some p =>
    match p.types.get? name.type with
    | none => none
    | some g => (g.entries.get? name.entry).map fun e => ⟨name, p, g, e⟩

/-- The package with a recorded identifier. -/
def packageWithId? (ps : Packages) (id : UInt8) : Option (String × Package) :=
  Keyed.first? ps fun p => p.id == some id

/-- The resource with a recorded identifier: within the first package with the
package part, the first type with the type part, and within that the first entry
with the entry part. -/
def findIdent? (ps : Packages) (id : Ident) : Option Located :=
  match packageWithId? ps id.package with
  | none => none
  | some (package, p) =>
    match p.groupWithId? id.type with
    | none => none
    | some (type, g) =>
      (g.entryWithId? id.entry).map fun (entry, e) => ⟨⟨package, type, entry⟩, p, g, e⟩

/-- All resources, in the order of their names. -/
def located (ps : Packages) : List Located :=
  ps.flatMap fun (package, p) =>
    p.types.flatMap fun (type, g) =>
      g.entries.map fun (entry, e) => ⟨⟨package, type, entry⟩, p, g, e⟩

/-- The names of the exported resources whose identifier is not complete. -/
def exportedWithoutIdent (ps : Packages) : List Name :=
  ((located ps).filter fun r => r.entry.symbol.isExported && !r.hasIdent).map Located.name

/-- The identifiers recorded along the path of a name. -/
def recorded (ps : Packages) (name : Name) : RecordedIds where
  package := (package? ps name.package).bind Package.id
  type := (group? ps name.package name.type).bind TypeGroup.id
  entry := (resource? ps name).bind Entry.id

/-! ## Changing, and creating what is missing -/

/-- Changes a package, after creating it if it is missing. -/
def withPackage (ps : Packages) (package : String) (change : Package → Package) : Packages :=
  Keyed.update ps package fun p? => change (p?.getD {})

/-- Changes a type, after creating it and its package if they are missing. -/
def withGroup (ps : Packages) (package : String) (type : ResourceType)
    (change : TypeGroup → TypeGroup) : Packages :=
  withPackage ps package fun p => p.withGroup type change

/-- Changes a resource, after creating it and the levels above it if they are
missing. -/
def withEntry (ps : Packages) (name : Name) (change : Entry → Entry) : Packages :=
  withGroup ps name.package name.type fun g => g.withEntry name.entry change

/-- Stores a value in the slot of a key. -/
def store (ps : Packages) (name : Name) (key : SlotKey) (v : Value) : Packages :=
  withEntry ps name fun e => e.store key v

/-- Records an identifier along the path of a name. -/
def record (ps : Packages) (name : Name) (id : Ident) : Packages :=
  withPackage ps name.package fun p =>
    { p.withGroup name.type (fun g =>
        { g.withEntry name.entry (fun e => { e with id := some id.entry }) with
          id := some id.type }) with
      id := some id.package }

/-- Sets the symbol of a resource; an exported one makes the type exported. -/
def setSymbol (ps : Packages) (name : Name) (symbol : Symbol) : Packages :=
  withGroup ps name.package name.type fun g =>
    let g := g.withEntry name.entry fun e => { e with symbol := symbol }
    if symbol.isExported then { g with symbol := { g.symbol with state := .exported } } else g

/-! ## Changing what is there -/

/-- Changes a package. -/
def editPackage (ps : Packages) (package : String) (change : Package → Package) : Packages :=
  Keyed.modify ps package change

/-- Changes a type. -/
def editGroup (ps : Packages) (package : String) (type : ResourceType)
    (change : TypeGroup → TypeGroup) : Packages :=
  editPackage ps package fun p => { p with types := p.types.modify type change }

/-- Changes a resource. -/
def editEntry (ps : Packages) (name : Name) (change : Entry → Entry) : Packages :=
  editGroup ps name.package name.type fun g =>
    { g with entries := g.entries.modify name.entry change }

/-- Changes the content of a slot. -/
def editSlot (ps : Packages) (name : Name) (key : SlotKey)
    (change : Option Value → Option Value) : Packages :=
  editEntry ps name fun e => { e with slots := e.slots.modify key change }

/-- Drops the slot of a key. -/
def removeSlot (ps : Packages) (name : Name) (key : SlotKey) : Packages :=
  editEntry ps name fun e => { e with slots := e.slots.remove key }

/-- Changes every value. -/
def mapValues (ps : Packages) (f : Value → Value) : Packages :=
  Keyed.mapItems ps fun p =>
    { p with types := p.types.mapItems fun g =>
        { g with entries := g.entries.mapItems fun e =>
            { e with slots := e.slots.mapItems (Option.map f) } } }

/-- All values. -/
def values (ps : Packages) : List Value :=
  (located ps).flatMap fun r => r.entry.slots.filterMap Prod.snd

end Packages

end AppResources
