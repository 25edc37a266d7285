import AppResources.Alphanumeric
import AppResources.Collision
import AppResources.Fault
import AppResources.Finding
import AppResources.Packages
import AppResources.Pool

/-!
# Filling a table

A **table** is its content, the pool of its texts, and the rules by which it is
filled.  Filling it means adding values and declaring symbols.  Both proceed in
the same way:

1. the entry name is checked, unless the caller knows it to be mangled;
2. an identifier, if a valid one is supplied, is compared with those recorded
   along the path of the name;
3. the value is stored, with the resolver deciding a collision, or the symbol is
   set;
4. the identifier is recorded.

A request that fails in step 2 leaves its path behind, without any content; one
that fails elsewhere leaves the content as it was.  Each operation returns the
table it leaves, its answer, and what it has to say, in order.
-/

namespace AppResources

/-- The choices about how strictly a table is filled. -/
structure Policy where
  /-- Pass over requests for less visibility than was declared. -/
  protectVisibility : Bool := false
  /-- Start with the strict resolver. -/
  strictCollisions : Bool := false
  /-- Say when a value replaces another. -/
  reportOverrides : Bool := false
  deriving DecidableEq, Inhabited

namespace Policy

/-- Symbols are set as asked, and later values win. -/
def permissive : Policy := {}

/-- For compiling a single module: everything is checked and reported. -/
def strict : Policy := ⟨true, true, true⟩

end Policy

/-- A resource table. -/
structure Table where
  /-- The content. -/
  packages : Packages := []
  /-- The texts of the values. -/
  pool : Pool := ⟨0, []⟩
  /-- The choices the table was made with. -/
  policy : Policy := {}
  /-- What becomes of collisions. -/
  resolver : Resolver := .overlay

/-- The empty table for these choices. -/
def Table.ofPolicy (policy : Policy) : Table :=
  { policy, resolver := if policy.strictCollisions then .strict else .overlay }

/-- What an operation leaves behind. -/
structure Outcome (α : Type) where
  /-- The table afterwards. -/
  table : Table
  /-- The answer. -/
  answer : α
  /-- What the operation has to say. -/
  log : Log := []

/-- The same outcome with its answer put in other terms. -/
def Outcome.map {α β : Type} (f : α → β) (o : Outcome α) : Outcome β := ⟨o.table, f o.answer, o.log⟩

/-- A value to be added. -/
structure Addition where
  /-- The resource it belongs to. -/
  name : Name
  /-- The identifier of the resource; one that is not valid counts as none. -/
  id : Option Ident := none
  /-- The configuration it is meant for. -/
  config : Config := {}
  /-- The product it is meant for. -/
  product : String := ""
  /-- The value. -/
  value : Value

/-- The slot that an addition is meant for. -/
def Addition.key (a : Addition) : SlotKey := ⟨a.config, a.product⟩

/-- A symbol to be declared. -/
structure Declaration where
  /-- The resource it is about. -/
  name : Name
  /-- The identifier of the resource; one that is not valid counts as none. -/
  id : Option Ident := none
  /-- The symbol. -/
  symbol : Symbol

/-- A character that may stand in an entry name: a letter or a number of any
script, a dot, an underscore or a hyphen. -/
def isEntryCharacter (c : Char) : Bool :=
  isAlphanumeric c || c == '.' || c == '_' || c == '-'

/-- The first character of an entry name that may not stand in one. -/
def invalidEntryCharacter? (entry : String) : Option Char :=
  entry.toList.find? fun c => !isEntryCharacter c

/-- The uppermost level at which an identifier disagrees with what is
recorded. -/
def RecordedIds.disagreement? (r : RecordedIds) (id : Ident) : Option Disagreement :=
  if r.package.any (· != id.package) then some (.package (r.package.getD 0))
  else if r.type.any (· != id.type) then some (.type (r.type.getD 0))
  else if r.entry.any (· != id.entry) then
    some (.entry (.ofParts (r.package.getD 0) (r.type.getD 0) (r.entry.getD 0)))
  else none

/-- Records an identifier if one is given. -/
def Packages.recordIfGiven (ps : Packages) (name : Name) : Option Ident → Packages
  | some id => ps.record name id
  | none => ps

namespace Table

/-- What the checks before an operation come to. -/
inductive Examination where
  /-- The request may go on, with this identifier to record. -/
  | granted (id : Option Ident)
  /-- The request is refused for this reason; the path of its name is created if
  the flag is set. -/
  | refused (finding : Finding) (createsPath : Bool)

/-- Checks the entry name, if asked to, and then the identifier. -/
def examine (t : Table) (checked : Bool) (name : Name) (id : Option Ident) : Examination :=
  match if checked then invalidEntryCharacter? name.entry else none with
  | some c => .refused (.invalidEntryName name c) false
  | none =>
    match id.filter Ident.isValid with
    | none => .granted none
    | some id =>
      match (t.packages.recorded name).disagreement? id with
      | some d => .refused (.identMismatch name id d) true
      | none => .granted (some id)

/-- Ends an operation that was refused before it began. -/
def refuse (t : Table) (name : Name) (source : Source) (finding : Finding)
    (createsPath : Bool) : Outcome Bool where
  table := if createsPath then { t with packages := t.packages.withEntry name fun e => e } else t
  answer := false
  log := [finding.about source]

/-- Adds a value.  The answer tells whether it was stored, or dropped in favour
of the one that is there. -/
def add (t : Table) (checked : Bool) (a : Addition) : Outcome Bool :=
  match t.examine checked a.name a.id with
  | .refused finding createsPath => t.refuse a.name a.value.source finding createsPath
  | .granted id =>
    let stored :=
      { t with packages := (t.packages.store a.name a.key a.value).recordIfGiven a.name id }
    match t.packages.value? a.name a.key with
    | none => ⟨stored, true, []⟩
    | some existing =>
      match t.resolver existing a.value with
      | .keepOriginal =>
        ⟨{ t with packages := t.packages.recordIfGiven a.name id }, true, []⟩
      | .takeNew =>
        ⟨stored, true,
          if t.policy.reportOverrides then
            [(Finding.overriddenValue a.name a.config existing.source).about a.value.source]
          else []⟩
      | .conflict =>
        ⟨t, false,
          [(Finding.duplicateValue a.name a.config a.product).about a.value.source,
            Finding.previousValue.about existing.source]⟩

/-- Adds a value that is a file of the package, interning its path. -/
def addFile (t : Table) (checked : Bool) (name : Name) (config : Config) (source : Source)
    (path : String) (input : Option Source) : Outcome Bool :=
  let (pool, handle) := t.pool.intern path
  { t with pool }.add checked
    { name, config, value := { source, payload := .fileReference handle.text input } }

/-- Declares a symbol.  A table that protects visibility passes over a request
for less than was declared, and says so; the request still counts as done. -/
def declare (t : Table) (checked : Bool) (d : Declaration) : Outcome Bool :=
  match t.examine checked d.name d.id with
  | .refused finding createsPath => t.refuse d.name d.symbol.source finding createsPath
  | .granted id =>
    let current := ((t.packages.resource? d.name).map Entry.symbol).getD {}
    if t.policy.protectVisibility && d.symbol.state.weakerThan current.state then
      ⟨{ t with packages := t.packages.recordIfGiven d.name id }, true,
        [(Finding.ignoredDowngrade d.name d.symbol.state current.state current.source).about
          d.symbol.source]⟩
    else
      ⟨{ t with packages := (t.packages.setSymbol d.name d.symbol).recordIfGiven d.name id },
        true, []⟩

/-- Adds values in order; a failure does not stop the others.  The answer tells
whether all were added. -/
def ingest (t : Table) : List Addition → Outcome Bool
  | [] => ⟨t, true, []⟩
  | a :: rest =>
    let first := t.add true a
    let others := first.table.ingest rest
    ⟨others.table, first.answer && others.answer, first.log ++ others.log⟩

/-- Creates a package if it is missing and records its identifier.  A package
that has another identifier keeps it. -/
def createPackage (t : Table) (package : String) (id : Option UInt8) :
    Outcome (Except Fault Unit) :=
  let existing := (t.packages.package? package).bind Package.id
  match existing, id with
  | some e, some requested =>
    if e = requested then ⟨t, .ok (), []⟩
    else ⟨t, .error (.packageIdConflict package e requested), []⟩
  | none, some requested =>
    ⟨{ t with packages := t.packages.withPackage package fun p => { p with id := requested } },
      .ok (), []⟩
  | _, none => ⟨{ t with packages := t.packages.withPackage package fun p => p }, .ok (), []⟩

end Table

end AppResources
