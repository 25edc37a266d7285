import AppResources.Table

/-!
# Operations and runs

Whatever changes a table is an **operation**: adding values, declaring symbols,
creating a level, dropping a slot, or writing to a place that is already there.
`perform` carries out one of them, and `run` a whole sequence, collecting the
replies and the log in order.
-/

namespace AppResources

/-- A direct write to a place of the table; it changes nothing when that place
is missing. -/
inductive Edit where
  /-- Sets the kind of a package. -/
  | packageKind (package : String) (kind : PackageKind)
  /-- Sets or clears the identifier of a package. -/
  | packageId (package : String) (id : Option UInt8)
  /-- Sets or clears the identifier of a type. -/
  | typeId (package : String) (type : ResourceType) (id : Option UInt8)
  /-- Sets the symbol of a type. -/
  | typeSymbol (package : String) (type : ResourceType) (symbol : Symbol)
  /-- Sets or clears the identifier of an entry. -/
  | entryId (name : Name) (id : Option UInt16)
  /-- Sets the symbol of an entry. -/
  | entrySymbol (name : Name) (symbol : Symbol)
  /-- Sets the content of a slot, or empties it. -/
  | slot (name : Name) (key : SlotKey) (value : Option Value)
  /-- Sets the comment of every value. -/
  | comments (comment : String)

/-- The content after a direct write. -/
def Packages.edit (ps : Packages) : Edit → Packages
  | .packageKind package kind => ps.editPackage package fun p => { p with kind }
  | .packageId package id => ps.editPackage package fun p => { p with id }
  | .typeId package type id => ps.editGroup package type fun g => { g with id }
  | .typeSymbol package type symbol => ps.editGroup package type fun g => { g with symbol }
  | .entryId name id => ps.editEntry name fun e => { e with id }
  | .entrySymbol name symbol => ps.editEntry name fun e => { e with symbol }
  | .slot name key value => ps.editSlot name key fun _ => value
  | .comments comment => ps.mapValues fun v => { v with comment }

/-- A change to a table. -/
inductive Operation where
  /-- Adds a value. -/
  | add (checked : Bool) (addition : Addition)
  /-- Adds a file of the package. -/
  | addFile (checked : Bool) (name : Name) (config : Config) (source : Source) (path : String)
      (input : Option Source)
  /-- Declares a symbol. -/
  | declare (checked : Bool) (declaration : Declaration)
  /-- Adds values in order. -/
  | ingest (additions : List Addition)
  /-- Creates a package and records its identifier. -/
  | createPackage (package : String) (id : Option UInt8)
  /-- Creates a package if it is missing. -/
  | ensurePackage (package : String)
  /-- Creates a type if it is missing. -/
  | ensureGroup (package : String) (type : ResourceType)
  /-- Creates a resource if it is missing. -/
  | ensureEntry (name : Name)
  /-- Creates an empty slot if it is missing. -/
  | ensureSlot (name : Name) (key : SlotKey)
  /-- Drops a slot. -/
  | removeSlot (name : Name) (key : SlotKey)
  /-- Writes to a place that is there. -/
  | edit (change : Edit)

/-- The answer to an operation. -/
inductive Reply where
  /-- Whether the request succeeded. -/
  | accepted (flag : Bool)
  /-- The operation was carried out. -/
  | done
  /-- The operation was refused for this reason. -/
  | fault (reason : Fault)
  /-- The slot that was dropped, if there was one. -/
  | removed (slot : Option (Option Value))

/-- The operation failed. -/
def Reply.isFailure : Reply → Bool
  | accepted flag => !flag
  | fault _ => true
  | done | removed _ => false

/-- The reply to a request for a package. -/
def Reply.ofCreation : Except Fault Unit → Reply
  | .ok () => done
  | .error reason => fault reason

namespace Table

/-- Ends an operation that only changes the content. -/
def answer (t : Table) (packages : Packages) (reply : Reply) : Outcome Reply :=
  ⟨{ t with packages }, reply, []⟩

/-- Carries out an operation. -/
def perform (t : Table) : Operation → Outcome Reply
  | .add checked a => (t.add checked a).map .accepted
  | .addFile checked name config source path input =>
    (t.addFile checked name config source path input).map .accepted
  | .declare checked d => (t.declare checked d).map .accepted
  | .ingest additions => (t.ingest additions).map .accepted
  | .createPackage package id => (t.createPackage package id).map .ofCreation
  | .ensurePackage package => t.answer (t.packages.withPackage package fun p => p) .done
  | .ensureGroup package type => t.answer (t.packages.withGroup package type fun g => g) .done
  | .ensureEntry name => t.answer (t.packages.withEntry name fun e => e) .done
  | .ensureSlot name key => t.answer (t.packages.withEntry name fun e => e.withSlot key) .done
  | .removeSlot name key =>
    t.answer (t.packages.removeSlot name key) (.removed (t.packages.slot? name key))
  | .edit change => t.answer (t.packages.edit change) .done

/-- Carries out a sequence of operations: the last table, and for each operation
its reply and what it had to say. -/
def run (t : Table) : List Operation → Table × List (Reply × Log)
  | [] => (t, [])
  | op :: rest =>
    let outcome := t.perform op
    let (last, replies) := outcome.table.run rest
    (last, (outcome.answer, outcome.log) :: replies)

end Table

end AppResources
