import AppResources.Fault
import AppResources.Name

/-!
# Reading names

`[*][package:]type/entry` is read in one pass over the text.  The pass keeps the
part being read and closes it at a separator: `/` ends the type and `:` ends the
package, each only **while that part is still empty**, so that later separators
belong to the entry.  Package and type may come in either order.

A separator whose part is empty to the end of the pass refuses the text.
-/

namespace AppResources

/-- The three parts of a written name; a missing one is empty. -/
structure NameParts where
  /-- The text of the package. -/
  package : List Char
  /-- The text of the type. -/
  type : List Char
  /-- The text of the entry. -/
  entry : List Char
  deriving DecidableEq

/-- What the pass knows after some characters. -/
structure NameScan where
  /-- The package read so far. -/
  package : List Char := []
  /-- The type read so far. -/
  type : List Char := []
  /-- The characters of the part being read, last one first. -/
  pending : List Char := []
  /-- A `:` has ended a package. -/
  sawColon : Bool := false
  /-- A `/` has ended a type. -/
  sawSlash : Bool := false
  deriving DecidableEq

namespace NameScan

/-- Reads one character. -/
def next (s : NameScan) (c : Char) : NameScan :=
  if s.type.isEmpty && c == '/' then
    { s with type := s.pending.reverse, pending := [], sawSlash := true }
  else if s.package.isEmpty && c == ':' then
    { s with package := s.pending.reverse, pending := [], sawColon := true }
  else
    { s with pending := c :: s.pending }

/-- Ends the pass: what is pending is the entry. -/
def finish (s : NameScan) : Option NameParts :=
  if (s.sawColon && s.package.isEmpty) || (s.sawSlash && s.type.isEmpty) then none
  else some ⟨s.package, s.type, s.pending.reverse⟩

end NameScan

/-- Splits a written name into its parts. -/
def splitName (text : List Char) : Option NameParts :=
  (text.foldl NameScan.next {}).finish

/-- Reads `[*][package:]type/entry`: the name, and whether the private mark `*`
was given.  The type has to be known and the entry must not be empty. -/
def readName? (text : List Char) : Option (Name × Bool) :=
  let (isPrivate, written) :=
    match text with
    | '*' :: rest => (true, rest)
    | _ => (false, text)
  match splitName written with
  | none => none
  | some parts =>
    match ResourceType.ofText? (String.ofList parts.type) with
    | none => none
    | some type =>
      if parts.entry.isEmpty then none
      else some (⟨String.ofList parts.package, type, String.ofList parts.entry⟩, isPrivate)

/-- Reads a name that carries no private mark. -/
def Name.ofText (text : String) : Except Fault Name :=
  match readName? text.toList with
  | some (name, false) => .ok name
  | _ => .error (.invalidName text)

end AppResources
