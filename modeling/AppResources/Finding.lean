import AppResources.Config
import AppResources.Diagnostic
import AppResources.Ident
import AppResources.Name
import AppResources.Symbol

/-!
# Findings

A **finding** is what a table has to say about a request: the cause, with the
names and places involved.  Its severity, its category and its wording are fixed
here, and `about` makes it a diagnostic of the declaration that caused it.
-/

namespace AppResources

/-- The level at which a supplied identifier disagrees with a recorded one. -/
inductive Disagreement where
  /-- The package has another identifier. -/
  | package (recorded : UInt8)
  /-- The type has another identifier. -/
  | type (recorded : UInt8)
  /-- The entry has another identifier; all three parts recorded. -/
  | entry (recorded : Ident)
  deriving DecidableEq

/-- What a table has to say about a request. -/
inductive Finding where
  /-- An entry name has a character that no entry name may have. -/
  | invalidEntryName (name : Name) (character : Char)
  /-- The identifier supplied for a name is not the recorded one. -/
  | identMismatch (name : Name) (supplied : Ident) (disagreement : Disagreement)
  /-- Two values for one slot cannot coexist. -/
  | duplicateValue (name : Name) (config : Config) (product : String)
  /-- The declaration that a duplicate collides with. -/
  | previousValue
  /-- A value has replaced the one declared at `existing`. -/
  | overriddenValue (name : Name) (config : Config) (existing : Source)
  /-- A request for less visibility was passed over. -/
  | ignoredDowngrade (name : Name) (requested current : Visibility) (existing : Source)
  deriving DecidableEq

/-- The wording of a disagreement about the identifier of a name. -/
def Disagreement.message (name : Name) : Disagreement → String
  | package recorded =>
    "package '" ++ name.package ++ "' already has ID " ++ hexText 2 recorded.toNat
  | type recorded => "type '" ++ name.type.text ++ "' already has ID " ++ hexText 2 recorded.toNat
  | entry recorded => "resource already has ID " ++ recorded.text

namespace Finding

/-- How grave a finding is. -/
def severity : Finding → Severity
  | invalidEntryName _ _ | identMismatch _ _ _ | duplicateValue _ _ _ => .error
  | previousValue => .note
  | overriddenValue _ _ _ => .info
  | ignoredDowngrade _ _ _ _ => .warning

/-- The rule that a finding is about. -/
def category : Finding → Category
  | invalidEntryName _ _ => .name
  | identMismatch _ _ _ => .identifier
  | duplicateValue _ _ _ | previousValue | overriddenValue _ _ _ => .collision
  | ignoredDowngrade _ _ _ _ => .symbol

/-- The wording of a finding. -/
def message : Finding → String
  | invalidEntryName name character =>
    "resource '" ++ name.text ++ "' has invalid entry name '" ++ name.entry ++
      "'. Invalid character '" ++ String.singleton character ++ "'"
  | identMismatch name supplied disagreement =>
    "trying to add resource '" ++ name.text ++ "' with ID " ++ supplied.text ++ " but " ++
      disagreement.message name
  | duplicateValue name config product =>
    "duplicate value for resource '" ++ name.text ++ "' with config '" ++ config.text ++ "'" ++
      if product.isEmpty then "" else " and product '" ++ product ++ "'"
  | previousValue => "resource previously defined here"
  | overriddenValue name config existing =>
    "resource '" ++ name.text ++ "' with config '" ++ config.text ++
      "' overrides value defined at " ++ existing.text
  | ignoredDowngrade name requested current existing =>
    "ignoring " ++ requested.text ++ " declaration of resource '" ++ name.text ++
      "' already declared " ++ current.text ++ " at " ++ existing.text

/-- The diagnostic of a finding, about the declaration at `source`. -/
def about (f : Finding) (source : Source) : Diagnostic :=
  ⟨f.severity, f.category, f.message, some source⟩

end Finding

end AppResources
