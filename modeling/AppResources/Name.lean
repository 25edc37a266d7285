import AppResources.ResourceType

/-!
# Resource names

Before it is linked, a resource is known by its **name**: the package that owns
it, its type, and its entry name within the type.  The package may be empty,
which stands for the package being built.  Names order by package, then type,
then entry, which is the order in which a table lists its resources.
-/

namespace AppResources

/-- The name of a resource. -/
structure Name where
  /-- The owning package; empty for the package being built. -/
  package : String
  /-- The logical type. -/
  type : ResourceType
  /-- The entry within the type. -/
  entry : String
  deriving DecidableEq, Inhabited

namespace Name

/-- The package is given. -/
def isQualified (n : Name) : Bool := !n.package.isEmpty

/-- The written form: `[package:]type/entry`. -/
def text (n : Name) : String :=
  (if n.package.isEmpty then "" else n.package ++ ":") ++ n.type.text ++ "/" ++ n.entry

instance : Ord Name :=
  ⟨compareLex (compareOn package) (compareLex (compareOn type) (compareOn entry))⟩

end Name

end AppResources
