import AppResources.Ident
import AppResources.Name

/-!
# References

A value may point at another resource, by name, by identifier, or by both.  A
**resource** reference is written with `@` and is resolved in the table; a
**theme** reference is written with `?` and names an attribute of the theme that
is in force.  A private reference reaches a resource that its package keeps to
itself.
-/

namespace AppResources

/-- What a reference is resolved against. -/
inductive ReferenceKind where
  /-- The resources, `@type/entry`. -/
  | resource
  /-- The theme in force, `?attr/entry`. -/
  | theme
  deriving DecidableEq, Inhabited

/-- A pointer to another resource. -/
structure Reference where
  /-- The name pointed at, if known. -/
  name : Option Name := none
  /-- The identifier pointed at, if known. -/
  id : Option Ident := none
  /-- What the reference is resolved against. -/
  kind : ReferenceKind := .resource
  /-- The reference reaches a private resource. -/
  isPrivate : Bool := false
  deriving DecidableEq, Inhabited

namespace Reference

/-- The written form.  A name is preferred to an identifier, and a reference
with neither is written `null`. -/
def text (r : Reference) : String :=
  (match r.kind with | .resource => "@" | .theme => "?") ++
    (if r.isPrivate then "*" else "") ++
    match r.name, r.id with
    | some name, _ => name.text
    | none, some id => id.text
    | none, none => "null"

end Reference

end AppResources
