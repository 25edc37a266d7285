import AppResources.Blank
import AppResources.NameText
import AppResources.Reference

/-!
# Reading references

* `@[+][*][package:]type/entry` points at a resource.  With `+` it also declares
  the identifier that it points at, which only a reference to an `id` may do and
  never a private one.
* `?[package:][attr/]entry` points at an attribute of the theme; a type may be
  left out and must be `attr` if it is given.

Blanks around a reference are passed over.
-/

namespace AppResources

/-- A resource reference as it was written. -/
structure Mention where
  /-- The name pointed at. -/
  name : Name
  /-- The reference declares what it points at. -/
  declares : Bool
  /-- The reference reaches a private resource. -/
  isPrivate : Bool
  deriving DecidableEq

/-- Reads what stands behind `@` and `+`. -/
def readMentionAfter? (declares : Bool) (text : List Char) : Option Mention :=
  match readName? text with
  | none => none
  | some (name, isPrivate) =>
    if declares && (isPrivate || name.type != .id) then none
    else some ⟨name, declares, isPrivate⟩

/-- Reads a resource reference. -/
def readMention? (text : List Char) : Option Mention :=
  match trim text with
  | '@' :: '+' :: rest => readMentionAfter? true rest
  | '@' :: rest => readMentionAfter? false rest
  | _ => none

/-- The text is a resource reference. -/
def isMention (text : List Char) : Bool := (readMention? text).isSome

/-- Reads a theme reference; the name read is always one of type `attr`. -/
def readThemeName? (text : List Char) : Option Name :=
  match trim text with
  | '?' :: rest =>
    match splitName rest with
    | none => none
    | some parts =>
      if parts.type != [] && parts.type != ['a', 't', 't', 'r'] then none
      else if parts.entry.isEmpty then none
      else some ⟨String.ofList parts.package, .attr, String.ofList parts.entry⟩
  | _ => none

/-- The text is a theme reference. -/
def isThemeName (text : List Char) : Bool := (readThemeName? text).isSome

/-- Reads a reference of either kind, and whether it declares what it points
at. -/
def readReference? (text : List Char) : Option (Reference × Bool) :=
  match readMention? text with
  | some m => some ({ name := some m.name, isPrivate := m.isPrivate }, m.declares)
  | none =>
    match readThemeName? text with
    | some name => some ({ name := some name, kind := .theme }, false)
    | none => none

end AppResources
