import AppResources.Value

/-!
# Collisions

Two declarations for one slot **collide**.  A **resolver** looks at the value
that is stored and at the one that comes in, and says which of them stays — or
that they cannot both be meant.

Both resolvers that are offered here treat weak values as placeholders, and
attributes by their masks:

1. Two attributes with equal masks: the stored one stays unless it is weak.
   With different masks, a weak attribute that accepts anything gives way to the
   other; all else is a conflict.
2. A weak incoming value is dropped.
3. A weak stored value is replaced.
4. Two strong values of different kinds are in conflict.

They differ in what is left, two strong values of one kind: `overlay` lets the
later one win, as merging libraries in order needs, and `strict` calls it a
conflict, as compiling a single module needs.
-/

namespace AppResources

/-- What becomes of a collision. -/
inductive Resolution where
  /-- The stored value stays and the incoming one is dropped. -/
  | keepOriginal
  /-- The incoming value replaces the stored one. -/
  | takeNew
  /-- The values cannot coexist. -/
  | conflict
  deriving DecidableEq

/-- A policy for collisions: what becomes of a stored and an incoming value. -/
abbrev Resolver := Value → Value → Resolution

/-- The rule for two attributes; it does not speak of other values. -/
def resolveAttributes? (existing incoming : Value) : Option Resolution :=
  match existing.attribute?, incoming.attribute? with
  | some a, some b =>
    some <|
      if a.mask = b.mask then
        if existing.isWeak then .takeNew else .keepOriginal
      else if existing.isWeak ∧ a.mask = .any then .takeNew
      else if incoming.isWeak ∧ b.mask = .any then .keepOriginal
      else .conflict
  | _, _ => none

namespace Resolver

/-- The rules above, given what becomes of two strong values of one kind. -/
def ofSameKind (sameKind : Resolution) : Resolver := fun existing incoming =>
  match resolveAttributes? existing incoming with
  | some resolution => resolution
  | none =>
    if incoming.isWeak then .keepOriginal
    else if existing.isWeak then .takeNew
    else if existing.kind = incoming.kind then sameKind
    else .conflict

/-- The later of two strong values of one kind wins. -/
def overlay : Resolver := ofSameKind .takeNew

/-- Two strong values of one kind are in conflict. -/
def strict : Resolver := ofSameKind .conflict

/-- Every collision ends in the same way. -/
def constant (resolution : Resolution) : Resolver := fun _ _ => resolution

/-- Equal values are one declaration, different ones are in conflict. -/
def equalOrConflict : Resolver := fun existing incoming =>
  if existing == incoming then .keepOriginal else .conflict

end Resolver

end AppResources
