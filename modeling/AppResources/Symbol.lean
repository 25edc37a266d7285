import AppResources.Source

/-!
# Symbols

A **symbol** declares how far a resource may be seen outside its package.  The
three states are ordered by strength: nothing declared, kept `private`, made
`public`.
-/

namespace AppResources

/-- How far a resource may be seen. -/
inductive Visibility where
  /-- Nothing was declared. -/
  | undefined
  /-- Only its own package sees it; written `private`. -/
  | internal
  /-- Its identifier is part of the package's interface; written `public`. -/
  | exported
  deriving DecidableEq, Inhabited

namespace Visibility

/-- All states, from weak to strong. -/
def all : List Visibility := [undefined, internal, exported]

/-- The written form of a state. -/
def text : Visibility → String
  | undefined => "undefined"
  | internal => "private"
  | exported => "public"

/-- The strength of a state. -/
def rank : Visibility → Nat
  | undefined => 0
  | internal => 1
  | exported => 2

instance : Ord Visibility := ⟨compareOn rank⟩

/-- The first state is weaker than the second. -/
def weakerThan (a b : Visibility) : Bool := a.rank < b.rank

end Visibility

/-- A declaration of visibility. -/
structure Symbol where
  /-- The state declared. -/
  state : Visibility := .undefined
  /-- Where it was declared. -/
  source : Source := {}
  /-- The comment at the declaration. -/
  comment : String := ""
  deriving DecidableEq, Inhabited

/-- The symbol makes its resource visible outside its package. -/
def Symbol.isExported (s : Symbol) : Bool := s.state == .exported

end AppResources
