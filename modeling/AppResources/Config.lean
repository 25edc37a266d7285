import AppResources.Blank

/-!
# Configurations

A **configuration** says for which devices a value is meant.  To the table it is
an opaque key: qualifiers are neither taken apart nor matched, and two values
share a slot only when their qualifiers are equal.  No qualifiers at all is the
default configuration, which is first in order and is written `DEFAULT`.
-/

namespace AppResources

/-- A configuration key. -/
structure Config where
  /-- The qualifiers, such as `fr-rCA-v21`; empty for the default. -/
  qualifiers : String := ""
  deriving DecidableEq, Inhabited

namespace Config

/-- The configuration with these qualifiers; `DEFAULT` is one way to write the
default. -/
def ofQualifiers (text : String) : Config :=
  if text == "DEFAULT" then {} else ⟨text⟩

/-- Reads a configuration, passing over blanks around it. -/
def read (text : List Char) : Config := ofQualifiers (String.ofList (trim text))

/-- No qualifiers are given. -/
def isDefault (c : Config) : Bool := c.qualifiers.isEmpty

/-- The written form. -/
def text (c : Config) : String := if c.isDefault then "DEFAULT" else c.qualifiers

instance : Ord Config := ⟨compareOn qualifiers⟩

instance : Std.TransOrd Config := inferInstanceAs (Std.TransCmp (compareOn qualifiers))

instance : Std.LawfulEqOrd Config where
  compare_self {c} := Std.ReflOrd.compare_self (a := c.qualifiers)
  eq_of_compare {a b} h := by
    cases a; cases b
    exact congrArg Config.mk (Std.LawfulEqOrd.eq_of_compare h)

end Config

end AppResources
