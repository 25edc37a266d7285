import AppResources.Digits

/-!
# Faults

A **fault** is the reason why a single request cannot be answered: a text that
is no name or no identifier, markup outside its text, two identifiers for one
package, a read past the end of a file.  Faults are causes; `message` is the one
place that words them.  Problems met while a table is filled are not faults but
diagnostics, because filling goes on after them.
-/

namespace AppResources

/-- Why a request was refused. -/
inductive Fault where
  /-- The text is not of the form `[package:]type/entry`. -/
  | invalidName (text : String)
  /-- The text is not a hexadecimal identifier with a type part. -/
  | invalidIdent (text : String)
  /-- A markup span does not lie within its text. -/
  | spanOutsideText (span : String) (first last : UInt32) (text : String)
  /-- The package already has another identifier. -/
  | packageIdConflict (package : String) (existing requested : UInt8)
  /-- The bytes asked for are not all in the file. -/
  | outOfBounds
  deriving DecidableEq

/-- The wording of a fault. -/
def Fault.message : Fault → String
  | invalidName text => "Invalid resource name - '" ++ text ++ "'"
  | invalidIdent text => "Invalid resource id - '" ++ text ++ "'"
  | spanOutsideText span first last text =>
    "Span <" ++ span ++ "> [" ++ toString first.toNat ++ ", " ++ toString last.toNat ++
      "] is outside of text '" ++ text ++ "'"
  | packageIdConflict package existing requested =>
    "Package '" ++ package ++ "' already has id " ++ hexText 2 existing.toNat ++
      ", requested " ++ hexText 2 requested.toNat
  | outOfBounds => "Out of Bound read would have occurred!"

end AppResources
