import AppResources.DefaultIgnorable
import AppResources.GraphemeBase

/-!
# Listings

A **listing** shows a whole value or table in a uniform notation: records with
named fields, tagged values, sequences in brackets and quoted texts.  It is made
for a person who looks for a difference, so nothing is left out, and a character
that could not be seen is written by its number.
-/

namespace AppResources

/-- A character that shows a sign of its own.  The two sound marks of the halfwidth
kana do so although they extend the character before them: they take a column.  A
character that is ignored by default shows nothing. -/
def hasOwnSign (c : Char) : Bool :=
  (isGraphemeBase c || c == '\uFF9E' || c == '\uFF9F') && !isDefaultIgnorable c

/-- A quoted text shows this character as itself: it has a sign of its own, and it
is no blank other than the space. -/
def isShownPlain (c : Char) : Bool :=
  hasOwnSign c && (c == ' ' || !isSpaceSeparator c)
where
  /-- The general category `Zs`. -/
  isSpaceSeparator (c : Char) : Bool :=
    let n := c.toNat
    n == 0x20 || n == 0xA0 || n == 0x1680 || (0x2000 ≤ n && n ≤ 0x200A) || n == 0x202F ||
      n == 0x205F || n == 0x3000

/-- A character as it stands in a quoted text. -/
def quoteCharacter (c : Char) : List Char :=
  match c with
  | '\x00' => ['\\', '0']
  | '\t' => ['\\', 't']
  | '\r' => ['\\', 'r']
  | '\n' => ['\\', 'n']
  | '"' => ['\\', '"']
  | '\\' => ['\\', '\\']
  | c =>
    if isShownPlain c then [c]
    else ['\\', 'u', '\x7b'] ++ Nat.toDigits 16 c.toNat ++ ['\x7d']

/-- A text in quotes. -/
def quote (text : String) : String :=
  "\"" ++ String.ofList (text.toList.flatMap quoteCharacter) ++ "\""

/-- What is shown of a value. -/
inductive Listing where
  /-- A word or a number. -/
  | word (text : String)
  /-- A text in quotes. -/
  | quoted (text : String)
  /-- A value behind a tag. -/
  | tagged (tag : String) (content : Listing)
  /-- A record; `more` tells that it has fields that are not shown. -/
  | record (tag : String) (fields : List (String × Listing)) (more : Bool)
  /-- A sequence. -/
  | sequence (items : List Listing)

namespace Listing

mutual

/-- The written form. -/
def text : Listing → String
  | word text => text
  | quoted text => quote text
  | tagged tag content => tag ++ "(" ++ content.text ++ ")"
  | record tag fields more =>
    tag ++ " \x7b " ++ fieldsText fields ++ (if more then ", .." else "") ++ " \x7d"
  | sequence items => "[" ++ itemsText items ++ "]"
termination_by structural l => l

/-- The fields of a record, with commas between them. -/
def fieldsText : List (String × Listing) → String
  | [] => ""
  | [(name, content)] => name ++ ": " ++ content.text
  | (name, content) :: rest => name ++ ": " ++ content.text ++ ", " ++ fieldsText rest
termination_by structural l => l

/-- The items of a sequence, with commas between them. -/
def itemsText : List Listing → String
  | [] => ""
  | [item] => item.text
  | item :: rest => item.text ++ ", " ++ itemsText rest
termination_by structural l => l

end

/-- A truth value. -/
def ofBool (b : Bool) : Listing := word (if b then "true" else "false")

/-- A number. -/
def ofNat (n : Nat) : Listing := word (toString n)

/-- A value that may be missing. -/
def ofOption {α : Type} (f : α → Listing) : Option α → Listing
  | none => word "None"
  | some a => tagged "Some" (f a)

end Listing

end AppResources
