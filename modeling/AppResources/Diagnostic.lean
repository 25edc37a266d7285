import AppResources.Source

/-!
# Diagnostics

Filling a table does not stop at a problem.  What went wrong is written to a
**log**, in the order in which it came up, and the log is only ever extended at
its end.
-/

namespace AppResources

/-- How grave a diagnostic is. -/
inductive Severity where
  /-- A remark to the error before it. -/
  | note
  /-- Something worth knowing that is no problem. -/
  | info
  /-- A request that was passed over. -/
  | warning
  /-- A request that was refused. -/
  | error
  deriving DecidableEq

namespace Severity

/-- All severities, from light to grave. -/
def all : List Severity := [note, info, warning, error]

/-- The written form. -/
def text : Severity → String
  | note => "NOTE"
  | info => "INFO"
  | warning => "WARN"
  | error => "ERROR"

/-- The weight of a severity. -/
def rank : Severity → Nat
  | note => 0
  | info => 1
  | warning => 2
  | error => 3

instance : Ord Severity := ⟨compareOn rank⟩

end Severity

/-- Which rule a diagnostic is about. -/
inductive Category where
  /-- The characters of an entry name. -/
  | name
  /-- Identifiers that disagree. -/
  | identifier
  /-- Two values for one slot. -/
  | collision
  /-- Visibility. -/
  | symbol
  /-- A package as a whole. -/
  | package
  /-- Anything else. -/
  | general
  deriving DecidableEq

namespace Category

/-- All categories. -/
def all : List Category := [name, identifier, collision, symbol, package, general]

/-- The written form. -/
def text : Category → String
  | name => "Name"
  | identifier => "Identifier"
  | collision => "Collision"
  | symbol => "Symbol"
  | package => "Package"
  | general => "General"

end Category

/-- One line of the log. -/
structure Diagnostic where
  /-- How grave it is. -/
  severity : Severity
  /-- Which rule it is about. -/
  category : Category
  /-- What it says. -/
  message : String
  /-- The declaration it is about. -/
  source : Option Source
  deriving DecidableEq

/-- The written form: `[source: ][SEVERITY] Category: message`. -/
def Diagnostic.text (d : Diagnostic) : String :=
  (match d.source with | some s => s.text ++ ": " | none => "") ++
    "[" ++ d.severity.text ++ "] " ++ d.category.text ++ ": " ++ d.message

/-- All diagnostics so far, in order. -/
abbrev Log := List Diagnostic

namespace Log

/-- The diagnostics that are errors. -/
def errors (log : Log) : List Diagnostic := log.filter fun d => d.severity == .error

/-- The diagnostics of a category. -/
def ofCategory (log : Log) (c : Category) : List Diagnostic := log.filter fun d => d.category == c

/-- The number of diagnostics of a severity. -/
def count (log : Log) (s : Severity) : Nat := log.countP fun d => d.severity == s

/-- An error has been logged. -/
def hasErrors (log : Log) : Bool := log.any fun d => d.severity == .error

/-- The summary: the number of errors and warnings, then a line for every
diagnostic. -/
def summary (log : Log) : String :=
  "Diagnostics: " ++ toString (log.count .error) ++ " error(s), " ++
    toString (log.count .warning) ++ " warning(s)\n" ++
    String.join (log.map fun d => "  " ++ d.text ++ "\n")

end Log

end AppResources
