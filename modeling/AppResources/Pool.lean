import AppResources.Fault
import AppResources.Keyed
import AppResources.Styled

/-!
# The string pool

The texts of all values are **interned**: the pool keeps each text in one
storage cell, and interning a text that it already keeps gives the same cell
again.  A **handle** is what interning returns.  It carries its text, so it may
outlive the pool; two handles are equal when their texts are, and share storage
when they name the same cell of the same pool.

A styled text is interned as a whole or not at all: its spans are checked before
anything is interned.
-/

namespace AppResources

/-- An interned text. -/
structure Handle where
  /-- The text. -/
  text : String
  /-- The pool that interned it. -/
  pool : Nat
  /-- The cell of that pool. -/
  cell : Nat

namespace Handle

/-- Handles are compared by their texts. -/
instance : BEq Handle := ⟨fun a b => a.text == b.text⟩

instance : Ord Handle := ⟨compareOn text⟩

/-- The two handles name one storage cell. -/
def sharesStorage (a b : Handle) : Bool := a.pool == b.pool && a.cell == b.cell

end Handle

/-- A pool of interned texts. -/
structure Pool where
  /-- Which pool this is; no two pools have the same number. -/
  serial : Nat
  /-- The cell of each text kept, in text order. -/
  cells : Keyed String Nat := []

namespace Pool

/-- The number of texts kept. -/
def size (p : Pool) : Nat := p.cells.length

/-- The texts kept, in order. -/
def texts (p : Pool) : List String := p.cells.map Prod.fst

/-- The handles of the texts kept, in text order. -/
def handles (p : Pool) : List Handle := p.cells.map fun item => ⟨item.1, p.serial, item.2⟩

/-- The text is kept. -/
def contains (p : Pool) (text : String) : Bool := (p.cells.get? text).isSome

/-- Interns a text.  A new text gets the next unused cell. -/
def intern (p : Pool) (text : String) : Pool × Handle :=
  match p.cells.get? text with
  | some cell => (p, ⟨text, p.serial, cell⟩)
  | none => ({ p with cells := p.cells.update text fun _ => p.size }, ⟨text, p.serial, p.size⟩)

/-- Interns the names of spans, in order. -/
def internSpans : Pool → List (Span String) → Pool × List (Span Handle)
  | p, [] => (p, [])
  | p, s :: rest =>
    let (p, name) := p.intern s.name
    let (p, spans) := p.internSpans rest
    (p, ⟨name, s.first, s.last⟩ :: spans)

/-- Interns a styled text: the names of its spans, then its text.  The first
span that does not fit the text refuses the whole and leaves the pool alone. -/
def internStyled (p : Pool) (s : Styled String) : Pool × Except Fault (Styled Handle) :=
  match s.spans.find? fun span => !span.fits s.text.length with
  | some span => (p, .error (.spanOutsideText span.name span.first span.last s.text))
  | none =>
    let (p, spans) := p.internSpans s.spans
    let (p, text) := p.intern s.text
    (p, .ok ⟨text, spans⟩)

end Pool

end AppResources
