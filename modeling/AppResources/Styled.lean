/-!
# Styled texts

A styled text is a text with markup **spans**: each has a tag and covers the
characters from its first to its last, both included.  The texts may be plain
strings or handles into a pool, so the type of a text is a parameter.
-/

namespace AppResources

/-- Markup over some characters of a text. -/
structure Span (τ : Type) where
  /-- The tag, with its attributes. -/
  name : τ
  /-- The index of the first character covered. -/
  first : UInt32
  /-- The index of the last character covered. -/
  last : UInt32
  deriving DecidableEq

/-- A text with its spans, in the order they were declared. -/
structure Styled (τ : Type) where
  /-- The text without markup. -/
  text : τ
  /-- The spans. -/
  spans : List (Span τ)
  deriving DecidableEq

/-- Spans are equal when their tags and both their ends are. -/
instance {τ : Type} [BEq τ] : BEq (Span τ) :=
  ⟨fun a b => a.name == b.name && a.first == b.first && a.last == b.last⟩

/-- Styled texts are equal when their texts and spans are. -/
instance {τ : Type} [BEq τ] : BEq (Styled τ) :=
  ⟨fun a b => a.text == b.text && a.spans == b.spans⟩

/-- The span lies within a text of `count` characters. -/
def Span.fits {τ : Type} (count : Nat) (s : Span τ) : Bool :=
  s.first ≤ s.last && s.last.toNat < count

/-- Replaces the texts. -/
def Span.map {τ σ : Type} (f : τ → σ) (s : Span τ) : Span σ := ⟨f s.name, s.first, s.last⟩

/-- Replaces the texts. -/
def Styled.map {τ σ : Type} (f : τ → σ) (s : Styled τ) : Styled σ :=
  ⟨f s.text, s.spans.map (Span.map f)⟩

end AppResources
