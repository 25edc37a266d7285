import AppResources.NameText

/-!
# The parts of a written name

Package and type are the two parts of a name that have a mark behind them, `:` and `/`.
They are written in either order with the entry last, and a part that is missing is left out
together with its mark (`NameParts.written`).  A text so written shows its parts only if the
marks stand where they may (`NameParts.ReadableFrom`): a part that holds its own mark, say,
would end too early.

While a name is read its entry grows by single characters (`NameParts.push`), until a mark
turns it into a part (`NameParts.close`).
-/

namespace AppResources

/-- A part of a name that has a mark behind it. -/
inductive NamePart where
  /-- The package, `package:`. -/
  | package
  /-- The type, `type/`. -/
  | type

namespace NamePart

/-- The separator that ends the part. -/
def mark : NamePart → Char
  | package => ':'
  | type => '/'

/-- The other part. -/
def other : NamePart → NamePart
  | package => type
  | type => package

/-- A part with its mark behind it; an empty part is dropped together with its mark. -/
def marked (part : NamePart) (text : List Char) : List Char :=
  if text = [] then [] else text ++ [part.mark]

@[simp] theorem other_other (part : NamePart) : part.other.other = part := by
  cases part <;> rfl

theorem eq_or_eq_other (part first : NamePart) : part = first ∨ part = first.other := by
  cases part <;> cases first <;> simp [other]

theorem forall_iff {P : NamePart → Prop} : (∀ part, P part) ↔ P .package ∧ P .type :=
  ⟨fun h => ⟨h _, h _⟩, fun h part => by cases part <;> simp [h]⟩

theorem other_ne (part : NamePart) : part.other ≠ part := by
  cases part <;> simp [other]

theorem mark_other_ne (part : NamePart) : part.other.mark ≠ part.mark := by
  cases part <;> decide

@[simp] theorem marked_nil (part : NamePart) : part.marked [] = [] := rfl

theorem marked_of_ne {part : NamePart} {text : List Char} (h : text ≠ []) :
    part.marked text = text ++ [part.mark] := if_neg h

end NamePart

namespace NameParts

/-- What is given for a part. -/
def given (parts : NameParts) : NamePart → List Char
  | .package => parts.package
  | .type => parts.type

/-- The parts written one behind the other, beginning with `first`. -/
def written (parts : NameParts) (first : NamePart) : List Char :=
  first.marked (parts.given first) ++ first.other.marked (parts.given first.other) ++ parts.entry

/-- Further characters of the entry. -/
def push (parts : NameParts) (text : List Char) : NameParts :=
  { parts with entry := parts.entry ++ text }

/-- The entry turns out to be a part. -/
def close (parts : NameParts) : NamePart → NameParts
  | .package => { parts with package := parts.entry, entry := [] }
  | .type => { parts with type := parts.entry, entry := [] }

/-- The character ends no part. -/
def IsPlain (parts : NameParts) (c : Char) : Prop :=
  ∀ part, parts.given part = [] → c ≠ part.mark

@[simp] theorem given_push (parts : NameParts) (text : List Char) (part : NamePart) :
    (parts.push text).given part = parts.given part := by
  cases part <;> rfl

@[simp] theorem entry_push (parts : NameParts) (text : List Char) :
    (parts.push text).entry = parts.entry ++ text := rfl

@[simp] theorem push_nil (parts : NameParts) : parts.push [] = parts := by
  simp [push]

theorem push_push (parts : NameParts) (text rest : List Char) :
    (parts.push text).push rest = parts.push (text ++ rest) := by
  simp [push]

@[simp] theorem given_close_self (parts : NameParts) (part : NamePart) :
    (parts.close part).given part = parts.entry := by
  cases part <;> rfl

@[simp] theorem given_close_other (parts : NameParts) (part : NamePart) :
    (parts.close part).given part.other = parts.given part.other := by
  cases part <;> rfl

@[simp] theorem entry_close (parts : NameParts) (part : NamePart) :
    (parts.close part).entry = [] := by
  cases part <;> rfl

/-- Nothing happens when an empty part is ended. -/
theorem close_of_empty {parts : NameParts} {part : NamePart} (hpart : parts.given part = [])
    (hentry : parts.entry = []) : parts.close part = parts := by
  obtain ⟨package, type, entry⟩ := parts
  cases part <;> simp_all [close, given]

/-- When a part is missing, it does not matter which part is written first. -/
theorem written_of_missing {parts : NameParts} {part : NamePart} (h : parts.given part = [])
    (first : NamePart) : parts.written first = part.other.marked (parts.given part.other) ++
      parts.entry := by
  rcases first.eq_or_eq_other part with rfl | rfl <;> simp [written, h]

/-- **The marks stand where they may**: no part holds its own mark, and the mark of a
missing part stands nowhere. -/
structure Tidy (parts : NameParts) : Prop where
  own : ∀ part, part.mark ∉ parts.given part
  missing : ∀ part, parts.given part = [] →
    part.mark ∉ parts.given part.other ∧ part.mark ∉ parts.entry

/-- The parts can be read when they are written beginning with `first`: that part must
not hold the mark of the other one either. -/
structure ReadableFrom (parts : NameParts) (first : NamePart) : Prop extends parts.Tidy where
  foreign : first.other.mark ∉ parts.given first

theorem Tidy.push {parts : NameParts} {c : Char} (h : parts.Tidy) (hc : parts.IsPlain c) :
    (parts.push [c]).Tidy where
  own part := by simpa using h.own part
  missing part hpart := by
    rw [given_push] at hpart
    obtain ⟨hother, hentry⟩ := h.missing part hpart
    rw [given_push, entry_push, List.mem_append, List.mem_singleton]
    exact ⟨hother, fun hmem => hmem.elim hentry fun hc' => hc part hpart hc'.symm⟩

theorem Tidy.close {parts : NameParts} {part : NamePart} (h : parts.Tidy)
    (hpart : parts.given part = []) : (parts.close part).Tidy where
  own q := by
    rcases q.eq_or_eq_other part with rfl | rfl
    · simpa using (h.missing _ hpart).2
    · simpa using h.own part.other
  missing q hq := by
    rcases q.eq_or_eq_other part with rfl | rfl
    · simpa using (h.missing _ hpart).1
    · rw [given_close_other] at hq
      simpa using (h.missing _ hq).2

/-- The order makes no difference to the length. -/
theorem length_written (parts : NameParts) (first first' : NamePart) :
    (parts.written first).length = (parts.written first').length := by
  rcases first.eq_or_eq_other first' with rfl | rfl
  · rfl
  · simp only [written, List.length_append, NamePart.other_other]
    omega

theorem written_push (parts : NameParts) (text : List Char) (first : NamePart) :
    (parts.push text).written first = parts.written first ++ text := by
  simp [written]

/-- The order of two parts can be told when the mark of the first one stands in neither. -/
theorem written_ne_written_other {parts : NameParts} {first : NamePart}
    (hfirst : parts.given first ≠ []) (hother : parts.given first.other ≠ [])
    (hown : first.mark ∉ parts.given first) (hforeign : first.mark ∉ parts.given first.other) :
    parts.written first ≠ parts.written first.other := by
  intro h
  -- what stands before the mark of `first`: one part in the one order, both in the other
  have hsplit : parts.given first ++
        first.mark :: (parts.given first.other ++ first.other.mark :: parts.entry) =
      (parts.given first.other ++ first.other.mark :: parts.given first) ++
        first.mark :: parts.entry := by
    simpa [written, NamePart.marked_of_ne hfirst, NamePart.marked_of_ne hother] using h
  rcases List.append_eq_append_iff.mp hsplit with ⟨rest, hparts, hrest⟩ | ⟨rest, hparts, -⟩
  · cases rest with
    | nil =>
      have hlength := congrArg List.length hparts
      simp only [List.length_append, List.length_cons, List.length_nil] at hlength
      omega
    | cons c rest =>
      obtain ⟨rfl, -⟩ := List.cons.inj hrest
      have hmem : first.mark ∈ parts.given first ++ first.mark :: rest := by simp
      rw [← hparts] at hmem
      simp [hown, hforeign, (NamePart.mark_other_ne first).symm] at hmem
  · have hlength := congrArg List.length hparts
    simp only [List.length_append, List.length_cons] at hlength
    omega

/-- A part that is closed was written last. -/
theorem written_close {parts : NameParts} {part : NamePart} (hpart : parts.given part = [])
    (hentry : parts.entry ≠ []) (first : NamePart) :
    (parts.close part).written part.other = parts.written first ++ [part.mark] := by
  rw [written_of_missing hpart]
  simp [written, NamePart.marked_of_ne hentry]

end NameParts

end AppResources
