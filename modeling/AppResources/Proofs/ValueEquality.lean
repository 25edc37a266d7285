import AppResources.Proofs.Interning
import AppResources.Value
import Mathlib.Logic.Function.Basic
import Mathlib.Logic.Relation

/-!
# Equality of values

Two values are equal when they hold the same content at every depth.  What does not count is
**erased** (`Value.erase`): in the value and in every value inside it, the particulars of the
declaration and the input of a file; and of a text that is a handle, the storage that it names.
Values are equal exactly when they are the same after that (`Value.same_iff`), by one induction
over payloads, values and the three ways in which a payload holds values.

So handles compare like the texts that they stand for, whichever pools they are from, and a
table may as well hold plain texts.  And a value that is given other particulars, itself or
somewhere inside (`Value.Restates`), equals the same values as before.
-/

namespace AppResources

section Erasing
variable {τ σ : Type}

mutual

/-- The payload without the particulars of declarations and the inputs of files, and with what
counts of its texts. -/
def Payload.erase (text : τ → σ) : Payload τ → Payload σ
  | .reference target => .reference target
  | .id => .id
  | .rawString t => .rawString (text t)
  | .string t => .string (text t)
  | .styledString styled => .styledString (styled.map text)
  | .fileReference path _ => .fileReference (text path) none
  | .primitive scalar => .primitive scalar
  | .attr definition => .attr definition
  | .style parent parentInferred items => .style parent parentInferred (eraseItems text items)
  | .array elements => .array (eraseElements text elements)
  | .plural zero one two few many other =>
    .plural (eraseOption text zero) (eraseOption text one) (eraseOption text two)
      (eraseOption text few) (eraseOption text many) (eraseOption text other)
  | .styleable members => .styleable members
termination_by structural p => p

/-- The erased payload, with the same particulars for every value. -/
def Value.erase (text : τ → σ) : Value τ → Value σ
  | ⟨_, _, _, _, payload⟩ => { payload := payload.erase text }
termination_by structural v => v

/-- The values that a style sets, erased. -/
def eraseItems (text : τ → σ) : List (Reference × Value τ) → List (Reference × Value σ)
  | [] => []
  | (key, v) :: rest => (key, v.erase text) :: eraseItems text rest
termination_by structural xs => xs

/-- The elements of an array, erased. -/
def eraseElements (text : τ → σ) : List (Value τ) → List (Value σ)
  | [] => []
  | v :: rest => v.erase text :: eraseElements text rest
termination_by structural xs => xs

/-- The value for a quantity, erased if it is there. -/
def eraseOption (text : τ → σ) : Option (Value τ) → Option (Value σ)
  | none => none
  | some v => some (v.erase text)
termination_by structural o => o

end

end Erasing

/-! ## Equal means the same after erasing -/

section Same
variable {τ σ : Type} [BEq τ] {text : τ → σ}

/-- Lists are equal when they are so element by element. -/
theorem beq_iff_map {α β : Type} [BEq α] {f : α → β}
    (h : ∀ a b, (a == b) = true ↔ f a = f b) (xs ys : List α) :
    (xs == ys) = true ↔ xs.map f = ys.map f := by
  induction xs generalizing ys with
  | nil => cases ys <;> simp
  | cons x xs ih =>
    cases ys with
    | nil => simp
    | cons y ys =>
      rw [List.cons_beq_cons, Bool.and_eq_true, h, ih, List.map_cons, List.map_cons,
        List.cons.injEq]

theorem Span.beq_iff (htext : ∀ s t, (s == t) = true ↔ text s = text t) (a b : Span τ) :
    (a == b) = true ↔ a.map text = b.map text := by
  show (a.name == b.name && a.first == b.first && a.last == b.last) = true ↔ _
  rw [Bool.and_eq_true, Bool.and_eq_true, htext, beq_iff_eq, beq_iff_eq, Span.map, Span.map,
    Span.mk.injEq, and_assoc]

theorem Styled.beq_iff (htext : ∀ s t, (s == t) = true ↔ text s = text t) (a b : Styled τ) :
    (a == b) = true ↔ a.map text = b.map text := by
  show (a.text == b.text && a.spans == b.spans) = true ↔ _
  rw [Bool.and_eq_true, htext, beq_iff_map (Span.beq_iff htext), Styled.map, Styled.map,
    Styled.mk.injEq]

omit [BEq τ] in
theorem Payload.kind_erase (p : Payload τ) : (p.erase text).kind = p.kind := by
  cases p <;> rfl

theorem Payload.kind_of_same {p q : Payload τ} (h : p.same q = true) : p.kind = q.kind := by
  revert h
  cases p <;> cases q <;> simp [Payload.same, Payload.kind]

mutual

theorem Payload.same_iff (htext : ∀ s t, (s == t) = true ↔ text s = text t) (p q : Payload τ) :
    p.same q = true ↔ p.erase text = q.erase text := by
  -- Both sides tell the kinds apart, so only payloads of one kind are left to compare.
  by_cases hkind : p.kind = q.kind
  · cases p <;> cases q <;> simp only [Payload.kind, reduceCtorEq] at hkind
    case reference.reference | primitive.primitive | attr.attr | styleable.styleable =>
      simp only [Payload.same, Payload.erase, beq_iff_eq, Payload.reference.injEq,
        Payload.primitive.injEq, Payload.attr.injEq, Payload.styleable.injEq]
    case id.id => exact iff_of_true rfl rfl
    case rawString.rawString | string.string =>
      simp only [Payload.same, Payload.erase, htext, Payload.rawString.injEq, Payload.string.injEq]
    case styledString.styledString a b =>
      rw [Payload.same, Styled.beq_iff htext, Payload.erase, Payload.erase,
        Payload.styledString.injEq]
    case fileReference.fileReference =>
      simp only [Payload.same, Payload.erase, htext, Payload.fileReference.injEq, and_true]
    case style.style =>
      simp only [Payload.same, Payload.erase, Bool.and_eq_true, beq_iff_eq, sameItems_iff htext,
        Payload.style.injEq, and_assoc]
    case array.array =>
      rw [Payload.same, sameElements_iff htext, Payload.erase, Payload.erase, Payload.array.injEq]
    case plural.plural =>
      simp only [Payload.same, Payload.erase, Bool.and_eq_true, sameOption_iff htext,
        Payload.plural.injEq, and_assoc]
  · refine iff_of_false (fun h => hkind (Payload.kind_of_same h)) fun h => hkind ?_
    rw [← Payload.kind_erase, h, Payload.kind_erase]
termination_by structural p

theorem Value.same_iff (htext : ∀ s t, (s == t) = true ↔ text s = text t) (v w : Value τ) :
    v.same w = true ↔ v.erase text = w.erase text := by
  cases v
  cases w
  simp only [Value.same, Value.erase, Payload.same_iff htext, Value.mk.injEq, true_and]
termination_by structural v

theorem sameItems_iff (htext : ∀ s t, (s == t) = true ↔ text s = text t)
    (xs ys : List (Reference × Value τ)) :
    sameItems xs ys = true ↔ eraseItems text xs = eraseItems text ys := by
  cases xs with
  | nil => cases ys <;> simp [sameItems, eraseItems]
  | cons x xs =>
    obtain ⟨key, v⟩ := x
    cases ys with
    | nil => simp [sameItems, eraseItems]
    | cons y ys =>
      simp only [sameItems, eraseItems, Bool.and_eq_true, beq_iff_eq, Value.same_iff htext v,
        sameItems_iff htext xs, List.cons.injEq, Prod.mk.injEq]
termination_by structural xs

theorem sameElements_iff (htext : ∀ s t, (s == t) = true ↔ text s = text t)
    (xs ys : List (Value τ)) :
    sameElements xs ys = true ↔ eraseElements text xs = eraseElements text ys := by
  cases xs with
  | nil => cases ys <;> simp [sameElements, eraseElements]
  | cons v xs =>
    cases ys with
    | nil => simp [sameElements, eraseElements]
    | cons w ys =>
      simp only [sameElements, eraseElements, Bool.and_eq_true, Value.same_iff htext v,
        sameElements_iff htext xs, List.cons.injEq]
termination_by structural xs

theorem sameOption_iff (htext : ∀ s t, (s == t) = true ↔ text s = text t)
    (o o' : Option (Value τ)) :
    sameOption o o' = true ↔ eraseOption text o = eraseOption text o' := by
  cases o with
  | none => cases o' <;> simp [sameOption, eraseOption]
  | some v =>
    cases o' with
    | none => simp [sameOption, eraseOption]
    | some w => simp only [sameOption, eraseOption, Value.same_iff htext v, Option.some.injEq]
termination_by structural o

end

end Same

/-! ## Values declared again -/

section Restating
variable {τ σ : Type} {text : τ → σ}

/-- One particular of the value, or of a value somewhere inside it, was changed. -/
inductive Value.Restates : Value τ → Value τ → Prop
  /-- The place of the declaration. -/
  | source (v : Value τ) (source : Source) : Restates v { v with source }
  /-- The comment at the declaration. -/
  | comment (v : Value τ) (comment : String) : Restates v { v with comment }
  /-- Whether it was declared weak. -/
  | weak (v : Value τ) (weak : Bool) : Restates v { v with weak }
  /-- Whether it is to be translated. -/
  | translatable (v : Value τ) (translatable : Bool) : Restates v { v with translatable }
  /-- The input that a file comes from. -/
  | input {v : Value τ} {path : τ} {input : Option Source}
    (hv : v.payload = .fileReference path input) (input' : Option Source) :
    Restates v { v with payload := .fileReference path input' }
  /-- A particular of a value that a style sets. -/
  | item {v w w' : Value τ} {parent : Option Reference} {parentInferred : Bool}
    {before after : List (Reference × Value τ)} {key : Reference}
    (hv : v.payload = .style parent parentInferred (before ++ (key, w) :: after))
    (h : Restates w w') :
    Restates v { v with payload := .style parent parentInferred (before ++ (key, w') :: after) }
  /-- A particular of an element of an array. -/
  | element {v w w' : Value τ} {before after : List (Value τ)}
    (hv : v.payload = .array (before ++ w :: after)) (h : Restates w w') :
    Restates v { v with payload := .array (before ++ w' :: after) }
  /-- A particular of the value for a quantity. -/
  | quantity {v w w' : Value τ} {values : Quantity → Option (Value τ)} {q : Quantity}
    (hv : v.payload = .ofQuantities values) (hq : values q = some w) (h : Restates w w') :
    Restates v { v with payload := .ofQuantities (Function.update values q (some w')) }

theorem Value.erase_eq (v : Value τ) : v.erase text = { payload := v.payload.erase text } := by
  cases v
  rfl

theorem eraseItems_append (xs ys : List (Reference × Value τ)) :
    eraseItems text (xs ++ ys) = eraseItems text xs ++ eraseItems text ys := by
  induction xs with
  | nil => rfl
  | cons x xs ih => exact congrArg _ ih

theorem eraseElements_append (xs ys : List (Value τ)) :
    eraseElements text (xs ++ ys) = eraseElements text xs ++ eraseElements text ys := by
  induction xs with
  | nil => rfl
  | cons v xs ih => exact congrArg _ ih

theorem Payload.erase_ofQuantities (values : Quantity → Option (Value τ)) :
    (Payload.ofQuantities values).erase text =
      .ofQuantities fun q => eraseOption text (values q) := rfl

/-- **A change of particulars is erased**, however deep inside the value it was made. -/
theorem Value.Restates.erase_eq {v w : Value τ} (h : v.Restates w) :
    v.erase text = w.erase text := by
  induction h with
  | source | comment | weak | translatable => rw [Value.erase_eq, Value.erase_eq]
  | input hv => rw [Value.erase_eq, Value.erase_eq, hv, Payload.erase, Payload.erase]
  | item hv _ ih =>
    rw [Value.erase_eq, Value.erase_eq, hv, Payload.erase, Payload.erase, eraseItems_append,
      eraseItems_append, eraseItems, eraseItems, ih]
  | element hv _ ih =>
    rw [Value.erase_eq, Value.erase_eq, hv, Payload.erase, Payload.erase, eraseElements_append,
      eraseElements_append, eraseElements, eraseElements, ih]
  | @quantity v w w' values q hv hq _ ih =>
    have hvalues : (fun r => eraseOption text (values r)) =
        fun r => eraseOption text (Function.update values q (some w') r) := by
      funext r
      by_cases hr : r = q
      · rw [hr, Function.update_self, hq, eraseOption, eraseOption, ih]
      · rw [Function.update_of_ne hr]
    rw [Value.erase_eq, Value.erase_eq, hv, Payload.erase_ofQuantities,
      Payload.erase_ofQuantities, hvalues]

end Restating

/-! ## Equality by content -/

/-- **Values are equal by their content**, where `text` is what counts of their texts. -/
structure EqualByContent (τ : Type) [BEq τ] (text : τ → String) : Prop where
  /-- They are equal exactly when they are the same after erasing. -/
  iff_erase : ∀ a b : Value τ, (a == b) = true ↔ a.erase text = b.erase text
  /-- Every value equals itself, on either side of another, and along a chain. -/
  equivalence : Equivalence fun a b : Value τ => (a == b) = true
  /-- Changes of particulars do not matter, however many were made and however deep inside. -/
  restated : ∀ a b : Value τ, Relation.ReflTransGen Value.Restates a b →
    ∀ c, (a == c) = (b == c) ∧ (c == a) = (c == b)

theorem EqualByContent.of_beq_iff {τ : Type} [BEq τ] {text : τ → String}
    (htext : ∀ s t, (s == t) = true ↔ text s = text t) : EqualByContent τ text := by
  have hiff : ∀ a b : Value τ, (a == b) = true ↔ a.erase text = b.erase text :=
    Value.same_iff htext
  refine ⟨hiff, ⟨?_, ?_, ?_⟩, ?_⟩
  · exact fun a => (hiff a a).mpr rfl
  · exact fun {a b} hab => (hiff b a).mpr ((hiff a b).mp hab).symm
  · exact fun {a b c} hab hbc => (hiff a c).mpr (((hiff a b).mp hab).trans ((hiff b c).mp hbc))
  · intro a b hab c
    have herase : a.erase text = b.erase text := by
      induction hab with
      | refl => rfl
      | tail _ hstep ih => exact ih.trans hstep.erase_eq
    constructor
    · rw [Bool.eq_iff_iff, hiff, hiff, herase]
    · rw [Bool.eq_iff_iff, hiff, hiff, herase]

/-- **Values are equal by their content**, whether their texts are handles or plain. -/
theorem values_equalByContent : EqualByContent Handle Handle.text ∧ EqualByContent String id :=
  ⟨.of_beq_iff fun _ _ => Handle.beq_iff, .of_beq_iff fun _ _ => beq_iff_eq⟩

/-- Handles of two pools, in a file from some input and in one from none. -/
example :
    (({ payload := .array [{ payload := .fileReference ⟨"icon", 0, 7⟩ (some {}), weak := true }] } :
      Value Handle) == { payload := .array [{ payload := .fileReference ⟨"icon", 1, 0⟩ none }] }) =
    true := by
  decide

end AppResources
