import AppResources.Item
import AppResources.Proofs.IntegerLiterals
import AppResources.Proofs.TextReaders

/-!
# The forms of an item

The text of an item is tried as one form after another (`ItemForm`).  No text is of two forms
(`ItemForm.unambiguous`): the characters that a form may begin with tell it from every other,
except that `@null` and `@empty` begin like a reference, and neither is one.  So the forms may
be tried in any order, and a mask that admits more forms reads at least as many texts, and the
same from each.

A reader is not told the blanks around its text (`ReadsTrimmed`), so they change nothing.
-/

namespace AppResources

/-! ## Readers that pass over blanks -/

/-- The reader looks at the trimmed text only. -/
def ReadsTrimmed {α : Type} (read : List Char → α) : Prop :=
  ∀ {text text' : List Char}, trim text = trim text' → read text = read text'

theorem ReadsTrimmed.comp {α β : Type} {read : List Char → α} (h : ReadsTrimmed read) (g : α → β) :
    ReadsTrimmed fun text => g (read text) := fun htrim => congrArg g (h htrim)

theorem readsTrimmed_nullOrEmpty? : ReadsTrimmed Literal.nullOrEmpty? := fun htrim => by
  rw [Literal.nullOrEmpty?, htrim, ← Literal.nullOrEmpty?]

theorem readsTrimmed_color? : ReadsTrimmed Literal.color? := fun htrim => by
  rw [Literal.color?, htrim, ← Literal.color?]

theorem readsTrimmed_truth? : ReadsTrimmed Literal.truth? := fun htrim => by
  rw [Literal.truth?, htrim, ← Literal.truth?]

theorem readsTrimmed_boolean? : ReadsTrimmed Literal.boolean? := readsTrimmed_truth?.comp _

theorem readsTrimmed_integer? : ReadsTrimmed Literal.integer? := fun htrim => by
  rw [Literal.integer?, htrim, ← Literal.integer?]

theorem readsTrimmed_readMention? : ReadsTrimmed readMention? := fun htrim => by
  rw [readMention?, htrim, ← readMention?]

theorem readsTrimmed_readThemeName? : ReadsTrimmed readThemeName? := fun htrim => by
  rw [readThemeName?, htrim, ← readThemeName?]

theorem readsTrimmed_readReference? : ReadsTrimmed readReference? := fun htrim => by
  rw [readReference?, readsTrimmed_readMention? htrim, readsTrimmed_readThemeName? htrim,
    ← readReference?]

/-! ## Forms -/

/-- The forms that the text of an item may have. -/
inductive ItemForm where
  /-- `@null` or `@empty`. -/
  | nullOrEmpty
  /-- A reference to a resource or to the theme. -/
  | reference
  /-- A color. -/
  | color
  /-- A truth value. -/
  | boolean
  /-- An integer. -/
  | integer
  deriving DecidableEq

namespace ItemForm

/-- The forms of scalars, in the order in which they are tried. -/
def scalars : List ItemForm := [color, boolean, integer]

/-- All forms, in the order in which they are tried. -/
def all : List ItemForm := nullOrEmpty :: reference :: scalars

/-- What an item reads that is a scalar. -/
def ofScalar (scalar : Primitive) : ItemReading := ⟨some (.primitive scalar), []⟩

/-- What an item reads that is a reference, and declares what it points at or does not. -/
def ofReference : Reference × Bool → ItemReading
  | (target, declares) =>
    ⟨some (.reference target), if declares then target.name.toList else []⟩

/-- Reads a text of the form. -/
def read (text : List Char) : ItemForm → Option ItemReading
  | nullOrEmpty => (Literal.nullOrEmpty? text).map ofScalar
  | reference => (readReference? text).map ofReference
  | color => (Literal.color? text).map ofScalar
  | boolean => (Literal.boolean? text).map ofScalar
  | integer => (Literal.integer? text).map ofScalar

/-- The form is admitted by the mask: `@null`, `@empty` and references are by every mask. -/
def isAdmitted (mask : FormatMask) : ItemForm → Bool
  | nullOrEmpty | reference => true
  | color => mask.intersects .color
  | boolean => mask.intersects .boolean
  | integer => mask.intersects .integer

/-- What a text is read as when the forms are tried in the order given. -/
def firstReading (forms : List ItemForm) (text : List Char) : ItemReading :=
  (forms.findSome? (read text)).getD ⟨none, []⟩

/-- The characters that a text of the form may begin with. -/
def firstCharacters : ItemForm → List Char
  | nullOrEmpty => ['@']
  | reference => ['@', '?']
  | color => ['#']
  | boolean => ['t', 'T', 'f', 'F']
  | integer => ['+', '-', '0', '1', '2', '3', '4', '5', '6', '7', '8', '9']

theorem readsTrimmed_read (form : ItemForm) : ReadsTrimmed fun text => form.read text := by
  cases form with
  | nullOrEmpty => exact readsTrimmed_nullOrEmpty?.comp (Option.map ofScalar)
  | reference => exact readsTrimmed_readReference?.comp (Option.map ofReference)
  | color => exact readsTrimmed_color?.comp (Option.map ofScalar)
  | boolean => exact readsTrimmed_boolean?.comp (Option.map ofScalar)
  | integer => exact readsTrimmed_integer?.comp (Option.map ofScalar)

/-! ## Forms are told apart -/

section FirstCharacters
variable {text : List Char}

/-- A text is the word that it is compared with. -/
theorem eq_of_ofList_eq {word : String} (h : String.ofList text = word) : text = word.toList := by
  rw [← h, String.toList_ofList]

theorem trim_of_nullOrEmpty? (h : (Literal.nullOrEmpty? text).isSome) :
    ∃ word ∈ ["@null", "@empty"], trim text = word.toList := by
  simp only [Literal.nullOrEmpty?] at h
  split at h
  · rename_i hnull
    exact ⟨_, by simp, eq_of_ofList_eq hnull⟩
  · split at h
    · rename_i hempty
      exact ⟨_, by simp, eq_of_ofList_eq hempty⟩
    · cases h

theorem trim_of_truth? (h : (Literal.truth? text).isSome) :
    ∃ word ∈ ["true", "TRUE", "True", "false", "FALSE", "False"], trim text = word.toList := by
  simp only [Literal.truth?] at h
  split at h
  · rename_i hword
    rcases hword with hword | hword | hword <;> exact ⟨_, by simp, eq_of_ofList_eq hword⟩
  · split at h
    · rename_i hword
      rcases hword with hword | hword | hword <;> exact ⟨_, by simp, eq_of_ofList_eq hword⟩
    · cases h

/-- A text that is one of some words begins like one of them. -/
theorem head?_of_word {words : List String} {first : List Char}
    (hwords : ∀ word ∈ words, ∃ c ∈ first, word.toList.head? = some c)
    (h : ∃ word ∈ words, trim text = word.toList) : ∃ c ∈ first, (trim text).head? = some c := by
  obtain ⟨word, hword, htrim⟩ := h
  rw [htrim]
  exact hwords word hword

theorem head?_of_reference (h : (readReference? text).isSome) :
    ∃ c ∈ reference.firstCharacters, (trim text).head? = some c := by
  obtain ⟨⟨target, declares⟩, hread⟩ := Option.isSome_iff_exists.mp h
  rcases readReference?_eq_some_iff.mp hread with ⟨m, hm, -⟩ | ⟨n, hn, -⟩
  · obtain ⟨rest, htrim, -⟩ := readMention?_eq_some_iff.mp hm
    exact ⟨'@', by decide, by rw [htrim]; rfl⟩
  · obtain ⟨rest, parts, htrim, -⟩ := readThemeName?_eq_some_iff.mp hn
    exact ⟨'?', by decide, by rw [htrim]; rfl⟩

theorem head?_of_color? (h : (Literal.color? text).isSome) :
    ∃ c ∈ color.firstCharacters, (trim text).head? = some c := by
  unfold Literal.color? at h
  split at h
  · rename_i written htrim
    exact ⟨'#', by decide, by rw [htrim]; rfl⟩
  · cases h

theorem head?_of_integer? (h : (Literal.integer? text).isSome) :
    ∃ c ∈ integer.firstCharacters, (trim text).head? = some c := by
  obtain ⟨p, hp⟩ := Option.isSome_iff_exists.mp h
  have hdigit : ∀ d < 10, d.digitChar ∈ integer.firstCharacters ∧
      d.digitChar.toUpper ∈ integer.firstCharacters := by decide
  cases Literal.integer?_eq_some_iff.mp hp with
  | hexadecimal htext hn =>
    generalize trim text = written at htext
    cases htext <;> exact ⟨'0', by decide, rfl⟩
  | decimal htext hmin hmax =>
    generalize trim text = written at htext
    cases htext with
    | plus h => exact ⟨'+', by decide, rfl⟩
    | minus h => exact ⟨'-', by decide, rfl⟩
    | bare h =>
      cases written with
      | nil => exact absurd rfl h.ne_nil
      | cons c rest =>
        obtain ⟨d, hd, rfl | rfl⟩ := h.forall_isDigit c List.mem_cons_self
        · exact ⟨_, (hdigit d hd).1, rfl⟩
        · exact ⟨_, (hdigit d hd).2, rfl⟩

/-- A text of a form begins with one of its characters. -/
theorem head?_of_read {form : ItemForm} (h : (form.read text).isSome) :
    ∃ c ∈ form.firstCharacters, (trim text).head? = some c := by
  cases form <;> simp only [read, Option.isSome_map] at h
  case nullOrEmpty => exact head?_of_word (by simp [firstCharacters]) (trim_of_nullOrEmpty? h)
  case reference => exact head?_of_reference h
  case color => exact head?_of_color? h
  case boolean =>
    rw [Literal.boolean?, Option.isSome_map] at h
    exact head?_of_word (by simp [firstCharacters]) (trim_of_truth? h)
  case integer => exact head?_of_integer? h

/-- `@null` and `@empty` are not references. -/
theorem readReference?_of_nullOrEmpty? (h : (Literal.nullOrEmpty? text).isSome) :
    readReference? text = none := by
  obtain ⟨word, hword, htrim⟩ := trim_of_nullOrEmpty? h
  have hwords : ∀ word ∈ ["@null", "@empty"],
      word.toList = trim word.toList ∧ readReference? word.toList = none := by decide
  obtain ⟨hwhole, hnone⟩ := hwords word hword
  rw [readsTrimmed_readReference? (htrim.trans hwhole), hnone]

/-- Only a reference may begin like `@null` and `@empty`. -/
theorem firstCharacters_apart (f g : ItemForm) : f = g ∨
    (f.firstCharacters.all fun c => !g.firstCharacters.contains c) = true ∨
    (f = nullOrEmpty ∧ g = reference) ∨ (f = reference ∧ g = nullOrEmpty) := by
  cases f <;> cases g <;> decide

/-- **No text is of two forms.** -/
theorem unambiguous {f g : ItemForm} (hf : (f.read text).isSome) (hg : (g.read text).isSome) :
    f = g := by
  obtain ⟨c, hcf, hc⟩ := head?_of_read hf
  obtain ⟨c', hcg, hc'⟩ := head?_of_read hg
  obtain rfl : c = c' := Option.some.inj (hc.symm.trans hc')
  rcases firstCharacters_apart f g with heq | hapart | ⟨rfl, rfl⟩ | ⟨rfl, rfl⟩
  · exact heq
  · have hnot : c ∉ g.firstCharacters := by simpa using List.all_eq_true.mp hapart c hcf
    exact absurd hcg hnot
  · simp only [read, Option.isSome_map] at hf hg
    rw [readReference?_of_nullOrEmpty? hf] at hg
    cases hg
  · simp only [read, Option.isSome_map] at hf hg
    rw [readReference?_of_nullOrEmpty? hg] at hf
    cases hf

end FirstCharacters

/-! ## Trying forms in any order -/

section AnyOrder
variable {forms : List ItemForm} {text : List Char}

theorem firstReading_of_read {form : ItemForm} {reading : ItemReading} (hform : form ∈ forms)
    (h : form.read text = some reading) : firstReading forms text = reading := by
  have hsome : (forms.findSome? (read text)).isSome :=
    List.findSome?_isSome_iff.mpr ⟨form, hform, Option.isSome_of_eq_some h⟩
  obtain ⟨found, hfound⟩ := Option.isSome_iff_exists.mp hsome
  obtain ⟨other, -, hother⟩ := List.exists_of_findSome?_eq_some hfound
  obtain rfl : other = form := unambiguous (Option.isSome_of_eq_some hother)
    (Option.isSome_of_eq_some h)
  obtain rfl : found = reading := Option.some.inj (hother.symm.trans h)
  rw [firstReading, hfound]
  rfl

theorem firstReading_of_none (h : ∀ form ∈ forms, form.read text = none) :
    firstReading forms text = ⟨none, []⟩ := by
  rw [firstReading, List.findSome?_eq_none_iff.mpr h]
  rfl

/-- Forms that are as many read the same, in whichever order they are tried. -/
theorem firstReading_congr {forms' : List ItemForm} (h : ∀ form, form ∈ forms ↔ form ∈ forms') :
    firstReading forms text = firstReading forms' text := by
  by_cases hread : ∃ form ∈ forms, (form.read text).isSome
  · obtain ⟨form, hform, hsome⟩ := hread
    obtain ⟨reading, hreading⟩ := Option.isSome_iff_exists.mp hsome
    rw [firstReading_of_read hform hreading, firstReading_of_read ((h form).mp hform) hreading]
  · have hnone : ∀ form ∈ forms, form.read text = none := fun form hform =>
      Option.not_isSome_iff_eq_none.mp fun hsome => hread ⟨form, hform, hsome⟩
    rw [firstReading_of_none hnone,
      firstReading_of_none fun form hform => hnone form ((h form).mpr hform)]

end AnyOrder

/-! ## What a mask admits -/

theorem mem_all (form : ItemForm) : form ∈ all := by
  cases form <;> decide

/-- The bits of a mask that admit forms. -/
def maskBits : UInt32 :=
  FormatMask.color.bits ||| FormatMask.boolean.bits ||| FormatMask.integer.bits

section Mask
variable {m m' : FormatMask}

/-- What shares a bit with a mask shares it with every mask that contains it. -/
theorem intersects_of_contains (h : m'.contains m = true) {format : FormatMask}
    (hm : m.intersects format = true) : m'.intersects format = true := by
  simp only [FormatMask.contains, FormatMask.intersects, beq_iff_eq, bne_iff_ne] at *
  intro hnone
  apply hm
  rw [← h, UInt32.and_assoc, UInt32.and_comm m.bits, ← UInt32.and_assoc, hnone, UInt32.zero_and]

theorem isAdmitted_of_contains (h : m'.contains m = true) {form : ItemForm}
    (hm : form.isAdmitted m = true) : form.isAdmitted m' = true := by
  cases form with
  | nullOrEmpty | reference => rfl
  | color | boolean | integer => exact intersects_of_contains h hm

theorem isAdmitted_congr (h : m.bits &&& maskBits = m'.bits &&& maskBits) (form : ItemForm) :
    form.isAdmitted m = form.isAdmitted m' := by
  have hbits : ∀ format : FormatMask, maskBits &&& format.bits = format.bits →
      m.intersects format = m'.intersects format := by
    intro format hformat
    rw [FormatMask.intersects, FormatMask.intersects, ← hformat, ← UInt32.and_assoc, h,
      UInt32.and_assoc]
  cases form with
  | nullOrEmpty | reference => rfl
  | color => exact hbits .color (by decide)
  | boolean => exact hbits .boolean (by decide)
  | integer => exact hbits .integer (by decide)

end Mask

end ItemForm

theorem readScalar?_eq (mask : FormatMask) (text : List Char) :
    (readScalar? mask text).map ItemForm.ofScalar =
      (ItemForm.scalars.filter (·.isAdmitted mask)).findSome? (ItemForm.read text) := by
  rw [readScalar?, List.map_findSome?]
  simp only [scalarReaders, ItemForm.scalars, List.filter, ItemForm.isAdmitted]
  cases mask.intersects .color <;> cases mask.intersects .boolean <;>
    cases mask.intersects .integer <;> rfl

/-- An item is read as the first of the forms that its mask admits. -/
theorem readItem_eq (mask : FormatMask) (text : List Char) :
    readItem mask text = ItemForm.firstReading (ItemForm.all.filter (·.isAdmitted mask)) text := by
  have hall : ItemForm.all.filter (·.isAdmitted mask) =
    .nullOrEmpty :: .reference :: ItemForm.scalars.filter (·.isAdmitted mask) := rfl
  rw [hall, ItemForm.firstReading, List.findSome?_cons, List.findSome?_cons, ← readScalar?_eq,
    readItem]
  simp only [ItemForm.read]
  cases Literal.nullOrEmpty? text with
  | some scalar => rfl
  | none =>
    cases readReference? text with
    | some read => rfl
    | none => cases readScalar? mask text <;> rfl

section ReadItem
variable {mask m m' : FormatMask} {text : List Char}

/-- A text of an admitted form is read as that form has it. -/
theorem readItem_of_read {form : ItemForm} (hform : form.isAdmitted mask = true)
    {reading : ItemReading} (h : form.read text = some reading) : readItem mask text = reading := by
  rw [readItem_eq]
  exact ItemForm.firstReading_of_read (List.mem_filter.mpr ⟨form.mem_all, hform⟩) h

/-- What is read is of an admitted form. -/
theorem exists_read_of_readItem (h : (readItem mask text).payload.isSome) :
    ∃ form : ItemForm, form.isAdmitted mask = true ∧
      form.read text = some (readItem mask text) := by
  by_cases hread : ∃ form : ItemForm, form.isAdmitted mask = true ∧ (form.read text).isSome
  · obtain ⟨form, hform, hsome⟩ := hread
    obtain ⟨reading, hreading⟩ := Option.isSome_iff_exists.mp hsome
    exact ⟨form, hform, (readItem_of_read hform hreading).symm ▸ hreading⟩
  · have hnone : ∀ form ∈ ItemForm.all.filter (·.isAdmitted mask), form.read text = none :=
      fun form hform => Option.not_isSome_iff_eq_none.mp fun hsome =>
        hread ⟨form, (List.mem_filter.mp hform).2, hsome⟩
    rw [readItem_eq, ItemForm.firstReading_of_none hnone] at h
    cases h

theorem readItem_of_contains (h : m'.contains m = true)
    (hread : (readItem m text).payload.isSome) : readItem m' text = readItem m text := by
  obtain ⟨form, hform, hreading⟩ := exists_read_of_readItem hread
  exact readItem_of_read (ItemForm.isAdmitted_of_contains h hform) hreading

theorem readsTrimmed_readItem (mask : FormatMask) : ReadsTrimmed (readItem mask) := by
  intro text text' htrim
  have hforms : ItemForm.read text = ItemForm.read text' :=
    funext fun form => form.readsTrimmed_read htrim
  rw [readItem_eq, readItem_eq, ItemForm.firstReading, hforms, ← ItemForm.firstReading]

end ReadItem

/-! ## Names declared in passing -/

/-- The name that a text declares, if it does. -/
def declaredName? (text : List Char) : Option Name :=
  match readMention? text with
  | some m => if m.declares then some m.name else none
  | none => none

section Declared
variable {text : List Char}

/-- A reference declares what it points at exactly when it stands behind `@+`. -/
theorem declares_iff {m : Mention} (h : readMention? text = some m) :
    m.declares = true ↔ ['@', '+'] <+: trim text := by
  obtain ⟨rest, htrim, hafter⟩ := readMention?_eq_some_iff.mp h
  obtain ⟨-, hdeclares, -⟩ := readMentionAfter?_eq_some_iff.mp hafter
  rw [htrim, hdeclares, List.cons_prefix_cons, and_iff_right rfl]
  cases rest with
  | nil => simp [takeSign]
  | cons c rest => by_cases hc : c = '+' <;> simp [takeSign, hc, eq_comm]

theorem declaredName?_eq_some_iff {name : Name} : declaredName? text = some name ↔
    ∃ m, readMention? text = some m ∧ ['@', '+'] <+: trim text ∧ m.name = name := by
  unfold declaredName?
  cases h : readMention? text with
  | none => simp
  | some m => simp [← declares_iff h]

/-- Only identifiers are declared in passing. -/
theorem type_of_declaredName? {name : Name} (h : declaredName? text = some name) :
    name.type = .id := by
  obtain ⟨m, hm, hplus, rfl⟩ := declaredName?_eq_some_iff.mp h
  obtain ⟨rest, -, hafter⟩ := readMention?_eq_some_iff.mp hm
  obtain ⟨-, hdeclares, hid⟩ := readMentionAfter?_eq_some_iff.mp hafter
  exact (hid (hdeclares ▸ (declares_iff hm).mpr hplus)).2

/-- Whatever the mask, an item declares the name that its text declares, and no other. -/
theorem declared_readItem (mask : FormatMask) (text : List Char) :
    (readItem mask text).declared = (declaredName? text).toList := by
  cases hnull : Literal.nullOrEmpty? text with
  | some scalar =>
    have hnone := ItemForm.readReference?_of_nullOrEmpty? (Option.isSome_of_eq_some hnull)
    cases hmention : readMention? text with
    | some m => simp only [readReference?, hmention, reduceCtorEq] at hnone
    | none => simp only [readItem, declaredName?, hnull, hmention, Option.toList_none]
  | none =>
    cases hmention : readMention? text with
    | some m =>
      simp only [readItem, declaredName?, readReference?, hnull, hmention]
      cases m.declares <;> rfl
    | none =>
      cases htheme : readThemeName? text <;>
        simp only [readItem, declaredName?, readReference?, hnull, hmention, htheme] <;> rfl

end Declared

/-! ## What reading an item comes to -/

/-- **Items are read without ambiguity.** -/
structure ReadsItems : Prop where
  /-- No text is of two forms. -/
  unambiguous : ∀ text (f g : ItemForm), (f.read text).isSome → (g.read text).isSome → f = g
  /-- The forms that the mask admits may be tried in any order. -/
  anyOrder : ∀ mask text (forms : List ItemForm), (∀ f, f ∈ forms ↔ f.isAdmitted mask = true) →
    readItem mask text = ItemForm.firstReading forms text
  /-- What is read for a mask is read for every mask that contains it. -/
  monotone : ∀ m m' text, m'.contains m = true → (readItem m text).payload.isSome →
    readItem m' text = readItem m text
  /-- No other bits of the mask count than those of colors, truth values and integers. -/
  maskBits : ∀ m m' text, m.bits &&& ItemForm.maskBits = m'.bits &&& ItemForm.maskBits →
    readItem m text = readItem m' text
  /-- Blanks around a text do not count, whatever it is read as. -/
  blanks : ∀ before after : List Char, (∀ c ∈ before, isBlank c = true) →
    (∀ c ∈ after, isBlank c = true) → ∀ text,
      (∀ form : ItemForm, form.read (before ++ text ++ after) = form.read text) ∧
      ∀ mask, readItem mask (before ++ text ++ after) = readItem mask text
  /-- Whatever the mask, what is declared is the name that the text declares, if it does. -/
  declared : ∀ mask text, (readItem mask text).declared = (declaredName? text).toList
  /-- A text declares the name of the reference that it is, behind `@+`. -/
  declares : ∀ text name, declaredName? text = some name ↔
    ∃ m, readMention? text = some m ∧ ['@', '+'] <+: trim text ∧ m.name = name
  /-- The name is that of an identifier. -/
  declaresIdent : ∀ text name, declaredName? text = some name → name.type = .id

theorem readsItems : ReadsItems where
  unambiguous _ _ _ := ItemForm.unambiguous
  anyOrder mask text forms hforms := by
    rw [readItem_eq]
    refine ItemForm.firstReading_congr fun form => ?_
    rw [hforms, List.mem_filter, and_iff_right form.mem_all]
  monotone _ _ _ := readItem_of_contains
  maskBits m m' text h := by
    rw [readItem_eq, readItem_eq, funext (ItemForm.isAdmitted_congr h)]
  blanks before after hbefore hafter text := by
    have htrim := trim_padded hbefore hafter text
    exact ⟨fun form => form.readsTrimmed_read htrim, fun mask => readsTrimmed_readItem mask htrim⟩
  declared := declared_readItem
  declares _ _ := declaredName?_eq_some_iff
  declaresIdent _ _ := type_of_declaredName?

/-- A declaration is seen whatever the mask and the blanks. -/
example :
    (readItem ⟨0⟩ "\u3000@+id/title\n".toList).declared = [⟨"", .id, "title"⟩] := by
  decide

end AppResources
