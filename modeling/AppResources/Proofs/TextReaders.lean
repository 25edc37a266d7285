import AppResources.ReferenceText

/-!
# What the readers ask of the pass

The readers of names and references take signs off the front of a text, hand the rest to
`splitName` and look at the parts.  Their optional signs, `*` and `+`, are taken off in the
same way (`takeSign`), so each reader is described by what it takes off, by the parts that it
asks for, and by what it makes of them.
-/

namespace AppResources

/-- Takes an optional sign off a text: whether it was there, and the text behind it. -/
def takeSign (sign : Char) : List Char → Bool × List Char
  | [] => (false, [])
  | c :: rest => if c = sign then (true, rest) else (false, c :: rest)

@[simp] theorem takeSign_self (sign : Char) (rest : List Char) :
    takeSign sign (sign :: rest) = (true, rest) := if_pos rfl

theorem takeSign_of_head {sign : Char} {text : List Char} (h : text.head? ≠ some sign) :
    takeSign sign text = (false, text) := by
  cases text with
  | nil => rfl
  | cons c rest => exact if_neg fun hc => h (congrArg some hc)

/-- No sign is taken off exactly when the text does not begin with it. -/
theorem takeSign_eq_false_iff {sign : Char} {text : List Char} :
    (takeSign sign text).1 = false ↔ text.head? ≠ some sign := by
  constructor
  · intro h hhead
    obtain ⟨rest, rfl⟩ := List.head?_eq_some_iff.mp hhead
    rw [takeSign_self] at h
    cases h
  · intro h
    rw [takeSign_of_head h]

theorem takeSign_suffix (sign : Char) (text : List Char) : (takeSign sign text).2 <:+ text := by
  cases text with
  | nil => exact List.suffix_refl []
  | cons c rest =>
    by_cases hc : c = sign
    · subst hc
      rw [takeSign_self]
      exact List.suffix_cons c rest
    · simp [takeSign, hc]

/-! ## Names -/

/-- The parts of a name, as they are written. -/
def Name.parts (n : Name) : NameParts := ⟨n.package.toList, n.type.text.toList, n.entry.toList⟩

/-- The name that the parts are of: the type has to be known and an entry to be given. -/
def NameParts.name? (parts : NameParts) : Option Name :=
  match ResourceType.ofText? (String.ofList parts.type) with
  | none => none
  | some type =>
    if parts.entry.isEmpty then none
    else some ⟨String.ofList parts.package, type, String.ofList parts.entry⟩

theorem NameParts.name?_eq_some_iff {parts : NameParts} {n : Name} :
    parts.name? = some n ↔ parts = n.parts ∧ n.entry ≠ "" := by
  constructor
  · intro h
    unfold name? at h
    split at h
    · cases h
    · rename_i type htype
      split at h
      · cases h
      · rename_i hentry
        cases h
        refine ⟨?_, by simpa using hentry⟩
        simp [Name.parts, ResourceType.text_of_ofText? htype]
  · rintro ⟨rfl, hentry⟩
    have hgiven : n.entry.toList.isEmpty = false := by simpa using hentry
    simp [name?, Name.parts, hgiven]

/-- The reader of names takes off the private mark and hands the rest to the pass. -/
theorem readName?_eq (whole : List Char) :
    readName? whole = ((splitName (takeSign '*' whole).2).bind NameParts.name?).map
      fun n => (n, (takeSign '*' whole).1) := by
  unfold readName?
  split
  rename_i isPrivate written hsign
  have htake : takeSign '*' whole = (isPrivate, written) := by
    rw [← hsign]
    cases whole with
    | nil => rfl
    | cons c rest =>
      by_cases hc : c = '*'
      · subst hc
        rfl
      · simp [takeSign, hc]
  rw [htake]
  cases splitName written with
  | none => rfl
  | some parts =>
    simp only [Option.bind_some, NameParts.name?]
    cases ResourceType.ofText? (String.ofList parts.type) with
    | none => rfl
    | some type => cases parts.entry.isEmpty <;> rfl

theorem readName?_eq_some_iff {whole : List Char} {n : Name} {isPrivate : Bool} :
    readName? whole = some (n, isPrivate) ↔ (takeSign '*' whole).1 = isPrivate ∧
      splitName (takeSign '*' whole).2 = some n.parts ∧ n.entry ≠ "" := by
  rw [readName?_eq, Option.map_eq_some_iff]
  constructor
  · rintro ⟨name, hname, h⟩
    cases h
    obtain ⟨parts, hsplit, hparts⟩ := Option.bind_eq_some_iff.mp hname
    obtain ⟨rfl, hentry⟩ := NameParts.name?_eq_some_iff.mp hparts
    exact ⟨rfl, hsplit, hentry⟩
  · rintro ⟨rfl, hsplit, hentry⟩
    exact ⟨n, Option.bind_eq_some_iff.mpr
      ⟨n.parts, hsplit, NameParts.name?_eq_some_iff.mpr ⟨rfl, hentry⟩⟩, rfl⟩

/-- A name proper is one that is read without the private mark. -/
theorem Name.ofText_eq_ok_iff {text : String} {n : Name} :
    Name.ofText text = .ok n ↔ text.toList.head? ≠ some '*' ∧
      splitName text.toList = some n.parts ∧ n.entry ≠ "" := by
  have hread : Name.ofText text = .ok n ↔ readName? text.toList = some (n, false) := by
    unfold ofText
    split
    · rename_i name h
      rw [h, Except.ok.injEq, Option.some.injEq, Prod.mk.injEq, and_iff_left rfl]
    · rename_i h
      exact ⟨fun h' => (nomatch h'), fun h' => absurd h' (h n)⟩
  rw [hread, readName?_eq_some_iff, takeSign_eq_false_iff]
  refine and_congr_right fun hhead => ?_
  rw [takeSign_of_head hhead]

/-! ## References -/

theorem readMentionAfter?_eq_some_iff {declares : Bool} {text : List Char} {m : Mention} :
    readMentionAfter? declares text = some m ↔ readName? text = some (m.name, m.isPrivate) ∧
      m.declares = declares ∧ (declares = true → m.isPrivate = false ∧ m.name.type = .id) := by
  obtain ⟨name, declares', isPrivate⟩ := m
  unfold readMentionAfter?
  cases readName? text with
  | none => simp
  | some read =>
    obtain ⟨name', isPrivate'⟩ := read
    cases declares with
    | false => simp only [Bool.false_and]; grind
    | true =>
      by_cases hallowed : isPrivate' = false ∧ name'.type = .id
      · obtain ⟨rfl, htype⟩ := hallowed
        simp only [htype]; grind
      · have hrefused : (isPrivate' || name'.type != .id) = true := by grind
        simp only [hrefused]; grind

/-- What a resource reference has in front of its name. -/
theorem readMention?_eq_some_iff {whole : List Char} {m : Mention} :
    readMention? whole = some m ↔ ∃ rest, trim whole = '@' :: rest ∧
      readMentionAfter? (takeSign '+' rest).1 (takeSign '+' rest).2 = some m := by
  unfold readMention?
  split
  · rename_i rest htrim
    simp [htrim]
  · rename_i rest hrest htrim
    have hhead : rest.head? ≠ some '+' := by
      intro hhead
      obtain ⟨rest', rfl⟩ := List.head?_eq_some_iff.mp hhead
      exact hrest rest' rfl
    simp [htrim, takeSign_of_head hhead]
  · rename_i hat
    refine ⟨fun h => (nomatch h), ?_⟩
    rintro ⟨rest, htrim, -⟩
    exact absurd htrim (hat rest)

theorem readThemeName?_eq_some_iff {whole : List Char} {n : Name} :
    readThemeName? whole = some n ↔ ∃ rest parts, trim whole = '?' :: rest ∧
      splitName rest = some parts ∧ (parts.type = [] ∨ parts.type = ResourceType.attr.text.toList) ∧
      parts.entry ≠ [] ∧ n = ⟨String.ofList parts.package, .attr, String.ofList parts.entry⟩ := by
  have hattr : ResourceType.attr.text.toList = ['a', 't', 't', 'r'] := rfl
  unfold readThemeName?
  split
  · rename_i rest htrim
    cases hsplit : splitName rest with
    | none => simp [htrim, hsplit]
    | some parts =>
      rw [hattr]
      by_cases htype : parts.type = [] ∨ parts.type = ['a', 't', 't', 'r']
      · have hkept : (parts.type != [] && parts.type != ['a', 't', 't', 'r']) = false := by
          rcases htype with h | h <;> simp [h]
        by_cases hentry : parts.entry = []
        · simp [htrim, hsplit, hkept, hentry]
        · simp [htrim, hsplit, hkept, htype, hentry, eq_comm (a := n)]
      · have hrefused : (parts.type != [] && parts.type != ['a', 't', 't', 'r']) = true := by
          simpa using htype
        simp [htrim, hsplit, htype, hrefused]
  · rename_i hmark
    refine ⟨fun h => (nomatch h), ?_⟩
    rintro ⟨rest, parts, htrim, -⟩
    exact absurd htrim (hmark rest)

/-- A reference is a resource reference or a theme reference. -/
theorem readReference?_eq_some_iff {whole : List Char} {r : Reference} {declares : Bool} :
    readReference? whole = some (r, declares) ↔
      (∃ m, readMention? whole = some m ∧ r = { name := some m.name, isPrivate := m.isPrivate } ∧
        declares = m.declares) ∨
      (∃ n, readThemeName? whole = some n ∧ r = { name := some n, kind := .theme } ∧
        declares = false) := by
  unfold readReference?
  cases hmention : readMention? whole with
  | some m =>
    -- a text that begins with `@` does not begin with `?`
    obtain ⟨rest, hat, -⟩ := readMention?_eq_some_iff.mp hmention
    have htheme : ∀ n, readThemeName? whole ≠ some n := by
      intro n hn
      obtain ⟨rest', parts, hmark, -⟩ := readThemeName?_eq_some_iff.mp hn
      rw [hat] at hmark
      exact absurd (List.cons.inj hmark).1 (by decide)
    simp [htheme, eq_comm]
  | none => cases readThemeName? whole <;> simp [eq_comm]

theorem readReference?_resource_iff {whole : List Char} {n : Name} {isPrivate declares : Bool} :
    readReference? whole = some ({ name := some n, isPrivate := isPrivate }, declares) ↔
      readMention? whole = some ⟨n, declares, isPrivate⟩ := by
  rw [readReference?_eq_some_iff]
  constructor
  · rintro (⟨⟨name, declares', isPrivate'⟩, hm, hr, hdeclares⟩ | ⟨name, -, hr, -⟩)
    · cases hr
      cases hdeclares
      exact hm
    · cases hr
  · intro hm
    exact .inl ⟨_, hm, rfl, rfl⟩

theorem readReference?_theme_iff {whole : List Char} {n : Name} :
    readReference? whole = some ({ name := some n, kind := .theme }, false) ↔
      readThemeName? whole = some n := by
  rw [readReference?_eq_some_iff]
  constructor
  · rintro (⟨m, -, hr, -⟩ | ⟨name, hname, hr, -⟩)
    · cases hr
    · cases hr
      exact hname
  · intro hn
    exact .inr ⟨n, hn, rfl, rfl⟩

end AppResources
