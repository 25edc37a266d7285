import AppResources.Item
import AppResources.Proofs.NameRoundTrip
import Mathlib.Data.List.Basic

/-!
# References that are read back

A reference is written with its sign, the private mark and its name with the package first.
Reading is more liberal: it passes over blanks, takes the type before the package, does
without the type of a theme reference, and lets the entry hold marks.  So what is read can
be looked at in two ways.

* What a reader can come upon at all (`Reference.IsReadable`).  The limits come from the pass:
  a package without `:`, an entry that does not end in a blank.
* Which of these are read back from their written forms (`Reference.readReference?_text_iff`).
  A package may have been read that holds `/`, after the type, or begins with `*` or `+`, and
  written in front it is taken for something else (`ofText_text_typeFirst`).
-/

namespace AppResources

/-! ## What is read -/

/-- What is known of parts that a reader got from the end of a trimmed text. -/
theorem parts_of_trimmed {whole text : List Char} {parts : NameParts}
    (hsuffix : text <:+ trim whole) (h : splitName text = some parts) (hentry : parts.entry ≠ []) :
    ':' ∉ parts.package ∧ (parts.package = [] → ':' ∉ parts.entry) ∧
      ∀ c ∈ parts.entry.getLast?, isBlank c = false := by
  have htidy := tidy_of_splitName h
  refine ⟨htidy.own .package, fun hpackage => (htidy.missing .package hpackage).2, ?_⟩
  intro c hc
  obtain ⟨before, hbefore⟩ := (entry_suffix h).trans hsuffix
  apply isBlank_getLast?_trim c
  rwa [← hbefore, List.getLast?_append_of_ne_nil _ hentry]

namespace Reference

/-- **What a reader can come upon**: a reference by name, not by identifier, and a theme
reference only to an attribute and not a private one. -/
structure IsReadable (r : Reference) (n : Name) : Prop where
  name : r.name = some n
  id : r.id = none
  theme : r.kind = .theme → r.isPrivate = false ∧ n.type = .attr
  colon : ':' ∉ n.package.toList
  unqualified : n.package = "" → ':' ∉ n.entry.toList
  entry : n.entry ≠ ""
  blank : ∀ c ∈ n.entry.toList.getLast?, isBlank c = false

variable {r : Reference} {n : Name} {whole : List Char}

theorem isReadable_of_readReference? {declares : Bool}
    (h : readReference? whole = some (r, declares)) : ∃ n, r.IsReadable n := by
  rcases readReference?_eq_some_iff.mp h with ⟨m, hm, rfl, -⟩ | ⟨n, hn, rfl, -⟩
  · obtain ⟨rest, hat, hafter⟩ := readMention?_eq_some_iff.mp hm
    obtain ⟨hread, -, -⟩ := readMentionAfter?_eq_some_iff.mp hafter
    obtain ⟨-, hsplit, hentry⟩ := readName?_eq_some_iff.mp hread
    have hsuffix : (takeSign '*' (takeSign '+' rest).2).2 <:+ trim whole := by
      rw [hat]
      exact ((takeSign_suffix _ _).trans (takeSign_suffix _ _)).trans (List.suffix_cons _ _)
    obtain ⟨hcolon, hunqualified, hblank⟩ :=
      parts_of_trimmed hsuffix hsplit fun h => hentry (String.toList_eq_nil_iff.mp h)
    exact ⟨m.name, rfl, rfl, fun h => (nomatch h), hcolon,
      fun h => hunqualified (String.toList_eq_nil_iff.mpr h), hentry, hblank⟩
  · obtain ⟨rest, parts, hmark, hsplit, -, hentry, rfl⟩ := readThemeName?_eq_some_iff.mp hn
    have hsuffix : rest <:+ trim whole := hmark ▸ List.suffix_cons _ _
    obtain ⟨hcolon, hunqualified, hblank⟩ := parts_of_trimmed hsuffix hsplit hentry
    refine ⟨_, rfl, rfl, fun _ => ⟨rfl, rfl⟩, ?_, ?_, ?_, ?_⟩
    · simpa using hcolon
    · simpa using hunqualified
    · simpa using hentry
    · simpa using hblank

end Reference

/-! ## What is written -/

theorem Name.entry_suffix_text (n : Name) : n.entry.toList <:+ n.text.toList := by
  rw [toList_text]
  exact List.suffix_append _ _

/-- The sign that a reference is written with. -/
def ReferenceKind.sign : ReferenceKind → Char
  | .resource => '@'
  | .theme => '?'

namespace Reference

theorem toList_text {r : Reference} {n : Name} (hname : r.name = some n) :
    r.text.toList = r.kind.sign :: ((if r.isPrivate then ['*'] else []) ++ n.text.toList) := by
  unfold text
  rw [hname]
  cases r.kind <;> cases r.isPrivate <;> simp [ReferenceKind.sign]

theorem IsReadable.trim_text {r : Reference} {n : Name} (h : r.IsReadable n) :
    trim r.text.toList = r.text.toList := by
  have hentry : n.entry.toList ≠ [] := fun hnil => h.entry (String.toList_eq_nil_iff.mp hnil)
  apply trim_eq_self
  · rw [toList_text h.name]
    rintro c hc
    cases hc
    cases r.kind <;> decide
  · obtain ⟨before, hbefore⟩ := n.entry_suffix_text
    rw [toList_text h.name, ← hbefore, ← List.append_assoc, ← List.cons_append,
      List.getLast?_append_of_ne_nil _ hentry]
    exact h.blank

end Reference

/-! ## What is read back -/

/-- A written resource reference is read back when its name is taken apart and no sign is
taken off it. -/
theorem readMention?_text_iff {whole : List Char} {n : Name} {isPrivate : Bool}
    (hentry : n.entry ≠ "")
    (htrim : trim whole = '@' :: ((if isPrivate then ['*'] else []) ++ n.text.toList)) :
    readMention? whole = some ⟨n, false, isPrivate⟩ ↔ splitName n.text.toList = some n.parts ∧
      (isPrivate = false →
        n.package.toList.head? ≠ some '*' ∧ n.package.toList.head? ≠ some '+') := by
  have hread : readMention? whole = some ⟨n, false, isPrivate⟩ ↔ ∃ rest,
      rest = (if isPrivate then ['*'] else []) ++ n.text.toList ∧
      (takeSign '+' rest).1 = false ∧ readName? (takeSign '+' rest).2 = some (n, isPrivate) := by
    simp only [readMention?_eq_some_iff, readMentionAfter?_eq_some_iff, htrim]
    grind
  rw [hread]
  cases isPrivate with
  | true =>
    have hplus : takeSign '+' ('*' :: n.text.toList) = (false, '*' :: n.text.toList) :=
      takeSign_of_head (by simp)
    simp [hplus, readName?_eq_some_iff, hentry]
  | false =>
    simp only [Bool.false_eq_true, if_false, List.nil_append, exists_eq_left,
      takeSign_eq_false_iff, readName?_eq_some_iff, ← n.head?_text_iff (.inl rfl),
      ← n.head?_text_iff (.inr rfl), Ne]
    constructor
    · rintro ⟨hplus, hstar, hsplit, -⟩
      rw [takeSign_of_head hplus] at hstar hsplit
      rw [takeSign_of_head hstar] at hsplit
      exact ⟨hsplit, fun _ => ⟨hstar, hplus⟩⟩
    · rintro ⟨hsplit, hsigns⟩
      obtain ⟨hstar, hplus⟩ := hsigns trivial
      rw [takeSign_of_head hplus, takeSign_of_head hstar]
      exact ⟨hplus, hstar, hsplit, hentry⟩

/-- A written theme reference is read back when its name is taken apart. -/
theorem readThemeName?_text_iff {whole : List Char} {n : Name} (hentry : n.entry ≠ "")
    (htype : n.type = .attr) (htrim : trim whole = '?' :: n.text.toList) :
    readThemeName? whole = some n ↔ splitName n.text.toList = some n.parts := by
  rw [readThemeName?_eq_some_iff]
  constructor
  · rintro ⟨rest, parts, htrim', hsplit, hparts, -, hname⟩
    obtain rfl : n.text.toList = rest := (List.cons.inj (htrim.symm.trans htrim')).2
    -- the text has a slash, so a type was read from it
    have htype' : parts.type = ResourceType.attr.text.toList := hparts.resolve_left fun hnil =>
      have hslash : NamePart.type.mark ∉ n.text.toList := mark_notMem_of_missing hsplit hnil
      hslash n.slash_mem_text
    rw [hsplit]
    obtain ⟨package, type, entry⟩ := parts
    subst hname
    simp_all [Name.parts]
  · intro hsplit
    refine ⟨_, _, htrim, hsplit, .inr ?_, ?_, ?_⟩
    · simp [Name.parts, htype]
    · simpa [Name.parts] using hentry
    · simp [Name.parts, ← htype]

namespace Reference

/-- **Which references are read back**: a package must not hold `/`, nor begin with a sign
that is taken off in front of it. -/
theorem readReference?_text_iff {r : Reference} {n : Name} (h : r.IsReadable n) :
    readReference? r.text.toList = some (r, false) ↔ '/' ∉ n.package.toList ∧
      (r.kind = .resource → r.isPrivate = false →
        n.package.toList.head? ≠ some '*' ∧ n.package.toList.head? ≠ some '+') := by
  have hsplit : splitName n.text.toList = some n.parts ↔ '/' ∉ n.package.toList := by
    rw [Name.splitName_text_iff]
    exact ⟨fun hs => hs.1.2, fun hs => ⟨⟨h.colon, hs⟩, h.unqualified⟩⟩
  have htrim := h.trim_text.trans (toList_text h.name)
  obtain ⟨name, id, kind, isPrivate⟩ := r
  obtain rfl : name = some n := h.name
  obtain rfl : id = none := h.id
  cases kind with
  | resource =>
    rw [readReference?_resource_iff, readMention?_text_iff h.entry htrim, hsplit]
    simp
  | theme =>
    obtain ⟨rfl, htype⟩ : isPrivate = false ∧ n.type = .attr := h.theme rfl
    rw [readReference?_theme_iff, readThemeName?_text_iff h.entry htype htrim, hsplit]
    simp

/-- **A well-formed reference**: its name is taken apart again, nothing in front of the name
is taken for a sign, and no blank is lost at its end. -/
structure IsWellFormed (r : Reference) (n : Name) : Prop where
  name : r.name = some n
  id : r.id = none
  kind : r.kind = .resource ∨ r.kind = .theme ∧ r.isPrivate = false ∧ n.type = .attr
  package : ':' ∉ n.package.toList ∧ '/' ∉ n.package.toList
  signs : n.package.toList.head? ≠ some '*' ∧ n.package.toList.head? ≠ some '+'
  unqualified : n.package = "" → ':' ∉ n.entry.toList
  entry : n.entry ≠ ""
  blank : ∀ c ∈ n.entry.toList.getLast?, isBlank c = false

theorem IsWellFormed.isReadable {r : Reference} {n : Name} (h : r.IsWellFormed n) :
    r.IsReadable n where
  name := h.name
  id := h.id
  theme htheme := by
    rcases h.kind with hresource | ⟨-, hplain⟩
    · rw [hresource] at htheme
      cases htheme
    · exact hplain
  colon := h.package.1
  unqualified := h.unqualified
  entry := h.entry
  blank := h.blank

/-- **A well-formed reference is read back from its written form**, also where the text of an
item is wanted, whatever the formats; nothing is declared in passing. -/
theorem IsWellFormed.readsBack {r : Reference} {n : Name} (h : r.IsWellFormed n) :
    readReference? r.text.toList = some (r, false) ∧
      ∀ mask, readItem mask r.text.toList = ⟨some (.reference r), []⟩ := by
  have hread : readReference? r.text.toList = some (r, false) :=
    (readReference?_text_iff h.isReadable).mpr ⟨h.package.2, fun _ _ => h.signs⟩
  -- neither `@null` nor `@empty` has a slash
  have hslash : '/' ∈ trim r.text.toList := by
    rw [h.isReadable.trim_text, toList_text h.name]
    simp [n.slash_mem_text]
  have hliteral : ∀ word : String, '/' ∉ word.toList →
      String.ofList (trim r.text.toList) ≠ word := by
    rintro word hword rfl
    rw [String.toList_ofList] at hword
    exact hword hslash
  have hnone : Literal.nullOrEmpty? r.text.toList = none := by
    simp [Literal.nullOrEmpty?, hliteral "@null" (by decide), hliteral "@empty" (by decide)]
  refine ⟨hread, fun mask => ?_⟩
  simp [readItem, hnone, hread]

/-- A private resource whose entry holds marks and begins with a blank, and a theme reference
to an attribute of the package being built. -/
theorem readsBack_hidden :
    let hidden : Reference := { name := some ⟨"my app", .string, " ok:a/b"⟩, isPrivate := true }
    let accent : Reference := { name := some ⟨"", .attr, "accent"⟩, kind := .theme }
    hidden.text = "@*my app:string/ ok:a/b" ∧
      readReference? hidden.text.toList = some (hidden, false) ∧
      readItem .boolean hidden.text.toList = ⟨some (.reference hidden), []⟩ ∧
      accent.text = "?attr/accent" ∧ readReference? accent.text.toList = some (accent, false) := by
  intro hidden accent
  have hhidden : hidden.IsWellFormed ⟨"my app", .string, " ok:a/b"⟩ :=
    ⟨rfl, rfl, .inl rfl, by decide, by decide, by decide, by decide, by rintro _ ⟨⟩; decide⟩
  have haccent : accent.IsWellFormed ⟨"", .attr, "accent"⟩ :=
    ⟨rfl, rfl, .inr ⟨rfl, rfl, rfl⟩, by decide, by decide, by decide, by decide,
      by rintro _ ⟨⟩; decide⟩
  exact ⟨rfl, hhidden.readsBack.1, hhidden.readsBack.2 .boolean, rfl, haccent.readsBack.1⟩

end Reference

/-! ## Reading again -/

/-- **When what was read from a text is read again** from its own written form. -/
structure ReadsAgain (text : String) : Prop where
  /-- A name: its package must not hold `/` nor begin with the private mark. -/
  name : ∀ n, Name.ofText text = .ok n → (Name.ofText n.text = .ok n ↔
    '/' ∉ n.package.toList ∧ n.package.toList.head? ≠ some '*')
  /-- A reference: the package of its name must not hold `/`, nor begin with `*` or `+` right
  behind the sign of a resource.  A reference that was declared in passing is then read as one
  that is not. -/
  reference : ∀ r declares, readReference? text.toList = some (r, declares) →
    ∃ n, r.name = some n ∧ (readReference? r.text.toList = some (r, false) ↔
      '/' ∉ n.package.toList ∧ (r.kind = .resource → r.isPrivate = false →
        n.package.toList.head? ≠ some '*' ∧ n.package.toList.head? ≠ some '+'))

/-- **What was read is read again from its written form**, unless its package stands out
there: with a mark or a sign that it has from behind the type. -/
theorem readsAgain (text : String) : ReadsAgain text where
  name n h := by
    obtain ⟨-, hsplit, hentry⟩ := Name.ofText_eq_ok_iff.mp h
    have htidy := tidy_of_splitName hsplit
    have hunqualified : n.package = "" → ':' ∉ n.entry.toList := fun hpackage =>
      (htidy.missing .package (String.toList_eq_nil_iff.mpr hpackage)).2
    rw [Name.ofText_eq_ok_iff, Name.splitName_text_iff, Ne, n.head?_text_iff (.inl rfl)]
    constructor
    · rintro ⟨hstar, ⟨⟨-, hslash⟩, -⟩, -⟩
      exact ⟨hslash, hstar⟩
    · rintro ⟨hslash, hstar⟩
      exact ⟨hstar, ⟨⟨htidy.own .package, hslash⟩, hunqualified⟩, hentry⟩
  reference r declares h := by
    obtain ⟨n, hn⟩ := Reference.isReadable_of_readReference? h
    exact ⟨n, hn.name, Reference.readReference?_text_iff hn⟩

/-- **What is read need not be read again**: a package behind its type may hold `/` or begin
with `*`, and in front of the type the one becomes an error and the other a private mark. -/
theorem ofText_text_typeFirst :
    let nested : Name := ⟨"a/b", .string, "c"⟩
    let starred : Reference := { name := some ⟨"*a", .string, "c"⟩ }
    Name.ofText "string/a/b:c" = .ok nested ∧ nested.text = "a/b:string/c" ∧
      Name.ofText nested.text = .error (.invalidName "a/b:string/c") ∧
      readReference? "@string/*a:c".toList = some (starred, false) ∧
      starred.text = "@*a:string/c" ∧
      readReference? starred.text.toList =
        some ({ name := some ⟨"a", .string, "c"⟩, isPrivate := true }, false) :=
  ⟨rfl, rfl, rfl, rfl, rfl, rfl⟩

/-- A declared identifier, and a name with its package behind the type, are read again. -/
theorem readsAgain_button :
    let button : Reference := { name := some ⟨"app", .id, "button"⟩ }
    readReference? " @+id/app:button ".toList = some (button, true) ∧
      readReference? button.text.toList = some (button, false) ∧
      Name.ofText "id/app:button" = .ok ⟨"app", .id, "button"⟩ ∧
      Name.ofText (Name.text ⟨"app", .id, "button"⟩) = .ok ⟨"app", .id, "button"⟩ := by
  intro button
  have hread : readReference? " @+id/app:button ".toList = some (button, true) := rfl
  have hname : Name.ofText "id/app:button" = .ok ⟨"app", .id, "button"⟩ := rfl
  refine ⟨hread, ?_, hname, ?_⟩
  · obtain ⟨n, hn, hagain⟩ := (readsAgain " @+id/app:button ").reference button true hread
    cases hn
    exact hagain.mpr ⟨by decide, fun _ _ => ⟨by decide, by decide⟩⟩
  · exact ((readsAgain "id/app:button").name _ hname).mpr ⟨by decide, by decide⟩

end AppResources
