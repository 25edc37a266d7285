import AppResources.Proofs.NameSplitting

/-!
# Names that are read back

A name is written with its package first.  Reading takes the written form apart again exactly
when the mark of neither part stands where it would be taken for one
(`Name.splitName_text_iff`): no mark in the package, and without a package no `:` in the
entry.  A package that begins with `*` would be read as the private mark, and an entry has to
be there.
-/

namespace AppResources

/-! ## The written form -/

/-- The word of a type holds no mark and no sign. -/
theorem ResourceType.text_plain (t : ResourceType) :
    ∀ c ∈ t.text.toList, c ≠ ':' ∧ c ≠ '/' ∧ c ≠ '*' ∧ c ≠ '+' := by
  have hall : (t.text.toList.all fun c => c != ':' && c != '/' && c != '*' && c != '+') = true := by
    cases t <;> decide
  intro c hc
  simpa [and_assoc] using List.all_eq_true.mp hall c hc

theorem ResourceType.toList_text_ne_nil (t : ResourceType) : t.text.toList ≠ [] := by
  cases t <;> decide

namespace Name

/-- A name is written with its package first. -/
theorem toList_text (n : Name) : n.text.toList = n.parts.written .package := by
  have hpackage : (if n.package.isEmpty then "" else n.package ++ ":").toList =
      NamePart.package.marked n.package.toList := by
    by_cases h : n.package = ""
    · simp [h]
    · rw [NamePart.marked_of_ne (by simpa using h)]
      simp [h, NamePart.mark]
  have htype : NamePart.type.marked n.type.text.toList = n.type.text.toList ++ ['/'] :=
    NamePart.marked_of_ne n.type.toList_text_ne_nil
  simp only [text, String.toList_append, hpackage]
  simp [NameParts.written, NameParts.given, NamePart.other, parts, htype]

theorem slash_mem_text (n : Name) : '/' ∈ n.text.toList := by
  simp [text]

/-- As far as signs go, the written form begins as the package does. -/
theorem head?_text_iff (n : Name) {sign : Char} (hsign : sign = '*' ∨ sign = '+') :
    n.text.toList.head? = some sign ↔ n.package.toList.head? = some sign := by
  by_cases hpackage : n.package = ""
  · -- without a package it begins with the type
    have htype : n.text.toList.head? = n.type.text.toList.head? := by
      obtain ⟨c, rest, hc⟩ := List.exists_cons_of_ne_nil n.type.toList_text_ne_nil
      simp [text, hpackage, hc]
    rw [htype, hpackage]
    refine ⟨fun h => ?_, fun h => (nomatch h)⟩
    have hplain := n.type.text_plain sign (List.mem_of_head? h)
    exact absurd hsign (by simp [hplain])
  · obtain ⟨c, rest, hc⟩ := List.exists_cons_of_ne_nil fun h =>
      hpackage (String.toList_eq_nil_iff.mp h)
    simp [text, hpackage, hc]

/-- **The written form is taken apart again** exactly when neither mark stands in the package,
and none of the package in an entry without one. -/
theorem splitName_text_iff {n : Name} : splitName n.text.toList = some n.parts ↔
    (':' ∉ n.package.toList ∧ '/' ∉ n.package.toList) ∧
      (n.package = "" → ':' ∉ n.entry.toList) := by
  rw [toList_text, splitName_written_iff]
  constructor
  · rintro ⟨htidy, hforeign⟩
    refine ⟨⟨htidy.own .package, hforeign⟩, fun hpackage => ?_⟩
    exact (htidy.missing .package (String.toList_eq_nil_iff.mpr hpackage)).2
  · rintro ⟨⟨hcolon, hslash⟩, hentry⟩
    have htype := fun c hc => n.type.text_plain c hc
    refine ⟨⟨?_, ?_⟩, hslash⟩
    · rintro (_ | _)
      · exact hcolon
      · exact fun h => (htype _ h).2.1 rfl
    · rintro (_ | _) hmissing
      · exact ⟨fun h => (htype _ h).1 rfl, hentry (String.toList_eq_nil_iff.mp hmissing)⟩
      · exact absurd hmissing n.type.toList_text_ne_nil

/-- **Exactly which names are read back from their written forms.** -/
theorem ofText_text_eq_ok_iff (n : Name) : Name.ofText n.text = .ok n ↔
    n.entry ≠ "" ∧ (':' ∉ n.package.toList ∧ '/' ∉ n.package.toList) ∧
      n.package.toList.head? ≠ some '*' ∧ (n.package ≠ "" ∨ ':' ∉ n.entry.toList) := by
  rw [ofText_eq_ok_iff, splitName_text_iff, Ne, n.head?_text_iff (.inl rfl)]
  tauto

end Name
end AppResources
