import AppResources.Proofs.Interning

/-!
# Styled texts are interned whole

A styled text is interned when all its spans lie within it, and refused when one does not
(`internStyled_eq_error_iff`).  The spans are counted in characters, and all of them are checked
before the first is interned.  So a refusal, which names the first span that lies outside, leaves
the pool as it was, even if spans before that one lie within.

What is interned is what the styled text consists of: the names of its spans and its text
(`InternedWhole`).  Some of these may be equal, or be kept already; each has one cell all the
same, and whoever interns it again shares that cell.
-/

namespace AppResources

/-- The span covers characters of a text of `count` characters: it is not reversed, and does not
extend past the last character. -/
structure Span.LiesWithin {τ : Type} (count : Nat) (s : Span τ) : Prop where
  ordered : s.first ≤ s.last
  inside : s.last.toNat < count

theorem Span.fits_iff {τ : Type} {count : Nat} {s : Span τ} :
    s.fits count = true ↔ s.LiesWithin count := by
  rw [Span.fits, Bool.and_eq_true, decide_eq_true_iff, decide_eq_true_iff]
  exact ⟨fun h => ⟨h.1, h.2⟩, fun h => ⟨h.ordered, h.inside⟩⟩

theorem Span.not_liesWithin_iff {τ : Type} {count : Nat} {s : Span τ} :
    ¬s.LiesWithin count ↔ s.last < s.first ∨ count ≤ s.last.toNat := by
  constructor
  · intro h
    by_cases hordered : s.first ≤ s.last
    · exact .inr (Nat.le_of_not_lt fun hinside => h ⟨hordered, hinside⟩)
    · exact .inl (UInt32.not_le.mp hordered)
  · rintro (hreversed | hpast) h
    · exact UInt32.not_le.mpr hreversed h.ordered
    · exact Nat.not_lt.mpr hpast h.inside

/-- The fault names the first span that does not lie within the text. -/
def Styled.FirstOutside (s : Styled String) (fault : Fault) : Prop :=
  ∃ before span after, s.spans = before ++ span :: after ∧
    (∀ t ∈ before, t.LiesWithin s.text.length) ∧ ¬span.LiesWithin s.text.length ∧
      fault = .spanOutsideText span.name span.first span.last s.text

theorem Handle.sharesStorage_self (h : Handle) : h.sharesStorage h = true := by
  rw [Handle.sharesStorage, beq_self_eq_true, beq_self_eq_true, Bool.and_self]

namespace Pool
variable {p q : Pool} {s : Styled String}

/-! ## Refusals -/

/-- The check stops at the first span that does not lie within the text. -/
theorem find?_outside_iff {count : Nat} {spans : List (Span String)} {span : Span String} :
    (spans.find? fun t => !t.fits count) = some span ↔ ∃ before after,
      spans = before ++ span :: after ∧ (∀ t ∈ before, t.LiesWithin count) ∧
        ¬span.LiesWithin count := by
  rw [List.find?_eq_some_iff_append]
  simp only [Bool.not_eq_true', Bool.not_not, ← Bool.not_eq_true, Span.fits_iff]
  constructor
  · rintro ⟨hspan, before, after, hspans, hbefore⟩
    exact ⟨before, after, hspans, hbefore, hspan⟩
  · rintro ⟨before, after, hspans, hbefore, hspan⟩
    exact ⟨hspan, before, after, hspans, hbefore⟩

/-- **A refusal names the first span outside of the text, and changes nothing.** -/
theorem internStyled_eq_error_iff {fault : Fault} :
    p.internStyled s = (q, .error fault) ↔ q = p ∧ s.FirstOutside fault := by
  constructor
  · intro h
    unfold internStyled at h
    split at h
    · rename_i span hfind
      obtain ⟨before, after, hspans, hbefore, hspan⟩ := find?_outside_iff.mp hfind
      cases h
      exact ⟨rfl, before, span, after, hspans, hbefore, hspan, rfl⟩
    · cases h
  · rintro ⟨rfl, before, span, after, hspans, hbefore, hspan, rfl⟩
    have hfind := find?_outside_iff.mpr ⟨before, after, hspans, hbefore, hspan⟩
    rw [internStyled, hfind]

/-- A styled text is refused exactly when one of its spans does not lie within it. -/
theorem exists_error_iff : (∃ fault, (p.internStyled s).2 = .error fault) ↔
    ∃ span ∈ s.spans, ¬span.LiesWithin s.text.length := by
  constructor
  · rintro ⟨fault, h⟩
    obtain ⟨-, before, span, after, hspans, -, hspan, -⟩ :=
      internStyled_eq_error_iff.mp (Prod.ext rfl h)
    exact ⟨span, hspans ▸ List.mem_append_right _ List.mem_cons_self, hspan⟩
  · rintro ⟨span, hmem, hspan⟩
    have hfits : s.fits = false := by
      refine List.all_eq_false.mpr ⟨span, hmem, fun h => hspan (Span.fits_iff.mp h)⟩
    obtain ⟨fault, h⟩ := internStyled_of_not_fits (p := p) hfits
    exact ⟨fault, by rw [h]⟩

/-! ## Handles of what is kept -/

/-- Interning a text that is kept gives its handle. -/
theorem Keeps.intern_eq {h : Handle} (hh : p.Keeps h) : (p.intern h.text).2 = h := by
  rw [handle_intern, cellOf, hh.cell, Option.getD_some, ← hh.pool]

theorem keeps_of_contains {text : String} (h : p.contains text = true) :
    p.Keeps (p.intern text).2 := by
  have hkeeps := keeps_intern p text
  rwa [intern_of_contains h] at hkeeps

/-! ## All or nothing -/

/-- **A styled text is interned whole**: `last` is the pool after it, and `styled` is returned. -/
structure InternedWhole (p : Pool) (s : Styled String) (last : Pool) (styled : Styled Handle) :
    Prop where
  /-- The text and the spans come back as they were declared, in order and with their ends. -/
  returned : styled.map Handle.text = s
  /-- Every span lies within the text. -/
  within : ∀ span ∈ styled.spans, span.LiesWithin styled.text.text.length
  /-- The pool keeps what it kept, the text and the names of the spans, and nothing else. -/
  contains : ∀ text, last.contains text = true ↔
    p.contains text = true ∨ text = s.text ∨ ∃ span ∈ s.spans, span.name = text
  /-- Every text has a cell of its own, if it had. -/
  oneCellEach : p.OneCellEach → last.OneCellEach
  /-- What was kept is kept in the same cell. -/
  former : ∀ text, p.contains text = true → (last.intern text).2 = (p.intern text).2
  /-- Whoever interns the text or a name shares its storage, now and after further calls. -/
  shared : ∀ h ∈ styled.texts, ∀ calls,
    ((last.session calls).1.intern h.text).2.sharesStorage h = true

theorem internedWhole_of_eq_ok {styled : Styled Handle} (h : p.internStyled s = (q, .ok styled)) :
    InternedWhole p s q styled := by
  have hfits : s.fits = true := by
    by_contra hout
    obtain ⟨fault, hrefused⟩ := internStyled_of_not_fits (p := p) (Bool.eq_false_iff.mpr hout)
    cases h.symm.trans hrefused
  obtain ⟨r, hr, hreturned, hkeeps⟩ := internStyled_of_fits (p := p) hfits
  cases h.symm.trans hr
  constructor
  · exact hreturned
  · intro span hspan
    have hdeclared : span.map Handle.text ∈ s.spans :=
      hreturned ▸ List.mem_map_of_mem (f := Span.map Handle.text) hspan
    have hwithin := Span.fits_iff.mp (List.all_eq_true.mp hfits _ hdeclared)
    have htext : styled.text.text = s.text := congrArg Styled.text hreturned
    rw [htext]
    exact ⟨hwithin.ordered, hwithin.inside⟩
  · intro text
    rw [contains_internAll, Styled.texts, List.mem_append, List.mem_singleton, List.mem_map,
      or_comm, or_comm (a := ∃ _, _)]
  · exact fun hp => hp.internAll s.texts
  · intro text htext
    have hkept := (keeps_of_contains htext).internAll s.texts
    have hsame : (p.intern text).2.text = text := by rw [handle_intern]
    rw [← hkept.intern_eq, hsame]
  · intro handle hhandle calls
    have hkept := (hkeeps handle hhandle).internAll (internedBy calls)
    rw [session_fst, hkept.intern_eq]
    exact handle.sharesStorage_self

/-- **Interning a styled text is all or nothing.** -/
structure AllOrNothing (p : Pool) (s : Styled String) : Prop where
  /-- It is refused exactly when a span is reversed or extends past the text. -/
  refused : (∃ fault, (p.internStyled s).2 = .error fault) ↔
    ∃ span ∈ s.spans, span.last < span.first ∨ s.text.length ≤ span.last.toNat
  /-- The refusal names the first such span, and nothing is interned. -/
  nothing : ∀ last fault, p.internStyled s = (last, .error fault) →
    last = p ∧ s.FirstOutside fault
  /-- Otherwise all of it is interned. -/
  all : ∀ last styled, p.internStyled s = (last, .ok styled) → InternedWhole p s last styled

theorem internStyled_allOrNothing (p : Pool) (s : Styled String) : AllOrNothing p s where
  refused := by
    rw [exists_error_iff]
    simp only [Span.not_liesWithin_iff]
  nothing _ _ := internStyled_eq_error_iff.mp
  all _ _ := internedWhole_of_eq_ok

/-- Two characters, each of two bytes: the third is not there, and nothing is interned. -/
example : ((empty 0).internStyled ⟨"äß", [⟨"b", 0, 1⟩, ⟨"u", 0, 2⟩]⟩).1.texts = [] := by
  decide

end Pool
end AppResources
