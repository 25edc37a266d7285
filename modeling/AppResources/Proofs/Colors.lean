import AppResources.Proofs.IntegerLiterals
import Mathlib.Data.List.Basic

/-!
# Colors

A color is written in one of four forms (`ColorForm`).  Each stands for the eight digits
`aarrggbb`: the short forms write one digit for the two equal digits of a channel, and the forms
without alpha leave out `ff` (`ColorForm.expand`).  Whether the reader puts the color together
from channels or from digits, its data is the number that these eight digits write
(`color?_of_values`).  So two spellings of the same eight digits have the same data, and differ
at most in the data type that tells the form.
-/

namespace AppResources

/-- The forms in which a color is written. -/
inductive ColorForm where
  /-- `#rgb` -/
  | rgb4
  /-- `#argb` -/
  | argb4
  /-- `#rrggbb` -/
  | rgb8
  /-- `#aarrggbb` -/
  | argb8
  deriving DecidableEq

namespace ColorForm

/-- The number of digits. -/
def count : ColorForm → Nat
  | rgb4 => 3
  | argb4 => 4
  | rgb8 => 6
  | argb8 => 8

/-- The data type of a color of this form. -/
def dataType : ColorForm → UInt8
  | rgb4 => DataType.colorRgb4
  | argb4 => DataType.colorArgb4
  | rgb8 => DataType.colorRgb8
  | argb8 => DataType.colorArgb8

/-- A channel is written with a single digit. -/
def isShort : ColorForm → Bool
  | rgb4 | argb4 => true
  | rgb8 | argb8 => false

/-- The alpha channel is written. -/
def hasAlpha : ColorForm → Bool
  | rgb4 | rgb8 => false
  | argb4 | argb8 => true

/-- The eight digits that the digits of a form stand for, where `full` is the digit `f`. -/
def expand {α : Type} (full : α) (form : ColorForm) (digits : List α) : List α :=
  (if form.hasAlpha then [] else [full, full]) ++
    if form.isShort then digits.flatMap fun d => [d, d] else digits

section Expand
variable {α : Type} {full : α} {form : ColorForm} {digits : List α}

theorem length_doubled (digits : List α) :
    (digits.flatMap fun d => [d, d]).length = 2 * digits.length := by
  induction digits with
  | nil => rfl
  | cons d rest ih =>
    rw [List.flatMap_cons, List.length_append, ih, List.length_cons]
    show 2 + 2 * rest.length = 2 * (rest.length + 1)
    omega

theorem length_expand (h : digits.length = form.count) : (form.expand full digits).length = 8 := by
  have hdoubled := length_doubled digits
  rw [h] at hdoubled
  rw [expand, List.length_append]
  cases form with
  | rgb4 => exact congrArg (2 + ·) hdoubled
  | argb4 => exact (Nat.zero_add _).trans hdoubled
  | rgb8 => exact congrArg (2 + ·) h
  | argb8 => exact (Nat.zero_add _).trans h

theorem mem_expand {d : α} (h : d ∈ form.expand full digits) : d = full ∨ d ∈ digits := by
  unfold expand at h
  rcases List.mem_append.mp h with hfront | hbody
  · split at hfront
    · cases hfront
    · simp only [List.mem_cons, List.not_mem_nil, or_false, or_self] at hfront
      exact .inl hfront
  · split at hbody
    · obtain ⟨e, he, hd⟩ := List.mem_flatMap.mp hbody
      simp only [List.mem_cons, List.not_mem_nil, or_false, or_self] at hd
      exact .inr (hd ▸ he)
    · exact .inr hbody

end Expand

/-- The digits are as many as the form has, and all of them hexadecimal. -/
structure Admits (form : ColorForm) (digits : List Char) : Prop where
  count : digits.length = form.count
  digits : ∀ c ∈ digits, ∃ d, IsDigit 16 c d

theorem Admits.ne_nil {form : ColorForm} {digits : List Char} (h : form.Admits digits) :
    digits ≠ [] := by
  rintro rfl
  have hcount := h.count
  cases form <;> cases hcount

/-- The eight digits are themselves a color. -/
theorem Admits.expand {form : ColorForm} {digits : List Char} (h : form.Admits digits) :
    argb8.Admits (form.expand 'f' digits) := by
  refine ⟨length_expand h.count, fun c hc => ?_⟩
  rcases mem_expand hc with rfl | hmem
  · exact ⟨15, by decide⟩
  · exact h.digits c hmem

/-- A color has no blanks in it. -/
theorem Admits.trim_eq {form : ColorForm} {digits : List Char} (h : form.Admits digits) :
    trim ('#' :: digits) = '#' :: digits :=
  trim_eq_self_of_forall <| List.forall_mem_cons.mpr ⟨rfl, fun c hc =>
    have ⟨_, hd⟩ := h.digits c hc
    Literal.isBlank_of_isDigit hd (by decide)⟩

end ColorForm

namespace Literal

/-! ## Digits and their values -/

section Values
variable {digits : List Char} {ds : List Nat}

/-- Each digit has its value. -/
theorem values_of_mapM (h : digits.mapM hexDigit? = some ds) :
    ds.length = digits.length ∧ ∀ d ∈ ds, d < 16 := by
  induction digits generalizing ds with
  | nil =>
    cases h
    exact ⟨rfl, fun _ hd => nomatch hd⟩
  | cons c rest ih =>
    rw [List.mapM_cons] at h
    obtain ⟨d, hd, hrest⟩ := Option.bind_eq_some_iff.mp h
    obtain ⟨others, hothers, hds⟩ := Option.bind_eq_some_iff.mp hrest
    cases hds
    obtain ⟨hlength, hlt⟩ := ih hothers
    exact ⟨congrArg (· + 1) hlength,
      List.forall_mem_cons.mpr ⟨(hexDigit?_eq_some_iff.mp hd).1, hlt⟩⟩

/-- Where there are digits only, they all have values. -/
theorem exists_values_iff :
    (∃ ds, digits.mapM hexDigit? = some ds) ↔ ∀ c ∈ digits, ∃ d, IsDigit 16 c d := by
  induction digits with
  | nil => simp
  | cons c rest ih =>
    rw [List.forall_mem_cons, ← ih]
    simp only [List.mapM_cons, Option.bind_eq_bind, Option.bind_eq_some_iff,
      hexDigit?_eq_some_iff]
    constructor
    · rintro ⟨_, d, hd, others, hothers, -⟩
      exact ⟨⟨d, hd⟩, others, hothers⟩
    · rintro ⟨⟨d, hd⟩, others, hothers⟩
      exact ⟨_, d, hd, others, hothers, rfl⟩

theorem mapM_doubled (digits : List Char) :
    (digits.flatMap fun c => [c, c]).mapM hexDigit? =
      (digits.mapM hexDigit?).map fun ds => ds.flatMap fun d => [d, d] := by
  induction digits with
  | nil => rfl
  | cons c rest ih =>
    rw [List.flatMap_cons, List.mapM_append, ih, List.mapM_cons]
    cases hc : hexDigit? c with
    | none => simp [hc]
    | some d => cases hrest : rest.mapM hexDigit? <;> simp [hc, hrest]

theorem mapM_expand (form : ColorForm) (digits : List Char) :
    (form.expand 'f' digits).mapM hexDigit? = (digits.mapM hexDigit?).map (form.expand 15) := by
  have hfull : ['f', 'f'].mapM hexDigit? = some [15, 15] := by decide
  have hdoubled := mapM_doubled digits
  unfold ColorForm.expand
  rw [List.mapM_append]
  cases hvalues : digits.mapM hexDigit? <;> rw [hvalues] at hdoubled <;>
    cases form.hasAlpha <;> cases form.isShort <;> simp [hvalues, hdoubled, hfull]

/-- The expansion of a color writes the number of its values, expanded likewise. -/
theorem isNumeral_expand_iff {form : ColorForm} {n : Nat} (hdigits : digits ≠ []) :
    IsNumeral 16 (form.expand 'f' digits) n ↔
      ∃ ds, digits.mapM hexDigit? = some ds ∧ ofDigitValues 16 (form.expand 15 ds) = n := by
  have hexpand : form.expand 'f' digits ≠ [] := by
    obtain ⟨c, rest, rfl⟩ := List.exists_cons_of_ne_nil hdigits
    cases form <;> exact List.cons_ne_nil _ _
  rw [← hexNumeral?_eq_some_iff, numeral?, if_neg (by simpa using hexpand), mapM_expand,
    Option.map_map, Option.map_eq_some_iff]
  rfl

end Values

/-! ## Colors put together -/

section Packed
variable {ds : List Nat}

theorem ofDigitValues_concat (base : Nat) (ds : List Nat) (d : Nat) :
    ofDigitValues base (ds ++ [d]) = base * ofDigitValues base ds + d := by
  rw [ofDigitValues, List.foldl_append]
  rfl

theorem ofDigitValues_lt (hds : ∀ d ∈ ds, d < 16) : ofDigitValues 16 ds < 16 ^ ds.length := by
  induction ds using List.reverseRecOn with
  | nil => decide
  | append_singleton ds d ih =>
    obtain ⟨hfirst, hlast⟩ := List.forall_mem_append.mp hds
    have hprefix := ih hfirst
    have hd := hlast d (List.mem_singleton_self d)
    rw [ofDigitValues_concat, List.length_append, List.length_singleton, Nat.pow_succ]
    omega

theorem toNat_ofNat_of_digit {d : Nat} (hd : d < 16) : (UInt32.ofNat d).toNat = d :=
  UInt32.toNat_ofNat_of_lt' (Nat.lt_trans hd (by decide))

/-- Digits packed into a word write the word: eight of them fit. -/
theorem toNat_packDigits (hds : ∀ d ∈ ds, d < 16) (hlength : ds.length ≤ 8) :
    (packDigits ds).toNat = ofDigitValues 16 ds := by
  induction ds using List.reverseRecOn with
  | nil => rfl
  | append_singleton ds d ih =>
    obtain ⟨hfirst, hlast⟩ := List.forall_mem_append.mp hds
    rw [List.length_append, List.length_singleton] at hlength
    have hd : d < 16 := hlast d (List.mem_singleton_self d)
    have hword := toNat_ofNat_of_digit hd
    have hprefix := ih hfirst (by omega)
    have hlt : ofDigitValues 16 ds < 16 ^ 7 :=
      Nat.lt_of_lt_of_le (ofDigitValues_lt hfirst) (Nat.pow_le_pow_right (by decide) (by omega))
    have hconcat : packDigits (ds ++ [d]) = packDigits ds <<< 4 ||| UInt32.ofNat d := by
      rw [packDigits, List.foldl_append]
      rfl
    have hstep : (packDigits ds <<< 4 ||| UInt32.ofNat d).toNat =
        (packDigits ds).toNat * 16 + (UInt32.ofNat d).toNat :=
      toNat_shiftLeft_or rfl (by omega) (by omega) (by decide)
    rw [hconcat, hstep, hprefix, hword, ofDigitValues_concat, Nat.mul_comm]

/-- A channel with two equal digits. -/
theorem toNat_channel {d : Nat} (hd : d < 16) : (channel d).toNat = 17 * d := by
  rw [channel, UInt32.toNat_mul, toNat_ofNat_of_digit hd]
  show d * 17 % 2 ^ 32 = 17 * d
  omega

theorem channel_lt {d : Nat} (hd : d < 16) : (channel d).toNat < 256 := by
  rw [toNat_channel hd]
  omega

/-- The channels stand side by side in the word. -/
theorem toNat_argb {a r g b : UInt32} (ha : a.toNat < 256) (hr : r.toNat < 256)
    (hg : g.toNat < 256) (hb : b.toNat < 256) : (argb a r g b).toNat =
      a.toNat * 0x1000000 + (r.toNat * 0x10000 + (g.toNat * 0x100 + b.toNat)) := by
  have hgb : (g <<< 8 ||| b).toNat = g.toNat * 0x100 + b.toNat :=
    toNat_shiftLeft_or rfl hb (by omega) (by decide)
  have hrgb : (r <<< 16 ||| (g <<< 8 ||| b)).toNat = r.toNat * 0x10000 + (g <<< 8 ||| b).toNat :=
    toNat_shiftLeft_or rfl (by omega) (by omega) (by decide)
  have hargb : (a <<< 24 ||| (r <<< 16 ||| (g <<< 8 ||| b))).toNat =
      a.toNat * 0x1000000 + (r <<< 16 ||| (g <<< 8 ||| b)).toNat :=
    toNat_shiftLeft_or rfl (by omega) (by omega) (by decide)
  rw [argb, UInt32.or_assoc, UInt32.or_assoc, hargb, hrgb, hgb]

end Packed

/-! ## The reader of colors -/

section Reading
variable {text digits : List Char} {ds : List Nat} {form : ColorForm} {p : Primitive}

/-- **The data of a color is the number that its eight digits write**, in every form. -/
theorem color?_of_values (htext : trim text = '#' :: digits)
    (hvalues : digits.mapM hexDigit? = some ds) (hcount : digits.length = form.count) :
    ∃ w, color? text = some ⟨form.dataType, w⟩ ∧
      w.toNat = ofDigitValues 16 (form.expand 15 ds) := by
  obtain ⟨hlength, hds⟩ := values_of_mapM hvalues
  rw [← hlength] at hcount
  unfold color?
  rw [htext]
  simp only [hvalues]
  cases form with
  | rgb4 =>
    obtain ⟨r, g, b, rfl⟩ := List.length_eq_three.mp hcount
    obtain ⟨hr, hg, hb⟩ : r < 16 ∧ g < 16 ∧ b < 16 := by simpa using hds
    refine ⟨_, rfl, ?_⟩
    rw [toNat_argb (by decide) (channel_lt hr) (channel_lt hg) (channel_lt hb),
      toNat_channel hr, toNat_channel hg, toNat_channel hb]
    show 0xFF * 0x1000000 + _ = ofDigitValues 16 [15, 15, r, r, g, g, b, b]
    simp only [ofDigitValues, List.foldl]
    omega
  | argb4 =>
    obtain ⟨a, r, g, b, rfl⟩ := List.length_eq_four.mp hcount
    obtain ⟨ha, hr, hg, hb⟩ : a < 16 ∧ r < 16 ∧ g < 16 ∧ b < 16 := by simpa using hds
    refine ⟨_, rfl, ?_⟩
    rw [toNat_argb (channel_lt ha) (channel_lt hr) (channel_lt hg) (channel_lt hb),
      toNat_channel ha, toNat_channel hr, toNat_channel hg, toNat_channel hb]
    show _ = ofDigitValues 16 [a, a, r, r, g, g, b, b]
    simp only [ofDigitValues, List.foldl]
    omega
  | rgb8 =>
    obtain ⟨r₁, others, rfl, hfive⟩ := List.length_eq_succ_iff.mp hcount
    obtain ⟨r₂, others, rfl, hfour⟩ := List.length_eq_succ_iff.mp hfive
    obtain ⟨g₁, g₂, b₁, b₂, rfl⟩ := List.length_eq_four.mp hfour
    have hlt : ofDigitValues 16 [r₁, r₂, g₁, g₂, b₁, b₂] < 16 ^ 6 := ofDigitValues_lt hds
    have hpacked := toNat_packDigits hds (show 6 ≤ 8 by decide)
    have hsolid : ((0xFF : UInt32) <<< 24 ||| packDigits [r₁, r₂, g₁, g₂, b₁, b₂]).toNat =
        0xFF * 0x1000000 + (packDigits [r₁, r₂, g₁, g₂, b₁, b₂]).toNat :=
      toNat_shiftLeft_or rfl (by omega) (by decide) (by decide)
    refine ⟨_, rfl, hsolid.trans ?_⟩
    rw [hpacked]
    show _ = ofDigitValues 16 [15, 15, r₁, r₂, g₁, g₂, b₁, b₂]
    simp only [ofDigitValues, List.foldl]
    omega
  | argb8 =>
    obtain ⟨a₁, others, rfl, hseven⟩ := List.length_eq_succ_iff.mp hcount
    obtain ⟨a₂, others, rfl, hsix⟩ := List.length_eq_succ_iff.mp hseven
    obtain ⟨r₁, others, rfl, hfive⟩ := List.length_eq_succ_iff.mp hsix
    obtain ⟨r₂, others, rfl, hfour⟩ := List.length_eq_succ_iff.mp hfive
    obtain ⟨g₁, g₂, b₁, b₂, rfl⟩ := List.length_eq_four.mp hfour
    exact ⟨_, rfl, toNat_packDigits hds (Nat.le_refl 8)⟩

/-- Every color is read, as its form and as the number of its eight digits. -/
theorem exists_color?_of_admits (htext : trim text = '#' :: digits) (hform : form.Admits digits) :
    ∃ w, color? text = some ⟨form.dataType, w⟩ ∧
      IsNumeral 16 (form.expand 'f' digits) w.toNat := by
  obtain ⟨ds, hvalues⟩ := exists_values_iff.mpr hform.digits
  obtain ⟨w, hread, hw⟩ := color?_of_values htext hvalues hform.count
  exact ⟨w, hread, (isNumeral_expand_iff hform.ne_nil).mpr ⟨ds, hvalues, hw.symm⟩⟩

/-- Nothing but colors is read. -/
theorem exists_admits_of_color? (h : color? text = some p) :
    ∃ form digits, trim text = '#' :: digits ∧ ColorForm.Admits form digits := by
  unfold color? at h
  split at h
  · rename_i digits htext
    have hadmits : ∀ {form ds}, digits.mapM hexDigit? = some ds → ds.length = ColorForm.count form →
        form.Admits digits := fun hds hcount =>
      ⟨(values_of_mapM hds).1.symm.trans hcount, exists_values_iff.mp ⟨_, hds⟩⟩
    split at h
    · rename_i hds
      exact ⟨.rgb4, digits, htext, hadmits hds rfl⟩
    · rename_i hds
      exact ⟨.argb4, digits, htext, hadmits hds rfl⟩
    · rename_i hds
      exact ⟨.rgb8, digits, htext, hadmits hds rfl⟩
    · rename_i hds
      exact ⟨.argb8, digits, htext, hadmits hds rfl⟩
    · cases h
  · cases h

/-- **What is read are the colors**, with blanks around them. -/
theorem color?_eq_some_iff : color? text = some p ↔
    ∃ form digits, trim text = '#' :: digits ∧ ColorForm.Admits form digits ∧
      p.dataType = form.dataType ∧ IsNumeral 16 (form.expand 'f' digits) p.data.toNat := by
  constructor
  · intro h
    obtain ⟨form, digits, htext, hform⟩ := exists_admits_of_color? h
    obtain ⟨w, hread, hw⟩ := exists_color?_of_admits htext hform
    obtain rfl : p = ⟨form.dataType, w⟩ := Option.some.inj (h.symm.trans hread)
    exact ⟨form, digits, htext, hform, rfl, hw⟩
  · rintro ⟨form, digits, htext, hform, htype, hnumeral⟩
    obtain ⟨w, hread, hw⟩ := exists_color?_of_admits htext hform
    obtain rfl : w = p.data := UInt32.toNat_inj.mp (hw.unique hnumeral)
    rw [hread, ← htype]

theorem exists_count_iff {n : Nat} : (∃ form, n = ColorForm.count form) ↔ n ∈ [3, 4, 6, 8] := by
  constructor
  · rintro ⟨form, rfl⟩
    cases form <;> decide
  · intro h
    simp only [List.mem_cons, List.not_mem_nil, or_false] at h
    rcases h with rfl | rfl | rfl | rfl
    exacts [⟨.rgb4, rfl⟩, ⟨.argb4, rfl⟩, ⟨.rgb8, rfl⟩, ⟨.argb8, rfl⟩]

theorem isSome_color?_iff : (color? text).isSome ↔ ∃ digits, trim text = '#' :: digits ∧
    digits.length ∈ [3, 4, 6, 8] ∧ ∀ c ∈ digits, ∃ d, IsDigit 16 c d := by
  constructor
  · intro h
    obtain ⟨p, hp⟩ := Option.isSome_iff_exists.mp h
    obtain ⟨form, digits, htext, hform, -⟩ := color?_eq_some_iff.mp hp
    exact ⟨digits, htext, exists_count_iff.mp ⟨form, hform.count⟩, hform.digits⟩
  · rintro ⟨digits, htext, hlength, hdigits⟩
    obtain ⟨form, hcount⟩ := exists_count_iff.mpr hlength
    obtain ⟨w, hread, -⟩ := exists_color?_of_admits htext ⟨hcount, hdigits⟩
    rw [hread]
    rfl

/-- Spellings with the same eight digits have the same data. -/
theorem color?_of_same_digits {text' digits' : List Char} {form' : ColorForm}
    (htext : trim text = '#' :: digits) (hform : form.Admits digits)
    (htext' : trim text' = '#' :: digits') (hform' : form'.Admits digits')
    (h : form.expand 'f' digits = form'.expand 'f' digits') :
    ∃ w, color? text = some ⟨form.dataType, w⟩ ∧ color? text' = some ⟨form'.dataType, w⟩ := by
  obtain ⟨w, hread, hw⟩ := exists_color?_of_admits htext hform
  obtain ⟨w', hread', hw'⟩ := exists_color?_of_admits htext' hform'
  rw [← h] at hw'
  obtain rfl : w = w' := UInt32.toNat_inj.mp (hw.unique hw')
  exact ⟨w, hread, hread'⟩

end Reading

/-- **The reader of colors** accepts exactly the four forms, and reads a short form as what it
stands for. -/
structure ReadsColors : Prop where
  /-- What is read are three, four, six or eight hexadecimal digits behind `#`, with blanks
  around them. -/
  accepts : ∀ text, (color? text).isSome ↔ ∃ digits, trim text = '#' :: digits ∧
    digits.length ∈ [3, 4, 6, 8] ∧ ∀ c ∈ digits, ∃ d, IsDigit 16 c d
  /-- The data type tells the form; the data is the number that the eight digits write. -/
  reads : ∀ text p, color? text = some p ↔ ∃ form digits, trim text = '#' :: digits ∧
    ColorForm.Admits form digits ∧ p.dataType = form.dataType ∧
      IsNumeral 16 (form.expand 'f' digits) p.data.toNat
  /-- A form and its eight digits are read as the same data. -/
  expanded : ∀ form digits, ColorForm.Admits form digits → ∃ w,
    color? ('#' :: digits) = some ⟨form.dataType, w⟩ ∧
      color? ('#' :: form.expand 'f' digits) = some ⟨DataType.colorArgb8, w⟩
  /-- So are any two texts that stand for the same eight digits. -/
  sameData : ∀ text text' form form' digits digits', trim text = '#' :: digits →
    trim text' = '#' :: digits' → ColorForm.Admits form digits → ColorForm.Admits form' digits' →
      form.expand 'f' digits = form'.expand 'f' digits' →
        ∃ w, color? text = some ⟨form.dataType, w⟩ ∧ color? text' = some ⟨form'.dataType, w⟩

theorem readsColors : ReadsColors where
  accepts _ := isSome_color?_iff
  reads _ _ := color?_eq_some_iff
  expanded _ _ hform :=
    color?_of_same_digits hform.trim_eq hform hform.expand.trim_eq hform.expand rfl
  sameData _ _ _ _ _ _ htext htext' hform hform' :=
    color?_of_same_digits htext hform htext' hform'

/-- One color in three forms, and a text of five digits. -/
example :
    ["#8aF", " #88aaff ", "#FF88AAFF", "#8aF00"].map
      (fun text => (color? text.toList).map Primitive.data) =
    [some 0xFF88AAFF, some 0xFF88AAFF, some 0xFF88AAFF, none] := by
  decide

end Literal
end AppResources
