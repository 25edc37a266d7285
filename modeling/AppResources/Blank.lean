/-!
# Blank characters

Texts taken from attributes come with blanks around them.  **Blank** is the
Unicode property `White_Space`: the ASCII blanks, the next-line character, the
no-break space, the typographic spaces and the two separators.  `trim` removes
the blanks at both ends and leaves those in between.
-/

namespace AppResources

/-- A character with the property `White_Space`. -/
def isBlank (c : Char) : Bool :=
  let n := c.toNat
  (0x9 ≤ n && n ≤ 0xD) || n == 0x20 || n == 0x85 || n == 0xA0 || n == 0x1680 ||
    (0x2000 ≤ n && n ≤ 0x200A) || n == 0x2028 || n == 0x2029 || n == 0x202F ||
    n == 0x205F || n == 0x3000

/-- The text without the blanks before its first and after its last other
character. -/
def trim (text : List Char) : List Char :=
  ((text.dropWhile isBlank).reverse.dropWhile isBlank).reverse

/-! ## Texts without blanks at their ends -/

theorem dropWhile_isBlank_of_head {text : List Char} (h : ∀ c ∈ text.head?, isBlank c = false) :
    text.dropWhile isBlank = text := by
  cases text with
  | nil => rfl
  | cons c rest => rw [List.dropWhile_cons_of_neg (by simp [h c rfl])]

/-- A text that neither begins nor ends with a blank is left as it is. -/
theorem trim_eq_self {text : List Char} (hfirst : ∀ c ∈ text.head?, isBlank c = false)
    (hlast : ∀ c ∈ text.getLast?, isBlank c = false) : trim text = text := by
  rw [trim, dropWhile_isBlank_of_head hfirst, dropWhile_isBlank_of_head (by simpa using hlast),
    List.reverse_reverse]

/-- A text without blanks is left as it is. -/
theorem trim_eq_self_of_forall {text : List Char} (h : ∀ c ∈ text, isBlank c = false) :
    trim text = text :=
  trim_eq_self (fun c hc => h c (List.mem_of_mem_head? hc))
    (fun c hc => h c (List.mem_of_mem_getLast? hc))

/-- No blank is left at the end. -/
theorem isBlank_getLast?_trim {text : List Char} :
    ∀ c ∈ (trim text).getLast?, isBlank c = false := by
  intro c hc
  rw [trim, List.getLast?_reverse] at hc
  have hfirst := List.head?_dropWhile_not isBlank (text.dropWhile isBlank).reverse
  rw [Option.mem_def.mp hc] at hfirst
  exact hfirst

/-! ## Blanks around a text -/

/-- **Blanks added before and after a text are taken off again.** -/
theorem trim_padded {before after : List Char} (hbefore : ∀ c ∈ before, isBlank c = true)
    (hafter : ∀ c ∈ after, isBlank c = true) (text : List Char) :
    trim (before ++ text ++ after) = trim text := by
  have hfront : (before ++ text ++ after).dropWhile isBlank = (text ++ after).dropWhile isBlank := by
    rw [List.append_assoc, List.dropWhile_append_of_pos hbefore]
  rw [trim, trim, hfront, List.dropWhile_append]
  by_cases hempty : (text.dropWhile isBlank).isEmpty = true
  · -- the text is blank as well, so nothing is left of either
    have hnothing : after.dropWhile isBlank = [] := by
      rw [← List.append_nil after, List.dropWhile_append_of_pos hafter]
      rfl
    rw [if_pos hempty, List.isEmpty_iff.mp hempty, hnothing]
  · have hreversed : ∀ c ∈ after.reverse, isBlank c = true := by simpa using hafter
    rw [if_neg hempty, List.reverse_append, List.dropWhile_append_of_pos hreversed]

end AppResources
