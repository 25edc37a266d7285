/-!
# Resource types

A resource belongs to one of twenty-six types.  Their order here is the order
of the types inside a package, and `text` is the word used in references.
-/

namespace AppResources

/-- The logical type of a resource. -/
inductive ResourceType where
  | anim | animator | array | attr | attrPrivate | bool | color | configVarying
  | dimen | drawable | font | fraction | id | integer | interpolator | layout
  | menu | mipmap | navigation | plurals | raw | string | style | styleable
  | transition | xml
  deriving DecidableEq, Inhabited

namespace ResourceType

/-- All types, in order. -/
def all : List ResourceType :=
  [anim, animator, array, attr, attrPrivate, bool, color, configVarying, dimen, drawable,
    font, fraction, id, integer, interpolator, layout, menu, mipmap, navigation, plurals,
    raw, string, style, styleable, transition, xml]

/-- The word that names the type in a reference. -/
def text : ResourceType → String
  | anim => "anim"
  | animator => "animator"
  | array => "array"
  | attr => "attr"
  | attrPrivate => "^attr-private"
  | bool => "bool"
  | color => "color"
  | configVarying => "configVarying"
  | dimen => "dimen"
  | drawable => "drawable"
  | font => "font"
  | fraction => "fraction"
  | id => "id"
  | integer => "integer"
  | interpolator => "interpolator"
  | layout => "layout"
  | menu => "menu"
  | mipmap => "mipmap"
  | navigation => "navigation"
  | plurals => "plurals"
  | raw => "raw"
  | string => "string"
  | style => "style"
  | styleable => "styleable"
  | transition => "transition"
  | xml => "xml"

/-- The type that a word names, in exactly its spelling. -/
def ofText? (word : String) : Option ResourceType :=
  all.find? fun t => t.text == word

/-- The place of the type in the order, from zero. -/
def rank (t : ResourceType) : Nat := t.ctorIdx

instance : Ord ResourceType := ⟨compareOn rank⟩

/-- Every type is listed, at its place in the order. -/
theorem getElem?_all_rank (t : ResourceType) : all[t.rank]? = some t := by
  cases t <;> rfl

theorem rank_injective {s t : ResourceType} (h : s.rank = t.rank) : s = t := by
  have hs := getElem?_all_rank s
  rw [h, getElem?_all_rank t] at hs
  exact (Option.some.inj hs).symm

/-- The word of a type names that type. -/
@[simp] theorem ofText?_text (t : ResourceType) : ofText? t.text = some t := by
  cases t <;> decide

/-- Only its own word names a type. -/
theorem text_of_ofText? {word : String} {t : ResourceType} (h : ofText? word = some t) :
    t.text = word := by
  simpa using List.find?_some h

instance : Std.TransOrd ResourceType := inferInstanceAs (Std.TransCmp (compareOn rank))

instance : Std.LawfulEqOrd ResourceType where
  compare_self {t} := Std.ReflOrd.compare_self (a := t.rank)
  eq_of_compare h := rank_injective (Std.LawfulEqOrd.eq_of_compare h)

end ResourceType

end AppResources
