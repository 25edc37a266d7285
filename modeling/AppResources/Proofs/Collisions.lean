import AppResources.Collision
import Mathlib.Data.List.Induction

/-!
# Histories of one slot

The values that are offered to one slot, one after another, meet the resolver
pairwise; what the slot holds in the end is a fold over the history (`settle`,
`offer`).  The rules of the offered resolvers come down to when the incoming value
is taken (`takeNew_attributes_iff`, `takeNew_others_iff`) and when the two are in
conflict (`conflict_attributes_iff`, `conflict_others_iff`).

A history may carry a slot through several replacements, but offering it a second
time ends where it ended before (`foldl_offer_twice`).  The reason is that whatever
replaces the survivor of a history comes back after that history
(`settle_survivor`).  A strong value is followed by values of its kind only
(`follows_history`).  A weak one can only have replaced a weak attribute: one of its
own mask, which meets every value as it does itself (`history_congr`), or one that
accepts anything, whose survival means that nothing was offered that could replace
either (`history_of_open`).
-/

namespace AppResources

/-- An attribute is of no other kind. -/
theorem Value.kind_eq_attr_iff {v : Value} : v.kind = .attr ↔ v.attribute?.isSome := by
  unfold Value.kind Value.attribute? Payload.kind
  cases v.payload <;> simp

theorem Value.attribute?_eq_none_iff {v : Value} : v.attribute? = none ↔ v.kind ≠ .attr := by
  rw [ne_eq, kind_eq_attr_iff, Option.not_isSome_iff_eq_none]

theorem Value.attribute?_eq_none_of_kind {v w : Value} (h : v.kind = w.kind)
    (hw : w.attribute? = none) : v.attribute? = none := by
  cases hv : v.attribute? with
  | none => rfl
  | some a =>
    have hkind : w.kind = .attr := h ▸ kind_eq_attr_iff.mpr (by rw [hv]; rfl)
    rw [kind_eq_attr_iff, hw] at hkind
    cases hkind

/-- A weak attribute that accepts anything. -/
def Value.Open (v : Value) : Prop :=
  v.isWeak = true ∧ ∃ a, v.attribute? = some a ∧ a.mask = .any

/-- The formats of an attribute. -/
def Value.mask? (v : Value) : Option FormatMask := v.attribute?.map Attribute.mask

theorem Value.open_iff {v : Value} : v.Open ↔ v.isWeak = true ∧ v.mask? = some .any := by
  unfold Open mask?
  rw [Option.map_eq_some_iff]

instance (v : Value) : Decidable v.Open := decidable_of_iff _ Value.open_iff.symm

namespace Resolver

variable {sameKind : Resolution} {existing incoming : Value}

/-- The rule for two attributes does not speak of other values. -/
theorem resolveAttributes?_eq_none (h : existing.attribute? = none ∨ incoming.attribute? = none) :
    resolveAttributes? existing incoming = none := by
  unfold resolveAttributes?
  rcases h with h | h
  · rw [h]
  · rw [h]
    cases existing.attribute? <;> rfl

/-- **Of two attributes** the incoming one is taken when the stored one is weak, and
has its mask or accepts anything. -/
theorem takeNew_attributes_iff {a b : Attribute} (ha : existing.attribute? = some a)
    (hb : incoming.attribute? = some b) : ofSameKind sameKind existing incoming = .takeNew ↔
      existing.isWeak = true ∧ (a.mask = b.mask ∨ a.mask = .any) := by
  simp only [ofSameKind, resolveAttributes?, ha, hb]
  by_cases hmask : a.mask = b.mask
  · cases existing.isWeak <;> simp [hmask]
  · by_cases hany : existing.isWeak = true ∧ a.mask = .any
    · simp [hany.1, hany.2]
    · simp only [hmask, hany, if_false, false_or, iff_false]
      split <;> decide

/-- **Of other values** the incoming one is taken when it is strong, and the stored
one is weak or has to give way to its kind. -/
theorem takeNew_others_iff (h : existing.attribute? = none ∨ incoming.attribute? = none) :
    ofSameKind sameKind existing incoming = .takeNew ↔ incoming.isWeak = false ∧
      (existing.isWeak = true ∨ existing.kind = incoming.kind ∧ sameKind = .takeNew) := by
  simp only [ofSameKind, resolveAttributes?_eq_none h]
  cases incoming.isWeak with
  | true => simp
  | false =>
    cases existing.isWeak with
    | true => simp
    | false => by_cases hkind : existing.kind = incoming.kind <;> simp [hkind]

/-- **Two attributes are in conflict** when their masks differ and neither is a weak one
that accepts anything. -/
theorem conflict_attributes_iff {a b : Attribute} (ha : existing.attribute? = some a)
    (hb : incoming.attribute? = some b) : ofSameKind sameKind existing incoming = .conflict ↔
      a.mask ≠ b.mask ∧ ¬ existing.Open ∧ ¬ incoming.Open := by
  simp only [ofSameKind, resolveAttributes?, Value.open_iff, Value.mask?, ha, hb, Option.map_some,
    Option.some.injEq]
  by_cases hmask : a.mask = b.mask
  · cases existing.isWeak <;> simp [hmask]
  · rw [if_neg hmask]
    by_cases hexisting : existing.isWeak = true ∧ a.mask = .any
    · rw [if_pos hexisting]
      exact iff_of_false (by decide) fun h => h.2.1 hexisting
    · rw [if_neg hexisting]
      by_cases hincoming : incoming.isWeak = true ∧ b.mask = .any
      · rw [if_pos hincoming]
        exact iff_of_false (by decide) fun h => h.2.2 hincoming
      · rw [if_neg hincoming]
        exact iff_of_true rfl ⟨hmask, hexisting, hincoming⟩

/-- **Other values are in conflict** when both are strong, and their kinds differ or may
not meet. -/
theorem conflict_others_iff (h : existing.attribute? = none ∨ incoming.attribute? = none) :
    ofSameKind sameKind existing incoming = .conflict ↔ existing.isWeak = false ∧
      incoming.isWeak = false ∧ (existing.kind = incoming.kind → sameKind = .conflict) := by
  simp only [ofSameKind, resolveAttributes?_eq_none h]
  cases incoming.isWeak with
  | true => simp
  | false =>
    cases existing.isWeak with
    | true => simp
    | false => by_cases hkind : existing.kind = incoming.kind <;> simp [hkind]

/-- A strong value is only replaced by a strong one of its kind, which is not an
attribute, and only where the later one wins. -/
theorem of_takeNew_strong (h : ofSameKind sameKind existing incoming = .takeNew)
    (hstrong : existing.isWeak = false) : existing.attribute? = none ∧
      incoming.isWeak = false ∧ existing.kind = incoming.kind ∧ sameKind = .takeNew := by
  by_cases hattr : existing.attribute? = none ∨ incoming.attribute? = none
  · obtain ⟨hincoming, hrest⟩ := (takeNew_others_iff hattr).mp h
    rw [hstrong] at hrest
    obtain ⟨hkind, hsame⟩ := hrest.resolve_left (by decide)
    refine ⟨hattr.elim id ?_, hincoming, hkind, hsame⟩
    exact Value.attribute?_eq_none_of_kind hkind
  · obtain ⟨ha, hb⟩ := not_or.mp hattr
    obtain ⟨a, ha⟩ := Option.ne_none_iff_exists'.mp ha
    obtain ⟨b, hb⟩ := Option.ne_none_iff_exists'.mp hb
    rw [((takeNew_attributes_iff ha hb).mp h).1] at hstrong
    cases hstrong

/-- A weak value is only taken as an attribute in place of a weak attribute. -/
theorem of_takeNew_weak (h : ofSameKind sameKind existing incoming = .takeNew)
    (hweak : incoming.isWeak = true) : ∃ a b, existing.attribute? = some a ∧
      incoming.attribute? = some b ∧ existing.isWeak = true ∧
        (a.mask = b.mask ∨ a.mask = .any) := by
  by_cases hattr : existing.attribute? = none ∨ incoming.attribute? = none
  · rw [((takeNew_others_iff hattr).mp h).1] at hweak
    cases hweak
  · obtain ⟨ha, hb⟩ := not_or.mp hattr
    obtain ⟨a, ha⟩ := Option.ne_none_iff_exists'.mp ha
    obtain ⟨b, hb⟩ := Option.ne_none_iff_exists'.mp hb
    obtain ⟨hexisting, hmask⟩ := (takeNew_attributes_iff ha hb).mp h
    exact ⟨a, b, ha, hb, hexisting, hmask⟩

/-! ## Histories -/

/-- The value that a collision leaves in the slot. -/
def settle (r : Resolver) (existing incoming : Value) : Value :=
  if r existing incoming = .takeNew then incoming else existing

theorem settle_of_takeNew {r : Resolver} (h : r existing incoming = .takeNew) :
    r.settle existing incoming = incoming :=
  if_pos h

theorem settle_of_ne {r : Resolver} (h : r existing incoming ≠ .takeNew) :
    r.settle existing incoming = existing :=
  if_neg h

theorem settle_self (r : Resolver) (v : Value) : r.settle v v = v := ite_self v

/-- What every collision keeps, a history keeps. -/
theorem history_invariant {r : Resolver} {P : Value → Prop}
    (hstep : ∀ v x, P v → P (r.settle v x)) {v : Value} (hv : P v) (xs : List Value) :
    P (xs.foldl r.settle v) := by
  induction xs generalizing v with
  | nil => exact hv
  | cons x rest ih => exact ih (hstep v x hv)

/-- What follows a strong value: the value itself, or a strong one of its kind that
the kind's rule has put in its place. -/
def Follows (sameKind : Resolution) (x v : Value) : Prop :=
  v = x ∨ v.isWeak = false ∧ v.kind = x.kind ∧ x.attribute? = none ∧ sameKind = .takeNew

/-- A collision leaves a value that still follows. -/
theorem Follows.settle {x v : Value} (hx : x.isWeak = false) (hv : Follows sameKind x v)
    (y : Value) : Follows sameKind x ((ofSameKind sameKind).settle v y) := by
  by_cases htake : ofSameKind sameKind v y = .takeNew
  · have hstrong : v.isWeak = false := by
      rcases hv with rfl | hv
      · exact hx
      · exact hv.1
    have hkind : v.kind = x.kind := by
      rcases hv with rfl | hv
      · rfl
      · exact hv.2.1
    obtain ⟨hnone, hy, hvy, hsame⟩ := of_takeNew_strong htake hstrong
    rw [settle_of_takeNew htake]
    have hxnone := Value.attribute?_eq_none_of_kind hkind.symm hnone
    exact Or.inr ⟨hy, hvy.symm.trans hkind, hxnone, hsame⟩
  · rw [settle_of_ne htake]
    exact hv

/-- **A strong value is followed by its kind.** -/
theorem follows_history {x : Value} (hx : x.isWeak = false) (xs : List Value) :
    Follows sameKind x (xs.foldl (ofSameKind sameKind).settle x) :=
  history_invariant (fun _ y hv => hv.settle hx y) (Or.inl rfl) xs

/-- Weak attributes with one mask meet every value alike. -/
theorem takeNew_congr {v w y : Value} {a b : Attribute} (hv : v.attribute? = some a)
    (hw : w.attribute? = some b) (hmask : a.mask = b.mask) (hvweak : v.isWeak = true)
    (hwweak : w.isWeak = true) :
    ofSameKind sameKind v y = .takeNew ↔ ofSameKind sameKind w y = .takeNew := by
  cases hy : y.attribute? with
  | some c =>
    rw [takeNew_attributes_iff hv hy, takeNew_attributes_iff hw hy, hmask, hvweak, hwweak]
  | none =>
    rw [takeNew_others_iff (Or.inr hy), takeNew_others_iff (Or.inr hy), hvweak, hwweak]
    simp

/-- Two weak attributes with one mask both survive a history, or neither does. -/
theorem history_congr {v w : Value} {a b : Attribute} (hv : v.attribute? = some a)
    (hw : w.attribute? = some b) (hmask : a.mask = b.mask) (hvweak : v.isWeak = true)
    (hwweak : w.isWeak = true) (xs : List Value) :
    (xs.foldl (ofSameKind sameKind).settle v = v ∧ xs.foldl (ofSameKind sameKind).settle w = w) ∨
      xs.foldl (ofSameKind sameKind).settle v = xs.foldl (ofSameKind sameKind).settle w := by
  induction xs with
  | nil => exact Or.inl ⟨rfl, rfl⟩
  | cons y rest ih =>
    rw [List.foldl_cons, List.foldl_cons]
    by_cases htake : ofSameKind sameKind v y = .takeNew
    · have htake' := (takeNew_congr hv hw hmask hvweak hwweak).mp htake
      rw [settle_of_takeNew htake, settle_of_takeNew htake']
      exact Or.inr rfl
    · have htake' := mt (takeNew_congr hv hw hmask hvweak hwweak).mpr htake
      rw [settle_of_ne htake, settle_of_ne htake']
      exact ih

/-- A weak attribute that accepts anything is only taken in place of another one. -/
theorem of_takeNew_open (h : ofSameKind sameKind existing incoming = .takeNew)
    (hincoming : incoming.Open) : existing.Open := by
  obtain ⟨hweak, b', hb', hany⟩ := hincoming
  obtain ⟨a, b, ha, hb, hexisting, hmask⟩ := of_takeNew_weak h hweak
  obtain rfl : b' = b := Option.some.inj (hb'.symm.trans hb)
  exact ⟨hexisting, a, ha, hmask.elim (fun he => he.trans hany) id⟩

/-- A weak attribute of another mask survives every history that a weak attribute
accepting anything survives. -/
theorem history_of_open {x : Value} {b : Attribute} (hb : x.attribute? = some b)
    (hmask : b.mask ≠ .any) {v w : Value} (h : v.Open → w = x) (xs : List Value) :
    (xs.foldl (ofSameKind sameKind).settle v).Open →
      xs.foldl (ofSameKind sameKind).settle w = x := by
  induction xs generalizing v w with
  | nil => exact h
  | cons y rest ih =>
    refine ih fun hopen => ?_
    by_cases htake : ofSameKind sameKind v y = .takeNew
    · -- the open attribute was replaced by another one, which the mask of `x` refuses
      rw [settle_of_takeNew htake] at hopen
      obtain ⟨-, c, hc, hany⟩ := id hopen
      rw [h (of_takeNew_open htake hopen)]
      refine settle_of_ne fun htake' => hmask ?_
      obtain ⟨-, he | he⟩ := (takeNew_attributes_iff hb hc).mp htake'
      · exact he.trans hany
      · exact he
    · -- the open attribute was not replaced, so what came in was weak and no attribute
      rw [settle_of_ne htake] at hopen
      obtain ⟨hweak, a, ha, hany⟩ := id hopen
      rw [h hopen]
      refine settle_of_ne fun htake' => htake ?_
      cases hy : y.attribute? with
      | some c => exact (takeNew_attributes_iff ha hy).mpr ⟨hweak, Or.inr hany⟩
      | none =>
        have hstrong := ((takeNew_others_iff (Or.inr hy)).mp htake').1
        exact (takeNew_others_iff (Or.inr hy)).mpr ⟨hstrong, Or.inl hweak⟩

/-- **What replaced the survivor of a history comes back**: it survives the history
in turn, or is taken again in place of what does. -/
theorem settle_survivor {v x : Value} {xs : List Value}
    (hv : xs.foldl (ofSameKind sameKind).settle v = v)
    (htake : ofSameKind sameKind v x = .takeNew) :
    (ofSameKind sameKind).settle (xs.foldl (ofSameKind sameKind).settle x) x = x := by
  cases hx : x.isWeak with
  | false =>
    -- what is left in place of `x` is of its kind, and gives way to `x` again
    rcases follows_history hx xs with hq | ⟨-, hkind, hnone, hsame⟩
    · rw [hq, settle_self]
    · exact settle_of_takeNew
        ((takeNew_others_iff (Or.inr hnone)).mpr ⟨hx, Or.inr ⟨hkind, hsame⟩⟩)
  | true =>
    -- weak values replace weak attributes only, of their own mask or open ones
    obtain ⟨a, b, ha, hb, hweak, hmask⟩ := of_takeNew_weak htake hx
    by_cases hsame : a.mask = b.mask
    · rcases history_congr ha hb hsame hweak hx xs with ⟨-, hq⟩ | hq
      · rw [hq, settle_self]
      · rw [← hq, hv, settle_of_takeNew htake]
    · have hany : a.mask = .any := hmask.resolve_left hsame
      have hbmask : b.mask ≠ .any := fun he => hsame (hany.trans he.symm)
      have hopen : v.Open := ⟨hweak, a, ha, hany⟩
      rw [history_of_open hb hbmask (fun _ => rfl) xs (hv.symm ▸ hopen), settle_self]

/-! ## Slots -/

/-- The slot after a value has been offered to it. -/
def offer (r : Resolver) (slot? : Option (Option Value)) (x : Value) : Option (Option Value) :=
  some (some (slot?.join.elim x (r.settle · x)))

/-- Once there is a value in the slot, its history is that of the value. -/
theorem foldl_offer (r : Resolver) (v : Value) (xs : List Value) :
    xs.foldl r.offer (some (some v)) = some (some (xs.foldl r.settle v)) := by
  induction xs generalizing v with
  | nil => rfl
  | cons x rest ih => exact ih (r.settle v x)

/-- A slot that anything was offered to has a value. -/
theorem exists_foldl_offer (r : Resolver) (slot? : Option (Option Value)) {xs : List Value}
    (h : xs ≠ []) : ∃ v, xs.foldl r.offer slot? = some (some v) := by
  cases xs with
  | nil => exact absurd rfl h
  | cons x rest => exact ⟨_, r.foldl_offer _ rest⟩

/-- **A history that is offered again ends where it ended before.** -/
theorem foldl_offer_twice (slot? : Option (Option Value)) (xs : List Value) :
    xs.foldl (ofSameKind sameKind).offer (xs.foldl (ofSameKind sameKind).offer slot?) =
      xs.foldl (ofSameKind sameKind).offer slot? := by
  induction xs using List.reverseRecOn with
  | nil => rfl
  | append_singleton xs x ih =>
    simp only [List.foldl_append, List.foldl_cons, List.foldl_nil]
    generalize hs : xs.foldl (ofSameKind sameKind).offer slot? = s at ih ⊢
    cases hv : s.join with
    | none =>
      -- nothing was offered before, since the slot would have a value
      have hnil : xs = [] := by
        refine Classical.byContradiction fun hne => ?_
        obtain ⟨v, he⟩ := exists_foldl_offer (ofSameKind sameKind) slot? hne
        rw [← hs, he] at hv
        cases hv
      subst hnil
      simp only [List.foldl_nil, offer, hv, Option.elim_none, Option.join_some, Option.elim_some,
        settle_self]
    | some v =>
      obtain rfl : s = some (some v) := Option.join_eq_some_iff.mp hv
      rw [foldl_offer, Option.some.injEq, Option.some.injEq] at ih
      have hoffer : (ofSameKind sameKind).offer (some (some v)) x =
          some (some ((ofSameKind sameKind).settle v x)) := rfl
      rw [hoffer, foldl_offer]
      by_cases htake : ofSameKind sameKind v x = .takeNew
      · rw [settle_of_takeNew htake]
        exact congrArg (some <| some ·) (settle_survivor ih htake)
      · rw [settle_of_ne htake, ih, hoffer, settle_of_ne htake]

end Resolver
end AppResources
