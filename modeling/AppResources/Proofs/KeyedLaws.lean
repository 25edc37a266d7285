import AppResources.Keyed

/-!
# Laws of lists kept in key order

`get?` is the view through which every level of a table is seen.  This module
says what each operation does to it, and that an increasing list has nothing
else: two increasing lists with the same lookups are the same list
(`ext_of_increasing`).

The lookups after `update` and `modify` need no hypothesis on the list, since
both walk it exactly as `get?` does; only dropping an item uses that a key
stands once.  For the same reason updates form an algebra on arbitrary lists:
two of them on different keys commute, and two on one key are one
(`update_comm`, `update_update`).  `update_swap` joins the two cases.
-/

namespace AppResources.Keyed

open Std

variable {κ β γ : Type} [Ord κ] [LawfulEqOrd κ]

/-! ## Lookups -/

theorem get?_update_self (items : Keyed κ β) (key : κ) (change : Option β → β) :
    get? (update items key change) key = some (change (get? items key)) := by
  induction items with
  | nil => simp [get?, ReflOrd.compare_self]
  | cons item rest ih =>
    obtain ⟨k, b⟩ := item
    cases hk : compare key k with
    | lt => simp only [update, get?, hk, ReflOrd.compare_self]
    | eq => simp only [update, get?, hk]
    | gt => simp only [update, get?, hk, ih]

theorem get?_update_of_ne [TransOrd κ] (items : Keyed κ β) {key k : κ} (h : k ≠ key)
    (change : Option β → β) : get? (update items key change) k = get? items k := by
  have hne : compare k key ≠ .eq := fun he => h (LawfulEqOrd.eq_of_compare he)
  induction items with
  | nil =>
    cases hk : compare k key with
    | eq => exact absurd hk hne
    | lt | gt => simp only [update, get?, hk]
  | cons item rest ih =>
    obtain ⟨k', b⟩ := item
    cases hk : compare key k' with
    | lt =>
      cases hc : compare k key with
      | lt => simp only [update, get?, hk, hc, TransCmp.lt_trans hc hk]
      | eq => exact absurd hc hne
      | gt => simp only [update, get?, hk, hc]
    | eq =>
      obtain rfl := LawfulEqOrd.eq_of_compare hk
      cases hc : compare k key with
      | eq => exact absurd hc hne
      | lt | gt => simp only [update, get?, hk, hc]
    | gt => cases hc : compare k k' <;> simp only [update, get?, hk, hc, ih]

/-- **An update is seen at its key and nowhere else.** -/
theorem get?_update [TransOrd κ] [DecidableEq κ] (items : Keyed κ β) (key : κ)
    (change : Option β → β) (k : κ) : get? (update items key change) k =
      if k = key then some (change (get? items key)) else get? items k := by
  split
  · rename_i h
    rw [h, get?_update_self]
  · rename_i h
    rw [get?_update_of_ne items h]

theorem get?_modify [DecidableEq κ] (items : Keyed κ β) (key : κ) (change : β → β) (k : κ) :
    get? (modify items key change) k =
      if k = key then (get? items key).map change else get? items k := by
  induction items with
  | nil => simp [modify, get?]
  | cons item rest ih =>
    obtain ⟨k', b⟩ := item
    by_cases h : k = key
    · subst h
      rw [if_pos rfl] at ih ⊢
      cases hk : compare k k' with
      | lt | eq => simp only [modify, get?, hk, Option.map_none, Option.map_some]
      | gt => simp only [modify, get?, hk, ih]
    · rw [if_neg h] at ih ⊢
      have hne : compare k key ≠ .eq := fun he => h (LawfulEqOrd.eq_of_compare he)
      cases hk : compare key k' with
      | lt => simp only [modify, hk]
      | eq =>
        obtain rfl := LawfulEqOrd.eq_of_compare hk
        cases hc : compare k key with
        | eq => exact absurd hc hne
        | lt | gt => simp only [modify, get?, hk, hc]
      | gt => cases hc : compare k k' <;> simp only [modify, get?, hk, hc, ih]

omit [LawfulEqOrd κ] in
theorem get?_mapItems (items : Keyed κ β) (f : β → γ) (k : κ) :
    get? (mapItems items f) k = (get? items k).map f := by
  induction items with
  | nil => rfl
  | cons item rest ih =>
    obtain ⟨k', b⟩ := item
    cases hc : compare k k' with
    | lt | eq => simp only [mapItems, List.map_cons, get?, hc, Option.map_none, Option.map_some]
    | gt => simpa only [mapItems, List.map_cons, get?, hc] using ih

/-- An item after an update is the updated one, or one that was there. -/
theorem mem_update {items : Keyed κ β} {key : κ} {change : Option β → β} {item : κ × β}
    (h : item ∈ update items key change) :
    item = (key, change (get? items key)) ∨ item ∈ items := by
  induction items with
  | nil => exact Or.inl (List.mem_singleton.mp h)
  | cons head rest ih =>
    obtain ⟨k, b⟩ := head
    cases hk : compare key k with
    | lt =>
      simp only [update, get?, hk] at h ⊢
      exact List.mem_cons.mp h
    | eq =>
      obtain rfl := LawfulEqOrd.eq_of_compare hk
      simp only [update, get?, hk] at h ⊢
      exact (List.mem_cons.mp h).imp_right (List.mem_cons_of_mem _)
    | gt =>
      simp only [update, get?, hk] at h ⊢
      rcases List.mem_cons.mp h with rfl | h
      · exact Or.inr List.mem_cons_self
      · exact (ih h).imp_right (List.mem_cons_of_mem _)

/-! ## The algebra of updates -/

omit [LawfulEqOrd κ] in
/-- An update that puts back what it finds changes nothing. -/
theorem update_of_get? {items : Keyed κ β} {key : κ} {change : Option β → β} {b : β}
    (h : get? items key = some b) (hb : change (some b) = b) :
    update items key change = items := by
  induction items with
  | nil => cases h
  | cons item rest ih =>
    obtain ⟨k, b'⟩ := item
    cases hk : compare key k with
    | lt => simp only [get?, hk, reduceCtorEq] at h
    | eq =>
      simp only [get?, hk, Option.some.injEq] at h
      simp only [update, hk, h, hb]
    | gt =>
      simp only [get?, hk] at h
      simp only [update, hk, ih h]

/-- Two updates of one key are one update. -/
theorem update_update (items : Keyed κ β) (key : κ) (f g : Option β → β) :
    update (update items key f) key g = update items key fun b? => g (some (f b?)) := by
  induction items with
  | nil => simp only [update, ReflOrd.compare_self]
  | cons item rest ih =>
    obtain ⟨k, b⟩ := item
    cases hk : compare key k with
    | lt => simp only [update, hk, ReflOrd.compare_self]
    | eq => simp only [update, hk]
    | gt => simp only [update, hk, ih]

variable [TransOrd κ]

/-- Where one key is before the other, their updates commute. -/
theorem update_comm_of_lt (items : Keyed κ β) {k l : κ} (h : compare k l = .lt)
    (f g : Option β → β) :
    update (update items k f) l g = update (update items l g) k f := by
  have h' : compare l k = .gt := OrientedCmp.gt_of_lt h
  induction items with
  | nil => simp only [update, h, h']
  | cons item rest ih =>
    obtain ⟨m, b⟩ := item
    cases hl : compare l m with
    | lt => simp only [update, hl, h, h', TransCmp.lt_trans h hl]
    | eq =>
      obtain rfl := LawfulEqOrd.eq_of_compare hl
      simp only [update, hl, h, h']
    | gt => cases hk : compare k m <;> simp only [update, hl, hk, h', ih]

/-- **Updates of different keys commute.** -/
theorem update_comm (items : Keyed κ β) {k l : κ} (h : k ≠ l) (f g : Option β → β) :
    update (update items k f) l g = update (update items l g) k f := by
  cases hc : compare k l with
  | lt => exact update_comm_of_lt items hc f g
  | eq => exact absurd (LawfulEqOrd.eq_of_compare hc) h
  | gt => exact (update_comm_of_lt items (OrientedCmp.lt_of_gt hc) g f).symm

/-- Updates commute when their changes do wherever they meet. -/
theorem update_swap [DecidableEq κ] (items : Keyed κ β) {k l : κ} {f g : Option β → β}
    (h : k = l → ∀ b?, g (some (f b?)) = f (some (g b?))) :
    update (update items k f) l g = update (update items l g) k f := by
  by_cases hkl : k = l
  · subst hkl
    rw [update_update, update_update, funext (h rfl)]
  · exact update_comm items hkl f g

/-! ## Increasing lists -/

/-- **Lookup and enumeration agree** on an increasing list. -/
theorem get?_eq_some_iff {items : Keyed κ β} (h : Increasing items) {k : κ} {b : β} :
    get? items k = some b ↔ (k, b) ∈ items := by
  induction items with
  | nil => simp [get?]
  | cons item rest ih =>
    obtain ⟨k', b'⟩ := item
    obtain ⟨hhead, hrest⟩ := List.pairwise_cons.mp h
    have hlater : (k, b) ∈ rest → compare k k' = .gt :=
      fun hm => OrientedCmp.gt_of_lt (hhead (k, b) hm)
    rw [List.mem_cons, Prod.mk.injEq]
    cases hc : compare k k' with
    | lt =>
      simp only [get?, hc, reduceCtorEq, false_iff, not_or, not_and]
      refine ⟨fun he => ?_, fun hm => ?_⟩
      · rw [he, ReflOrd.compare_self] at hc
        cases hc
      · rw [hlater hm] at hc
        cases hc
    | eq =>
      obtain rfl := LawfulEqOrd.eq_of_compare hc
      simp only [get?, hc, Option.some.injEq, true_and]
      refine ⟨fun he => Or.inl he.symm, fun hm => hm.elim Eq.symm fun hm => ?_⟩
      rw [hlater hm] at hc
      cases hc
    | gt =>
      have hne : k ≠ k' := by
        rintro rfl
        rw [ReflOrd.compare_self] at hc
        cases hc
      simp only [get?, hc, ih hrest, hne, false_and, false_or]

theorem get?_eq_none_iff {items : Keyed κ β} (h : Increasing items) {k : κ} :
    get? items k = none ↔ ∀ b, (k, b) ∉ items := by
  rw [Option.eq_none_iff_forall_ne_some]
  exact forall_congr' fun b => not_congr (get?_eq_some_iff h)

omit [TransOrd κ] in
theorem Increasing.nodup {items : Keyed κ β} (h : Increasing items) : items.Nodup := by
  refine h.imp fun {a b} hlt he => ?_
  rw [he, ReflOrd.compare_self] at hlt
  cases hlt

/-- **An increasing list is determined by its lookups.** -/
theorem ext_of_increasing {a b : Keyed κ β} (ha : Increasing a) (hb : Increasing b)
    (h : ∀ k, get? a k = get? b k) : a = b := by
  -- the items are the same, and there is one increasing order of them
  have hmem : ∀ item, item ∈ a ↔ item ∈ b := by
    rintro ⟨k, v⟩
    rw [← get?_eq_some_iff ha, ← get?_eq_some_iff hb, h k]
  have hperm : a.Perm b := (List.perm_ext_iff_of_nodup ha.nodup hb.nodup).mpr hmem
  refine hperm.eq_of_pairwise (fun x y _ _ hxy hyx => ?_) ha hb
  rw [OrientedCmp.gt_of_lt hxy] at hyx
  cases hyx

omit [LawfulEqOrd κ] [TransOrd κ] in
/-- Whether a list is increasing is a matter of its keys. -/
theorem increasing_iff_keys {items : Keyed κ β} :
    Increasing items ↔ (items.map Prod.fst).Pairwise fun k l => compare k l = .lt := by
  rw [List.pairwise_map]
  exact Iff.rfl

theorem Increasing.update {items : Keyed κ β} (h : Increasing items) (key : κ)
    (change : Option β → β) : Increasing (items.update key change) := by
  induction items with
  | nil => exact List.pairwise_singleton _ _
  | cons item rest ih =>
    obtain ⟨k, b⟩ := item
    obtain ⟨hhead, hrest⟩ := List.pairwise_cons.mp h
    cases hk : compare key k with
    | lt =>
      simp only [Keyed.update, hk]
      refine List.pairwise_cons.mpr ⟨fun item hm => ?_, h⟩
      rcases List.mem_cons.mp hm with rfl | hm
      · exact hk
      · exact TransCmp.lt_trans hk (hhead item hm)
    | eq =>
      simp only [Keyed.update, hk]
      exact List.pairwise_cons.mpr ⟨hhead, hrest⟩
    | gt =>
      simp only [Keyed.update, hk]
      refine List.pairwise_cons.mpr ⟨fun item hm => ?_, ih hrest⟩
      rcases mem_update hm with rfl | hm
      · exact OrientedCmp.lt_of_gt hk
      · exact hhead item hm

omit [LawfulEqOrd κ] [TransOrd κ] in
theorem keys_modify (items : Keyed κ β) (key : κ) (change : β → β) :
    (modify items key change).map Prod.fst = items.map Prod.fst := by
  induction items with
  | nil => rfl
  | cons item rest ih =>
    obtain ⟨k, b⟩ := item
    cases hk : compare key k with
    | lt | eq => simp only [modify, hk, List.map_cons]
    | gt => simp only [modify, hk, List.map_cons, ih]

omit [LawfulEqOrd κ] [TransOrd κ] in
theorem Increasing.modify {items : Keyed κ β} (h : Increasing items) (key : κ)
    (change : β → β) : Increasing (items.modify key change) := by
  rw [increasing_iff_keys, keys_modify]
  exact increasing_iff_keys.mp h

omit [LawfulEqOrd κ] [TransOrd κ] in
theorem Increasing.mapItems {items : Keyed κ β} (h : Increasing items) (f : β → γ) :
    Increasing (items.mapItems f) :=
  List.pairwise_map.mpr h

omit [LawfulEqOrd κ] [TransOrd κ] in
theorem remove_sublist (items : Keyed κ β) (key : κ) : (remove items key).Sublist items := by
  induction items with
  | nil => exact .slnil
  | cons item rest ih =>
    obtain ⟨k, b⟩ := item
    cases hk : compare key k with
    | lt => simp only [remove, hk, List.Sublist.refl]
    | eq =>
      simp only [remove, hk]
      exact List.sublist_cons_self ..
    | gt =>
      simp only [remove, hk]
      exact ih.cons_cons _

/-- **A removal takes away its key and nothing else.** -/
theorem get?_remove [DecidableEq κ] {items : Keyed κ β} (h : Increasing items) (key k : κ) :
    get? (remove items key) k = if k = key then none else get? items k := by
  induction items with
  | nil => simp [remove, get?]
  | cons item rest ih =>
    obtain ⟨k', b⟩ := item
    obtain ⟨hhead, hrest⟩ := List.pairwise_cons.mp h
    -- a key that is not behind the head has no item behind it
    have hbefore : ∀ {l : κ}, compare l k' ≠ .gt → get? rest l = none := by
      intro l hl
      refine (get?_eq_none_iff hrest).mpr fun c hm => hl ?_
      exact OrientedCmp.gt_of_lt (hhead (l, c) hm)
    cases hk : compare key k' with
    | lt =>
      simp only [remove, hk]
      split
      · rename_i he
        simp only [he, get?, hk]
      · rfl
    | eq =>
      obtain rfl := LawfulEqOrd.eq_of_compare hk
      simp only [remove, hk]
      split
      · rename_i he
        rw [he]
        exact hbefore (by rw [hk]; decide)
      · rename_i hne
        cases hc : compare k key with
        | lt =>
          simp only [get?, hc]
          exact hbefore (by rw [hc]; decide)
        | eq => exact absurd (LawfulEqOrd.eq_of_compare hc) hne
        | gt => simp only [get?, hc]
    | gt =>
      simp only [remove, hk]
      cases hc : compare k k' with
      | lt | eq =>
        have hne : k ≠ key := by
          rintro rfl
          rw [hc] at hk
          cases hk
        simp only [get?, hc, if_neg hne]
      | gt => simp only [get?, hc, ih hrest]

/-- **The first item with a property** is the one whose key no other such item
precedes. -/
theorem first?_eq_some_iff {items : Keyed κ β} (h : Increasing items) {p : β → Bool}
    {item : κ × β} : first? items p = some item ↔ item ∈ items ∧ p item.2 = true ∧
      ∀ other ∈ items, p other.2 = true → compare other.1 item.1 ≠ .lt := by
  unfold first?
  rw [List.find?_eq_some_iff_append]
  constructor
  · rintro ⟨hp, before, after, rfl, hbefore⟩
    refine ⟨List.mem_append_right _ List.mem_cons_self, hp, fun other hother hpother => ?_⟩
    obtain ⟨-, hafter, -⟩ := List.pairwise_append.mp h
    rcases List.mem_append.mp hother with hm | hm
    · have hnot := hbefore other hm
      rw [hpother] at hnot
      cases hnot
    · rcases List.mem_cons.mp hm with rfl | hm
      · rw [ReflOrd.compare_self]
        decide
      · have hlater := (List.pairwise_cons.mp hafter).1 other hm
        rw [OrientedCmp.gt_of_lt hlater]
        decide
  · rintro ⟨hitem, hp, hfirst⟩
    obtain ⟨before, after, rfl⟩ := List.append_of_mem hitem
    refine ⟨hp, before, after, rfl, fun other hm => ?_⟩
    obtain ⟨-, -, hlt⟩ := List.pairwise_append.mp h
    have hbefore := hlt other hm item List.mem_cons_self
    rw [Bool.not_eq_true', Bool.eq_false_iff]
    exact fun hpother => hfirst other (List.mem_append_left _ hm) hpother hbefore

theorem get?_filter {items : Keyed κ β} (h : Increasing items) (p : β → Bool) (k : κ) :
    get? (items.filter fun item => p item.2) k = (get? items k).filter p := by
  have hfilter : Increasing (items.filter fun item => p item.2) := h.filter _
  refine Option.ext fun b => ?_
  rw [get?_eq_some_iff hfilter, List.mem_filter, ← get?_eq_some_iff h, Option.filter_eq_some_iff]

/-- **Two lists without their empty items are the same** when they come to the same
at every key, an item that is missing counting as an empty one. -/
theorem filter_mapItems_ext {a b : Keyed κ β} (ha : Increasing a) (hb : Increasing b)
    {f : β → β} {isEmpty : β → Bool} {d : β} (hempty : isEmpty (f d) = true)
    (h : ∀ k, f ((get? a k).getD d) = f ((get? b k).getD d)) :
    (mapItems a f).filter (fun item => !isEmpty item.2) =
      (mapItems b f).filter fun item => !isEmpty item.2 := by
  have hget : ∀ {items : Keyed κ β}, Increasing items → ∀ k,
      get? ((mapItems items f).filter fun item => !isEmpty item.2) k =
        if isEmpty (f ((get? items k).getD d)) then none
        else some (f ((get? items k).getD d)) := by
    intro items hitems k
    rw [get?_filter (hitems.mapItems f) (fun b => !isEmpty b), get?_mapItems]
    cases get? items k with
    | none => simp [hempty]
    | some b => cases hb : isEmpty (f b) <;> simp [hb]
  have hfilter : ∀ {items : Keyed κ β}, Increasing items →
      Increasing ((mapItems items f).filter fun item => !isEmpty item.2) :=
    fun hitems => (hitems.mapItems f).filter _
  refine ext_of_increasing (hfilter ha) (hfilter hb) fun k => ?_
  rw [hget ha, hget hb, h k]

/-! ## What an update does to the list -/

omit [Ord κ] [LawfulEqOrd κ] [TransOrd κ] in
/-- The second list has one item more, under a key that had none. -/
structure Inserts (items items' : Keyed κ β) (key : κ) (b : β) : Prop where
  /-- The key is new. -/
  isNew : ∀ c, (key, c) ∉ items
  /-- The other items stay in their order. -/
  split : ∃ before after, items = before ++ after ∧ items' = before ++ (key, b) :: after

omit [Ord κ] [LawfulEqOrd κ] [TransOrd κ] in
/-- The second list has another item in one place. -/
def Replaces (items items' : Keyed κ β) (key : κ) (b b' : β) : Prop :=
  ∃ before after, items = before ++ (key, b) :: after ∧ items' = before ++ (key, b') :: after

/-- An update of a new key inserts an item. -/
theorem inserts_update {items : Keyed κ β} (h : Increasing items) {key : κ}
    (hnew : get? items key = none) (change : Option β → β) :
    Inserts items (update items key change) key (change none) where
  isNew := (get?_eq_none_iff h).mp hnew
  split := by
    induction items with
    | nil => exact ⟨[], [], rfl, rfl⟩
    | cons item rest ih =>
      obtain ⟨k, b⟩ := item
      cases hk : compare key k with
      | lt => exact ⟨[], (k, b) :: rest, rfl, by simp only [update, hk, List.nil_append]⟩
      | eq => simp only [get?, hk, reduceCtorEq] at hnew
      | gt =>
        simp only [get?, hk] at hnew
        obtain ⟨before, after, hitems, hupdate⟩ := ih (List.Pairwise.of_cons h) hnew
        refine ⟨(k, b) :: before, after, ?_, ?_⟩
        · rw [hitems, List.cons_append]
        · simp only [update, hk, hupdate, List.cons_append]

omit [TransOrd κ] in
/-- An update of a key that is there replaces its item. -/
theorem replaces_update {items : Keyed κ β} {key : κ} {b : β} (hb : get? items key = some b)
    (change : Option β → β) : Replaces items (update items key change) key b (change (some b)) := by
  induction items with
  | nil => cases hb
  | cons item rest ih =>
    obtain ⟨k, b'⟩ := item
    cases hk : compare key k with
    | lt => simp only [get?, hk, reduceCtorEq] at hb
    | eq =>
      obtain rfl := LawfulEqOrd.eq_of_compare hk
      simp only [get?, hk, Option.some.injEq] at hb
      subst hb
      exact ⟨[], rest, rfl, by simp only [update, hk, List.nil_append]⟩
    | gt =>
      simp only [get?, hk] at hb
      obtain ⟨before, after, hitems, hupdate⟩ := ih hb
      refine ⟨(k, b') :: before, after, ?_, ?_⟩
      · rw [hitems, List.cons_append]
      · simp only [update, hk, hupdate, List.cons_append]

omit [Ord κ] [LawfulEqOrd κ] [TransOrd κ] in
theorem Replaces.keys {items items' : Keyed κ β} {key : κ} {b b' : β}
    (h : Replaces items items' key b b') : items'.map Prod.fst = items.map Prod.fst := by
  obtain ⟨before, after, rfl, rfl⟩ := h
  simp only [List.map_append, List.map_cons]

/-! ## Increasing lists of items with a property -/

/-- Increasing keys, and a property that every item has. -/
structure OrderedBy (P : β → Prop) (items : Keyed κ β) : Prop where
  /-- The keys increase strictly. -/
  increasing : Increasing items
  /-- Every item has the property. -/
  each : ∀ item ∈ items, P item.2

namespace OrderedBy
variable {P : β → Prop} {items : Keyed κ β}

omit [LawfulEqOrd κ] [TransOrd κ] in
theorem nil : OrderedBy P ([] : Keyed κ β) := ⟨increasing_nil, by simp⟩

theorem of_get? (h : OrderedBy P items) {k : κ} {b : β} (hb : get? items k = some b) : P b :=
  h.each (k, b) ((get?_eq_some_iff h.increasing).mp hb)

theorem update (h : OrderedBy P items) {key : κ} {change : Option β → β}
    (hchange : P (change (get? items key))) : OrderedBy P (items.update key change) where
  increasing := h.increasing.update key change
  each item hm := by
    rcases mem_update hm with rfl | hm
    · exact hchange
    · exact h.each item hm

/-- An update that starts from a default when the key is new. -/
theorem updateFrom (h : OrderedBy P items) {key : κ} {default : β} {change : β → β}
    (hdefault : P default) (hchange : ∀ b, P b → P (change b)) :
    OrderedBy P (items.update key fun b? => change (b?.getD default)) := by
  refine h.update (hchange _ ?_)
  cases hb : get? items key with
  | none => exact hdefault
  | some b => exact h.of_get? hb

theorem modify (h : OrderedBy P items) {key : κ} {change : β → β}
    (hchange : ∀ b, P b → P (change b)) : OrderedBy P (items.modify key change) where
  increasing := h.increasing.modify key change
  each item hm := by
    classical
    have hget := (get?_eq_some_iff (h.increasing.modify key change)).mpr hm
    rw [get?_modify] at hget
    split at hget
    · obtain ⟨b, hb, hitem⟩ := Option.map_eq_some_iff.mp hget
      exact hitem ▸ hchange b (h.of_get? hb)
    · exact h.of_get? hget

omit [LawfulEqOrd κ] [TransOrd κ] in
theorem mapItems {Q : γ → Prop} (h : OrderedBy P items) {f : β → γ}
    (hf : ∀ b, P b → Q (f b)) : OrderedBy Q (items.mapItems f) where
  increasing := h.increasing.mapItems f
  each item hm := by
    obtain ⟨before, hbefore, rfl⟩ := List.mem_map.mp hm
    exact hf before.2 (h.each before hbefore)

end OrderedBy

end AppResources.Keyed
