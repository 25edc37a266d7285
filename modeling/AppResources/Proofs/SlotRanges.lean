import AppResources.Proofs.KeyOrder
import AppResources.Proofs.Positions

/-!
# The slots of one configuration

`slotsFor` looks for the first slot whose configuration is not smaller than the wanted one, and
takes slots from there on as long as they have it.  Slots are ordered by configuration **and**
product, so the smaller configurations stand in front and equal ones stand together: that is
all the method relies on.  It makes the slots found those that a plain filter finds
(`slotsFor_eq`), whichever way the first of them is searched for (`IsPartitionPoint`).

The order is kept by everything that can be done to the slots of an entry on its own: creating
and dropping one, and writing values (`SlotChange`).
-/

namespace AppResources

/-! ## Lists that are parted by a property -/

section Parted
variable {α : Type} {p : α → Bool} {items : List α} {i : Nat}

/-- **Where a list is parted**: the items with the property stand in front of the position, and
those without it behind. -/
structure IsPartitionPoint (p : α → Bool) (items : List α) (i : Nat) : Prop where
  before : ∀ x ∈ items.take i, p x = true
  after : ∀ x ∈ items.drop i, p x = false

/-- A list is parted somewhere if no item without the property stands before one with it. -/
theorem exists_isPartitionPoint (h : items.Pairwise fun a b => p b = true → p a = true) :
    ∃ i, IsPartitionPoint p items i := by
  induction items with
  | nil => exact ⟨0, by simp, by simp⟩
  | cons x rest ih =>
    obtain ⟨hhead, hrest⟩ := List.pairwise_cons.mp h
    by_cases hx : p x = true
    · obtain ⟨i, hbefore, hafter⟩ := ih hrest
      refine ⟨i + 1, ?_, hafter⟩
      rw [List.take_succ_cons]
      exact List.forall_mem_cons.mpr ⟨hx, hbefore⟩
    · have hx : p x = false := eq_false_of_ne_true hx
      have hnone : ∀ y ∈ rest, p y = false := fun y hy =>
        eq_false_of_ne_true fun hpy => nomatch hx.symm.trans (hhead y hy hpy)
      exact ⟨0, by simp, List.forall_mem_cons.mpr ⟨hx, hnone⟩⟩

/-- Passing over the items with the property leads to the position. -/
theorem IsPartitionPoint.dropWhile_eq (h : IsPartitionPoint p items i) :
    items.dropWhile p = items.drop i := by
  have hstop : (items.drop i).dropWhile p = items.drop i := by
    cases hdrop : items.drop i with
    | nil => rfl
    | cons x rest =>
      have hx : p x = false := h.after x (hdrop ▸ List.mem_cons_self)
      rw [List.dropWhile_cons_of_neg (by rw [hx]; decide)]
  calc items.dropWhile p
      = (items.take i ++ items.drop i).dropWhile p := by rw [List.take_append_drop]
    _ = (items.drop i).dropWhile p := List.dropWhile_append_of_pos h.before
    _ = items.drop i := hstop

/-- If the items with the property stand in front, the first run of them are all of them. -/
theorem takeWhile_eq_filter (h : items.Pairwise fun a b => p b = true → p a = true) :
    items.takeWhile p = items.filter p := by
  induction items with
  | nil => rfl
  | cons x rest ih =>
    obtain ⟨hhead, hrest⟩ := List.pairwise_cons.mp h
    by_cases hx : p x = true
    · rw [List.takeWhile_cons_of_pos hx, List.filter_cons_of_pos hx, ih hrest]
    · rw [List.takeWhile_cons_of_neg hx, List.filter_cons_of_neg hx]
      exact (List.filter_eq_nil_iff.mpr fun y hy hpy => hx (hhead y hy hpy)).symm

end Parted

/-- The items of one key are the one that is found, if there is one. -/
theorem Keyed.Increasing.filter_key {κ β : Type} [Ord κ] [Std.TransOrd κ] [Std.LawfulEqOrd κ]
    [DecidableEq κ] {items : Keyed κ β} (h : Increasing items) (key : κ) :
    items.filter (fun item => item.1 == key) =
      ((items.get? key).map fun b => (key, b)).toList := by
  have hne : ∀ {k l : κ}, compare k l = .lt → (k == l) = false := by
    intro k l hlt
    refine beq_eq_false_iff_ne.mpr fun heq => ?_
    rw [heq, Std.ReflOrd.compare_self] at hlt
    cases hlt
  cases hfound : items.get? key with
  | none =>
    refine List.filter_eq_nil_iff.mpr fun item hitem hkey => ?_
    obtain ⟨k, b⟩ := item
    obtain rfl : k = key := eq_of_beq hkey
    exact (get?_eq_none_iff h).mp hfound b hitem
  | some b =>
    -- the smaller keys stand before it, and the larger ones behind it
    obtain ⟨before, after, rfl⟩ := List.append_of_mem ((get?_eq_some_iff h).mp hfound)
    obtain ⟨-, hafter, hbefore⟩ := List.pairwise_append.mp h
    have hleft : before.filter (fun item => item.1 == key) = [] := by
      refine List.filter_eq_nil_iff.mpr fun item hitem hkey => ?_
      exact nomatch (hne (hbefore item hitem _ List.mem_cons_self)).symm.trans hkey
    have hright : after.filter (fun item => item.1 == key) = [] := by
      refine List.filter_eq_nil_iff.mpr fun item hitem hkey => ?_
      have hlt : compare key item.1 = .lt := (List.pairwise_cons.mp hafter).1 item hitem
      exact nomatch (hne hlt).symm.trans ((BEq.comm ..).trans hkey)
    simp only [List.filter_append, hleft, List.filter_cons, beq_self_eq_true, if_true, hright]
    rfl

/-! ## The order of slots, seen from one configuration -/

namespace SlotKey
variable {a b : SlotKey} {c : Config}

theorem compare_eq_lt_iff : compare a b = .lt ↔
    compare a.config b.config = .lt ∨ a.config = b.config ∧ compare a.product b.product = .lt := by
  rw [← Std.LawfulEqOrd.compare_eq_iff_eq (a := a.config)]
  exact Ordering.then_eq_lt

/-- A slot with a smaller configuration is not behind one without. -/
theorem config_lt_of_before (h : compare a b = .lt) (hb : compare b.config c = .lt) :
    compare a.config c = .lt := by
  rcases compare_eq_lt_iff.mp h with hconfig | ⟨hconfig, -⟩
  · exact Std.TransCmp.lt_trans hconfig hb
  · rwa [hconfig]

/-- Among the slots without a smaller configuration, one with the configuration is not behind
one without. -/
theorem config_eq_of_before (h : compare a b = .lt) (hb : b.config = c)
    (ha : compare a.config c ≠ .lt) : a.config = c := by
  rcases compare_eq_lt_iff.mp h with hconfig | ⟨hconfig, -⟩
  · exact absurd (hb ▸ hconfig) ha
  · exact hconfig.trans hb

end SlotKey

namespace Entry
variable {e : Entry}

/-- The slots with a smaller configuration stand in front. -/
theorem Ordered.exists_isPartitionPoint (h : e.Ordered) (c : Config) :
    ∃ i, IsPartitionPoint (fun slot => compare slot.1.config c == .lt) e.slots i := by
  refine AppResources.exists_isPartitionPoint (h.imp fun hlt hb => ?_)
  exact beq_iff_eq.mpr (SlotKey.config_lt_of_before hlt (beq_iff_eq.mp hb))

/-- **The slots found for a configuration are those that a filter finds.** -/
theorem Ordered.slotsFor_eq (h : e.Ordered) (c : Config) :
    e.slotsFor c = e.slotsIf fun key _ => key.config == c := by
  obtain ⟨i, hi⟩ := h.exists_isPartitionPoint c
  have hfront : (e.slots.take i).filter (fun slot => slot.1.config == c) = [] := by
    refine List.filter_eq_nil_iff.mpr fun slot hslot hconfig => ?_
    have hlt := hi.before slot hslot
    rw [eq_of_beq hconfig, Std.ReflOrd.compare_self] at hlt
    cases hlt
  have hbehind : (e.slots.drop i).Pairwise fun a b =>
      (b.1.config == c) = true → (a.1.config == c) = true := by
    refine (List.Pairwise.sublist (List.drop_sublist i e.slots) h).imp_of_mem ?_
    intro a b ha _ hlt hb
    have hnot : compare a.1.config c ≠ .lt := by simpa using hi.after a ha
    exact beq_iff_eq.mpr (SlotKey.config_eq_of_before hlt (eq_of_beq hb) hnot)
  calc e.slotsFor c
      = (e.slots.drop i).takeWhile fun slot => slot.1.config == c := by
        rw [slotsFor, hi.dropWhile_eq]
    _ = (e.slots.drop i).filter fun slot => slot.1.config == c := takeWhile_eq_filter hbehind
    _ = (e.slots.take i ++ e.slots.drop i).filter fun slot => slot.1.config == c := by
        rw [List.filter_append, hfront, List.nil_append]
    _ = e.slotsIf fun key _ => key.config == c := by
        rw [List.take_append_drop, slotsIf]

/-- The slots found for a configuration increase in their products. -/
theorem Ordered.products_ascend (h : e.Ordered) (c : Config) :
    (e.slotsFor c).Pairwise fun a b => a.1.product < b.1.product := by
  rw [h.slotsFor_eq, slotsIf]
  refine (List.Pairwise.sublist List.filter_sublist h).imp_of_mem fun {a b} ha hb hlt => ?_
  have hconfig : a.1.config = b.1.config :=
    (eq_of_beq (List.mem_filter.mp ha).2).trans (eq_of_beq (List.mem_filter.mp hb).2).symm
  rcases SlotKey.compare_eq_lt_iff.mp hlt with hless | ⟨-, hproduct⟩
  · rw [hconfig, Std.ReflOrd.compare_self] at hless
    cases hless
  · exact lt_of_compare_text hproduct

/-- Among the slots of a configuration, those of a product are the one that is found, if there
is one. -/
theorem Ordered.filter_product (h : e.Ordered) (c : Config) (product : String) :
    (e.slotsFor c).filter (fun slot => slot.1.product == product) =
      ((e.slot? ⟨c, product⟩).map fun slot => (⟨c, product⟩, slot)).toList := by
  have hkey : ∀ slot : SlotKey × Option Value,
      (slot.1.product == product && slot.1.config == c) = (slot.1 == ⟨c, product⟩) := by
    rintro ⟨⟨config, product'⟩, slot⟩
    rw [Bool.eq_iff_iff]
    simp [and_comm]
  rw [h.slotsFor_eq, slotsIf, List.filter_filter]
  simp only [hkey]
  exact Keyed.Increasing.filter_key h _

end Entry

/-! ## What is done to the slots of an entry -/

/-- A change of the slots of an entry. -/
inductive SlotChange where
  /-- Creates an empty slot if it is missing. -/
  | create (key : SlotKey)
  /-- Sets the content of a slot, or empties it; nothing happens when the slot is missing. -/
  | write (key : SlotKey) (value : Option Value)
  /-- Writes to every slot. -/
  | writeEach (content : SlotKey → Option Value → Option Value)
  /-- Drops a slot. -/
  | remove (key : SlotKey)

namespace Entry

/-- The entry after a change of its slots. -/
def change (e : Entry) : SlotChange → Entry
  | .create key => e.withSlot key
  | .write key value => { e with slots := e.slots.modify key fun _ => value }
  | .writeEach content =>
    { e with slots := e.slots.map fun slot => (slot.1, content slot.1 slot.2) }
  | .remove key => { e with slots := e.slots.remove key }

/-- **Every change keeps the slots in order.** -/
theorem Ordered.change {e : Entry} (h : e.Ordered) (c : SlotChange) : (e.change c).Ordered := by
  cases c with
  | create key => exact Keyed.Increasing.update h key _
  | write key value => exact Keyed.Increasing.modify h key _
  | writeEach content => exact List.pairwise_map.mpr h
  | remove key => exact List.Pairwise.sublist (Keyed.remove_sublist e.slots key) h

theorem Ordered.changes {e : Entry} (h : e.Ordered) (changes : List SlotChange) :
    (changes.foldl Entry.change e).Ordered := by
  induction changes generalizing e with
  | nil => exact h
  | cons c rest ih => exact ih (h.change c)

/-- **The search for the slots of a configuration** agrees with the enumeration of all slots and
with the search for a single one. -/
structure FindsRanges (e : Entry) : Prop where
  /-- There is a position for the search to start from. -/
  start : ∀ c, ∃ i, IsPartitionPoint (fun slot => compare slot.1.config c == .lt) e.slots i
  /-- From wherever it may start, the search finds the same. -/
  range : ∀ c i, IsPartitionPoint (fun slot => compare slot.1.config c == .lt) e.slots i →
    e.slotsFor c = (e.slots.drop i).takeWhile fun slot => slot.1.config == c
  /-- All slots of the configuration are found, in their order. -/
  filter : ∀ c, e.slotsFor c = e.slotsIf fun key _ => key.config == c
  /-- Their products increase. -/
  products : ∀ c, ((e.slotsFor c).map fun slot => slot.1.product).Pairwise (· < ·)
  /-- The slot that is found for a product is the only one among them that has it, and none
  is found exactly when none has. -/
  product : ∀ c product, (e.slotsFor c).filter (fun slot => slot.1.product == product) =
    ((e.slot? ⟨c, product⟩).map fun slot => (⟨c, product⟩, slot)).toList
  /-- A single slot may be searched for in any way that comes to its position. -/
  position : ∀ key answer, Keyed.Locates e.slots key answer → e.slot? key = e.slots.getAt answer

theorem Ordered.findsRanges {e : Entry} (h : e.Ordered) : FindsRanges e where
  start := h.exists_isPartitionPoint
  range c i hi := by rw [slotsFor, hi.dropWhile_eq]
  filter := h.slotsFor_eq
  products c := List.pairwise_map.mpr (h.products_ascend c)
  product := h.filter_product
  position _ _ hanswer := hanswer.get?_eq h

/-- **Whatever is done to the slots of a new entry**, those of a configuration are found as they
stand. -/
theorem findsRanges_changes (id : Option UInt16) (symbol : Symbol) (changes : List SlotChange) :
    FindsRanges (changes.foldl Entry.change { id, symbol }) :=
  Ordered.findsRanges (Ordered.changes (e := { id, symbol }) Keyed.increasing_nil changes)

/-- The slots of `fr` stand together, wherever others are put. -/
example :
    let changes : List SlotChange := [.create ⟨⟨"fr"⟩, "tablet"⟩, .create ⟨⟨"fr-rCA"⟩, ""⟩,
      .create ⟨⟨"fr"⟩, ""⟩, .create ⟨{}, "tablet"⟩, .remove ⟨⟨"fr-rCA"⟩, ""⟩]
    ((changes.foldl Entry.change {}).slotsFor ⟨"fr"⟩).map (fun slot => slot.1.product) =
      ["", "tablet"] := by
  decide

end Entry

/-- The same goes for every entry of a reachable table. -/
theorem Table.Reachable.findsRanges {t : Table} (ht : t.Reachable) {name : Name} {e : Entry}
    (he : t.packages.resource? name = some e) : e.FindsRanges :=
  (ht.ordered.of_resource? he).findsRanges

end AppResources
