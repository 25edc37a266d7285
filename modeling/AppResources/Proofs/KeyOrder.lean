import AppResources.Proofs.FiniteMap

/-!
# Enumerations in key order

Whoever enumerates a table meets the packages by name, the types of each in their
order, the entries of each by name and the slots of each by configuration and then by
product, and meets no key twice (`Packages.LevelsAscend`).

A slot is created empty, or emptied, only on purpose.  As long as nobody does so, every
slot that is met holds a value (`Packages.Filled`): additions create a slot with its value,
and whatever drops or changes slots leaves a value in those that remain
(`SlotMap.Step.filled`).
-/

namespace AppResources

/-! ## Levels -/

namespace Keyed
variable {κ β : Type}

/-- Every key stands before the later ones, and none stands twice. -/
structure Ascending (before : κ → κ → Prop) (items : Keyed κ β) : Prop where
  /-- The keys increase strictly. -/
  increasing : (items.map Prod.fst).Pairwise before
  /-- No key has two items. -/
  distinct : (items.map Prod.fst).Nodup

/-- The order of a level may be spelled out. -/
theorem Increasing.ascending [Ord κ] [Std.LawfulEqOrd κ] {items : Keyed κ β}
    (h : Increasing items) {before : κ → κ → Prop}
    (hbefore : ∀ {a b : κ}, compare a b = .lt → before a b) : Ascending before items := by
  have hkeys := increasing_iff_keys.mp h
  refine ⟨hkeys.imp hbefore, hkeys.imp fun hlt heq => ?_⟩
  rw [heq, Std.ReflOrd.compare_self] at hlt
  cases hlt

end Keyed

/-- The order of slots: by configuration, and for one configuration by product. -/
def SlotKey.Before (a b : SlotKey) : Prop :=
  a.config.qualifiers < b.config.qualifiers ∨ a.config = b.config ∧ a.product < b.product

theorem lt_of_compare_text {a b : String} (h : compare a b = .lt) : a < b :=
  compareOfLessAndEq_eq_lt.mp h

theorem ResourceType.rank_lt_of_compare {a b : ResourceType} (h : compare a b = .lt) :
    a.rank < b.rank :=
  Nat.compare_eq_lt.mp h

theorem SlotKey.before_of_compare {a b : SlotKey} (h : compare a b = .lt) : a.Before b := by
  rcases Ordering.then_eq_lt.mp h with hconfig | ⟨hconfig, hproduct⟩
  · exact Or.inl (lt_of_compare_text hconfig)
  · exact Or.inr ⟨Std.LawfulEqOrd.eq_of_compare hconfig, lt_of_compare_text hproduct⟩

namespace Packages

/-- **Every level ascends**: packages by name, types in their order, entries by name, and
slots by configuration and product. -/
structure LevelsAscend (ps : Packages) : Prop where
  packages : Keyed.Ascending (· < ·) ps
  types : ∀ p ∈ ps, Keyed.Ascending (fun a b => a.rank < b.rank) p.2.types
  entries : ∀ p ∈ ps, ∀ g ∈ p.2.types, Keyed.Ascending (· < ·) g.2.entries
  slots : ∀ p ∈ ps, ∀ g ∈ p.2.types, ∀ e ∈ g.2.entries,
    Keyed.Ascending SlotKey.Before e.2.slots

/-- An ordered table ascends in the order of each of its keys. -/
theorem Ordered.ascend {ps : Packages} (h : ps.Ordered) : LevelsAscend ps where
  packages := h.increasing.ascending lt_of_compare_text
  types p hp := (h.each p hp).increasing.ascending ResourceType.rank_lt_of_compare
  entries p hp g hg := ((h.each p hp).each g hg).increasing.ascending lt_of_compare_text
  slots p hp g hg e he := by
    have hslots : Keyed.Increasing e.2.slots := ((h.each p hp).each g hg).each e he
    exact hslots.ascending SlotKey.before_of_compare

/-- A slot that is met in an enumeration is found. -/
theorem Ordered.slot?_of_mem {ps : Packages} (h : ps.Ordered) {package : String} {p : Package}
    {type : ResourceType} {g : TypeGroup} {entry : String} {e : Entry} {key : SlotKey}
    {slot : Option Value} (hp : (package, p) ∈ ps) (hg : (type, g) ∈ p.types)
    (he : (entry, e) ∈ g.entries) (hslot : (key, slot) ∈ e.slots) :
    slot? ps ⟨package, type, entry⟩ key = some slot := by
  have hfind : ps.find? ⟨package, type, entry⟩ = some ⟨⟨package, type, entry⟩, p, g, e⟩ :=
    (find?_eq_some_iff h).mpr ⟨rfl, hp, hg, he⟩
  have hresource : resource? ps ⟨package, type, entry⟩ = some e := by
    rw [← find?_map_entry, hfind, Option.map_some]
  rw [slot?, hresource, Option.bind_some]
  exact (Keyed.get?_eq_some_iff (h.of_resource? hresource)).mpr hslot

/-- **Every slot holds a value.** -/
def Filled (ps : Packages) : Prop :=
  ∀ p ∈ ps, ∀ g ∈ p.2.types, ∀ e ∈ g.2.entries, ∀ slot ∈ e.2.slots, slot.2.isSome

end Packages

/-! ## Slots without a value -/

/-- The operation may leave a slot without a value. -/
def Operation.leavesEmpty : Operation → Bool
  | .ensureSlot _ _ | .edit (.slot _ _ none) => true
  | _ => false

namespace SlotMap
variable {resolver : Resolver} {m m' : SlotMap}

/-- No slot is without a value. -/
def Filled (m : SlotMap) : Prop := ∀ name key, m name key ≠ some none

theorem Filled.set (h : m.Filled) (name : Name) (key : SlotKey) {slot? : Option (Option Value)}
    (hslot : slot? ≠ some none) : (m.set name key slot?).Filled := by
  intro n k
  unfold SlotMap.set
  split
  · exact hslot
  · exact h n k

/-- A change of the content that leaves values alone. -/
theorem Filled.map (h : m.Filled) (f : Value → Value) :
    Filled fun name key => (m name key).map (Option.map f) := by
  intro n k hempty
  obtain ⟨slot, hslot, hnone⟩ := Option.map_eq_some_iff.mp hempty
  rw [Option.map_eq_none_iff.mp hnone] at hslot
  exact h n k hslot

theorem Adds.filled {name : Name} {key : SlotKey} {v : Value} {flag : Bool}
    (h : Adds resolver m name key v flag m') (hm : m.Filled) : m'.Filled := by
  cases h with
  | stored | replaced => exact hm.set name key (by simp)
  | kept | refused => exact hm

theorem AddsAll.filled {additions : List Addition} {flag : Bool}
    (h : AddsAll resolver m additions flag m') (hm : m.Filled) : m'.Filled := by
  induction h with
  | nil => exact hm
  | cons ha _ ih => exact ih (ha.filled hm)

/-- **No slot loses its value** unless an operation is meant to take it. -/
theorem Step.filled {op : Operation} {reply : Reply} (h : Step resolver m op reply m')
    (hop : op.leavesEmpty = false) (hm : m.Filled) : m'.Filled := by
  cases h with
  | add h => exact h.filled hm
  | addFile h => exact h.filled hm
  | ingest h => exact h.filled hm
  | ensureSlot => cases hop
  | removeSlot => exact hm.set _ _ (by simp)
  | @editSlot name key value =>
    cases value with
    | none => cases hop
    | some v => exact hm.set name key (by simp)
  | editComments => exact hm.map _
  | other => exact hm

end SlotMap

/-! ## Reachable tables -/

namespace Table
variable {t : Table}

/-- Every slot of a table that was reached without emptying one holds a value. -/
theorem ReachableBy.filled (ht : ReachableBy (fun op => op.leavesEmpty = false) t) :
    t.packages.Filled := by
  have hinvariant : t.packages.Ordered ∧ SlotMap.Filled t.packages.slot? := by
    refine ReachableBy.invariant (P := fun _ ps => ps.Ordered ∧ SlotMap.Filled ps.slot?)
      (fun _ => ⟨Packages.ordered_nil, fun _ _ h => nomatch h⟩) (fun u op hop h => ?_) ht
    exact ⟨perform_ordered h.1 op, (step_perform h.1 op).filled hop h.2⟩
  obtain ⟨hordered, hfilled⟩ := hinvariant
  intro p hp g hg e he slot hslot
  have hfound := hordered.slot?_of_mem hp hg he hslot
  refine Option.isSome_iff_ne_none.mpr fun hnone => ?_
  rw [hnone] at hfound
  exact hfilled _ _ hfound

/-- **Every level of a reachable table ascends**, and every slot holds a value when no
operation has left one empty. -/
theorem Reachable.levelsAscend (ht : t.Reachable) :
    t.packages.LevelsAscend ∧
      (ReachableBy (fun op => op.leavesEmpty = false) t → t.packages.Filled) :=
  ⟨ht.ordered.ascend, ReachableBy.filled⟩

/-- Additions in the wrong order, one of them to a slot that is dropped again. -/
theorem levelsAscend_titles :
    let title : Name := ⟨"app", .string, "title"⟩
    let add (name : Name) (qualifiers product : String) : Operation :=
      .add true { name, config := ⟨qualifiers⟩, product, value := { payload := .string "T" } }
    let t := ((ofPolicy .strict).run
      [add ⟨"lib", .layout, "main"⟩ "" "", add title "fr" "tv", add title "fr" "",
        add title "de" "tv", .removeSlot title ⟨⟨"fr"⟩, "tv"⟩]).1
    (t.packages.LevelsAscend ∧ t.packages.Filled) ∧
      t.packages.map Prod.fst = ["app", "lib"] ∧
      (t.packages.entryAt title).slots.map Prod.fst = [⟨⟨"de"⟩, "tv"⟩, ⟨⟨"fr"⟩, ""⟩] := by
  refine ⟨⟨(Reachable.levelsAscend ((Reachable.ofPolicy _).run _)).1, ?_⟩, rfl, rfl⟩
  refine (Reachable.levelsAscend ((Reachable.ofPolicy _).run _)).2 ?_
  exact ReachableBy.run (.empty .strict _ _) (by simp [Operation.leavesEmpty])

end Table
end AppResources
