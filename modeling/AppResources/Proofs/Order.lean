import AppResources.Proofs.Runs

/-!
# Every level stays in key order

A table is **ordered** when its packages, the types of every package, the
entries of every type and the slots of every entry increase in their keys.  No
operation can tell an ordered table from a sorted map: `find?` and `slot?`, which
stop where a key would have to stand, find exactly what an enumeration lists
(`find?_eq_some_iff`), and two ordered tables that look the same at every place
are the same (`eq_of_sameNodes`).

Every change is made of changes of one level, each of which keeps its own level
in order and the levels below it by assumption; so every operation keeps a table
ordered (`perform_ordered`), and every reachable table is ordered
(`Reachable.ordered`).
-/

namespace AppResources

open Keyed

/-- The slots increase. -/
def Entry.Ordered (e : Entry) : Prop := Increasing e.slots

/-- The entries increase, and the slots of each. -/
def TypeGroup.Ordered (g : TypeGroup) : Prop := OrderedBy Entry.Ordered g.entries

/-- The types increase, and each is ordered. -/
def Package.Ordered (p : Package) : Prop := OrderedBy TypeGroup.Ordered p.types

/-- The packages increase, and each is ordered. -/
def Packages.Ordered (ps : Packages) : Prop := OrderedBy Package.Ordered ps

/-! ## New nodes -/

theorem Entry.ordered_new : Entry.Ordered {} := increasing_nil

theorem TypeGroup.ordered_new : TypeGroup.Ordered {} := OrderedBy.nil

theorem Package.ordered_new : Package.Ordered {} := OrderedBy.nil

theorem Packages.ordered_nil : Packages.Ordered [] := OrderedBy.nil

/-! ## Changes of one level -/

theorem TypeGroup.Ordered.withEntry {g : TypeGroup} (h : g.Ordered) (name : String)
    {change : Entry → Entry} (hchange : ∀ e, Entry.Ordered e → (change e).Ordered) :
    (g.withEntry name change).Ordered :=
  h.updateFrom Entry.ordered_new hchange

theorem Package.Ordered.withGroup {p : Package} (h : p.Ordered) (type : ResourceType)
    {change : TypeGroup → TypeGroup} (hchange : ∀ g, TypeGroup.Ordered g → (change g).Ordered) :
    (p.withGroup type change).Ordered :=
  h.updateFrom TypeGroup.ordered_new hchange

theorem Write.onEntry_ordered (w : Write) {e : Entry} (h : e.Ordered) : (w.onEntry e).Ordered := by
  unfold Entry.Ordered Write.onEntry
  cases w.slot with
  | none => exact h
  | some x => exact h.update x.1 _

namespace Packages.Ordered
variable {ps : Packages}

theorem withPackage (h : ps.Ordered) (package : String) {change : Package → Package}
    (hchange : ∀ p, Package.Ordered p → (change p).Ordered) :
    (ps.withPackage package change).Ordered :=
  h.updateFrom Package.ordered_new hchange

theorem withGroup (h : ps.Ordered) (package : String) (type : ResourceType)
    {change : TypeGroup → TypeGroup} (hchange : ∀ g, TypeGroup.Ordered g → (change g).Ordered) :
    (ps.withGroup package type change).Ordered :=
  h.withPackage package fun _ hp => hp.withGroup type hchange

theorem withEntry (h : ps.Ordered) (name : Name) {change : Entry → Entry}
    (hchange : ∀ e, Entry.Ordered e → (change e).Ordered) : (ps.withEntry name change).Ordered :=
  h.withGroup name.package name.type fun _ hg => hg.withEntry name.entry hchange

theorem write (h : ps.Ordered) (name : Name) (w : Write) : (ps.write name w).Ordered := by
  refine h.withPackage name.package fun p hp => ?_
  have hgroup : ∀ g, TypeGroup.Ordered g →
      (w.onGroup (g.withEntry name.entry w.onEntry)).Ordered :=
    fun g hg => hg.withEntry name.entry fun e he => w.onEntry_ordered he
  have htypes := hp.withGroup name.type hgroup
  exact htypes

theorem content (h : ps.Ordered) (v : Verdict) (name : Name) : (v.content ps name).Ordered :=
  Verdict.content_cases (fun _ => h) fun w _ => h.write name w

theorem editPackage (h : ps.Ordered) (package : String) {change : Package → Package}
    (hchange : ∀ p, Package.Ordered p → (change p).Ordered) :
    (ps.editPackage package change).Ordered :=
  h.modify hchange

theorem editGroup (h : ps.Ordered) (package : String) (type : ResourceType)
    {change : TypeGroup → TypeGroup} (hchange : ∀ g, TypeGroup.Ordered g → (change g).Ordered) :
    (ps.editGroup package type change).Ordered :=
  h.editPackage package fun _ hp => OrderedBy.modify hp hchange

theorem editEntry (h : ps.Ordered) (name : Name) {change : Entry → Entry}
    (hchange : ∀ e, Entry.Ordered e → (change e).Ordered) : (ps.editEntry name change).Ordered :=
  h.editGroup name.package name.type fun _ hg => OrderedBy.modify hg hchange

theorem removeSlot (h : ps.Ordered) (name : Name) (key : SlotKey) :
    (ps.removeSlot name key).Ordered :=
  h.editEntry name fun e he => List.Pairwise.sublist (remove_sublist e.slots key) he

theorem mapValues (h : ps.Ordered) (f : Value → Value) : (ps.mapValues f).Ordered := by
  have hentry : ∀ e, Entry.Ordered e →
      Entry.Ordered { e with slots := e.slots.mapItems (Option.map f) } :=
    fun e he => Increasing.mapItems he _
  have hgroup : ∀ g, TypeGroup.Ordered g → TypeGroup.Ordered
      { g with
        entries := g.entries.mapItems fun e =>
          { e with slots := e.slots.mapItems (Option.map f) } } :=
    fun g hg => OrderedBy.mapItems hg hentry
  exact h.mapItems fun p hp => OrderedBy.mapItems hp hgroup

theorem edit (h : ps.Ordered) (change : Edit) : (ps.edit change).Ordered := by
  cases change with
  | packageKind package kind => exact h.editPackage package fun _ hp => hp
  | packageId package id => exact h.editPackage package fun _ hp => hp
  | typeId package type id => exact h.editGroup package type fun _ hg => hg
  | typeSymbol package type symbol => exact h.editGroup package type fun _ hg => hg
  | entryId name id => exact h.editEntry name fun _ he => he
  | entrySymbol name symbol => exact h.editEntry name fun _ he => he
  | slot name key value => exact h.editEntry name fun _ he => Increasing.modify he key _
  | comments comment => exact h.mapValues _

end Packages.Ordered

/-! ## Operations -/

namespace Table
variable {t : Table}

theorem add_ordered (h : t.packages.Ordered) (checked : Bool) (a : Addition) :
    (t.add checked a).table.packages.Ordered := by
  rw [add_eq]
  exact h.content _ a.name

theorem ingest_ordered (h : t.packages.Ordered) (additions : List Addition) :
    (t.ingest additions).table.packages.Ordered := by
  induction additions generalizing t with
  | nil => exact h
  | cons a rest ih => exact ih (add_ordered h true a)

theorem createPackage_ordered (h : t.packages.Ordered) (package : String) (id : Option UInt8) :
    (t.createPackage package id).table.packages.Ordered := by
  rcases t.createPackage_cases package id with ⟨-, he⟩ | ⟨e, r, -, -, -, he⟩
  · have hchange : ∀ p, Package.Ordered p → Package.Ordered { p with id := id.or p.id } :=
      fun p hp => hp
    rw [he]
    exact h.withPackage package hchange
  · rw [he]
    exact h

/-- **Every operation keeps a table ordered.** -/
theorem perform_ordered (h : t.packages.Ordered) (op : Operation) :
    (t.perform op).table.packages.Ordered := by
  cases op with
  | add checked a => exact add_ordered h checked a
  | addFile checked name config source path input =>
    show (t.addFile checked name config source path input).table.packages.Ordered
    have hpool : ({ t with pool := (t.pool.intern path).1 } : Table).packages.Ordered := h
    rw [addFile_eq]
    exact add_ordered hpool checked _
  | declare checked d =>
    show (t.declare checked d).table.packages.Ordered
    rw [declare_eq]
    exact h.content _ d.name
  | ingest additions => exact ingest_ordered h additions
  | createPackage package id => exact createPackage_ordered h package id
  | ensurePackage package => exact h.withPackage package fun _ hp => hp
  | ensureGroup package type => exact h.withGroup package type fun _ hg => hg
  | ensureEntry name => exact h.withEntry name fun _ he => he
  | ensureSlot name key => exact h.withEntry name fun _ he => Increasing.update he key _
  | removeSlot name key => exact h.removeSlot name key
  | edit change => exact h.edit change

/-- **Every reachable table is ordered.** -/
theorem Reachable.ordered (ht : t.Reachable) : t.packages.Ordered :=
  ht.invariant (P := Packages.Ordered) Packages.ordered_nil fun _ op h => perform_ordered h op

end Table

/-! ## Lookups of an ordered table -/

namespace Packages
variable {ps : Packages}

/-- **A resource is found exactly where an enumeration lists it.** -/
theorem find?_eq_some_iff (h : ps.Ordered) {name : Name} {r : Located} :
    ps.find? name = some r ↔ r.name = name ∧ (name.package, r.package) ∈ ps ∧
      (name.type, r.group) ∈ r.package.types ∧ (name.entry, r.entry) ∈ r.group.entries := by
  obtain ⟨rname, p, g, e⟩ := r
  constructor
  · intro hfind
    unfold find? at hfind
    split at hfind
    · cases hfind
    · rename_i p' hp
      have hpmem := (get?_eq_some_iff h.increasing).mp hp
      have hpo := h.each _ hpmem
      split at hfind
      · cases hfind
      · rename_i g' hg
        have hgmem := (get?_eq_some_iff hpo.increasing).mp hg
        have hgo := hpo.each _ hgmem
        obtain ⟨e', he, hlocated⟩ := Option.map_eq_some_iff.mp hfind
        cases hlocated
        exact ⟨rfl, hpmem, hgmem, (get?_eq_some_iff hgo.increasing).mp he⟩
  · rintro ⟨rfl, hpmem, hgmem, hemem⟩
    have hpo : p.Ordered := h.each _ hpmem
    have hgo : g.Ordered := hpo.each _ hgmem
    have hp : package? ps rname.package = some p := (get?_eq_some_iff h.increasing).mpr hpmem
    have hg : p.types.get? rname.type = some g := (get?_eq_some_iff hpo.increasing).mpr hgmem
    have he : g.entries.get? rname.entry = some e := (get?_eq_some_iff hgo.increasing).mpr hemem
    unfold find?
    simp only [hp, hg, he, Option.map_some]

/-- What is there is ordered. -/
theorem Ordered.of_package? (h : ps.Ordered) {package : String} {p : Package}
    (hp : package? ps package = some p) : p.Ordered :=
  h.of_get? hp

theorem Ordered.of_group? (h : ps.Ordered) {package : String} {type : ResourceType}
    {g : TypeGroup} (hg : group? ps package type = some g) : g.Ordered := by
  obtain ⟨p, hp, hgp⟩ := Option.bind_eq_some_iff.mp hg
  exact OrderedBy.of_get? (h.of_package? hp) hgp

theorem Ordered.of_resource? (h : ps.Ordered) {name : Name} {e : Entry}
    (he : resource? ps name = some e) : e.Ordered := by
  obtain ⟨g, hg, heg⟩ := Option.bind_eq_some_iff.mp he
  exact OrderedBy.of_get? (h.of_group? hg) heg

theorem Ordered.packageAt (h : ps.Ordered) (package : String) : (packageAt ps package).Ordered := by
  cases hp : package? ps package with
  | none =>
    rw [Packages.packageAt, hp]
    exact Package.ordered_new
  | some p => exact packageAt_of_some ps hp ▸ h.of_package? hp

theorem Ordered.groupAt (h : ps.Ordered) (package : String) (type : ResourceType) :
    (groupAt ps package type).Ordered := by
  cases hg : group? ps package type with
  | none =>
    rw [Packages.groupAt, hg]
    exact TypeGroup.ordered_new
  | some g => exact groupAt_of_some ps hg ▸ h.of_group? hg

theorem find?_map_entry (ps : Packages) (name : Name) :
    (ps.find? name).map Located.entry = resource? ps name := by
  unfold find? resource? group?
  cases package? ps name.package with
  | none => rfl
  | some p =>
    simp only [Option.bind_some]
    cases p.types.get? name.type with
    | none => rfl
    | some g =>
      simp only [Option.map_map, Option.bind_some]
      cases g.entries.get? name.entry <;> rfl

/-! ## Ordered tables are determined by what is seen of them -/

/-- The same packages, types and entries, whatever they hold. -/
structure SameNodes (a b : Packages) : Prop where
  package : ∀ m, (package? a m).map Package.head = (package? b m).map Package.head
  group : ∀ m u, (group? a m u).map TypeGroup.head = (group? b m u).map TypeGroup.head
  entry : ∀ m, (resource? a m).map Entry.head = (resource? b m).map Entry.head

theorem SameNodes.refl (a : Packages) : SameNodes a a :=
  ⟨fun _ => rfl, fun _ _ => rfl, fun _ => rfl⟩

theorem SameNodes.trans {a b c : Packages} (h : SameNodes a b) (h' : SameNodes b c) :
    SameNodes a c :=
  ⟨fun m => (h.package m).trans (h'.package m), fun m u => (h.group m u).trans (h'.group m u),
    fun m => (h.entry m).trans (h'.entry m)⟩

/-- Two nodes, both there or neither, are equal when their heads are and their
contents are once their heads are. -/
theorem eq_of_head {α β : Type} {head : α → β} {x y : Option α} (h : x.map head = y.map head)
    (hcontent : ∀ a ∈ x, ∀ b ∈ y, head a = head b → a = b) : x = y := by
  cases x with
  | none => exact (Option.map_eq_none_iff.mp h.symm).symm
  | some a =>
    cases y with
    | none => cases h
    | some b => exact congrArg some (hcontent a rfl b rfl (Option.some.inj h))

/-- **Ordered tables with the same nodes and the same slots are the same.** -/
theorem eq_of_sameNodes {a b : Packages} (ha : a.Ordered) (hb : b.Ordered) (h : SameNodes a b)
    (hslots : slot? a = slot? b) : a = b := by
  -- from the slots upwards, each level is determined by its heads and the one below
  have hresource : ∀ name, resource? a name = resource? b name := by
    intro name
    refine eq_of_head (h.entry name) fun e he f hf hhead => ?_
    have hslot : ∀ key, e.slots.get? key = f.slots.get? key := by
      intro key
      have hkey := congrFun (congrFun hslots name) key
      rwa [← slot?_entryAt, ← slot?_entryAt, entryAt_of_some a he, entryAt_of_some b hf] at hkey
    have hslots : e.slots = f.slots :=
      ext_of_increasing (ha.of_resource? he) (hb.of_resource? hf) hslot
    exact Entry.eq_of_head hhead hslots
  have hgroup : ∀ package type, group? a package type = group? b package type := by
    intro package type
    refine eq_of_head (h.group package type) fun g hg k hk hhead => ?_
    have hentry : ∀ entry, g.entries.get? entry = k.entries.get? entry := by
      intro entry
      have hname := hresource ⟨package, type, entry⟩
      rwa [← get?_entries_groupAt, ← get?_entries_groupAt, groupAt_of_some a hg,
        groupAt_of_some b hk] at hname
    have hentries : g.entries = k.entries :=
      ext_of_increasing (ha.of_group? hg).increasing (hb.of_group? hk).increasing hentry
    exact TypeGroup.eq_of_head hhead hentries
  refine ext_of_increasing ha.increasing hb.increasing fun package => ?_
  refine eq_of_head (h.package package) fun p hp q hq hhead => ?_
  have htype : ∀ type, p.types.get? type = q.types.get? type := by
    intro type
    have hname := hgroup package type
    rwa [← get?_types_packageAt, ← get?_types_packageAt, packageAt_of_some a hp,
      packageAt_of_some b hq] at hname
  have htypes : p.types = q.types :=
    ext_of_increasing (ha.of_package? hp).increasing (hb.of_package? hq).increasing htype
  exact Package.eq_of_head hhead htypes

end Packages
end AppResources
