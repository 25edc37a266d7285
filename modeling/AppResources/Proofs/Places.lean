import AppResources.Packages
import AppResources.Proofs.KeyedLaws

/-!
# The places of a table

A table has a place for every package, type, entry and slot, whether it is
there or not.  `packageAt`, `groupAt` and `entryAt` look at a place and find the
empty node when nothing is there, which is also what `withPackage`, `withGroup`
and `withEntry` start from when they create it.  So a change is seen in the same
way at a new place and at an old one: this module says where each of them is
seen (`package?_withPackage`, `group?_withGroup`, `resource?_withEntry`) and that
it is seen nowhere else.
-/

namespace AppResources

/-- Names of one type differ in their entries. -/
theorem Name.eq_iff_of_path {name m : Name} (hpackage : m.package = name.package)
    (htype : m.type = name.type) : m = name ↔ m.entry = name.entry := by
  refine ⟨congrArg Name.entry, fun hentry => ?_⟩
  cases m
  cases name
  exact (Name.mk.injEq ..).mpr ⟨hpackage, htype, hentry⟩

namespace Packages

/-! ## Looking at a place -/

/-- The package of a name, or the empty one. -/
def packageAt (ps : Packages) (package : String) : Package := (package? ps package).getD {}

/-- The type of a package, or the empty one. -/
def groupAt (ps : Packages) (package : String) (type : ResourceType) : TypeGroup :=
  (group? ps package type).getD {}

/-- The resource of a name, or the empty one. -/
def entryAt (ps : Packages) (name : Name) : Entry := (resource? ps name).getD {}

variable (ps : Packages)

theorem get?_types_packageAt (package : String) (type : ResourceType) :
    (packageAt ps package).types.get? type = group? ps package type := by
  unfold packageAt group?
  cases package? ps package <;> rfl

theorem get?_entries_groupAt (package : String) (type : ResourceType) (entry : String) :
    (groupAt ps package type).entries.get? entry = resource? ps ⟨package, type, entry⟩ := by
  unfold groupAt resource?
  cases group? ps package type <;> rfl

theorem slot?_entryAt (name : Name) (key : SlotKey) :
    (entryAt ps name).slot? key = slot? ps name key := by
  unfold entryAt slot?
  cases resource? ps name <;> rfl

theorem packageAt_of_some {package : String} {p : Package} (h : package? ps package = some p) :
    packageAt ps package = p := by
  rw [packageAt, h, Option.getD_some]

theorem groupAt_of_some {package : String} {type : ResourceType} {g : TypeGroup}
    (h : group? ps package type = some g) : groupAt ps package type = g := by
  rw [groupAt, h, Option.getD_some]

theorem entryAt_of_some {name : Name} {e : Entry} (h : resource? ps name = some e) :
    entryAt ps name = e := by
  rw [entryAt, h, Option.getD_some]

theorem getD_types_packageAt (package : String) (type : ResourceType) :
    ((packageAt ps package).types.get? type).getD {} = groupAt ps package type := by
  rw [get?_types_packageAt, groupAt]

theorem getD_entries_groupAt (package : String) (type : ResourceType) (entry : String) :
    ((groupAt ps package type).entries.get? entry).getD {} =
      entryAt ps ⟨package, type, entry⟩ := by
  rw [get?_entries_groupAt, entryAt]

/-- The identifier of a package is that of its place. -/
theorem bind_id_package? (package : String) :
    (package? ps package).bind Package.id = (packageAt ps package).id := by
  unfold packageAt
  cases package? ps package <;> rfl

/-- The resources of tables with the same types are the same. -/
theorem resource?_congr {a b : Packages} (h : ∀ m u, group? a m u = group? b m u) (name : Name) :
    resource? a name = resource? b name := by
  rw [resource?, resource?, h]

/-- The slots of tables with the same resources are the same. -/
theorem slot?_congr {a b : Packages} (h : ∀ m, resource? a m = resource? b m) :
    slot? a = slot? b := by
  funext name key
  rw [slot?, slot?, h]

/-- A type is only there with its package. -/
theorem isSome_package?_of_group? {package : String} {type : ResourceType}
    (h : (group? ps package type).isSome) : (package? ps package).isSome := by
  unfold group? at h
  cases hp : package? ps package with
  | none => simp [hp] at h
  | some p => rfl

/-- A resource is only there with its type. -/
theorem isSome_group?_of_resource? {name : Name} (h : (resource? ps name).isSome) :
    (group? ps name.package name.type).isSome := by
  unfold resource? at h
  cases hg : group? ps name.package name.type with
  | none => simp [hg] at h
  | some g => rfl

/-- A slot is only there with its resource. -/
theorem isSome_resource?_of_slot? {name : Name} {key : SlotKey}
    (h : (slot? ps name key).isSome) : (resource? ps name).isSome := by
  unfold slot? at h
  cases he : resource? ps name with
  | none => simp [he] at h
  | some e => rfl

/-- A value is only there in a slot. -/
theorem slot?_of_value? {name : Name} {key : SlotKey} {v : Value}
    (h : value? ps name key = some v) : slot? ps name key = some (some v) :=
  Option.join_eq_some_iff.mp h

/-! ## Places after a change that creates -/

theorem package?_withPackage (package : String) (change : Package → Package) (m : String) :
    package? (withPackage ps package change) m =
      if m = package then some (change (packageAt ps package)) else package? ps m :=
  Keyed.get?_update ps package _ m

theorem packageAt_withPackage (package : String) (change : Package → Package) (m : String) :
    packageAt (withPackage ps package change) m =
      if m = package then change (packageAt ps m) else packageAt ps m := by
  unfold packageAt
  rw [package?_withPackage]
  split
  · rename_i hm
    rw [hm]
    rfl
  · rfl

theorem group?_withPackage (package : String) (change : Package → Package) (m : String)
    (type : ResourceType) : group? (withPackage ps package change) m type =
      if m = package then (change (packageAt ps package)).types.get? type
      else group? ps m type := by
  unfold group?
  rw [package?_withPackage]
  split <;> rfl

theorem group?_withGroup (package : String) (type : ResourceType)
    (change : TypeGroup → TypeGroup) (m : String) (u : ResourceType) :
    group? (withGroup ps package type change) m u =
      if m = package ∧ u = type then some (change (groupAt ps package type))
      else group? ps m u := by
  unfold withGroup
  rw [group?_withPackage]
  by_cases hm : m = package
  · subst hm
    simp only [if_true, true_and, Package.withGroup]
    rw [Keyed.get?_update, get?_types_packageAt, get?_types_packageAt]
    rfl
  · simp only [hm, if_false, false_and]

theorem resource?_withGroup (package : String) (type : ResourceType)
    (change : TypeGroup → TypeGroup) (name : Name) :
    resource? (withGroup ps package type change) name =
      if name.package = package ∧ name.type = type then
        (change (groupAt ps package type)).entries.get? name.entry
      else resource? ps name := by
  unfold resource?
  rw [group?_withGroup]
  split <;> rfl

theorem resource?_withEntry (name : Name) (change : Entry → Entry) (m : Name) :
    resource? (withEntry ps name change) m =
      if m = name then some (change (entryAt ps name)) else resource? ps m := by
  unfold withEntry
  rw [resource?_withGroup]
  by_cases h : m.package = name.package ∧ m.type = name.type
  · rw [if_pos h]
    have hat : ∀ entry, (groupAt ps name.package name.type).entries.get? entry =
        resource? ps ⟨name.package, name.type, entry⟩ := get?_entries_groupAt ps _ _
    have hm : m = name ↔ m.entry = name.entry := Name.eq_iff_of_path h.1 h.2
    have hself : resource? ps m = resource? ps ⟨name.package, name.type, m.entry⟩ := by
      rw [← h.1, ← h.2]
    simp only [TypeGroup.withEntry, Keyed.get?_update, hat, hm, hself]
    rfl
  · rw [if_neg h, if_neg fun hm => h (by rw [hm]; exact ⟨rfl, rfl⟩)]

theorem slot?_withEntry (name : Name) (change : Entry → Entry) (m : Name) (key : SlotKey) :
    slot? (withEntry ps name change) m key =
      if m = name then (change (entryAt ps name)).slot? key else slot? ps m key := by
  unfold slot?
  rw [resource?_withEntry]
  split <;> rfl

/-- A change of a package that keeps its types shows in no type. -/
theorem group?_withPackage_of_types {change : Package → Package}
    (h : ∀ p, (change p).types = p.types) (package m : String) (u : ResourceType) :
    group? (withPackage ps package change) m u = group? ps m u := by
  rw [group?_withPackage]
  split
  · rename_i hm
    rw [h, hm, get?_types_packageAt]
  · rfl

/-- Recording an identifier on a package shows in no type. -/
theorem group?_withPackage_id (package : String) (id : Option UInt8) (m : String)
    (u : ResourceType) :
    group? (withPackage ps package fun p => { p with id := id.or p.id }) m u = group? ps m u := by
  refine group?_withPackage_of_types ps ?_ package m u
  exact fun p => rfl

/-! ## Places after an edit -/

theorem group?_editPackage (package : String) (change : Package → Package) (m : String)
    (u : ResourceType) : group? (editPackage ps package change) m u =
      if m = package then (package? ps package).bind fun p => (change p).types.get? u
      else group? ps m u := by
  unfold group? package? editPackage
  rw [Keyed.get?_modify]
  split
  · rw [Option.bind_map]
    rfl
  · rfl

theorem group?_editPackage_of_types {change : Package → Package}
    (h : ∀ p, (change p).types = p.types) (package m : String) (u : ResourceType) :
    group? (editPackage ps package change) m u = group? ps m u := by
  rw [group?_editPackage]
  split
  · rename_i hm
    simp only [h, hm, group?]
  · rfl

theorem group?_editGroup (package : String) (type : ResourceType)
    (change : TypeGroup → TypeGroup) (m : String) (u : ResourceType) :
    group? (editGroup ps package type change) m u =
      if m = package ∧ u = type then (group? ps package type).map change else group? ps m u := by
  unfold editGroup
  rw [group?_editPackage]
  by_cases hm : m = package
  · subst hm
    simp only [Keyed.get?_modify, if_true, true_and, group?]
    by_cases hu : u = type
    · simp only [hu, if_true, Option.map_bind]
      rfl
    · simp only [hu, if_false]
  · simp only [hm, if_false, false_and]

theorem resource?_editGroup (package : String) (type : ResourceType)
    (change : TypeGroup → TypeGroup) (m : Name) :
    resource? (editGroup ps package type change) m =
      if m.package = package ∧ m.type = type then
        (group? ps package type).bind fun g => (change g).entries.get? m.entry
      else resource? ps m := by
  unfold resource?
  rw [group?_editGroup]
  split
  · rw [Option.bind_map]
    rfl
  · rfl

theorem resource?_editGroup_of_entries {change : TypeGroup → TypeGroup}
    (h : ∀ g, (change g).entries = g.entries) (package : String) (type : ResourceType) (m : Name) :
    resource? (editGroup ps package type change) m = resource? ps m := by
  rw [resource?_editGroup]
  split
  · rename_i hm
    simp only [h, resource?, hm.1, hm.2]
  · rfl

theorem resource?_editEntry (name : Name) (change : Entry → Entry) (m : Name) :
    resource? (editEntry ps name change) m =
      if m = name then (resource? ps name).map change else resource? ps m := by
  unfold editEntry
  rw [resource?_editGroup]
  by_cases hm : m = name
  · subst hm
    simp only [Keyed.get?_modify, and_self, if_true, resource?, Option.map_bind]
    rfl
  · rw [if_neg hm]
    split
    · rename_i hpath
      have hentry : m.entry ≠ name.entry :=
        fun he => hm ((Name.eq_iff_of_path hpath.1 hpath.2).mpr he)
      simp only [Keyed.get?_modify, hentry, if_false, resource?, hpath.1, hpath.2]
    · rfl

theorem slot?_editEntry (name : Name) (change : Entry → Entry) (m : Name) (key : SlotKey) :
    slot? (editEntry ps name change) m key =
      if m = name then (resource? ps name).bind fun e => (change e).slot? key
      else slot? ps m key := by
  unfold slot?
  rw [resource?_editEntry]
  split
  · rw [Option.bind_map]
    rfl
  · rfl

theorem slot?_mapValues (f : Value → Value) (m : Name) (key : SlotKey) :
    slot? (mapValues ps f) m key = (slot? ps m key).map (Option.map f) := by
  unfold slot? resource? group? package? mapValues
  rw [Keyed.get?_mapItems]
  cases Keyed.get? ps m.package with
  | none => rfl
  | some p =>
    simp only [Option.map_some, Option.bind_some, Keyed.get?_mapItems]
    cases p.types.get? m.type with
    | none => rfl
    | some g =>
      simp only [Option.map_some, Option.bind_some, Keyed.get?_mapItems]
      cases g.entries.get? m.entry with
      | none => rfl
      | some e => exact Keyed.get?_mapItems ..

end Packages
end AppResources
