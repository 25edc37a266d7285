import AppResources.Proofs.IdentLookup
import AppResources.Proofs.KeyOrder

/-!
# The report of exported resources without identifier

`exportedWithoutIdent` walks down the levels of a table and lists the names of the exported
resources that lack a part of their identifier.  The levels are in key order, and the order
of names is that of their packages, then of their types, then of their entries; so the walk
meets the names in their order (`located_ascend`).  What it meets is what `find?` finds
(`mem_located_iff`).

A name leaves the report when a request for it is accepted with a valid identifier, and does
not come back: what is recorded stays, whatever is done to the table, unless an identifier is
written directly (`identsStay_perform`).
-/

namespace AppResources

open Keyed

/-! ## The order of names -/

/-- The order of names: by package, within a package by type, and within a type by entry. -/
def Name.Before (a b : Name) : Prop :=
  a.package < b.package ∨ a.package = b.package ∧
    (a.type.rank < b.type.rank ∨ a.type = b.type ∧ a.entry < b.entry)

theorem Name.before_iff_compare {a b : Name} : a.Before b ↔ compare a b = .lt := by
  have htext : ∀ s t : String, compare s t = .lt ↔ s < t := fun _ _ => compareOfLessAndEq_eq_lt
  have htype : ∀ s t : ResourceType, compare s t = .lt ↔ s.rank < t.rank :=
    fun _ _ => Nat.compare_eq_lt
  rw [show compare a b = compareLex (compareOn Name.package)
    (compareLex (compareOn Name.type) (compareOn Name.entry)) a b from rfl]
  simp only [compareLex, compareOn, Ordering.then_eq_lt, Std.LawfulEqOrd.compare_eq_iff_eq,
    htext, htype, Before]

namespace Packages
variable {ps ps' : Packages}

/-! ## The enumeration of all resources -/

/-- **All resources are met in the order of their names.** -/
theorem Ordered.located_ascend (h : ps.Ordered) :
    (ps.located.map Located.name).Pairwise Name.Before := by
  rw [List.pairwise_map, located, List.pairwise_flatMap]
  refine ⟨fun p hp => ?_, h.increasing.imp fun hlt r hr s hs => ?_⟩
  · -- within a package
    have hpo : p.2.Ordered := h.each p hp
    rw [List.pairwise_flatMap]
    refine ⟨fun g hg => ?_, hpo.increasing.imp fun hlt r hr s hs => ?_⟩
    · -- within a type
      have hgo : g.2.Ordered := hpo.each g hg
      rw [List.pairwise_map]
      exact hgo.increasing.imp fun hlt => .inr ⟨rfl, .inr ⟨rfl, lt_of_compare_text hlt⟩⟩
    · obtain ⟨e, -, rfl⟩ := List.mem_map.mp hr
      obtain ⟨f, -, rfl⟩ := List.mem_map.mp hs
      exact .inr ⟨rfl, .inl (ResourceType.rank_lt_of_compare hlt)⟩
  · obtain ⟨g, -, hr⟩ := List.mem_flatMap.mp hr
    obtain ⟨e, -, rfl⟩ := List.mem_map.mp hr
    obtain ⟨k, -, hs⟩ := List.mem_flatMap.mp hs
    obtain ⟨f, -, rfl⟩ := List.mem_map.mp hs
    exact .inl (lt_of_compare_text hlt)

/-- **What is met is what is found.** -/
theorem mem_located_iff (h : ps.Ordered) {r : Located} :
    r ∈ ps.located ↔ ps.find? r.name = some r := by
  rw [find?_eq_some_iff h, located, List.mem_flatMap]
  constructor
  · rintro ⟨p, hp, hr⟩
    obtain ⟨g, hg, hr⟩ := List.mem_flatMap.mp hr
    obtain ⟨e, he, rfl⟩ := List.mem_map.mp hr
    exact ⟨rfl, hp, hg, he⟩
  · rintro ⟨-, hp, hg, he⟩
    exact ⟨_, hp, List.mem_flatMap.mpr ⟨_, hg, List.mem_map.mpr ⟨_, he, rfl⟩⟩⟩

/-! ## The report -/

/-- The report is in the order of names. -/
theorem Ordered.exportedWithoutIdent_ascend (h : ps.Ordered) :
    ps.exportedWithoutIdent.Pairwise Name.Before :=
  h.located_ascend.sublist (List.filter_sublist.map Located.name)

theorem mem_exportedWithoutIdent_iff (h : ps.Ordered) {name : Name} :
    name ∈ ps.exportedWithoutIdent ↔ ∃ r, ps.find? name = some r ∧
      r.entry.symbol.state = .exported ∧
        (r.package.id = none ∨ r.group.id = none ∨ r.entry.id = none) := by
  have hreported : ∀ r : Located, (r.entry.symbol.isExported && !r.hasIdent) = true ↔
      r.entry.symbol.state = .exported ∧
        (r.package.id = none ∨ r.group.id = none ∨ r.entry.id = none) := by
    intro r
    simp only [Symbol.isExported, Located.hasIdent, Bool.and_eq_true, beq_iff_eq,
      Bool.not_eq_true', Bool.and_eq_false_iff, Option.isSome_eq_false_iff,
      Option.isNone_iff_eq_none, or_assoc]
  simp only [exportedWithoutIdent, List.mem_map, List.mem_filter, hreported, mem_located_iff h]
  constructor
  · rintro ⟨r, ⟨hr, hreport⟩, rfl⟩
    exact ⟨r, hr, hreport⟩
  · rintro ⟨r, hr, hreport⟩
    obtain ⟨rfl, -⟩ := (find?_eq_some_iff h).mp hr
    exact ⟨r, ⟨hr, hreport⟩, rfl⟩

/-- A name with a complete identifier is not reported. -/
theorem notMem_exportedWithoutIdent (h : ps.Ordered) {name : Name} {i : Ident}
    (hi : (ps.recorded name).ident? = some i) : name ∉ ps.exportedWithoutIdent := by
  intro hmem
  obtain ⟨r, hr, -, hmissing⟩ := (mem_exportedWithoutIdent_iff h).mp hmem
  obtain ⟨r', hr', hholds⟩ := exists_holds hi
  obtain rfl : r = r' := Option.some.inj (hr.symm.trans hr')
  rcases hmissing with hnone | hnone | hnone
  · exact nomatch hnone.symm.trans hholds.package
  · exact nomatch hnone.symm.trans hholds.type
  · exact nomatch hnone.symm.trans hholds.entry

end Packages

/-! ## Operations that record nothing -/

/-- The type keeps its identifier, and its entries keep theirs. -/
structure TypeGroup.IdentsKept (g g' : TypeGroup) : Prop where
  id : g'.id = g.id
  entry_id : ∀ n, ((g'.entries.get? n).getD {}).id = ((g.entries.get? n).getD {}).id

namespace TypeGroup.IdentsKept
variable {change : Entry → Entry}

theorem refl (g : TypeGroup) : IdentsKept g g := ⟨rfl, fun _ => rfl⟩

theorem withEntry (h : ∀ e, (change e).id = e.id) (g : TypeGroup) (name : String) :
    IdentsKept g (g.withEntry name change) where
  id := rfl
  entry_id n := by
    simp only [TypeGroup.withEntry, get?_update]
    split
    · rename_i hn
      rw [hn, Option.getD_some, h]
    · rfl

theorem modify (h : ∀ e, (change e).id = e.id) (g : TypeGroup) (name : String) :
    IdentsKept g { g with entries := g.entries.modify name change } where
  id := rfl
  entry_id n := by
    rw [get?_modify]
    split
    · rename_i hn
      rw [hn]
      cases g.entries.get? name with
      | none => rfl
      | some e => exact h e
    · rfl

end TypeGroup.IdentsKept

namespace Packages
variable {ps ps' : Packages}

/-- What is recorded is kept when every package keeps its identifier, and every type what is
recorded in it. -/
theorem recorded_congr (hpackage : ∀ m, (ps'.packageAt m).id = (ps.packageAt m).id)
    (hgroup : ∀ m u, (ps.groupAt m u).IdentsKept (ps'.groupAt m u)) (name : Name) :
    ps'.recorded name = ps.recorded name := by
  have hentry := (hgroup name.package name.type).entry_id name.entry
  rw [getD_entries_groupAt, getD_entries_groupAt] at hentry
  rw [recorded_eq, recorded_eq, hpackage, (hgroup name.package name.type).id, hentry]

/-- A change that shows in no type, and in the identifier of no package, records nothing. -/
theorem recorded_of_group?_eq (hpackage : ∀ m, (ps'.packageAt m).id = (ps.packageAt m).id)
    (hgroup : ∀ m u, ps'.group? m u = ps.group? m u) (name : Name) :
    ps'.recorded name = ps.recorded name := by
  refine recorded_congr hpackage (fun m u => ?_) name
  rw [groupAt, groupAt, hgroup]
  exact .refl _

theorem id_packageAt_editPackage {change : Package → Package} (h : ∀ p, (change p).id = p.id)
    (package m : String) :
    (packageAt (ps.editPackage package change) m).id = (packageAt ps m).id := by
  unfold packageAt package? editPackage
  rw [get?_modify]
  split
  · rename_i hm
    rw [hm]
    cases Keyed.get? ps package with
    | none => rfl
    | some p => exact h p
  · rfl

variable {change : TypeGroup → TypeGroup}

theorem recorded_withGroup (h : ∀ g : TypeGroup, g.IdentsKept (change g)) (package : String)
    (type : ResourceType) (name : Name) :
    (ps.withGroup package type change).recorded name = ps.recorded name := by
  refine recorded_congr (fun m => ?_) (fun m u => ?_) name
  · rw [withGroup, packageAt_withPackage]
    split <;> rfl
  · rw [groupAt, groupAt, group?_withGroup]
    split
    · rename_i hm
      rw [hm.1, hm.2]
      exact h _
    · exact .refl _

theorem recorded_editGroup (h : ∀ g : TypeGroup, g.IdentsKept (change g)) (package : String)
    (type : ResourceType) (name : Name) :
    (ps.editGroup package type change).recorded name = ps.recorded name := by
  refine recorded_congr (fun m => ?_) (fun m u => ?_) name
  · refine id_packageAt_editPackage ?_ package m
    exact fun p => rfl
  · rw [groupAt, groupAt, group?_editGroup]
    split
    · rename_i hm
      rw [hm.1, hm.2]
      cases ps.group? package type with
      | none => exact .refl _
      | some g => exact h g
    · exact .refl _

theorem recorded_withEntry {change : Entry → Entry} (h : ∀ e, (change e).id = e.id)
    (target name : Name) : (ps.withEntry target change).recorded name = ps.recorded name :=
  recorded_withGroup (fun g => .withEntry h g target.entry) target.package target.type name

theorem recorded_editEntry {change : Entry → Entry} (h : ∀ e, (change e).id = e.id)
    (target name : Name) : (ps.editEntry target change).recorded name = ps.recorded name :=
  recorded_editGroup (fun g => .modify h g target.entry) target.package target.type name

theorem recorded_mapValues (f : Value → Value) (name : Name) :
    (ps.mapValues f).recorded name = ps.recorded name := by
  unfold recorded resource? group? package? mapValues
  rw [get?_mapItems]
  cases Keyed.get? ps name.package with
  | none => rfl
  | some p =>
    simp only [Option.map_some, Option.bind_some, get?_mapItems]
    cases p.types.get? name.type with
    | none => rfl
    | some g =>
      simp only [Option.map_some, Option.bind_some, get?_mapItems]
      cases g.entries.get? name.entry <;> rfl

end Packages

/-- The operation writes an identifier directly. -/
def Operation.writesIdent : Operation → Bool
  | .edit (.packageId _ _) | .edit (.typeId _ _ _) | .edit (.entryId _ _) => true
  | _ => false

namespace Table
variable {t u : Table}

/-- **What is recorded stays**, whatever is done, unless an identifier is written directly. -/
theorem identsStay_perform {op : Operation} (hop : op.writesIdent = false) :
    t.packages.IdentsStay (t.perform op).table.packages := by
  -- a call or an ingestion may record something, the other operations do not
  have hfills : op.Fills → t.packages.IdentsStay (t.perform op).table.packages := by
    intro h
    have hone : ∀ other ∈ [op], other.Fills := by simpa using h
    exact run_identsStay hone
  have hkept : (∀ name, (t.perform op).table.packages.recorded name = t.packages.recorded name) →
      t.packages.IdentsStay (t.perform op).table.packages := fun h name => h name ▸ .refl _
  cases op with
  | add | addFile | declare | ingest | createPackage => exact hfills trivial
  | ensurePackage package =>
    have htypes : ∀ p : Package, Package.types p = p.types := fun p => rfl
    refine hkept (Packages.recorded_of_group?_eq (fun m => ?_)
      (t.packages.group?_withPackage_of_types htypes package))
    show ((t.packages.withPackage package fun p => p).packageAt m).id = _
    rw [Packages.packageAt_withPackage, ite_self]
  | ensureGroup package type =>
    exact hkept (Packages.recorded_withGroup (fun g => .refl g) package type)
  | ensureEntry name | ensureSlot name key =>
    refine hkept (Packages.recorded_withEntry ?_ name)
    exact fun e => rfl
  | removeSlot name key =>
    refine hkept (Packages.recorded_editEntry ?_ name)
    exact fun e => rfl
  | edit change =>
    cases change with
    | packageKind package kind =>
      refine hkept (Packages.recorded_of_group?_eq (Packages.id_packageAt_editPackage ?_ package)
        (t.packages.group?_editPackage_of_types ?_ package)) <;>
      exact fun p => rfl
    | typeSymbol package type symbol =>
      refine hkept (Packages.recorded_editGroup ?_ package type)
      exact fun g => ⟨rfl, fun _ => rfl⟩
    | entrySymbol name symbol | slot name key value =>
      refine hkept (Packages.recorded_editEntry ?_ name)
      exact fun e => rfl
    | comments comment => exact hkept (Packages.recorded_mapValues _)
    | packageId | typeId | entryId => cases hop

theorem LeadsTo.identsStay (h : LeadsTo (fun op => op.writesIdent = false) t u) :
    t.packages.IdentsStay u.packages := by
  induction h with
  | refl => exact .refl _
  | perform _ hop ih => exact ih.trans (identsStay_perform hop)
  | resolver _ _ ih => exact ih
  | pool _ _ ih => exact ih

/-- A request that has been accepted with a valid identifier, on its own or within an
ingestion, has recorded it. -/
theorem ident?_of_accepts_calls {op : Operation} {c : Operation × Reply × Log}
    (hc : c ∈ t.transcript op.calls) {name : Name} {i : Ident} (h : Accepts c name i) :
    ((t.perform op).table.packages.recorded name).ident? = some i := by
  have hmem := t.mem_of_mem_transcript hc
  have hfills : op.Fills := by
    cases op with
    | add | addFile | declare | ingest | createPackage => trivial
    | _ =>
      -- no request is made
      obtain ⟨checked, r, hrequest, -⟩ := h.request
      rw [List.mem_singleton.mp hmem] at hrequest
      cases hrequest
  rw [Operation.perform_eq_run_calls]
  exact ident?_run_of_accepts hfills.calls hc h

/-- **The report of exported resources without identifier.** -/
structure ReportsExports (t : Table) : Prop where
  /-- The names are in their order, and none is listed twice. -/
  ascending : t.packages.exportedWithoutIdent.Pairwise Name.Before
  /-- Listed are the exported resources that lack a part of their identifier. -/
  mem_iff : ∀ name, name ∈ t.packages.exportedWithoutIdent ↔
    ∃ r, t.packages.find? name = some r ∧ r.entry.symbol.state = .exported ∧
      (r.package.id = none ∨ r.group.id = none ∨ r.entry.id = none)
  /-- A name for which a request was accepted with a valid identifier, be it on its own or
  within an ingestion, is not listed any more, unless an identifier is written directly. -/
  settled : ∀ op, ∀ c ∈ t.transcript op.calls, ∀ name i, Accepts c name i →
    ∀ u, LeadsTo (fun op => op.writesIdent = false) (t.perform op).table u →
      name ∉ u.packages.exportedWithoutIdent

/-- **In a reachable table the report is exact and in order**, and what has been settled does
not come back. -/
theorem Reachable.reportsExports (ht : t.Reachable) : ReportsExports t where
  ascending := ht.ordered.exportedWithoutIdent_ascend
  mem_iff _ := Packages.mem_exportedWithoutIdent_iff ht.ordered
  settled op c hc name i h u hu := by
    have hordered := ((ht.perform op).leadsTo hu).ordered
    exact Packages.notMem_exportedWithoutIdent hordered
      ((hu.identsStay name).ident? (ident?_of_accepts_calls hc h))

/-- Two exported strings lack an identifier.  One of them gets it, and is not listed again
though its visibility is declared anew. -/
theorem reportsExports_titleAndLabel :
    let name (entry : String) : Name := ⟨"app", .string, entry⟩
    let declare (entry : String) (id : Option Ident) (state : Visibility) : Operation :=
      .declare true ⟨name entry, id, { state }⟩
    let t := ((ofPolicy .permissive).run
      [declare "title" none .exported, declare "label" none .exported]).1
    let settle := declare "title" (some ⟨0x7f010000⟩) .internal
    let u := ((t.perform settle).table.perform (declare "title" none .exported)).table
    (ReportsExports t ∧ t.packages.exportedWithoutIdent = [name "label", name "title"]) ∧
      name "title" ∉ u.packages.exportedWithoutIdent ∧
      (u.packages.entryAt (name "title")).symbol.state = .exported := by
  have hreports : ∀ ops, ReportsExports ((ofPolicy .permissive).run ops).1 :=
    fun ops => Reachable.reportsExports ((Reachable.ofPolicy _).run ops)
  refine ⟨⟨hreports _, rfl⟩, ?_, rfl⟩
  refine (hreports _).settled
    (.declare true ⟨⟨"app", .string, "title"⟩, some ⟨0x7f010000⟩, { state := .internal }⟩) _
    List.mem_cons_self _ ⟨0x7f010000⟩ ⟨⟨true, _, rfl, rfl, rfl⟩, ?_, by decide⟩ _
    (.perform .refl rfl)
  rfl

end Table
end AppResources
