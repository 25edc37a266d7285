import AppResources.Proofs.Identifiers

/-!
# Looking resources up by their identifiers

`findIdent?` goes down the tree by the parts of an identifier, and at each level
takes the first node that has the part; it does not come back when that node holds
nothing further down.  An identifier, on the other hand, is only compared with what
is recorded on the path of its own name, so packages, types and entries may come to
share a part with a sibling.

Therefore a resource is found by its identifier exactly when it **comes first**: none
of the nodes on its path has a sibling before it with the same part
(`findIdent?_eq_some_iff`).  Where siblings have different identifiers
(`IdentsDistinct`), every resource comes first and the lookup undoes the recording.
Where they do not, a resource can be hidden behind another package
(`findIdent?_hidden`), and two resources can hold one identifier.
-/

namespace AppResources

open Keyed

namespace Located

/-- All three parts of the identifier are recorded for the resource. -/
structure Holds (r : Located) (i : Ident) : Prop where
  package : r.package.id = some i.package
  type : r.group.id = some i.type
  entry : r.entry.id = some i.entry

/-- **The resource comes first**: no node on its path has a sibling before it with the
same identifier. -/
structure ComesFirst (r : Located) (ps : Packages) : Prop where
  package : ∀ item ∈ ps, item.2.id = r.package.id → compare item.1 r.name.package ≠ .lt
  type : ∀ item ∈ r.package.types, item.2.id = r.group.id → compare item.1 r.name.type ≠ .lt
  entry : ∀ item ∈ r.group.entries, item.2.id = r.entry.id → compare item.1 r.name.entry ≠ .lt

end Located

namespace Packages
variable {ps : Packages}

/-- **Siblings have different identifiers**: no two packages, no two types of a
package and no two entries of a type have the same one recorded. -/
structure IdentsDistinct (ps : Packages) : Prop where
  package : ∀ item ∈ ps, ∀ other ∈ ps, item.2.id.isSome → other.2.id = item.2.id →
    other.1 = item.1
  type : ∀ p ∈ ps, ∀ item ∈ p.2.types, ∀ other ∈ p.2.types, item.2.id.isSome →
    other.2.id = item.2.id → other.1 = item.1
  entry : ∀ p ∈ ps, ∀ g ∈ p.2.types, ∀ item ∈ g.2.entries, ∀ other ∈ g.2.entries,
    item.2.id.isSome → other.2.id = item.2.id → other.1 = item.1

/-- **A resource is found by an identifier** exactly when it holds it and comes first. -/
theorem findIdent?_eq_some_iff (h : ps.Ordered) {i : Ident} {r : Located} :
    ps.findIdent? i = some r ↔ ps.find? r.name = some r ∧ r.Holds i ∧ r.ComesFirst ps := by
  have hpart : ∀ {α β : Type} [BEq α] [LawfulBEq α] {id : β → Option α} {part : α} {b : β},
      (id b == some part) = true ↔ id b = some part := beq_iff_eq
  obtain ⟨⟨package, type, entry⟩, p, g, e⟩ := r
  rw [find?_eq_some_iff h]
  unfold findIdent? packageWithId? Package.groupWithId? TypeGroup.entryWithId?
  constructor
  · intro hfind
    split at hfind
    · cases hfind
    · rename_i package' p' hp
      obtain ⟨hpmem, hpid, hpfirst⟩ := (first?_eq_some_iff h.increasing).mp hp
      have hpo : p'.Ordered := h.each _ hpmem
      split at hfind
      · cases hfind
      · rename_i type' g' hg
        obtain ⟨hgmem, hgid, hgfirst⟩ := (first?_eq_some_iff hpo.increasing).mp hg
        have hgo : g'.Ordered := hpo.each _ hgmem
        obtain ⟨⟨entry', e'⟩, he, hlocated⟩ := Option.map_eq_some_iff.mp hfind
        obtain ⟨hemem, heid, hefirst⟩ := (first?_eq_some_iff hgo.increasing).mp he
        cases hlocated
        have hpid := hpart.mp hpid
        have hgid := hpart.mp hgid
        have heid := hpart.mp heid
        refine ⟨⟨rfl, hpmem, hgmem, hemem⟩, ⟨hpid, hgid, heid⟩, ?_, ?_, ?_⟩
        · exact fun item hm hid => hpfirst item hm (hpart.mpr (hid.trans hpid))
        · exact fun item hm hid => hgfirst item hm (hpart.mpr (hid.trans hgid))
        · exact fun item hm hid => hefirst item hm (hpart.mpr (hid.trans heid))
  · rintro ⟨⟨-, hpmem, hgmem, hemem⟩, ⟨hpid, hgid, heid⟩, hpfirst, hgfirst, hefirst⟩
    have hpo : p.Ordered := h.each _ hpmem
    have hgo : g.Ordered := hpo.each _ hgmem
    have hp : Keyed.first? ps (fun q => q.id == some i.package) = some (package, p) := by
      refine (first?_eq_some_iff h.increasing).mpr ⟨hpmem, hpart.mpr hpid, fun item hm hid => ?_⟩
      exact hpfirst item hm ((hpart.mp hid).trans hpid.symm)
    have hg : p.types.first? (fun k => k.id == some i.type) = some (type, g) := by
      refine (first?_eq_some_iff hpo.increasing).mpr ⟨hgmem, hpart.mpr hgid, fun item hm hid => ?_⟩
      exact hgfirst item hm ((hpart.mp hid).trans hgid.symm)
    have he : g.entries.first? (fun f => f.id == some i.entry) = some (entry, e) := by
      refine (first?_eq_some_iff hgo.increasing).mpr ⟨hemem, hpart.mpr heid, fun item hm hid => ?_⟩
      exact hefirst item hm ((hpart.mp hid).trans heid.symm)
    simp only [hp, hg, he, Option.map_some]

/-- Where siblings have different identifiers, a resource with a complete identifier
comes first. -/
theorem IdentsDistinct.comesFirst (hdistinct : ps.IdentsDistinct) (h : ps.Ordered) {name : Name}
    {r : Located} (hr : ps.find? name = some r) {i : Ident} (hi : r.Holds i) :
    r.ComesFirst ps := by
  obtain ⟨rfl, hp, hg, he⟩ := (find?_eq_some_iff h).mp hr
  -- a sibling with the same identifier is the node itself
  have hself : ∀ {κ : Type} [Ord κ] [Std.LawfulEqOrd κ] {k l : κ}, k = l → compare k l ≠ .lt := by
    rintro κ _ _ k l rfl
    rw [Std.ReflOrd.compare_self]
    decide
  have hpid := Option.isSome_of_mem hi.package
  have hgid := Option.isSome_of_mem hi.type
  have heid := Option.isSome_of_mem hi.entry
  constructor
  · exact fun item hm hid => hself (hdistinct.package _ hp item hm hpid hid)
  · exact fun item hm hid => hself (hdistinct.type _ hp _ hg item hm hgid hid)
  · exact fun item hm hid => hself (hdistinct.entry _ hp _ hg _ he item hm heid hid)

/-- What is recorded along the path of a resource that is there. -/
theorem recorded_of_find? {name : Name} {r : Located} (hr : ps.find? name = some r) :
    ps.recorded name = ⟨r.package.id, r.group.id, r.entry.id⟩ := by
  unfold find? at hr
  split at hr
  · cases hr
  · rename_i p hp
    split at hr
    · cases hr
    · rename_i g hg
      obtain ⟨e, he, rfl⟩ := Option.map_eq_some_iff.mp hr
      simp only [recorded, resource?, group?, hp, hg, he, Option.bind_some]

/-- A complete identifier is held by a resource that is there. -/
theorem exists_holds {name : Name} {i : Ident} (hi : (ps.recorded name).ident? = some i) :
    ∃ r, ps.find? name = some r ∧ r.Holds i := by
  obtain ⟨hp, hu, he⟩ := RecordedIds.ident?_eq_some_iff.mp hi
  obtain ⟨e, hentry, -⟩ := Option.bind_eq_some_iff.mp he
  rw [← find?_map_entry] at hentry
  obtain ⟨r, hr, -⟩ := Option.map_eq_some_iff.mp hentry
  rw [recorded_of_find? hr] at hp hu he
  exact ⟨r, hr, hp, hu, he⟩

end Packages

namespace Table
variable {t : Table}

/-- **What the lookup by identifier finds.** -/
structure FindsByIdent (t : Table) : Prop where
  /-- A resource is found under its own identifier only. -/
  own : ∀ i r, t.packages.findIdent? i = some r → t.packages.find? r.name = some r ∧ r.Holds i
  /-- A resource with a complete identifier is found by it exactly when it comes
  first. -/
  found_iff : ∀ name r p u e, t.packages.find? name = some r →
    r.package.id = some p → r.group.id = some u → r.entry.id = some e →
    (t.packages.findIdent? (.ofParts p u e) = some r ↔ r.ComesFirst t.packages)
  /-- Where siblings have different identifiers, the lookup undoes the recording. -/
  found : t.packages.IdentsDistinct → ∀ name r p u e, t.packages.find? name = some r →
    r.package.id = some p → r.group.id = some u → r.entry.id = some e →
    t.packages.findIdent? (.ofParts p u e) = some r
  /-- There, no two resources hold one identifier. -/
  unique : t.packages.IdentsDistinct → ∀ name name' r r' i, t.packages.find? name = some r →
    t.packages.find? name' = some r' → r.Holds i → r'.Holds i → name = name'
  /-- A resource holds the identifier with which a request for its name has succeeded;
  it is found by it exactly when it comes first, and in any case where siblings have
  different identifiers. -/
  accepted : ∀ op name i, Accepts (op, (t.perform op).answer, (t.perform op).log) name i →
    ∃ r, (t.perform op).table.packages.find? name = some r ∧ r.Holds i ∧
      ((t.perform op).table.packages.findIdent? i = some r ↔
        r.ComesFirst (t.perform op).table.packages) ∧
      ((t.perform op).table.packages.IdentsDistinct →
        (t.perform op).table.packages.findIdent? i = some r)

/-- A resource that holds an identifier is found by it exactly when it comes first. -/
theorem findIdent?_iff_of_holds {ps : Packages} (h : ps.Ordered) {name : Name} {r : Located}
    (hr : ps.find? name = some r) {i : Ident} (hi : r.Holds i) :
    ps.findIdent? i = some r ↔ r.ComesFirst ps := by
  obtain ⟨rfl, -⟩ := (Packages.find?_eq_some_iff h).mp hr
  rw [Packages.findIdent?_eq_some_iff h]
  exact ⟨fun hfound => hfound.2.2, fun hfirst => ⟨hr, hi, hfirst⟩⟩

/-- **In a reachable table the lookup by identifier finds what comes first**; it undoes
the recording where siblings have different identifiers. -/
theorem Reachable.findsByIdent (ht : t.Reachable) : FindsByIdent t := by
  have hordered := ht.ordered
  have hholds : ∀ {r : Located} {p : UInt8} {u : UInt8} {e : UInt16}, r.package.id = some p →
      r.group.id = some u → r.entry.id = some e → r.Holds (.ofParts p u e) := by
    intro r p u e hp hu he
    refine ⟨?_, ?_, ?_⟩
    · rw [hp, Ident.package_ofParts]
    · rw [hu, Ident.type_ofParts]
    · rw [he, Ident.entry_ofParts]
  have hfound : ∀ {u : Table}, u.Reachable → u.packages.IdentsDistinct → ∀ {name r i},
      u.packages.find? name = some r → r.Holds i → u.packages.findIdent? i = some r :=
    fun hu hdistinct _ _ _ hr hi =>
      (findIdent?_iff_of_holds hu.ordered hr hi).mpr (hdistinct.comesFirst hu.ordered hr hi)
  constructor
  · intro i r hr
    obtain ⟨hname, hi, -⟩ := (Packages.findIdent?_eq_some_iff hordered).mp hr
    exact ⟨hname, hi⟩
  · exact fun name r p u e hr hp hu he => findIdent?_iff_of_holds hordered hr (hholds hp hu he)
  · exact fun hdistinct name r p u e hr hp hu he => hfound ht hdistinct hr (hholds hp hu he)
  · -- both are what the lookup finds
    intro hdistinct name name' r r' i hr hr' hi hi'
    have hsame := (hfound ht hdistinct hr hi).symm.trans (hfound ht hdistinct hr' hi')
    obtain ⟨rfl, -⟩ := (Packages.find?_eq_some_iff hordered).mp hr
    obtain ⟨rfl, -⟩ := (Packages.find?_eq_some_iff hordered).mp hr'
    rw [Option.some.inj hsame]
  · intro op name i h
    have hnext := ht.perform op
    obtain ⟨r, hr, hi⟩ := Packages.exists_holds (ident?_of_accepts h)
    exact ⟨r, hr, hi, findIdent?_iff_of_holds hnext.ordered hr hi,
      fun hdistinct => hfound hnext hdistinct hr hi⟩

/-- **A resource can be hidden from its own identifier**: the package `a` comes first
with the package part and has no types, so the layout `x` of `b` is not found.  And two
resources can hold one identifier: the layout `y` is accepted with that of `x`. -/
theorem findIdent?_hidden :
    let layout (entry : String) : Name := ⟨"b", .layout, entry⟩
    let add (entry : String) : Operation :=
      .add true { name := layout entry, id := some ⟨0x7f010000⟩, value := { payload := .id } }
    let t := (ofPolicy {}).run [.createPackage "a" (some 0x7f), add "x"]
    let u := t.1.perform (add "y")
    t.2.map Prod.fst = [.done, .accepted true] ∧
      t.1.packages.recorded (layout "x") = ⟨some 0x7f, some 0x01, some 0x0000⟩ ∧
      t.1.packages.findIdent? (.ofParts 0x7f 0x01 0x0000) = none ∧
      u.answer = .accepted true ∧
      u.table.packages.recorded (layout "x") = ⟨some 0x7f, some 0x01, some 0x0000⟩ ∧
      u.table.packages.recorded (layout "y") = ⟨some 0x7f, some 0x01, some 0x0000⟩ :=
  ⟨rfl, rfl, rfl, rfl, rfl, rfl⟩

/-- A title and a label with identifiers of their own are both found. -/
theorem findsByIdent_titleAndLabel :
    let add (entry : String) (id : UInt32) : Operation :=
      .add true { name := ⟨"app", .string, entry⟩, id := some ⟨id⟩, value := { payload := .id } }
    let t := ((ofPolicy .strict).run [add "title" 0x7f010001, add "label" 0x7f010000]).1
    FindsByIdent t ∧
      (t.packages.findIdent? ⟨0x7f010000⟩).map Located.name = some ⟨"app", .string, "label"⟩ ∧
      (t.packages.findIdent? ⟨0x7f010001⟩).map Located.name = some ⟨"app", .string, "title"⟩ :=
  ⟨Reachable.findsByIdent ((Reachable.ofPolicy _).run _), rfl, rfl⟩

end Table
end AppResources
