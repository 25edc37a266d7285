import AppResources.Proofs.Collisions
import AppResources.Proofs.Order

/-!
# Adding twice is adding once

Additions without identifiers change slots, and create the path to a slot that
they are the first to fill.  What a slot holds after a list of them is the history
of the values that the list offers to it (`slot?_run_additions`), and a history
that is offered again ends where it ended before.  The second time every slot is
there, so no node is created (`run_additions_sameNodes`).  An ordered table has
nothing but its nodes and its slots, and so the second time changes nothing at
all (`Reachable.additions_idempotent`), although single additions of the list may
replace values on the way, or have another answer than the first time.
-/

namespace AppResources

/-- The entry name passes its check, if it is checked. -/
def Addition.Admitted (checked : Bool) (a : Addition) : Prop :=
  (if checked then invalidEntryCharacter? a.name.entry else none) = none

instance (checked : Bool) (a : Addition) : Decidable (a.Admitted checked) :=
  inferInstanceAs (Decidable (_ = _))

namespace Operation

/-- An addition without an identifier. -/
def IsBareAddition : Operation → Prop
  | .add _ a => a.id = none
  | _ => False

/-- The value that an operation offers to a slot. -/
def offers (name : Name) (key : SlotKey) : Operation → Option Value
  | .add checked a =>
    if a.Admitted checked ∧ name = a.name ∧ key = a.key then some a.value else none
  | _ => none

theorem IsBareAddition.exists_eq {op : Operation} (h : op.IsBareAddition) :
    ∃ checked a, op = .add checked a ∧ a.id = none := by
  cases op with
  | add checked a => exact ⟨checked, a, rfl, h⟩
  | _ => cases h

end Operation

namespace Table
variable {t : Table}

/-- Without an identifier only the entry name is examined. -/
theorem examine_bare (t : Table) (checked : Bool) {a : Addition} (ha : a.id = none) :
    (a.Admitted checked ∧ t.examine checked a.name a.id = .granted none) ∨
      (¬ a.Admitted checked ∧
        ∃ finding, t.examine checked a.name a.id = .refused finding false) := by
  unfold Addition.Admitted examine
  rw [ha]
  cases (if checked then invalidEntryCharacter? a.name.entry else none) with
  | none => exact Or.inl ⟨rfl, rfl⟩
  | some c => exact Or.inr ⟨Option.some_ne_none c, _, rfl⟩

/-- **An addition without an identifier** stores its value, or changes nothing. -/
theorem add_bare_cases (checked : Bool) {a : Addition} (ha : a.id = none) :
    (a.Admitted checked ∧
        (∀ old ∈ t.packages.value? a.name a.key, t.resolver old a.value = .takeNew) ∧
      (t.add checked a).table.packages =
        t.packages.write a.name { slot := some (a.key, a.value) }) ∨
    ((a.Admitted checked → ∃ old ∈ t.packages.value? a.name a.key,
        t.resolver old a.value ≠ .takeNew) ∧
      (t.add checked a).table.packages = t.packages) := by
  rcases t.examine_bare checked ha with ⟨hadmitted, hx⟩ | ⟨hnot, finding, hx⟩
  · rw [add_eq, hx]
    cases hold : t.packages.value? a.name a.key with
    | none => exact Or.inl ⟨hadmitted, by simp, rfl⟩
    | some old =>
      cases hr : t.resolver old a.value with
      | takeNew =>
        refine Or.inl ⟨hadmitted, by simp [hr], ?_⟩
        simp only [Addition.verdict, hr]
        rfl
      | keepOriginal | conflict =>
        refine Or.inr ⟨fun _ => ⟨old, rfl, by simp [hr]⟩, ?_⟩
        simp only [Addition.verdict, hr]
        rfl
  · rw [add_eq, hx]
    exact Or.inr ⟨fun h => absurd h hnot, rfl⟩

/-- An addition offers its value to its slot, and nothing to any other. -/
theorem slot?_add_bare (checked : Bool) {a : Addition} (ha : a.id = none) (name : Name)
    (key : SlotKey) : (t.add checked a).table.packages.slot? name key =
      ((Operation.add checked a).offers name key).elim (t.packages.slot? name key)
        (t.resolver.offer (t.packages.slot? name key)) := by
  by_cases htarget : name = a.name ∧ key = a.key
  · obtain ⟨rfl, rfl⟩ := htarget
    have hvalue : (t.packages.slot? a.name a.key).join = t.packages.value? a.name a.key := rfl
    simp only [Operation.offers, and_true]
    rcases t.add_bare_cases checked ha with ⟨hadmitted, htake, he⟩ | ⟨hkeep, he⟩
    · rw [he, if_pos hadmitted, Packages.slot?_write, Option.elim_some, Resolver.offer, hvalue]
      simp only [and_self, if_true, Option.some.injEq]
      cases hold : t.packages.value? a.name a.key with
      | none => rfl
      | some old => exact (Resolver.settle_of_takeNew (htake old hold)).symm
    · rw [he]
      split
      · rename_i hadmitted
        obtain ⟨old, hold, hne⟩ := hkeep hadmitted
        rw [Option.elim_some, Resolver.offer, hvalue, hold, Option.elim_some,
          Resolver.settle_of_ne hne]
        exact Packages.slot?_of_value? _ hold
      · rfl
  · have hoffers : (Operation.add checked a).offers name key = none :=
      if_neg fun h => htarget h.2
    rw [hoffers, Option.elim_none]
    rcases t.add_bare_cases checked ha with ⟨-, -, he⟩ | ⟨-, he⟩
    · rw [he, Packages.slot?_write]
      exact if_neg htarget
    · rw [he]

/-- **A slot after a list of additions**: the history of what they offer to it. -/
theorem slot?_run_additions {ops : List Operation} (hops : ∀ op ∈ ops, op.IsBareAddition)
    (name : Name) (key : SlotKey) : (t.run ops).1.packages.slot? name key =
      (ops.filterMap (Operation.offers name key)).foldl t.resolver.offer
        (t.packages.slot? name key) := by
  induction ops generalizing t with
  | nil => rfl
  | cons op rest ih =>
    obtain ⟨checked, a, rfl, ha⟩ := (hops op List.mem_cons_self).exists_eq
    have hrest := ih (t := (t.add checked a).table) fun op hm => hops op (List.mem_cons_of_mem _ hm)
    rw [(t.add_rules checked a).2, t.slot?_add_bare checked ha] at hrest
    refine hrest.trans ?_
    rw [List.filterMap_cons]
    cases (Operation.add checked a).offers name key <;> rfl

end Table

/-! ## Nodes that are there -/

/-- A write of a value along a path that is there changes no node. -/
theorem Packages.sameNodes_write {ps : Packages} {name : Name} {w : Write}
    (hpath : (ps.resource? name).isSome) (hident : w.ident = none) (hsymbol : w.symbol = none) :
    SameNodes (ps.write name w) ps := by
  obtain ⟨e, he⟩ := Option.isSome_iff_exists.mp hpath
  obtain ⟨g, hg⟩ := Option.isSome_iff_exists.mp (isSome_group?_of_resource? ps hpath)
  obtain ⟨p, hp⟩ := Option.isSome_iff_exists.mp
    (isSome_package?_of_group? ps (isSome_group?_of_resource? ps hpath))
  have hpackage : ∀ q : Package, (w.onPackage q).head = q.head := fun q => by
    simp only [Write.onPackage, hident, Package.head, Option.map_none, Option.none_or]
  have hgroup : ∀ k : TypeGroup, (w.onGroup k).head = k.head := fun k => by
    simp only [Write.onGroup, hident, hsymbol, TypeGroup.head, Option.map_none, Option.none_or,
      Option.any_none, Bool.false_eq_true, if_false]
  have hentry : ∀ f : Entry, (w.onEntry f).head = f.head := fun f => by
    simp only [Write.onEntry, hident, hsymbol, Entry.head, Option.map_none, Option.none_or,
      Option.getD_none]
  constructor
  · intro m
    rw [package?_write]
    split
    · rename_i hm
      rw [hm, hp, packageAt_of_some ps hp, Option.map_some, Option.map_some, hpackage]
      rfl
    · rfl
  · intro m u
    rw [group?_write]
    split
    · rename_i hm
      rw [hm.1, hm.2, hg, groupAt_of_some ps hg, Option.map_some, Option.map_some, hgroup]
      rfl
    · rfl
  · intro m
    rw [resource?_write]
    split
    · rename_i hm
      rw [hm, he, entryAt_of_some ps he, Option.map_some, Option.map_some, hentry]
    · rfl

namespace Table
variable {t : Table}

/-- Additions to slots that are there change no node. -/
theorem run_additions_sameNodes {ops : List Operation} (hops : ∀ op ∈ ops, op.IsBareAddition)
    (hthere : ∀ op ∈ ops, ∀ name key, (op.offers name key).isSome →
      (t.packages.slot? name key).isSome) :
    Packages.SameNodes (t.run ops).1.packages t.packages := by
  induction ops generalizing t with
  | nil => exact .refl _
  | cons op rest ih =>
    obtain ⟨checked, a, rfl, ha⟩ := (hops op List.mem_cons_self).exists_eq
    have hfirst : Packages.SameNodes (t.add checked a).table.packages t.packages := by
      rcases t.add_bare_cases checked ha with ⟨hadmitted, -, he⟩ | ⟨-, he⟩
      · have hoffers : ((Operation.add checked a).offers a.name a.key).isSome := by
          rw [Operation.offers, if_pos ⟨hadmitted, rfl, rfl⟩]
          rfl
        have hslot := hthere _ List.mem_cons_self a.name a.key hoffers
        rw [he]
        exact Packages.sameNodes_write (Packages.isSome_resource?_of_slot? _ hslot) rfl rfl
      · rw [he]
        exact .refl _
    have hrest : ∀ op ∈ rest, ∀ name key, (op.offers name key).isSome →
        ((t.add checked a).table.packages.slot? name key).isSome := by
      intro op hm name key hoffers
      rw [t.slot?_add_bare checked ha]
      cases (Operation.add checked a).offers name key with
      | none => exact hthere op (List.mem_cons_of_mem _ hm) name key hoffers
      | some x => rfl
    exact (ih (fun op hm => hops op (List.mem_cons_of_mem _ hm)) hrest).trans hfirst

/-- A list of additions leaves a value in every slot that it offers one to. -/
theorem isSome_slot?_run_additions {ops : List Operation} (hops : ∀ op ∈ ops, op.IsBareAddition)
    {op : Operation} (hop : op ∈ ops) {name : Name} {key : SlotKey}
    (hoffers : (op.offers name key).isSome) :
    ((t.run ops).1.packages.slot? name key).isSome := by
  obtain ⟨x, hx⟩ := Option.isSome_iff_exists.mp hoffers
  have hne : ops.filterMap (Operation.offers name key) ≠ [] :=
    List.ne_nil_of_mem (List.mem_filterMap.mpr ⟨op, hop, hx⟩)
  obtain ⟨v, hv⟩ := t.resolver.exists_foldl_offer (t.packages.slot? name key) hne
  rw [slot?_run_additions hops, hv]
  rfl

/-- A run keeps the resolver. -/
theorem resolver_run (t : Table) (ops : List Operation) : (t.run ops).1.resolver = t.resolver := by
  induction ops generalizing t with
  | nil => rfl
  | cons op rest ih => exact (ih _).trans (t.perform_rules op).2

/-- **Adding twice is adding once.**  With either of the offered resolvers, a list of
additions without identifiers — given as a run, or ingested — that is applied a
second time changes nothing. -/
theorem Reachable.additions_idempotent {t : Table} (ht : t.Reachable)
    (hresolver : t.resolver = .overlay ∨ t.resolver = .strict) :
    (∀ ops : List Operation, (∀ op ∈ ops, op.IsBareAddition) →
      ((t.run ops).1.run ops).1.packages = (t.run ops).1.packages) ∧
    ∀ additions : List Addition, (∀ a ∈ additions, a.id = none) →
      ((t.ingest additions).table.ingest additions).table.packages =
        (t.ingest additions).table.packages := by
  -- the two resolvers differ in what becomes of two strong values of one kind
  obtain ⟨sameKind, hsame⟩ : ∃ sameKind, t.resolver = .ofSameKind sameKind :=
    hresolver.elim (fun h => ⟨.takeNew, h⟩) fun h => ⟨.conflict, h⟩
  have hrun : ∀ ops : List Operation, (∀ op ∈ ops, op.IsBareAddition) →
      ((t.run ops).1.run ops).1.packages = (t.run ops).1.packages := by
    intro ops hops
    have hnodes : Packages.SameNodes ((t.run ops).1.run ops).1.packages (t.run ops).1.packages :=
      run_additions_sameNodes hops fun op hop name key => isSome_slot?_run_additions hops hop
    have hslots : ((t.run ops).1.run ops).1.packages.slot? = (t.run ops).1.packages.slot? := by
      funext name key
      rw [slot?_run_additions hops, slot?_run_additions hops, resolver_run, hsame]
      exact Resolver.foldl_offer_twice ..
    exact Packages.eq_of_sameNodes ((ht.run ops).run ops).ordered (ht.run ops).ordered hnodes hslots
  refine ⟨hrun, fun additions hid => ?_⟩
  have hops : ∀ op ∈ additions.map (Operation.add true), op.IsBareAddition := by
    intro op hop
    obtain ⟨a, ha, rfl⟩ := List.mem_map.mp hop
    exact hid a ha
  rw [ingest_eq_run, ingest_eq_run]
  exact hrun _ hops

/-- One title replaces another, and is replaced in turn the second time. -/
theorem additions_idempotent_titles :
    let title (text : String) : Addition :=
      { name := ⟨"app", .string, "title"⟩, value := { payload := .string text } }
    let t := ofPolicy .permissive
    let ops : List Operation := [.add true (title "T"), .add false (title "U")]
    let additions := [title "T", title "U"]
    ((t.run ops).1.run ops).1.packages = (t.run ops).1.packages ∧
      ((t.ingest additions).table.ingest additions).table.packages =
        (t.ingest additions).table.packages := by
  intro title t ops additions
  have h := Reachable.additions_idempotent (Reachable.ofPolicy .permissive) (Or.inl rfl)
  refine ⟨h.1 ops fun op hop => ?_, h.2 additions fun a ha => ?_⟩
  · simp only [ops, List.mem_cons, List.not_mem_nil, or_false] at hop
    rcases hop with rfl | rfl <;> rfl
  · simp only [additions, List.mem_cons, List.not_mem_nil, or_false] at ha
    rcases ha with rfl | rfl <;> rfl

end Table
end AppResources
