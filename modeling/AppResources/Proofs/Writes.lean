import AppResources.Proofs.Places
import AppResources.Table

/-!
# What a request writes

An accepted request writes along the path of its name, and nowhere else: an
identifier on all three levels, the symbol of the entry, a value in one slot.
`Write` says which of these it does, and `Packages.write` does them in one pass,
after creating what is missing on the way.  `store`, `setSymbol` and `record`,
and what the table's operations compose of them, are writes.

Two laws carry the rest of the development.  A write is seen in what is recorded
(`recorded_write`), in the slots (`slot?_write`) and in the nodes along its path,
and nowhere else; and two writes **commute** unless they set the same thing to
different values (`write_comm`).
-/

namespace AppResources

/-- What a request writes along the path of a name. -/
structure Write where
  /-- The identifier it records on all three levels. -/
  ident : Option Ident := none
  /-- The symbol it gives the entry. -/
  symbol : Option Symbol := none
  /-- The value it stores, and the slot it stores it in. -/
  slot : Option (SlotKey × Value) := none

namespace Write

/-- The entry after a write. -/
def onEntry (w : Write) (e : Entry) : Entry where
  id := (w.ident.map Ident.entry).or e.id
  symbol := w.symbol.getD e.symbol
  slots :=
    match w.slot with
    | some (key, v) => e.slots.update key fun _ => some v
    | none => e.slots

/-- The type after a write to one of its entries: an exported symbol makes it
exported. -/
def onGroup (w : Write) (g : TypeGroup) : TypeGroup :=
  { g with
    id := (w.ident.map Ident.type).or g.id
    symbol := if w.symbol.any Symbol.isExported then { g.symbol with state := .exported }
      else g.symbol }

/-- The package after a write to one of its entries. -/
def onPackage (w : Write) (p : Package) : Package :=
  { p with id := (w.ident.map Ident.package).or p.id }

end Write

/-- What is recorded along the path of `m` once an identifier has been recorded
along the path of `name`: the two share the levels on which their names agree. -/
def RecordedIds.afterRecording (r : RecordedIds) (m name : Name) (id : Option Ident) :
    RecordedIds where
  package :=
    if m.package = name.package then (id.map Ident.package).or r.package else r.package
  type :=
    if m.package = name.package ∧ m.type = name.type then (id.map Ident.type).or r.type
    else r.type
  entry := if m = name then (id.map Ident.entry).or r.entry else r.entry

/-- The node of a package without what it holds. -/
def Package.head (p : Package) : Package := { p with types := [] }

theorem Package.eq_of_head {p q : Package} (h : p.head = q.head) (htypes : p.types = q.types) :
    p = q := by
  injection h with hid hkind _
  exact Package.ext hid hkind htypes

/-- The node of a type without what it holds. -/
def TypeGroup.head (g : TypeGroup) : TypeGroup := { g with entries := [] }

theorem TypeGroup.eq_of_head {g k : TypeGroup} (h : g.head = k.head)
    (hentries : g.entries = k.entries) : g = k := by
  injection h with hid hsymbol _
  exact TypeGroup.ext hid hsymbol hentries

/-- The node of an entry without what it holds. -/
def Entry.head (e : Entry) : Entry := { e with slots := [] }

theorem Entry.eq_of_head {e f : Entry} (h : e.head = f.head) (hslots : e.slots = f.slots) :
    e = f := by
  injection h with hid hsymbol _
  exact Entry.ext hid hsymbol hslots

namespace Packages

/-- Writes along the path of a name, after creating what is missing of it. -/
def write (ps : Packages) (name : Name) (w : Write) : Packages :=
  ps.withPackage name.package fun p =>
    w.onPackage (p.withGroup name.type fun g => w.onGroup (g.withEntry name.entry w.onEntry))

/-! ## The changes of the table are writes -/

section Forms
variable (ps : Packages) (name : Name)

theorem store_eq_write (key : SlotKey) (v : Value) :
    ps.store name key v = ps.write name { slot := some (key, v) } := rfl

theorem record_eq_write (id : Ident) : ps.record name id = ps.write name { ident := some id } :=
  rfl

theorem setSymbol_eq_write (symbol : Symbol) :
    ps.setSymbol name symbol = ps.write name { symbol := some symbol } := by
  unfold setSymbol write withGroup Write.onGroup
  cases h : symbol.isExported
  · simp only [Option.any_some, h]
    rfl
  · simp only [Option.any_some, h, if_true]
    rfl

/-- Two writes to one name, level by level. -/
theorem write_write (w w' : Write) : (ps.write name w).write name w' =
    ps.withPackage name.package fun p => w'.onPackage (w.onPackage (p.withGroup name.type fun g =>
      w'.onGroup (w.onGroup (g.withEntry name.entry fun e => w'.onEntry (w.onEntry e))))) := by
  unfold write withPackage
  rw [Keyed.update_update]
  congr 1
  funext p?
  have hgroup : ∀ (g : TypeGroup),
      w'.onGroup ((w.onGroup (g.withEntry name.entry w.onEntry)).withEntry name.entry w'.onEntry) =
      w'.onGroup (w.onGroup (g.withEntry name.entry fun e => w'.onEntry (w.onEntry e))) := by
    intro g
    simp only [TypeGroup.withEntry, Write.onGroup, Keyed.update_update, Option.getD_some]
  simp only [Option.getD_some, Package.withGroup, Write.onPackage, Keyed.update_update, hgroup]

/-- What is recorded after a write belongs to the write. -/
theorem recordIfGiven_write {w : Write} (hw : w.ident = none) (id : Option Ident) :
    (ps.write name w).recordIfGiven name id = ps.write name { w with ident := id } := by
  cases id with
  | none =>
    obtain ⟨ident, symbol, slot⟩ := w
    obtain rfl : ident = none := hw
    rfl
  | some id =>
    show (ps.write name w).record name id = _
    rw [record_eq_write, write_write]
    obtain ⟨ident, symbol, slot⟩ := w
    obtain rfl : ident = none := hw
    rfl

end Forms

/-! ## What is seen after a write -/

section Views
variable (ps : Packages) (name : Name) (w : Write)

theorem package?_write (m : String) : package? (ps.write name w) m =
    if m = name.package then
      some (w.onPackage ((ps.packageAt name.package).withGroup name.type fun g =>
        w.onGroup (g.withEntry name.entry w.onEntry)))
    else package? ps m :=
  package?_withPackage ps name.package _ m

theorem group?_write (m : String) (u : ResourceType) : group? (ps.write name w) m u =
    if m = name.package ∧ u = name.type then
      some (w.onGroup ((ps.groupAt name.package name.type).withEntry name.entry w.onEntry))
    else group? ps m u := by
  rw [← group?_withGroup ps name.package name.type
    (fun g => w.onGroup (g.withEntry name.entry w.onEntry)), withGroup, write,
    group?_withPackage, group?_withPackage]
  rfl

theorem resource?_write (m : Name) : resource? (ps.write name w) m =
    if m = name then some (w.onEntry (ps.entryAt name)) else resource? ps m := by
  rw [← resource?_withEntry ps name w.onEntry, withEntry]
  unfold resource?
  rw [group?_write, group?_withGroup]
  split <;> rfl

/-- A write drops no resource. -/
theorem isSome_resource?_write {m : Name} (h : (resource? ps m).isSome) :
    (resource? (ps.write name w) m).isSome := by
  rw [resource?_write]
  split
  · rfl
  · exact h

/-- The node of a package changes on the path of the name only. -/
theorem head_packageAt_write (m : String) : (packageAt (ps.write name w) m).head =
    if m = name.package then w.onPackage (packageAt ps m).head else (packageAt ps m).head := by
  unfold packageAt
  rw [package?_write]
  split
  · rename_i hm
    rw [hm]
    rfl
  · rfl

/-- The node of a type changes on the path of the name only. -/
theorem head_groupAt_write (m : String) (u : ResourceType) :
    (groupAt (ps.write name w) m u).head =
      if m = name.package ∧ u = name.type then w.onGroup (groupAt ps m u).head
      else (groupAt ps m u).head := by
  unfold groupAt
  rw [group?_write]
  split
  · rename_i hm
    rw [hm.1, hm.2]
    rfl
  · rfl

theorem entryAt_write (m : Name) : entryAt (ps.write name w) m =
    if m = name then w.onEntry (entryAt ps m) else entryAt ps m := by
  unfold entryAt
  rw [resource?_write]
  split
  · rename_i hm
    rw [hm]
    rfl
  · rfl

theorem recorded_eq : ps.recorded name = ⟨(packageAt ps name.package).id,
    (groupAt ps name.package name.type).id, (entryAt ps name).id⟩ := by
  unfold recorded groupAt entryAt
  rw [bind_id_package?]
  congr
  · cases group? ps name.package name.type <;> rfl
  · cases resource? ps name <;> rfl

/-- **What is recorded along a path after a write**: its identifier on the levels
the two paths share, and what was there on the others. -/
theorem recorded_write (m : Name) :
    (ps.write name w).recorded m = (ps.recorded m).afterRecording m name w.ident := by
  rw [recorded_eq, recorded_eq, entryAt_write]
  have hpackage := congrArg Package.id (head_packageAt_write ps name w m.package)
  have hgroup := congrArg TypeGroup.id (head_groupAt_write ps name w m.package m.type)
  rw [apply_ite Package.id] at hpackage
  rw [apply_ite TypeGroup.id] at hgroup
  rw [RecordedIds.afterRecording, RecordedIds.mk.injEq]
  exact ⟨hpackage, hgroup, apply_ite Entry.id ..⟩

theorem symbol_entryAt_write (m : Name) : (entryAt (ps.write name w) m).symbol =
    if m = name then w.symbol.getD (entryAt ps m).symbol else (entryAt ps m).symbol := by
  rw [entryAt_write]
  exact apply_ite Entry.symbol ..

theorem symbol_groupAt_write (m : String) (u : ResourceType) :
    (groupAt (ps.write name w) m u).symbol =
      if (m = name.package ∧ u = name.type) ∧ w.symbol.any Symbol.isExported then
        { (groupAt ps m u).symbol with state := .exported }
      else (groupAt ps m u).symbol := by
  refine (congrArg TypeGroup.symbol (head_groupAt_write ps name w m u)).trans ?_
  by_cases hm : m = name.package ∧ u = name.type
  · simp only [hm, and_self, if_true, true_and]
    rfl
  · simp only [hm, if_false, false_and]
    rfl

/-- **A write is seen in the slot it stores to, and in no other.** -/
theorem slot?_write (m : Name) (key : SlotKey) : slot? (ps.write name w) m key =
    match w.slot with
    | some (k, v) => if m = name ∧ key = k then some (some v) else slot? ps m key
    | none => slot? ps m key := by
  rw [← slot?_entryAt, ← slot?_entryAt, entryAt_write]
  by_cases hm : m = name
  · rw [if_pos hm]
    cases hw : w.slot with
    | none => simp only [Entry.slot?, Write.onEntry, hw]
    | some x =>
      simp only [Entry.slot?, Write.onEntry, hw, Keyed.get?_update, hm, true_and]
  · rw [if_neg hm]
    cases w.slot with
    | none => rfl
    | some x => simp only [hm, false_and, if_false]

theorem value?_write (m : Name) (key : SlotKey) : value? (ps.write name w) m key =
    match w.slot with
    | some (k, v) => if m = name ∧ key = k then some v else value? ps m key
    | none => value? ps m key := by
  unfold value?
  rw [slot?_write]
  cases w.slot with
  | none => rfl
  | some x => exact apply_ite Option.join ..

end Views

/-! ## Writes commute -/

/-- Two writes never set the same thing to different values. -/
structure Compatible (name : Name) (w : Write) (other : Name) (w' : Write) : Prop where
  /-- Package parts agree within a package. -/
  package : ∀ i ∈ w.ident, ∀ j ∈ w'.ident, name.package = other.package → i.package = j.package
  /-- Type parts agree within a type. -/
  type : ∀ i ∈ w.ident, ∀ j ∈ w'.ident, name.package = other.package → name.type = other.type →
    i.type = j.type
  /-- Entry parts agree within an entry. -/
  entry : ∀ i ∈ w.ident, ∀ j ∈ w'.ident, name = other → i.entry = j.entry
  /-- Only one of them sets the symbol of an entry. -/
  symbol : name = other → w.symbol = none ∨ w'.symbol = none
  /-- Only one of them stores to a slot. -/
  slot : name = other → ∀ x ∈ w.slot, ∀ y ∈ w'.slot, x.1 ≠ y.1

theorem or_map_swap {α β : Type} {a b : Option α} {f : α → β} {x : Option β}
    (h : ∀ i ∈ a, ∀ j ∈ b, f i = f j) :
    (a.map f).or ((b.map f).or x) = (b.map f).or ((a.map f).or x) := by
  cases a with
  | none => rfl
  | some i =>
    cases b with
    | none => rfl
    | some j => exact congrArg some (h i rfl j rfl)

/-- On one entry, compatible writes commute. -/
theorem Compatible.onEntry {name : Name} {w w' : Write} (h : Compatible name w name w')
    (e : Entry) : w'.onEntry (w.onEntry e) = w.onEntry (w'.onEntry e) := by
  have hid : (w'.onEntry (w.onEntry e)).id = (w.onEntry (w'.onEntry e)).id :=
    (or_map_swap fun i hi j hj => h.entry i hi j hj rfl).symm
  have hsymbol : (w'.onEntry (w.onEntry e)).symbol = (w.onEntry (w'.onEntry e)).symbol := by
    rcases h.symbol rfl with hn | hn <;> simp only [Write.onEntry, hn, Option.getD_none]
  have hslots : (w'.onEntry (w.onEntry e)).slots = (w.onEntry (w'.onEntry e)).slots := by
    cases hw : w.slot with
    | none => simp only [Write.onEntry, hw]
    | some x =>
      cases hw' : w'.slot with
      | none => simp only [Write.onEntry, hw, hw']
      | some y =>
        simp only [Write.onEntry, hw, hw']
        exact Keyed.update_comm e.slots (h.slot rfl x hw y hw') _ _
  exact Entry.ext hid hsymbol hslots

/-- On one type, compatible writes commute. -/
theorem Compatible.onGroup {name other : Name} {w w' : Write} (h : Compatible name w other w')
    (hpackage : name.package = other.package) (htype : name.type = other.type) (g : TypeGroup) :
    w'.onGroup ((w.onGroup (g.withEntry name.entry w.onEntry)).withEntry other.entry w'.onEntry) =
      w.onGroup ((w'.onGroup (g.withEntry other.entry w'.onEntry)).withEntry name.entry
        w.onEntry) := by
  apply TypeGroup.ext
  · exact (or_map_swap fun i hi j hj => h.type i hi j hj hpackage htype).symm
  · simp only [Write.onGroup, TypeGroup.withEntry]
    split <;> split <;> rfl
  · refine Keyed.update_swap g.entries fun hentry e? => ?_
    obtain rfl := (Name.eq_iff_of_path hpackage htype).mpr hentry
    exact h.onEntry (e?.getD {})

/-- **Compatible writes commute.** -/
theorem write_comm (ps : Packages) {name other : Name} {w w' : Write}
    (h : Compatible name w other w') :
    (ps.write name w).write other w' = (ps.write other w').write name w := by
  -- where the paths part, the updates are of different keys
  refine Keyed.update_swap ps fun hpackage p? => ?_
  apply Package.ext
  · exact (or_map_swap fun i hi j hj => h.package i hi j hj hpackage).symm
  · rfl
  · exact Keyed.update_swap (p?.getD {}).types fun htype g? =>
      h.onGroup hpackage htype (g?.getD {})

end Packages
end AppResources
