import AppResources.Proofs.Order

/-!
# A table is a finite map

Seen from outside, a table is a map from names and slot keys to slots
(`Table.slotMap`).  `SlotMap.Step` says what each operation does to that map, with
no mention of packages, types or entries: an addition sets its slot or leaves the
map alone, as the resolver says; creating and dropping a slot concern that slot;
everything else but an edit of values leaves the map alone.

`Reachable.isFiniteMap` is the refinement: in a reachable table, lookups agree
with enumerations, every operation is a step of the map, a step changes no slot
but the one that the operation is meant for, and an addition changes no symbol.
The map is a function of `slot?`, whose laws say where each change is seen; what is
left to prove for an operation is which change it makes.
-/

namespace AppResources

/-- The slots of every name, by key.  A slot may be empty. -/
abbrev SlotMap := Name → SlotKey → Option (Option Value)

namespace SlotMap

/-- Sets one slot, or drops it. -/
def set (m : SlotMap) (name : Name) (key : SlotKey) (slot? : Option (Option Value)) : SlotMap :=
  fun n k => if n = name ∧ k = key then slot? else m n k

/-- **What an addition does to the map**, given its answer. -/
inductive Adds (resolver : Resolver) (m : SlotMap) (name : Name) (key : SlotKey) (v : Value) :
    Bool → SlotMap → Prop where
  /-- The slot was absent or without a value, and holds the new one. -/
  | stored (h : (m name key).join = none) :
      Adds resolver m name key v true (m.set name key (some (some v)))
  /-- The resolver gave the slot to the new value. -/
  | replaced {old : Value} (h : (m name key).join = some old) (hr : resolver old v = .takeNew) :
      Adds resolver m name key v true (m.set name key (some (some v)))
  /-- The resolver left the slot to the old value. -/
  | kept {old : Value} (h : (m name key).join = some old)
      (hr : resolver old v = .keepOriginal) : Adds resolver m name key v true m
  /-- The addition failed. -/
  | refused : Adds resolver m name key v false m

/-- Additions in order; the answer tells whether all of them succeeded. -/
inductive AddsAll (resolver : Resolver) : SlotMap → List Addition → Bool → SlotMap → Prop where
  | nil {m : SlotMap} : AddsAll resolver m [] true m
  | cons {m m' m'' : SlotMap} {a : Addition} {rest : List Addition} {first others : Bool}
      (ha : Adds resolver m a.name a.key a.value first m')
      (hrest : AddsAll resolver m' rest others m'') :
      AddsAll resolver m (a :: rest) (first && others) m''

end SlotMap

/-- The slots that an operation is meant for. -/
def Operation.Targets (name : Name) (key : SlotKey) : Operation → Prop
  | .add _ a => name = a.name ∧ key = a.key
  | .addFile _ n config _ _ _ => name = n ∧ key = ⟨config, ""⟩
  | .ingest additions => ∃ a ∈ additions, name = a.name ∧ key = a.key
  | .ensureSlot n k | .removeSlot n k | .edit (.slot n k _) => name = n ∧ key = k
  | .edit (.comments _) => True
  | _ => False

/-- The operation adds one value or several. -/
def Operation.isAddition : Operation → Bool
  | .add _ _ | .addFile _ _ _ _ _ _ | .ingest _ => true
  | _ => false

namespace SlotMap

/-- **What an operation does to the map**, given its reply. -/
inductive Step (resolver : Resolver) (m : SlotMap) : Operation → Reply → SlotMap → Prop where
  | add {checked : Bool} {a : Addition} {flag : Bool} {m' : SlotMap}
      (h : Adds resolver m a.name a.key a.value flag m') :
      Step resolver m (.add checked a) (.accepted flag) m'
  /-- The value of a file is its path. -/
  | addFile {checked : Bool} {name : Name} {config : Config} {source : Source} {path : String}
      {input : Option Source} {flag : Bool} {m' : SlotMap}
      (h : Adds resolver m name ⟨config, ""⟩
        { source, payload := .fileReference path input } flag m') :
      Step resolver m (.addFile checked name config source path input) (.accepted flag) m'
  | ingest {additions : List Addition} {flag : Bool} {m' : SlotMap}
      (h : AddsAll resolver m additions flag m') :
      Step resolver m (.ingest additions) (.accepted flag) m'
  /-- A slot that is missing is created empty. -/
  | ensureSlot {name : Name} {key : SlotKey} :
      Step resolver m (.ensureSlot name key) .done
        (m.set name key (some ((m name key).getD none)))
  /-- The slot that is dropped is the reply. -/
  | removeSlot {name : Name} {key : SlotKey} :
      Step resolver m (.removeSlot name key) (.removed (m name key)) (m.set name key none)
  /-- A slot that is there gets the value. -/
  | editSlot {name : Name} {key : SlotKey} {value : Option Value} :
      Step resolver m (.edit (.slot name key value)) .done
        (m.set name key ((m name key).map fun _ => value))
  | editComments {comment : String} :
      Step resolver m (.edit (.comments comment)) .done fun name key =>
        (m name key).map (Option.map fun v => { v with comment })
  /-- An operation that is not meant for any slot. -/
  | other {op : Operation} {reply : Reply} (h : ∀ name key, ¬ op.Targets name key) :
      Step resolver m op reply m

theorem Step.of_eq {resolver : Resolver} {m m' : SlotMap} {op : Operation} {reply : Reply}
    (h : ∀ name key, ¬ op.Targets name key) (hm : m' = m) : Step resolver m op reply m' :=
  hm ▸ .other h

/-- Calls in order, each of them a step of the map. -/
inductive Run (resolver : Resolver) :
    SlotMap → List (Operation × Reply × Log) → SlotMap → Prop where
  | nil {m : SlotMap} : Run resolver m [] m
  | cons {m m' m'' : SlotMap} {op : Operation} {reply : Reply} {log : Log}
      {calls : List (Operation × Reply × Log)} (hstep : Step resolver m op reply m')
      (hrest : Run resolver m' calls m'') : Run resolver m ((op, reply, log) :: calls) m''

theorem set_of_ne {m : SlotMap} {name n : Name} {key k : SlotKey}
    {slot? : Option (Option Value)} (h : ¬ (n = name ∧ k = key)) :
    m.set name key slot? n k = m n k :=
  if_neg h

theorem Adds.frame {resolver : Resolver} {m m' : SlotMap} {name n : Name} {key k : SlotKey}
    {v : Value} {flag : Bool} (h : Adds resolver m name key v flag m')
    (hne : ¬ (n = name ∧ k = key)) : m' n k = m n k := by
  cases h with
  | stored | replaced => exact set_of_ne hne
  | kept | refused => rfl

theorem AddsAll.frame {resolver : Resolver} {m m' : SlotMap} {additions : List Addition}
    {flag : Bool} (h : AddsAll resolver m additions flag m') {n : Name} {k : SlotKey}
    (hne : ∀ a ∈ additions, ¬ (n = a.name ∧ k = a.key)) : m' n k = m n k := by
  induction h with
  | nil => rfl
  | cons ha _ ih =>
    rw [ih fun a hm => hne a (List.mem_cons_of_mem _ hm)]
    exact ha.frame (hne _ List.mem_cons_self)

/-- **A step changes no slot but those that its operation is meant for.** -/
theorem Step.frame {resolver : Resolver} {m m' : SlotMap} {op : Operation} {reply : Reply}
    (h : Step resolver m op reply m') {name : Name} {key : SlotKey}
    (hne : ¬ op.Targets name key) : m' name key = m name key := by
  cases h with
  | add h => exact h.frame hne
  | addFile h => exact h.frame hne
  | ingest h => exact h.frame fun a hm hat => hne ⟨a, hm, hat⟩
  | ensureSlot | removeSlot | editSlot => exact set_of_ne hne
  | editComments => exact absurd trivial hne
  | other => rfl

end SlotMap

/-! ## What becomes of the slots -/

namespace Packages
variable (ps : Packages)

/-- A write sets its slot. -/
theorem slot?_content (v : Verdict) (name : Name) : slot? (v.content ps name) =
    match v.write.bind Write.slot with
    | some (key, x) => SlotMap.set (slot? ps) name key (some (some x))
    | none => slot? ps := by
  unfold Verdict.content
  cases v.write with
  | none => rfl
  | some w =>
    funext m k
    rw [slot?_write, Option.bind_some]
    cases w.slot <;> rfl

theorem slot?_ensureGroup (package : String) (type : ResourceType) :
    slot? (ps.withGroup package type fun g => g) = slot? ps := by
  refine slot?_congr fun m => ?_
  rw [resource?_withGroup]
  split
  · rename_i hm
    rw [get?_entries_groupAt, ← hm.1, ← hm.2]
  · rfl

theorem slot?_ensureEntry (name : Name) : slot? (ps.withEntry name fun e => e) = slot? ps := by
  funext m k
  rw [slot?_withEntry]
  split
  · rename_i hm
    rw [slot?_entryAt, hm]
  · rfl

theorem slot?_ensureSlot (name : Name) (key : SlotKey) :
    slot? (ps.withEntry name fun e => e.withSlot key) =
      SlotMap.set (slot? ps) name key (some ((slot? ps name key).getD none)) := by
  funext m k
  rw [slot?_withEntry]
  by_cases hm : m = name
  · subst hm
    have hslots : ∀ k, (ps.entryAt m).slots.get? k = slot? ps m k := slot?_entryAt ps m
    simp only [if_true, true_and, Entry.slot?, Entry.withSlot, Keyed.get?_update, hslots,
      SlotMap.set]
  · rw [if_neg hm, SlotMap.set_of_ne fun h => hm h.1]

/-- An edit of an entry that changes one of its slots sets that slot. -/
theorem slot?_editEntry_eq_set {ps : Packages} {name : Name} {key : SlotKey}
    {change : Entry → Entry} {x : Option (Option Value)}
    (h : ∀ e, resource? ps name = some e →
      ∀ k, (change e).slot? k = if k = key then x else e.slot? k)
    (habsent : resource? ps name = none → x = none) :
    slot? (ps.editEntry name change) = SlotMap.set (slot? ps) name key x := by
  funext m k
  rw [slot?_editEntry]
  by_cases hm : m = name
  · subst hm
    rw [if_pos rfl, SlotMap.set]
    simp only [true_and, slot?]
    cases he : resource? ps m with
    | none => simp [habsent he]
    | some e => exact h e he k
  · rw [if_neg hm, SlotMap.set_of_ne fun h => hm h.1]

theorem slot?_removeSlot {ps : Packages} (h : ps.Ordered) (name : Name) (key : SlotKey) :
    slot? (ps.removeSlot name key) = SlotMap.set (slot? ps) name key none :=
  slot?_editEntry_eq_set (fun _ he k => Keyed.get?_remove (h.of_resource? he) key k) fun _ => rfl

theorem slot?_editSlot (name : Name) (key : SlotKey) (value : Option Value) :
    slot? (ps.editSlot name key fun _ => value) =
      SlotMap.set (slot? ps) name key ((slot? ps name key).map fun _ => value) := by
  refine slot?_editEntry_eq_set (fun e he k => ?_) fun hnone => ?_
  · have hslot : slot? ps name key = e.slot? key := by rw [slot?, he, Option.bind_some]
    rw [hslot]
    exact Keyed.get?_modify e.slots key _ k
  · rw [slot?, hnone, Option.bind_none, Option.map_none]

theorem slot?_edit {ps : Packages} {change : Edit}
    (h : ∀ name key, ¬ (Operation.edit change).Targets name key) :
    slot? (ps.edit change) = slot? ps := by
  cases change with
  | packageKind package kind | packageId package id =>
    refine slot?_congr (resource?_congr (group?_editPackage_of_types ps ?_ package))
    exact fun p => rfl
  | typeId package type id | typeSymbol package type symbol =>
    refine slot?_congr (resource?_editGroup_of_entries ps ?_ package type)
    exact fun g => rfl
  | entryId name id | entrySymbol name symbol =>
    funext m k
    simp only [edit, slot?_editEntry]
    split
    · rename_i hm
      rw [hm]
      rfl
    · rfl
  | slot name key value => exact absurd ⟨rfl, rfl⟩ (h name key)
  | comments comment => exact absurd trivial (h default default)

end Packages

/-! ## Symbols -/

/-- Every entry and type that is there stays there with its symbol, and those
that are new have none declared. -/
structure SymbolsKept (ps ps' : Packages) : Prop where
  entry_stays : ∀ name, (ps.resource? name).isSome → (ps'.resource? name).isSome
  entry_symbol : ∀ name, (ps'.entryAt name).symbol = (ps.entryAt name).symbol
  group_stays : ∀ package type, (ps.group? package type).isSome → (ps'.group? package type).isSome
  group_symbol : ∀ package type,
    (ps'.groupAt package type).symbol = (ps.groupAt package type).symbol

namespace SymbolsKept

theorem refl (ps : Packages) : SymbolsKept ps ps :=
  ⟨fun _ h => h, fun _ => rfl, fun _ _ h => h, fun _ _ => rfl⟩

theorem trans {ps ps' ps'' : Packages} (h : SymbolsKept ps ps') (h' : SymbolsKept ps' ps'') :
    SymbolsKept ps ps'' where
  entry_stays name hs := h'.entry_stays name (h.entry_stays name hs)
  entry_symbol name := (h'.entry_symbol name).trans (h.entry_symbol name)
  group_stays package type hs := h'.group_stays package type (h.group_stays package type hs)
  group_symbol package type := (h'.group_symbol package type).trans (h.group_symbol package type)

/-- A write without a symbol keeps the symbols. -/
theorem write (ps : Packages) (name : Name) {w : Write} (hw : w.symbol = none) :
    SymbolsKept ps (ps.write name w) where
  entry_stays m hs := Packages.isSome_resource?_write ps name w hs
  entry_symbol m := by
    rw [Packages.symbol_entryAt_write, hw, Option.getD_none, ite_self]
  group_stays m u hs := by
    rw [Packages.group?_write]
    split
    · rfl
    · exact hs
  group_symbol m u := by
    rw [Packages.symbol_groupAt_write, hw]
    exact if_neg fun h => nomatch h.2

end SymbolsKept

/-! ## Additions -/

namespace Table
variable {t : Table}

/-- An addition keeps the symbols. -/
theorem add_symbolsKept (t : Table) (checked : Bool) (a : Addition) :
    SymbolsKept t.packages (t.add checked a).table.packages := by
  have hperform := Request.perform_eq checked t (.add a)
  show SymbolsKept t.packages ((Request.add a).perform checked t).table.packages
  rw [hperform]
  refine Verdict.content_cases (fun _ => .refl _) fun w hw => ?_
  -- a write with a symbol would be that of a declaration
  refine .write _ _ (Classical.byContradiction fun hs => ?_)
  cases Request.subject_of_write_symbol hw hs

theorem ingest_symbolsKept (t : Table) (additions : List Addition) :
    SymbolsKept t.packages (t.ingest additions).table.packages := by
  induction additions generalizing t with
  | nil => exact .refl _
  | cons a rest ih => exact (t.add_symbolsKept true a).trans (ih _)

theorem perform_symbolsKept {op : Operation} (hop : op.isAddition = true) :
    SymbolsKept t.packages (t.perform op).table.packages := by
  cases op with
  | add checked a => exact t.add_symbolsKept checked a
  | addFile checked name config source path input =>
    show SymbolsKept _ (t.addFile checked name config source path input).table.packages
    rw [addFile_eq]
    exact add_symbolsKept { t with pool := (t.pool.intern path).1 } checked _
  | ingest additions => exact t.ingest_symbolsKept additions
  | _ => cases hop

/-- **An addition is a step of the map.** -/
theorem adds_add (t : Table) (checked : Bool) (a : Addition) :
    SlotMap.Adds t.resolver t.packages.slot? a.name a.key a.value (t.add checked a).answer
      (t.add checked a).table.packages.slot? := by
  rw [add_eq]
  show SlotMap.Adds _ _ _ _ _ _ (Packages.slot? (Verdict.content _ _ _))
  rw [Packages.slot?_content]
  cases t.examine checked a.name a.id with
  | refused finding createsPath => cases createsPath <;> exact .refused
  | granted id =>
    cases hold : t.packages.value? a.name a.key with
    | none => exact .stored hold
    | some old =>
      cases hr : t.resolver old a.value with
      | takeNew =>
        simp only [Addition.verdict, hr]
        exact .replaced hold hr
      | conflict =>
        simp only [Addition.verdict, hr]
        exact .refused
      | keepOriginal =>
        simp only [Addition.verdict, hr]
        cases id <;> exact .kept hold hr

theorem addsAll_ingest (t : Table) (additions : List Addition) :
    SlotMap.AddsAll t.resolver t.packages.slot? additions (t.ingest additions).answer
      (t.ingest additions).table.packages.slot? := by
  induction additions generalizing t with
  | nil => exact .nil
  | cons a rest ih =>
    -- the later additions meet the same resolver
    have hrest := ih (t.add true a).table
    rw [(t.add_rules true a).2] at hrest
    exact .cons (t.adds_add true a) hrest

/-- A declaration stores nothing. -/
theorem slot?_declare (t : Table) (checked : Bool) (d : Declaration) :
    (t.declare checked d).table.packages.slot? = t.packages.slot? := by
  have hperform := Request.perform_eq checked t (.declare d)
  show ((Request.declare d).perform checked t).table.packages.slot? = _
  rw [hperform]
  refine (Packages.slot?_content ..).trans ?_
  cases hw : ((Request.declare d).verdict t.policy t.resolver _ _ _).write with
  | none => rfl
  | some w =>
    rcases Request.write_cases hw with rfl | ⟨a, ha, -⟩ | ⟨d', -, rfl⟩
    · rfl
    · cases ha
    · rfl

/-- An operation that is not meant for any slot leaves all of them alone. -/
theorem slot?_perform_of_not_targets {op : Operation} (h : ∀ name key, ¬ op.Targets name key) :
    (t.perform op).table.packages.slot? = t.packages.slot? := by
  cases op with
  | add checked a => exact absurd ⟨rfl, rfl⟩ (h a.name a.key)
  | addFile checked name config source path input => exact absurd ⟨rfl, rfl⟩ (h name ⟨config, ""⟩)
  | ingest additions =>
    -- an ingestion without additions is meant for no slot
    cases additions with
    | nil => rfl
    | cons a rest => exact absurd ⟨a, List.mem_cons_self, rfl, rfl⟩ (h a.name a.key)
  | declare checked d => exact slot?_declare t checked d
  | createPackage package id =>
    show (t.createPackage package id).table.packages.slot? = _
    rcases t.createPackage_cases package id with ⟨-, he⟩ | ⟨e, r, -, -, -, he⟩
    · rw [he]
      exact Packages.slot?_congr (Packages.resource?_congr
        (t.packages.group?_withPackage_id package id))
    · rw [he]
  | ensurePackage package =>
    have htypes : ∀ p : Package, Package.types p = p.types := fun p => rfl
    exact Packages.slot?_congr (Packages.resource?_congr
      (Packages.group?_withPackage_of_types _ htypes package))
  | ensureGroup package type => exact t.packages.slot?_ensureGroup package type
  | ensureEntry name => exact t.packages.slot?_ensureEntry name
  | ensureSlot name key | removeSlot name key => exact absurd ⟨rfl, rfl⟩ (h name key)
  | edit change => exact Packages.slot?_edit h

/-- **Every operation is a step of the map.** -/
theorem step_perform (h : t.packages.Ordered) (op : Operation) :
    SlotMap.Step t.resolver t.packages.slot? op (t.perform op).answer
      (t.perform op).table.packages.slot? := by
  cases op with
  | add checked a => exact .add (t.adds_add checked a)
  | addFile checked name config source path input =>
    have hfile := adds_add { t with pool := (t.pool.intern path).1 } checked
      { name, config, value := { source, payload := .fileReference path input } }
    rw [← addFile_eq] at hfile
    exact .addFile hfile
  | ingest additions => exact .ingest (t.addsAll_ingest additions)
  | ensureSlot name key =>
    show SlotMap.Step _ _ _ _ (Packages.slot? (t.packages.withEntry name _))
    rw [Packages.slot?_ensureSlot]
    exact .ensureSlot
  | removeSlot name key =>
    show SlotMap.Step _ _ _ _ (Packages.slot? (t.packages.removeSlot name key))
    rw [Packages.slot?_removeSlot h]
    exact .removeSlot
  | edit change =>
    cases change with
    | slot name key value =>
      show SlotMap.Step _ _ _ _ (Packages.slot? (t.packages.editSlot name key _))
      rw [Packages.slot?_editSlot]
      exact .editSlot
    | comments comment =>
      have hcomments : ((t.perform (.edit (.comments comment))).table.packages.slot?) =
          fun name key => (t.packages.slot? name key).map
            (Option.map fun v => { v with comment }) :=
        funext fun name => funext fun key => Packages.slot?_mapValues t.packages _ name key
      rw [hcomments]
      exact .editComments
    | _ => exact .of_eq (fun _ _ => id) (slot?_perform_of_not_targets fun _ _ => id)
  | _ => exact .of_eq (fun _ _ => id) (slot?_perform_of_not_targets fun _ _ => id)

/-! ## The refinement -/

/-- The map that a table stands for, as lookups show it. -/
def slotMap (t : Table) : SlotMap := fun name key =>
  (t.packages.find? name).bind fun r => r.entry.slot? key

theorem slotMap_eq (t : Table) : t.slotMap = t.packages.slot? := by
  funext name key
  unfold slotMap Packages.slot?
  rw [← Packages.find?_map_entry, Option.bind_map]
  rfl

/-- **A table stands for a finite map.** -/
structure IsFiniteMap (t : Table) : Prop where
  /-- A resource is found exactly where an enumeration lists it. -/
  found_iff : ∀ name r, t.packages.find? name = some r ↔
    r.name = name ∧ (name.package, r.package) ∈ t.packages ∧
      (name.type, r.group) ∈ r.package.types ∧ (name.entry, r.entry) ∈ r.group.entries
  /-- A slot of a resource is found exactly where an enumeration lists it. -/
  slot_iff : ∀ name r, t.packages.find? name = some r → ∀ key slot,
    r.entry.slot? key = some slot ↔ (key, slot) ∈ r.entry.slots
  /-- Every operation is a step of the map. -/
  step : ∀ op, SlotMap.Step t.resolver t.slotMap op (t.perform op).answer
    (t.perform op).table.slotMap
  /-- A slot that an operation is not meant for stays as it is. -/
  frame : ∀ op name key, ¬ op.Targets name key →
    (t.perform op).table.slotMap name key = t.slotMap name key
  /-- Additions keep the symbols of all entries and types. -/
  symbols : ∀ op, op.isAddition = true → SymbolsKept t.packages (t.perform op).table.packages

/-- **Every reachable table stands for a finite map.** -/
theorem Reachable.isFiniteMap {t : Table} (ht : t.Reachable) : IsFiniteMap t := by
  have hordered := ht.ordered
  have hstep : ∀ op, SlotMap.Step t.resolver t.slotMap op (t.perform op).answer
      (t.perform op).table.slotMap := by
    intro op
    rw [slotMap_eq, slotMap_eq]
    exact step_perform hordered op
  constructor
  · exact fun name r => Packages.find?_eq_some_iff hordered
  · intro name r hr key slot
    have hentry : t.packages.resource? name = some r.entry := by
      rw [← Packages.find?_map_entry, hr, Option.map_some]
    exact Keyed.get?_eq_some_iff (hordered.of_resource? hentry)
  · exact hstep
  · exact fun op name key hne => (hstep op).frame hne
  · exact fun op hop => perform_symbolsKept hop

/-- A title is stored, and another one is dropped from a second slot. -/
theorem isFiniteMap_title :
    let add (product text : String) : Operation :=
      .add true { name := ⟨"app", .string, "title"⟩, product, value := { payload := .string text } }
    let t := ((ofPolicy .strict).run
      [add "" "T", add "tv" "U", .removeSlot ⟨"app", .string, "title"⟩ ⟨{}, "tv"⟩]).1
    IsFiniteMap t ∧
      t.slotMap ⟨"app", .string, "title"⟩ ⟨{}, ""⟩ = some (some { payload := .string "T" }) ∧
      t.slotMap ⟨"app", .string, "title"⟩ ⟨{}, "tv"⟩ = none :=
  ⟨Reachable.isFiniteMap ((Reachable.ofPolicy _).run _), rfl, rfl⟩

/-- **A run of a table is a run of its map**, call by call. -/
theorem Reachable.run_slotMap {t : Table} (ht : t.Reachable) (ops : List Operation) :
    SlotMap.Run t.resolver t.slotMap (t.transcript ops) (t.run ops).1.slotMap := by
  induction ops generalizing t with
  | nil => exact .nil
  | cons op rest ih =>
    have hstep := step_perform ht.ordered op
    have hrest := ih (ht.perform op)
    rw [← slotMap_eq, ← slotMap_eq] at hstep
    rw [(t.perform_rules op).2] at hrest
    exact .cons hstep hrest

end Table
end AppResources
