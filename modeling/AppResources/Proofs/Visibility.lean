import AppResources.Proofs.FiniteMap

/-!
# Visibility

Symbols change in one way only: a declaration that is carried out gives its entry the
symbol, and makes the type exported if the symbol is (`symbolStep_perform`).  Every
other operation keeps the symbols of all entries and types (`SymbolsKept`), direct
writes of symbols apart, and so does a declaration that is refused or passed over.

On a table that protects visibility, a declaration is carried out only if it does not
weaken the entry.  So no entry is ever weakened, and the exported types are exactly
those with an exported entry (`ProtectsVisibility`).  On any other table an entry has
the symbol that was asked for last, and a type that an entry has made exported stays
so, whatever becomes of the entry (`FollowsRequests`).
-/

namespace AppResources

open Keyed

/-! ## Operations that keep the symbols -/

/-- The type keeps its symbol, and its entries stay with theirs. -/
structure TypeGroup.SymbolsKept (g g' : TypeGroup) : Prop where
  symbol : g'.symbol = g.symbol
  entry_stays : ∀ n, (g.entries.get? n).isSome → (g'.entries.get? n).isSome
  entry_symbol : ∀ n, ((g'.entries.get? n).getD {}).symbol = ((g.entries.get? n).getD {}).symbol

namespace TypeGroup.SymbolsKept
variable {change : Entry → Entry}

theorem refl (g : TypeGroup) : SymbolsKept g g := ⟨rfl, fun _ h => h, fun _ => rfl⟩

theorem withEntry (h : ∀ e, (change e).symbol = e.symbol) (g : TypeGroup) (name : String) :
    SymbolsKept g (g.withEntry name change) where
  symbol := rfl
  entry_stays n hn := by
    simp only [TypeGroup.withEntry, get?_update]
    split
    · rfl
    · exact hn
  entry_symbol n := by
    simp only [TypeGroup.withEntry, get?_update]
    split
    · rename_i hn
      rw [hn, Option.getD_some, h]
    · rfl

theorem modify (h : ∀ e, (change e).symbol = e.symbol) (g : TypeGroup) (name : String) :
    SymbolsKept g { g with entries := g.entries.modify name change } where
  symbol := rfl
  entry_stays n hn := by
    rw [get?_modify]
    split
    · rename_i hname
      rw [Option.isSome_map, ← hname]
      exact hn
    · exact hn
  entry_symbol n := by
    rw [get?_modify]
    split
    · rename_i hname
      rw [hname]
      cases g.entries.get? name with
      | none => rfl
      | some e => exact h e
    · rfl

theorem mapItems (h : ∀ e, (change e).symbol = e.symbol) (g : TypeGroup) :
    SymbolsKept g { g with entries := g.entries.mapItems change } where
  symbol := rfl
  entry_stays n hn := by
    rw [get?_mapItems, Option.isSome_map]
    exact hn
  entry_symbol n := by
    rw [get?_mapItems]
    cases g.entries.get? n with
    | none => rfl
    | some e => exact h e

end TypeGroup.SymbolsKept

namespace SymbolsKept
variable {ps ps' : Packages}

/-- Symbols are kept when every type keeps them. -/
theorem of_groups
    (hstays : ∀ m u, (ps.group? m u).isSome → (ps'.group? m u).isSome)
    (h : ∀ m u, (ps.groupAt m u).SymbolsKept (ps'.groupAt m u)) : SymbolsKept ps ps' where
  entry_stays name hs := by
    rw [← Packages.get?_entries_groupAt] at hs ⊢
    exact (h name.package name.type).entry_stays name.entry hs
  entry_symbol name := by
    have hentry := (h name.package name.type).entry_symbol name.entry
    rwa [Packages.getD_entries_groupAt, Packages.getD_entries_groupAt] at hentry
  group_stays := hstays
  group_symbol m u := (h m u).symbol

/-- A change that shows in no type keeps the symbols. -/
theorem of_group?_eq (h : ∀ m u, ps'.group? m u = ps.group? m u) : SymbolsKept ps ps' := by
  refine of_groups (fun m u hs => ?_) fun m u => ?_
  · rwa [h m u]
  · rw [Packages.groupAt, Packages.groupAt, h m u]
    exact .refl _

variable {change : TypeGroup → TypeGroup}

theorem withGroup (h : ∀ g : TypeGroup, g.SymbolsKept (change g)) (package : String)
    (type : ResourceType) : SymbolsKept ps (ps.withGroup package type change) := by
  refine of_groups (fun m u hs => ?_) fun m u => ?_
  · rw [Packages.group?_withGroup]
    split
    · rfl
    · exact hs
  · rw [Packages.groupAt, Packages.groupAt, Packages.group?_withGroup]
    split
    · rename_i hm
      rw [hm.1, hm.2]
      exact h _
    · exact .refl _

theorem editGroup (h : ∀ g : TypeGroup, g.SymbolsKept (change g)) (package : String)
    (type : ResourceType) : SymbolsKept ps (ps.editGroup package type change) := by
  refine of_groups (fun m u hs => ?_) fun m u => ?_
  · rw [Packages.group?_editGroup]
    split
    · rename_i hm
      rw [Option.isSome_map, ← hm.1, ← hm.2]
      exact hs
    · exact hs
  · rw [Packages.groupAt, Packages.groupAt, Packages.group?_editGroup]
    split
    · rename_i hm
      rw [hm.1, hm.2]
      cases ps.group? package type with
      | none => exact .refl _
      | some g => exact h g
    · exact .refl _

theorem withEntry {change : Entry → Entry} (h : ∀ e, (change e).symbol = e.symbol) (name : Name) :
    SymbolsKept ps (ps.withEntry name change) :=
  withGroup (fun g => .withEntry h g name.entry) name.package name.type

theorem editEntry {change : Entry → Entry} (h : ∀ e, (change e).symbol = e.symbol) (name : Name) :
    SymbolsKept ps (ps.editEntry name change) :=
  editGroup (fun g => .modify h g name.entry) name.package name.type

theorem mapValues (f : Value → Value) : SymbolsKept ps (ps.mapValues f) := by
  have hgroup : ∀ m u, (ps.mapValues f).group? m u = (ps.group? m u).map fun g =>
      { g with
        entries := g.entries.mapItems fun e =>
          { e with slots := e.slots.mapItems (Option.map f) } } := by
    intro m u
    unfold Packages.group? Packages.package? Packages.mapValues
    rw [get?_mapItems]
    cases Keyed.get? ps m with
    | none => rfl
    | some p =>
      simp only [Option.map_some, Option.bind_some]
      exact get?_mapItems ..
  refine of_groups (fun m u hs => ?_) fun m u => ?_
  · rw [hgroup, Option.isSome_map]
    exact hs
  · rw [Packages.groupAt, Packages.groupAt, hgroup]
    cases ps.group? m u with
    | none => exact .refl _
    | some g =>
      refine .mapItems ?_ g
      exact fun e => rfl

end SymbolsKept

/-- The operation writes a symbol directly. -/
def Operation.writesSymbol : Operation → Bool
  | .edit (.typeSymbol _ _ _) | .edit (.entrySymbol _ _) => true
  | _ => false

namespace Table
variable {t : Table}

/-- **What is no declaration keeps the symbols**, direct writes of symbols apart. -/
theorem symbolsKept_of_not_declaration {op : Operation} (hop : op.writesSymbol = false)
    (hdeclaration : ∀ checked d, op ≠ .declare checked d) :
    SymbolsKept t.packages (t.perform op).table.packages := by
  cases op with
  | add checked a => exact perform_symbolsKept rfl
  | addFile checked name config source path input => exact perform_symbolsKept rfl
  | ingest additions => exact perform_symbolsKept rfl
  | declare checked d => exact absurd rfl (hdeclaration checked d)
  | createPackage package id =>
    show SymbolsKept t.packages (t.createPackage package id).table.packages
    rcases t.createPackage_cases package id with ⟨-, he⟩ | ⟨e, r, -, -, -, he⟩
    · rw [he]
      exact .of_group?_eq (t.packages.group?_withPackage_id package id)
    · rw [he]
      exact .refl _
  | ensurePackage package =>
    have htypes : ∀ p : Package, Package.types p = p.types := fun p => rfl
    exact .of_group?_eq (t.packages.group?_withPackage_of_types htypes package)
  | ensureGroup package type => exact .withGroup (fun g => .refl g) package type
  | ensureEntry name | ensureSlot name key =>
    refine .withEntry ?_ name
    exact fun e => rfl
  | removeSlot name key =>
    refine .editEntry ?_ name
    exact fun e => rfl
  | edit change =>
    cases change with
    | packageKind package kind | packageId package id =>
      refine .of_group?_eq (t.packages.group?_editPackage_of_types ?_ package)
      exact fun p => rfl
    | typeId package type id =>
      refine .editGroup ?_ package type
      exact fun g => ⟨rfl, fun _ h => h, fun _ => rfl⟩
    | entryId name id | slot name key value =>
      refine .editEntry ?_ name
      exact fun e => rfl
    | comments comment => exact .mapValues _
    | typeSymbol package type symbol | entrySymbol name symbol => cases hop

end Table

/-! ## What a declaration does to the symbols -/

namespace Visibility
variable {a b : Visibility}

theorem rank_le_of_not_weakerThan (h : a.weakerThan b = false) : b.rank ≤ a.rank :=
  Nat.le_of_not_lt (of_decide_eq_false h)

/-- Nothing is stronger than an exported state. -/
theorem eq_exported_of_rank_le (h : exported.rank ≤ a.rank) : a = exported := by
  cases a with
  | undefined | internal => exact absurd h (by decide)
  | exported => rfl

end Visibility

theorem Symbol.isExported_iff {s : Symbol} : s.isExported = true ↔ s.state = .exported :=
  beq_iff_eq

/-- The declaration that an operation makes, when the answer is that it is done. -/
def Operation.declared? : Operation → Reply → Option Declaration
  | .declare _ d, .accepted true => some d
  | _, _ => none

/-- **What an operation does to the symbols**, given the declaration that it was
answered to have carried out. -/
inductive SymbolStep (policy : Policy) (ps : Packages) : Option Declaration → Packages → Prop where
  /-- Nothing was declared, or the declaration was refused. -/
  | kept {ps' : Packages} (h : SymbolsKept ps ps') : SymbolStep policy ps none ps'
  /-- The declaration would weaken its entry, and is passed over. -/
  | passedOver {d : Declaration} {ps' : Packages} (hprotect : policy.protectVisibility = true)
      (h : SymbolsKept ps ps') : SymbolStep policy ps (some d) ps'
  /-- The entry gets the symbol. -/
  | declared {d : Declaration} {w : Write} (hw : w.symbol = some d.symbol)
      (hstrong : policy.protectVisibility = true →
        d.symbol.state.weakerThan (ps.entryAt d.name).symbol.state = false) :
      SymbolStep policy ps (some d) (ps.write d.name w)

namespace Table
variable {t : Table}

/-- A declaration that a table passes over keeps the symbols. -/
theorem declare_symbolsKept (hprotect : t.policy.protectVisibility = true) {d : Declaration}
    (hweaker : d.symbol.state.weakerThan (t.packages.entryAt d.name).symbol.state = true)
    (checked : Bool) : SymbolsKept t.packages (t.declare checked d).table.packages := by
  rw [declare_eq]
  refine Verdict.content_cases (fun _ => .refl _) fun w hw => .write _ _ ?_
  cases hx : t.examine checked d.name d.id with
  | refused finding createsPath =>
    rw [hx] at hw
    cases createsPath with
    | false => cases hw
    | true =>
      cases hw
      rfl
  | granted id =>
    rw [hx] at hw
    simp only [Declaration.verdict, hprotect, hweaker, Bool.and_self, if_true] at hw
    obtain ⟨i, -, rfl⟩ := Option.map_eq_some_iff.mp hw
    rfl

theorem symbolStep_declare (t : Table) (checked : Bool) (d : Declaration) :
    SymbolStep t.policy t.packages
      ((Operation.declare checked d).declared? (.accepted (t.declare checked d).answer))
      (t.declare checked d).table.packages := by
  by_cases hpass : t.policy.protectVisibility = true ∧
      d.symbol.state.weakerThan (t.packages.entryAt d.name).symbol.state = true
  · have hkept := declare_symbolsKept hpass.1 hpass.2 checked
    cases (t.declare checked d).answer with
    | false => exact .kept hkept
    | true => exact .passedOver hpass.1 hkept
  · rw [declare_eq]
    cases t.examine checked d.name d.id with
    | refused finding createsPath =>
      cases createsPath with
      | false => exact .kept (.refl _)
      | true => exact .kept (.write _ _ rfl)
    | granted id =>
      have hset : (t.policy.protectVisibility &&
          d.symbol.state.weakerThan (t.packages.entryAt d.name).symbol.state) = false := by
        rw [← Bool.not_eq_true, Bool.and_eq_true]
        exact hpass
      simp only [Declaration.verdict, hset, Bool.false_eq_true, if_false]
      refine .declared rfl fun hprotect => ?_
      rwa [hprotect, Bool.true_and] at hset

/-- **Only declarations change symbols**, direct writes of symbols apart. -/
theorem symbolStep_perform {op : Operation} (hop : op.writesSymbol = false) :
    SymbolStep t.policy t.packages (op.declared? (t.perform op).answer)
      (t.perform op).table.packages := by
  cases op with
  | declare checked d => exact t.symbolStep_declare checked d
  | _ => exact .kept (symbolsKept_of_not_declaration hop fun _ _ h => nomatch h)

end Table

/-! ## What a step keeps -/

/-- No entry is dropped or weakened. -/
structure NeverWeaker (ps ps' : Packages) : Prop where
  stays : ∀ name, (ps.resource? name).isSome → (ps'.resource? name).isSome
  rank_le : ∀ name, (ps.entryAt name).symbol.state.rank ≤ (ps'.entryAt name).symbol.state.rank

namespace NeverWeaker
variable {ps ps' ps'' : Packages}

theorem refl (ps : Packages) : NeverWeaker ps ps := ⟨fun _ h => h, fun _ => Nat.le_refl _⟩

theorem trans (h : NeverWeaker ps ps') (h' : NeverWeaker ps' ps'') : NeverWeaker ps ps'' :=
  ⟨fun name hs => h'.stays name (h.stays name hs),
    fun name => Nat.le_trans (h.rank_le name) (h'.rank_le name)⟩

end NeverWeaker

/-- An exported entry makes its type exported. -/
def TypesFollow (ps : Packages) : Prop :=
  ∀ name, (ps.entryAt name).symbol.isExported = true →
    (ps.groupAt name.package name.type).symbol.isExported = true

/-- A type is exported because one of its entries is. -/
def TypesEarned (ps : Packages) : Prop :=
  ∀ package type, (ps.groupAt package type).symbol.isExported = true →
    ∃ entry, (ps.entryAt ⟨package, type, entry⟩).symbol.isExported = true

/-- A type is exported or has no visibility, and nothing else is said of it. -/
def TypesPlain (ps : Packages) : Prop :=
  ∀ package type, (ps.groupAt package type).symbol = { state := .exported } ∨
    (ps.groupAt package type).symbol = {}

/-- Exported types stay exported. -/
def ExportsStay (ps ps' : Packages) : Prop :=
  ∀ package type, (ps.groupAt package type).symbol.isExported = true →
    (ps'.groupAt package type).symbol.isExported = true

namespace SymbolStep
variable {policy : Policy} {ps ps' : Packages} {d? : Option Declaration}

theorem exportsStay (h : SymbolStep policy ps d? ps') : ExportsStay ps ps' := by
  intro package type hexported
  cases h with
  | kept h | passedOver _ h => rwa [h.group_symbol]
  | declared hw _ =>
    rw [Packages.symbol_groupAt_write]
    split
    · rfl
    · exact hexported

theorem typesFollow (h : SymbolStep policy ps d? ps') (hfollow : TypesFollow ps) :
    TypesFollow ps' := by
  have hstay := h.exportsStay
  intro name hexported
  cases h with
  | kept h | passedOver _ h =>
    rw [h.entry_symbol] at hexported
    rw [h.group_symbol]
    exact hfollow name hexported
  | @declared d w hw _ =>
    rw [Packages.symbol_entryAt_write, hw] at hexported
    split at hexported
    · -- the entry is exported now, and its type with it
      rename_i hname
      subst hname
      rw [Packages.symbol_groupAt_write, hw, if_pos ⟨⟨rfl, rfl⟩, hexported⟩]
      rfl
    · exact hstay _ _ (hfollow name hexported)

theorem typesPlain (h : SymbolStep policy ps d? ps') (hplain : TypesPlain ps) :
    TypesPlain ps' := by
  intro package type
  cases h with
  | kept h | passedOver _ h =>
    rw [h.group_symbol]
    exact hplain package type
  | declared hw _ =>
    rw [Packages.symbol_groupAt_write]
    split
    · refine Or.inl ?_
      rcases hplain package type with hs | hs <;> rw [hs]
    · exact hplain package type

/-- On a table that protects visibility no entry is weakened. -/
theorem neverWeaker (h : SymbolStep policy ps d? ps') (hprotect : policy.protectVisibility = true) :
    NeverWeaker ps ps' := by
  cases h with
  | kept h | passedOver _ h =>
    refine ⟨h.entry_stays, fun name => Nat.le_of_eq ?_⟩
    rw [h.entry_symbol]
  | @declared d w hw hstrong =>
    refine ⟨fun name => Packages.isSome_resource?_write ps d.name w, fun name => ?_⟩
    rw [Packages.symbol_entryAt_write, hw]
    split
    · rename_i hname
      rw [hname]
      exact Visibility.rank_le_of_not_weakerThan (hstrong hprotect)
    · exact Nat.le_refl _

/-- So no type loses the entries that it is exported for. -/
theorem typesEarned (h : SymbolStep policy ps d? ps') (hprotect : policy.protectVisibility = true)
    (hearned : TypesEarned ps) : TypesEarned ps' := by
  have hkept : ∀ name, (ps.entryAt name).symbol.isExported = true →
      (ps'.entryAt name).symbol.isExported = true := by
    intro name hexported
    have hrank := (h.neverWeaker hprotect).rank_le name
    rw [Symbol.isExported_iff] at hexported ⊢
    rw [hexported] at hrank
    exact Visibility.eq_exported_of_rank_le hrank
  intro package type hexported
  have hold : (ps.groupAt package type).symbol.isExported = true →
      ∃ entry, (ps'.entryAt ⟨package, type, entry⟩).symbol.isExported = true := by
    intro hbefore
    obtain ⟨entry, hentry⟩ := hearned package type hbefore
    exact ⟨entry, hkept _ hentry⟩
  cases h with
  | kept h | passedOver _ h =>
    rw [h.group_symbol] at hexported
    exact hold hexported
  | @declared d w hw _ =>
    rw [Packages.symbol_groupAt_write, hw] at hexported
    split at hexported
    · -- the type is exported for the entry of the declaration
      rename_i hpath
      obtain ⟨⟨rfl, rfl⟩, hsymbol⟩ := hpath
      refine ⟨d.name.entry, ?_⟩
      rw [Packages.symbol_entryAt_write, hw]
      rw [if_pos rfl]
      exact hsymbol
    · exact hold hexported

/-- On a table that does not protect visibility a declaration is always carried out. -/
theorem symbol_entryAt (h : SymbolStep policy ps d? ps') (hprotect : policy.protectVisibility = false)
    (name : Name) : (ps'.entryAt name).symbol =
      ((d?.filter fun d => d.name = name).map Declaration.symbol).getD (ps.entryAt name).symbol := by
  cases h with
  | kept h => exact h.entry_symbol name
  | passedOver hpass _ =>
    rw [hprotect] at hpass
    cases hpass
  | @declared d w hw _ =>
    rw [Packages.symbol_entryAt_write, hw]
    by_cases hname : d.name = name
    · simp only [hname, if_true, Option.filter_some, decide_true, Option.map_some]
    · simp only [hname, Ne.symm hname, if_false, Option.filter_some, decide_false, Option.map_none,
        Option.getD_none, Bool.false_eq_true]

end SymbolStep

/-! ## Runs -/

/-- The symbol that was last declared for a name. -/
def lastDeclared? (name : Name) (calls : List (Operation × Reply × Log)) : Option Symbol :=
  ((calls.filterMap fun c => c.1.declared? c.2.1).filter fun d => d.name = name).getLast?.map
    Declaration.symbol

theorem lastDeclared?_cons (name : Name) (c : Operation × Reply × Log)
    (calls : List (Operation × Reply × Log)) : lastDeclared? name (c :: calls) =
      (lastDeclared? name calls).or
        (((c.1.declared? c.2.1).filter fun d => d.name = name).map Declaration.symbol) := by
  unfold lastDeclared?
  rw [List.filterMap_cons]
  cases c.1.declared? c.2.1 with
  | none => simp only [Option.filter_none, Option.map_none, Option.or_none]
  | some d =>
    by_cases hname : d.name = name
    · simp only [List.filter_cons, hname, decide_true, if_true, List.getLast?_cons, Option.map_some,
        Option.filter_some]
      cases List.getLast? (List.filter _ _) <;> rfl
    · simp only [List.filter_cons, hname, decide_false, Bool.false_eq_true, if_false,
        Option.filter_some, Option.map_none, Option.or_none]

namespace Table
variable {t : Table}

/-- **An entry has the symbol that was declared last.** -/
theorem symbol_entryAt_run (hprotect : t.policy.protectVisibility = false) {ops : List Operation}
    (hops : ∀ op ∈ ops, op.writesSymbol = false) (name : Name) :
    ((t.run ops).1.packages.entryAt name).symbol =
      (lastDeclared? name (t.transcript ops)).getD (t.packages.entryAt name).symbol := by
  induction ops generalizing t with
  | nil => rfl
  | cons op rest ih =>
    have hpolicy : (t.perform op).table.policy.protectVisibility = false := by
      rw [(t.perform_rules op).1]
      exact hprotect
    have hstep := (symbolStep_perform (hops op List.mem_cons_self)).symbol_entryAt hprotect name
    rw [run_cons_fst, ih hpolicy fun op hm => hops op (List.mem_cons_of_mem _ hm), hstep,
      transcript_cons, lastDeclared?_cons, Option.getD_or]

theorem run_neverWeaker (hprotect : t.policy.protectVisibility = true) {ops : List Operation}
    (hops : ∀ op ∈ ops, op.writesSymbol = false) :
    NeverWeaker t.packages (t.run ops).1.packages := by
  refine run_related .refl .trans (fun u op hpolicy hop => ?_) hops
  refine (symbolStep_perform hop).neverWeaker ?_
  rw [hpolicy]
  exact hprotect

theorem run_exportsStay {ops : List Operation} (hops : ∀ op ∈ ops, op.writesSymbol = false) :
    ExportsStay t.packages (t.run ops).1.packages :=
  run_related (R := ExportsStay) (fun _ _ _ h => h)
    (fun hab hbc package type h => hbc package type (hab package type h))
    (fun _ _ _ hop => (symbolStep_perform hop).exportsStay) hops

end Table

/-! ## Visibility -/

/-- Some entry of the type is exported. -/
def TypeGroup.hasExported (g : TypeGroup) : Bool := g.entries.any fun x => x.2.symbol.isExported

theorem Packages.hasExported_iff {ps : Packages} (h : ps.Ordered) {package : String}
    {type : ResourceType} {g : TypeGroup} (hg : ps.group? package type = some g) :
    g.hasExported = true ↔
      ∃ entry, (ps.entryAt ⟨package, type, entry⟩).symbol.isExported = true := by
  have hentry : ∀ entry, ps.entryAt ⟨package, type, entry⟩ = (g.entries.get? entry).getD {} := by
    intro entry
    rw [← getD_entries_groupAt, groupAt_of_some ps hg]
  have hincreasing : Increasing g.entries := (h.of_group? hg).increasing
  rw [TypeGroup.hasExported, List.any_eq_true]
  constructor
  · rintro ⟨⟨entry, e⟩, hmem, hexported⟩
    refine ⟨entry, ?_⟩
    rw [hentry, (get?_eq_some_iff hincreasing).mpr hmem]
    exact hexported
  · rintro ⟨entry, hexported⟩
    rw [hentry] at hexported
    cases hget : g.entries.get? entry with
    | none =>
      rw [hget] at hexported
      cases hexported
    | some e =>
      rw [hget] at hexported
      exact ⟨(entry, e), (get?_eq_some_iff hincreasing).mp hget, hexported⟩

namespace Table

/-- **A table that protects visibility.** -/
structure ProtectsVisibility (t : Table) : Prop where
  /-- No entry is ever weakened, whatever is done. -/
  never_weaker : ∀ ops : List Operation, (∀ op ∈ ops, op.writesSymbol = false) →
    ∀ name e, t.packages.resource? name = some e →
      ∃ e', (t.run ops).1.packages.resource? name = some e' ∧
        e.symbol.state.rank ≤ e'.symbol.state.rank
  /-- A declaration that would weaken its entry leaves all symbols as they are. -/
  passed_over : ∀ checked d,
    d.symbol.state.weakerThan (t.packages.entryAt d.name).symbol.state = true →
      SymbolsKept t.packages (t.perform (.declare checked d)).table.packages
  /-- The exported types are those with an exported entry; nothing is said of the others. -/
  type_symbol : ∀ package type g, t.packages.group? package type = some g →
    g.symbol = { state := if g.hasExported then .exported else .undefined }

/-- **A table that does not protect visibility.** -/
structure FollowsRequests (t : Table) : Prop where
  /-- An entry has the symbol that was declared for it last.  Before that it has the one
  it had, which for a new entry is the symbol of nothing declared. -/
  last_declared : ∀ ops : List Operation, (∀ op ∈ ops, op.writesSymbol = false) →
    ∀ name e, (t.run ops).1.packages.resource? name = some e →
      e.symbol = (lastDeclared? name (t.transcript ops)).getD
        ((t.packages.resource? name).getD {}).symbol
  /-- A type with an exported entry is exported. -/
  type_exported : ∀ package type g, t.packages.group? package type = some g →
    g.hasExported = true → g.symbol.isExported = true
  /-- A type that is exported stays so, whatever is done. -/
  stays_exported : ∀ ops : List Operation, (∀ op ∈ ops, op.writesSymbol = false) →
    ∀ package type g, t.packages.group? package type = some g → g.symbol.isExported = true →
      ∃ g', (t.run ops).1.packages.group? package type = some g' ∧ g'.symbol.isExported = true

variable {t : Table}

theorem ReachableBy.typesFollow (ht : ReachableBy (fun op => op.writesSymbol = false) t) :
    TypesFollow t.packages :=
  ht.invariant (P := fun _ => TypesFollow) (fun _ _ h => h)
    fun _ _ hop => (symbolStep_perform hop).typesFollow

theorem ReachableBy.typesPlain (ht : ReachableBy (fun op => op.writesSymbol = false) t) :
    TypesPlain t.packages :=
  ht.invariant (P := fun _ => TypesPlain) (fun _ _ _ => .inr rfl)
    fun _ _ hop => (symbolStep_perform hop).typesPlain

theorem ReachableBy.typesEarned (ht : ReachableBy (fun op => op.writesSymbol = false) t)
    (hprotect : t.policy.protectVisibility = true) : TypesEarned t.packages := by
  refine ht.invariant (P := fun policy ps => policy.protectVisibility = true → TypesEarned ps)
    (fun _ _ _ _ h => nomatch h) (fun u op hop hearned hpolicy => ?_) hprotect
  exact (symbolStep_perform hop).typesEarned hpolicy (hearned hpolicy)

theorem ReachableBy.protectsVisibility (ht : ReachableBy (fun op => op.writesSymbol = false) t)
    (hprotect : t.policy.protectVisibility = true) : ProtectsVisibility t := by
  have hordered : t.packages.Ordered := ht.reachable.ordered
  constructor
  · intro ops hops name e he
    have hnever := run_neverWeaker hprotect hops
    obtain ⟨e', he'⟩ := Option.isSome_iff_exists.mp (hnever.stays name (by rw [he]; rfl))
    have hrank := hnever.rank_le name
    rw [Packages.entryAt_of_some _ he, Packages.entryAt_of_some _ he'] at hrank
    exact ⟨e', he', hrank⟩
  · exact fun checked d hweaker => declare_symbolsKept hprotect hweaker checked
  · intro package type g hg
    have hat : t.packages.groupAt package type = g := Packages.groupAt_of_some _ hg
    have hplain := ht.typesPlain package type
    rw [hat] at hplain
    by_cases hexported : g.hasExported = true
    · -- the type follows its exported entry
      obtain ⟨entry, hentry⟩ := (Packages.hasExported_iff hordered hg).mp hexported
      have hfollow := ht.typesFollow ⟨package, type, entry⟩ hentry
      rw [hat] at hfollow
      rw [if_pos hexported]
      refine hplain.resolve_right fun hs => ?_
      rw [hs] at hfollow
      cases hfollow
    · rw [if_neg hexported]
      refine hplain.resolve_left fun hs => hexported ?_
      refine (Packages.hasExported_iff hordered hg).mpr (ht.typesEarned hprotect package type ?_)
      rw [hat, hs]
      rfl

theorem ReachableBy.followsRequests (ht : ReachableBy (fun op => op.writesSymbol = false) t)
    (hprotect : t.policy.protectVisibility = false) : FollowsRequests t := by
  have hordered : t.packages.Ordered := ht.reachable.ordered
  constructor
  · intro ops hops name e he
    have hlast := symbol_entryAt_run hprotect hops name
    rwa [Packages.entryAt_of_some _ he] at hlast
  · intro package type g hg hexported
    obtain ⟨entry, hentry⟩ := (Packages.hasExported_iff hordered hg).mp hexported
    have hfollow := ht.typesFollow ⟨package, type, entry⟩ hentry
    rwa [Packages.groupAt_of_some _ hg] at hfollow
  · intro ops hops package type g hg hexported
    have hstays := run_exportsStay (t := t) hops package type
    rw [Packages.groupAt_of_some _ hg] at hstays
    have hafter := hstays hexported
    cases hg' : (t.run ops).1.packages.group? package type with
    | none =>
      rw [Packages.groupAt, hg'] at hafter
      cases hafter
    | some g' =>
      rw [Packages.groupAt_of_some _ hg'] at hafter
      exact ⟨g', rfl, hafter⟩

/-- **Visibility**: protected, it never weakens and the types follow their entries;
otherwise it is what was asked for last, and an exported type stays so. -/
theorem ReachableBy.visibility (ht : ReachableBy (fun op => op.writesSymbol = false) t) :
    (t.policy.protectVisibility = true → ProtectsVisibility t) ∧
      (t.policy.protectVisibility = false → FollowsRequests t) :=
  ⟨ht.protectsVisibility, ht.followsRequests⟩

/-- A title is exported and then declared private: only a table that does not protect
visibility takes that back, and there the type stays exported. -/
theorem visibility_title :
    let title : Name := ⟨"app", .string, "title"⟩
    let declare (state : Visibility) : Operation := .declare true ⟨title, none, { state }⟩
    let ops := [declare .exported, declare .internal]
    let strict := ((ofPolicy .strict).run ops).1
    let permissive := ((ofPolicy .permissive).run ops).1
    (ProtectsVisibility strict ∧ (strict.packages.entryAt title).symbol.state = .exported) ∧
      FollowsRequests permissive ∧
      (permissive.packages.entryAt title).symbol.state = .internal ∧
      (permissive.packages.groupAt "app" .string).symbol.state = .exported := by
  refine ⟨⟨(ReachableBy.visibility (ReachableBy.run (.empty ..) fun op hop => ?_)).1 rfl, rfl⟩,
    (ReachableBy.visibility (ReachableBy.run (.empty ..) fun op hop => ?_)).2 rfl, rfl, rfl⟩ <;>
  · simp only [List.mem_cons, List.not_mem_nil, or_false] at hop
    rcases hop with rfl | rfl <;> rfl

end Table
end AppResources
