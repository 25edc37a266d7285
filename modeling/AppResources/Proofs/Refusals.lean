import AppResources.Proofs.Failures

/-!
# What a call that fails leaves behind

A call fails for one of six reasons, and `FailsBy` lists them, each with what the
call then says and with what it leaves in the packages.  Four of them leave the
packages exactly as they were: an entry name with a character that may not stand in
it, two values that cannot share a slot, an entry that has another identifier, and a
package that `createPackage` finds under another identifier.

The other two are found out when the path of the name may not be there yet: the
package or the type has another identifier.  The path is then **completed**
(`PathCompleted`) inside the package, which is there, since something is recorded on
it: a type and an entry may be inserted, both new, and nothing else.

So a call that fails commits no part of what it was asked for
(`Reachable.noPartialCommit`).
-/

namespace AppResources

open Keyed

/-! ## Completing a path -/

/-- **The path of a name is completed** inside a package that is there.  What is
inserted is new: no identifier, no symbol, no slot. -/
inductive PathCompleted (name : Name) (ps : Packages) : Packages → Prop where
  /-- The entry is there. -/
  | unchanged : PathCompleted name ps ps
  /-- The type is there, and the entry is inserted. -/
  | entry {ps' : Packages} {p : Package} {types : Keyed ResourceType TypeGroup} {g : TypeGroup}
      {entries : Keyed String Entry} (hentry : Inserts g.entries entries name.entry {})
      (htype : Replaces p.types types name.type g { g with entries })
      (hpackage : Replaces ps ps' name.package p { p with types }) : PathCompleted name ps ps'
  /-- The type is inserted, with the entry in it. -/
  | type {ps' : Packages} {p : Package} {types : Keyed ResourceType TypeGroup}
      (htype : Inserts p.types types name.type { entries := [(name.entry, {})] })
      (hpackage : Replaces ps ps' name.package p { p with types }) : PathCompleted name ps ps'

/-- Completing a path creates no package. -/
theorem PathCompleted.keys {name : Name} {ps ps' : Packages} (h : PathCompleted name ps ps') :
    ps'.map Prod.fst = ps.map Prod.fst := by
  cases h with
  | unchanged => rfl
  | entry _ _ hpackage => exact hpackage.keys
  | type _ hpackage => exact hpackage.keys

namespace Packages
variable {ps : Packages} {name : Name}

/-- The empty write to an entry that is there changes nothing. -/
theorem write_empty_of_resource? (h : (resource? ps name).isSome) : ps.write name {} = ps := by
  obtain ⟨e, he⟩ := Option.isSome_iff_exists.mp h
  obtain ⟨g, hg, hge⟩ := Option.bind_eq_some_iff.mp he
  obtain ⟨p, hp, hpg⟩ := Option.bind_eq_some_iff.mp hg
  have hentries : g.withEntry name.entry (fun e => e) = g :=
    TypeGroup.ext rfl rfl (update_of_get? hge rfl)
  have htypes : p.withGroup name.type (fun g => g.withEntry name.entry fun e => e) = p :=
    Package.ext rfl rfl (update_of_get? hpg hentries)
  exact update_of_get? hp htypes

/-- **The empty write completes a path** in a package that is there. -/
theorem pathCompleted_write_empty (h : ps.Ordered) (hpackage : (package? ps name.package).isSome) :
    PathCompleted name ps (ps.write name {}) := by
  obtain ⟨p, hp⟩ := Option.isSome_iff_exists.mp hpackage
  have hreplaced : Replaces ps (ps.write name {}) name.package p
      (p.withGroup name.type fun g => g.withEntry name.entry fun e => e) :=
    replaces_update hp _
  cases hg : p.types.get? name.type with
  | none =>
    have hinserted : Inserts p.types _ name.type _ :=
      inserts_update (h.of_package? hp).increasing hg fun g? =>
        (g?.getD {}).withEntry name.entry fun e => e
    exact .type hinserted hreplaced
  | some g =>
    have hgroup : group? ps name.package name.type = some g :=
      Option.bind_eq_some_iff.mpr ⟨p, hp, hg⟩
    cases he : g.entries.get? name.entry with
    | none =>
      have hinserted : Inserts g.entries _ name.entry _ :=
        inserts_update (h.of_group? hgroup).increasing he fun e? => e?.getD {}
      have htypes : Replaces p.types _ name.type g _ :=
        replaces_update hg fun g? => (g?.getD {}).withEntry name.entry fun e => e
      exact .entry hinserted htypes hreplaced
    | some e =>
      have hentry : resource? ps name = some e := Option.bind_eq_some_iff.mpr ⟨g, hgroup, he⟩
      rw [write_empty_of_resource? (Option.isSome_iff_exists.mpr ⟨e, hentry⟩)]
      exact .unchanged

end Packages

/-! ## Reasons to fail -/

/-- Where a request was made. -/
def Request.source : Request → Source
  | .add a => a.value.source
  | .declare d => d.symbol.source

/-- **The reasons for which a call fails**, each with the reply, what is said, and
the packages afterwards. -/
inductive FailsBy (t : Table) : Operation → Reply → Log → Packages → Prop where
  /-- A character of the entry name may not stand in one. -/
  | invalidEntryName {op : Operation} {r : Request} {c : Char}
      (hop : op.request? = some (true, r)) (hc : invalidEntryCharacter? r.name.entry = some c) :
      FailsBy t op (.accepted false) [(Finding.invalidEntryName r.name c).about r.source] t.packages
  /-- The value cannot share its slot with the one that is there. -/
  | conflict {op : Operation} {checked : Bool} {a : Addition} {old : Value}
      (hop : op.request? = some (checked, .add a)) (hold : t.packages.value? a.name a.key = some old)
      (hconflict : t.resolver old a.value = .conflict) :
      FailsBy t op (.accepted false)
        [(Finding.duplicateValue a.name a.config a.product).about a.value.source,
          Finding.previousValue.about old.source] t.packages
  /-- The entry has another identifier. -/
  | entryMismatch {op : Operation} {checked : Bool} {r : Request} {i : Ident} {e : UInt16}
      (hop : op.request? = some (checked, r)) (hid : r.id = some i) (hvalid : i.isValid = true)
      (he : (t.packages.recorded r.name).entry = some e) (hne : e ≠ i.entry) :
      FailsBy t op (.accepted false)
        [(Finding.identMismatch r.name i (.entry
          (.ofParts ((t.packages.recorded r.name).package.getD 0)
            ((t.packages.recorded r.name).type.getD 0) e))).about r.source] t.packages
  /-- The type has another identifier. -/
  | typeMismatch {op : Operation} {checked : Bool} {r : Request} {i : Ident} {u : UInt8}
      {ps : Packages} (hop : op.request? = some (checked, r)) (hid : r.id = some i)
      (hvalid : i.isValid = true) (hu : (t.packages.recorded r.name).type = some u)
      (hne : u ≠ i.type) (hpath : PathCompleted r.name t.packages ps) :
      FailsBy t op (.accepted false) [(Finding.identMismatch r.name i (.type u)).about r.source] ps
  /-- The package has another identifier. -/
  | packageMismatch {op : Operation} {checked : Bool} {r : Request} {i : Ident} {p : UInt8}
      {ps : Packages} (hop : op.request? = some (checked, r)) (hid : r.id = some i)
      (hvalid : i.isValid = true) (hp : (t.packages.recorded r.name).package = some p)
      (hne : p ≠ i.package) (hpath : PathCompleted r.name t.packages ps) :
      FailsBy t op (.accepted false) [(Finding.identMismatch r.name i (.package p)).about r.source] ps
  /-- The package that should be created is there, with another identifier. -/
  | packageConflict {package : String} {e id : UInt8}
      (he : (t.packages.package? package).bind Package.id = some e) (hne : e ≠ id) :
      FailsBy t (.createPackage package (some id)) (.fault (.packageIdConflict package e id)) []
        t.packages

namespace FailsBy
variable {t : Table} {op : Operation} {reply : Reply} {log : Log} {ps : Packages}

/-- A reason to fail creates no package. -/
theorem keys (h : FailsBy t op reply log ps) : ps.map Prod.fst = t.packages.map Prod.fst := by
  cases h with
  | invalidEntryName | conflict | entryMismatch | packageConflict => rfl
  | typeMismatch _ _ _ _ _ hpath | packageMismatch _ _ _ _ _ hpath => exact hpath.keys

/-- No reason to fail lies in the pool. -/
theorem of_pool {pool : Pool} (h : FailsBy { t with pool } op reply log ps) :
    FailsBy t op reply log ps := by
  cases h with
  | invalidEntryName hop hc => exact .invalidEntryName hop hc
  | conflict hop hold hconflict => exact .conflict hop hold hconflict
  | entryMismatch hop hid hvalid he hne => exact .entryMismatch hop hid hvalid he hne
  | typeMismatch hop hid hvalid hu hne hpath => exact .typeMismatch hop hid hvalid hu hne hpath
  | packageMismatch hop hid hvalid hp hne hpath =>
    exact .packageMismatch hop hid hvalid hp hne hpath
  | packageConflict he hne => exact .packageConflict he hne

end FailsBy

/-- An identifier disagrees on the uppermost level where another part is recorded. -/
theorem RecordedIds.disagreement?_cases {r : RecordedIds} {i : Ident} {d : Disagreement}
    (h : r.disagreement? i = some d) :
    (∃ p, r.package = some p ∧ p ≠ i.package ∧ d = .package p) ∨
      (∃ u, r.type = some u ∧ u ≠ i.type ∧ d = .type u) ∨
      (∃ e, r.entry = some e ∧ e ≠ i.entry ∧
        d = .entry (.ofParts (r.package.getD 0) (r.type.getD 0) e)) := by
  have hne : ∀ {α : Type} [BEq α] [LawfulBEq α] {recorded : Option α} {part : α},
      recorded.any (· != part) = true → ∃ x, recorded = some x ∧ x ≠ part := by
    intro α _ _ recorded part hany
    cases recorded with
    | none => cases hany
    | some x => exact ⟨x, rfl, bne_iff_ne.mp hany⟩
  unfold disagreement? at h
  split at h
  · rename_i hany
    obtain ⟨p, hp, hpne⟩ := hne hany
    rw [hp] at h
    exact Or.inl ⟨p, hp, hpne, (Option.some.inj h).symm⟩
  · split at h
    · rename_i hany
      obtain ⟨u, hu, hune⟩ := hne hany
      rw [hu] at h
      exact Or.inr (Or.inl ⟨u, hu, hune, (Option.some.inj h).symm⟩)
    · split at h
      · rename_i hany
        obtain ⟨e, he, hene⟩ := hne hany
        rw [he] at h
        exact Or.inr (Or.inr ⟨e, he, hene, (Option.some.inj h).symm⟩)
      · cases h

namespace Table
variable {t : Table}

/-- **A request is refused** for a character of its entry name, or for an identifier
that disagrees with what is recorded. -/
theorem examine_refused_cases {checked : Bool} {name : Name} {id : Option Ident}
    {finding : Finding} {createsPath : Bool}
    (h : t.examine checked name id = .refused finding createsPath) :
    (checked = true ∧ createsPath = false ∧ ∃ c, invalidEntryCharacter? name.entry = some c ∧
        finding = .invalidEntryName name c) ∨
      (createsPath = true ∧ ∃ i d, id = some i ∧ i.isValid = true ∧
        (t.packages.recorded name).disagreement? i = some d ∧ finding = .identMismatch name i d) := by
  unfold examine at h
  cases hc : if checked then invalidEntryCharacter? name.entry else none with
  | some c =>
    rw [hc] at h
    cases checked with
    | false => cases hc
    | true =>
      injection h with hfinding hflag
      exact Or.inl ⟨rfl, hflag.symm, c, hc, hfinding.symm⟩
  | none =>
    rw [hc] at h
    cases hi : id.filter Ident.isValid with
    | none =>
      rw [hi] at h
      cases h
    | some i =>
      rw [hi] at h
      obtain ⟨hid, hvalid⟩ := Option.filter_eq_some_iff.mp hi
      cases hd : (t.packages.recorded name).disagreement? i with
      | none =>
        simp only [hd] at h
        cases h
      | some d =>
        simp only [hd] at h
        injection h with hfinding hflag
        exact Or.inr ⟨hflag.symm, i, d, hid, hvalid, hd, hfinding.symm⟩

/-- A refused request has failed for one of the reasons. -/
theorem failsBy_of_refused (hordered : t.packages.Ordered) {op : Operation} {checked : Bool}
    {r : Request} (hop : op.request? = some (checked, r)) {finding : Finding} {createsPath : Bool}
    (hx : t.examine checked r.name r.id = .refused finding createsPath) :
    FailsBy t op (.accepted false) [finding.about r.source]
      (if createsPath then t.packages.write r.name {} else t.packages) := by
  rcases examine_refused_cases hx with
    ⟨rfl, rfl, c, hc, rfl⟩ | ⟨rfl, i, d, hid, hvalid, hd, rfl⟩
  · exact .invalidEntryName hop hc
  · -- what is recorded on a level shows that the path is there down to it
    rcases RecordedIds.disagreement?_cases hd with
      ⟨p, hp, hne, rfl⟩ | ⟨u, hu, hne, rfl⟩ | ⟨e, he, hne, rfl⟩
    · obtain ⟨q, hq, -⟩ := Option.bind_eq_some_iff.mp hp
      have hpackage : (t.packages.package? r.name.package).isSome := by rw [hq]; rfl
      exact .packageMismatch hop hid hvalid hp hne
        (Packages.pathCompleted_write_empty hordered hpackage)
    · obtain ⟨g, hg, -⟩ := Option.bind_eq_some_iff.mp hu
      have hgroup : (t.packages.group? r.name.package r.name.type).isSome := by rw [hg]; rfl
      have hpackage := Packages.isSome_package?_of_group? t.packages hgroup
      exact .typeMismatch hop hid hvalid hu hne
        (Packages.pathCompleted_write_empty hordered hpackage)
    · obtain ⟨f, hf, -⟩ := Option.bind_eq_some_iff.mp he
      have hentry : (t.packages.resource? r.name).isSome := by rw [hf]; rfl
      rw [if_pos rfl, Packages.write_empty_of_resource? hentry]
      exact .entryMismatch hop hid hvalid he hne

/-- A request that fails has failed for one of the reasons. -/
theorem failsBy_of_request (hordered : t.packages.Ordered) {op : Operation} {checked : Bool}
    {r : Request} (hop : op.request? = some (checked, r))
    (hfailure : (r.perform checked t).answer = false) :
    FailsBy t op (.accepted false) (r.perform checked t).log
      (r.perform checked t).table.packages := by
  rw [r.perform_eq] at hfailure ⊢
  cases hx : t.examine checked r.name r.id with
  | refused finding createsPath =>
    have hfails := failsBy_of_refused hordered hop hx
    have hlog : (r.verdict t.policy t.resolver (r.existing t.packages) (r.current t.packages)
        (.refused finding createsPath)).log = [finding.about r.source] := by
      cases r <;> rfl
    have hpackages : (r.verdict t.policy t.resolver (r.existing t.packages)
        (r.current t.packages) (.refused finding createsPath)).content t.packages r.name =
        if createsPath then t.packages.write r.name {} else t.packages := by
      unfold Verdict.content
      rw [Request.write_refused]
      cases createsPath <;> rfl
    simp only [Verdict.outcome, hlog, hpackages]
    exact hfails
  | granted id =>
    rw [hx] at hfailure
    cases r with
    | declare d =>
      simp only [Verdict.outcome, Request.verdict, Declaration.verdict] at hfailure
      split at hfailure <;> cases hfailure
    | add a =>
      simp only [Verdict.outcome, Request.verdict, Addition.verdict, Request.existing]
        at hfailure ⊢
      cases hold : t.packages.value? a.name a.key with
      | none =>
        rw [hold] at hfailure
        cases hfailure
      | some old =>
        rw [hold] at hfailure
        simp only at hfailure ⊢
        cases hr : t.resolver old a.value with
        | keepOriginal | takeNew =>
          rw [hr] at hfailure
          cases hfailure
        | conflict => exact .conflict hop hold hr

/-! ## No partial commit -/

/-- **Nothing of a call that fails is committed.** -/
structure NoPartialCommit (t : Table) (op : Operation) : Prop where
  /-- The reason, with what is said and what becomes of the packages. -/
  reason : FailsBy t op (t.perform op).answer (t.perform op).log (t.perform op).table.packages
  /-- No package is created. -/
  packages : (t.perform op).table.packages.map Prod.fst = t.packages.map Prod.fst
  /-- No package gets another kind. -/
  kinds : ∀ package, ((t.perform op).table.packages.packageAt package).kind =
    (t.packages.packageAt package).kind
  /-- No identifier is recorded or cleared, on any level. -/
  idents : ∀ name, (t.perform op).table.packages.recorded name = t.packages.recorded name
  /-- No symbol of an entry changes. -/
  entrySymbols : ∀ name, ((t.perform op).table.packages.entryAt name).symbol =
    (t.packages.entryAt name).symbol
  /-- No symbol of a type changes. -/
  typeSymbols : ∀ package type, ((t.perform op).table.packages.groupAt package type).symbol =
    (t.packages.groupAt package type).symbol
  /-- No slot is created, and none gets another value. -/
  slots : (t.perform op).table.packages.slot? = t.packages.slot?
  /-- The rules stay, and of the texts only the path of a file is interned. -/
  rest : ∃ ps, (t.perform op).table = { t with packages := ps, pool := op.interned t.pool }

/-- A call that fails has failed for one of the reasons. -/
theorem failsBy_of_call (hordered : t.packages.Ordered) {op : Operation} (hop : op.IsCall)
    (hfailure : (t.perform op).answer.isFailure = true) :
    FailsBy t op (t.perform op).answer (t.perform op).log (t.perform op).table.packages := by
  rcases hop.request_or_creation with ⟨checked, r, hrequest⟩ | ⟨package, id, rfl⟩
  · have hperform := Operation.perform_request hrequest t
    rw [hperform] at hfailure ⊢
    have hanswer : (r.perform checked { t with pool := op.interned t.pool }).answer = false := by
      simpa only [Outcome.map, Reply.isFailure, Bool.not_eq_true'] using hfailure
    have hfails := failsBy_of_request (t := { t with pool := op.interned t.pool }) hordered
      hrequest hanswer
    simp only [Outcome.map, hanswer]
    exact hfails.of_pool
  · rcases t.createPackage_cases package id with ⟨-, he⟩ | ⟨e, requested, hrecorded, rfl, hne, he⟩
    · simp only [perform, Outcome.map, he, Reply.ofCreation, Reply.isFailure] at hfailure
      cases hfailure
    · rw [← Packages.bind_id_package?] at hrecorded
      simp only [perform, Outcome.map, he, Reply.ofCreation]
      exact .packageConflict hrecorded hne

/-- **No partial commit.**  A call that fails on a reachable table leaves the packages
as they were, or with the path of its name completed; whatever it was asked to
store, to record or to declare is not there afterwards. -/
theorem Reachable.noPartialCommit (ht : t.Reachable) {op : Operation} (hop : op.IsCall)
    (hfailure : (t.perform op).answer.isFailure = true) : NoPartialCommit t op := by
  have hreason := failsBy_of_call ht.ordered hop hfailure
  have halike := (perform_of_failure hop hfailure).packages
  constructor
  · exact hreason
  · exact hreason.keys
  · intro package
    have hkind := congrArg Package.kind (halike.package package)
    exact hkind
  · exact halike.recorded
  · exact fun name => congrArg Entry.symbol (halike.entry name)
  · intro package type
    have hsymbol := congrArg TypeGroup.symbol (halike.group package type)
    exact hsymbol
  · funext name key
    rw [← Packages.slot?_entryAt, ← Packages.slot?_entryAt, halike.entry]
  · obtain ⟨hpolicy, hresolver⟩ := t.perform_rules op
    refine ⟨(t.perform op).table.packages, ?_⟩
    rw [← hpolicy, ← hresolver, ← Operation.pool_perform]

/-- A layout is declared under an identifier of another package: its path is all that
is left of it. -/
theorem noPartialCommit_otherPackage :
    let t := ((ofPolicy .strict).run [.createPackage "app" (some 0x7f)]).1
    let op : Operation :=
      .declare true ⟨⟨"app", .layout, "main"⟩, some ⟨0x02010000⟩, { state := .exported }⟩
    (t.perform op).answer.isFailure = true ∧ NoPartialCommit t op ∧
      t.packages.resource? ⟨"app", .layout, "main"⟩ = none ∧
      (t.perform op).table.packages.resource? ⟨"app", .layout, "main"⟩ = some {} :=
  ⟨rfl, Reachable.noPartialCommit ((Reachable.ofPolicy _).run _) trivial rfl, rfl, rfl⟩

end Table
end AppResources
