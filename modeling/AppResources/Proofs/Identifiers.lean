import AppResources.Proofs.Failures

/-!
# Identifiers are written once

Requests record the identifiers that they bring along, all three parts at a time;
`createPackage` records the package part alone.  Both look first at what is there:
a part that is recorded is only ever written again with the value that it has
(`recorded_call_cases`).  Three facts follow.

* What is recorded **stays** (`IdentsStay`), over any run.
* What is recorded is **complete** (`IdentsComplete`): an entry has an identifier
  only below a type that has one, and a type only below a package that has one.
  `createPackage` may record a package part of zero, but no type below it is ever
  given an identifier: one that names this package is not valid, and counts as none.
* The identifier of an entry is the one with which any request for its name has
  succeeded (`Accepts`), so no two of them brought different ones.

An ingestion counts as the additions that it consists of (`Operation.calls`).
-/

namespace AppResources

namespace RecordedIds

/-- Every part that is recorded in the first is recorded in the second, with the same
value. -/
structure Stays (r s : RecordedIds) : Prop where
  package : ∀ p, r.package = some p → s.package = some p
  type : ∀ u, r.type = some u → s.type = some u
  entry : ∀ e, r.entry = some e → s.entry = some e

theorem Stays.refl (r : RecordedIds) : Stays r r := ⟨fun _ h => h, fun _ h => h, fun _ h => h⟩

theorem Stays.trans {r s u : RecordedIds} (h : Stays r s) (h' : Stays s u) : Stays r u :=
  ⟨fun p hp => h'.package p (h.package p hp), fun t ht => h'.type t (h.type t ht),
    fun e he => h'.entry e (h.entry e he)⟩

/-- The identifier, when all three parts are recorded. -/
def ident? (r : RecordedIds) : Option Ident :=
  match r.package, r.type, r.entry with
  | some p, some u, some e => some (.ofParts p u e)
  | _, _, _ => none

theorem ident?_eq_some_iff {r : RecordedIds} {i : Ident} : r.ident? = some i ↔
    r.package = some i.package ∧ r.type = some i.type ∧ r.entry = some i.entry := by
  constructor
  · intro h
    unfold ident? at h
    split at h
    · rename_i p u e hp hu he
      obtain rfl := Option.some.inj h
      simp only [hp, hu, he, Ident.package_ofParts, Ident.type_ofParts, Ident.entry_ofParts,
        and_self]
    · cases h
  · rintro ⟨hp, hu, he⟩
    simp only [ident?, hp, hu, he, Ident.ofParts_parts]

/-- A complete identifier stays with its parts. -/
theorem Stays.ident? {r s : RecordedIds} (h : Stays r s) {i : Ident} (hi : r.ident? = some i) :
    s.ident? = some i := by
  obtain ⟨hp, hu, he⟩ := ident?_eq_some_iff.mp hi
  exact ident?_eq_some_iff.mpr ⟨h.package _ hp, h.type _ hu, h.entry _ he⟩

theorem afterRecording_none (r : RecordedIds) (m name : Name) :
    r.afterRecording m name none = r := by
  simp only [afterRecording, Option.map_none, Option.none_or, ite_self]

end RecordedIds

namespace Packages
variable {ps ps' : Packages}

/-- What is recorded stays recorded. -/
def IdentsStay (ps ps' : Packages) : Prop := ∀ name, (ps.recorded name).Stays (ps'.recorded name)

theorem IdentsStay.refl (ps : Packages) : IdentsStay ps ps := fun _ => .refl _

theorem IdentsStay.trans {ps'' : Packages} (h : IdentsStay ps ps') (h' : IdentsStay ps' ps'') :
    IdentsStay ps ps'' :=
  fun name => (h name).trans (h' name)

/-- **Identifiers are recorded from the package downwards**, and no part but that of
an entry is zero once there is one below it. -/
structure IdentsComplete (ps : Packages) : Prop where
  /-- An entry has an identifier only below a type that has one. -/
  entry : ∀ name e, (ps.recorded name).entry = some e → ∃ u, (ps.recorded name).type = some u
  /-- A type has an identifier only below a package that has one. -/
  type : ∀ name u, (ps.recorded name).type = some u →
    u ≠ 0 ∧ ∃ p, (ps.recorded name).package = some p ∧ p ≠ 0

theorem IdentsComplete.nil : IdentsComplete [] where
  entry name e h := by cases h
  type name u h := by cases h

/-- Names of one package have one package part. -/
theorem recorded_package_congr (ps : Packages) {m name : Name} (h : m.package = name.package) :
    (ps.recorded m).package = (ps.recorded name).package := by
  simp only [recorded, h]

/-- Names of one type have one type part. -/
theorem recorded_type_congr (ps : Packages) {m name : Name} (hpackage : m.package = name.package)
    (htype : m.type = name.type) : (ps.recorded m).type = (ps.recorded name).type := by
  simp only [recorded, hpackage, htype]

/-- Creating a package shows in the package parts below it, and in nothing else. -/
theorem recorded_createPackage (ps : Packages) (package : String) (id : Option UInt8) (m : Name) :
    (ps.withPackage package fun p => { p with id := id.or p.id }).recorded m =
      { ps.recorded m with
        package := if m.package = package then id.or (ps.recorded m).package
          else (ps.recorded m).package } := by
  have hgroup := ps.group?_withPackage_id package id
  rw [recorded_eq, recorded_eq, packageAt_withPackage, groupAt, hgroup, entryAt,
    resource?_congr hgroup]
  split <;> rfl

end Packages

/-! ## What a call records -/

namespace Table
variable {t : Table}

/-- **What a request records**: the identifier that was let through, if it succeeds;
and nothing otherwise. -/
theorem recorded_request (t : Table) (checked : Bool) (r : Request) : ∃ granted : Option Ident,
    (∀ i, granted = some i → r.id = some i ∧ i.isValid = true ∧
      (t.packages.recorded r.name).Agrees i) ∧
    (∀ m, (r.perform checked t).table.packages.recorded m =
      (t.packages.recorded m).afterRecording m r.name granted) ∧
    ((r.perform checked t).answer = true → granted = r.id.filter Ident.isValid) := by
  rw [r.perform_eq]
  cases hanswer : (r.verdict t.policy t.resolver (r.existing t.packages) (r.current t.packages)
      (t.examine checked r.name r.id)).answer with
  | true =>
    have hgranted := Request.granted_of_answer hanswer
    obtain ⟨-, hid, hagrees⟩ := examine_eq_granted_iff.mp hgranted
    refine ⟨_, fun i hi => ?_, Verdict.recorded_content rfl hanswer t.packages, fun _ => hid⟩
    obtain ⟨hsupplied, hvalid⟩ := Option.filter_eq_some_iff.mp (hid.symm.trans hi)
    exact ⟨hsupplied, hvalid, hagrees i hi⟩
  | false =>
    refine ⟨none, fun i hi => (by cases hi), fun m => ?_, fun h => ?_⟩
    · -- a request that fails writes the empty path at most
      refine Verdict.content_cases (P := fun ps => ps.recorded m = _) (fun _ => ?_) fun w hw => ?_
      · exact (RecordedIds.afterRecording_none ..).symm
      · rw [Request.write_of_failure hanswer hw]
        exact Packages.recorded_write t.packages r.name {} m
    · rw [Verdict.outcome, hanswer] at h
      cases h

/-- What a call does to the identifiers that are recorded. -/
inductive Records (ps ps' : Packages) : Prop where
  /-- Nothing is recorded. -/
  | nothing (h : ∀ m, ps'.recorded m = ps.recorded m)
  /-- A valid identifier is recorded that agrees with what is there. -/
  | ident {name : Name} {i : Ident} (hvalid : i.isValid = true)
      (hagrees : (ps.recorded name).Agrees i)
      (h : ∀ m, ps'.recorded m = (ps.recorded m).afterRecording m name (some i))
  /-- A package part is recorded where there is none. -/
  | package {package : String} {p : UInt8}
      (hnew : ∀ m, m.package = package → (ps.recorded m).package = none)
      (h : ∀ m, ps'.recorded m = { ps.recorded m with
        package := if m.package = package then some p else (ps.recorded m).package })

/-- **A call records an identifier that agrees with what is there**, or a package part
where there is none, or nothing. -/
theorem records_of_call {op : Operation} (hop : op.IsCall) :
    Records t.packages (t.perform op).table.packages := by
  rcases hop.request_or_creation with ⟨checked, r, hrequest⟩ | ⟨package, id, rfl⟩
  · rw [Operation.perform_request hrequest]
    obtain ⟨granted, hgranted, hrecorded, -⟩ :=
      recorded_request { t with pool := op.interned t.pool } checked r
    cases granted with
    | none =>
      refine .nothing fun m => (hrecorded m).trans ?_
      exact RecordedIds.afterRecording_none ..
    | some i =>
      obtain ⟨-, hvalid, hagrees⟩ := hgranted i rfl
      exact .ident hvalid hagrees hrecorded
  · show Records t.packages (t.createPackage package id).table.packages
    rcases t.createPackage_cases package id with ⟨hagree, he⟩ | ⟨e, r, -, -, -, he⟩
    · rw [he]
      have hpart : ∀ m : Name, m.package = package →
          (t.packages.recorded m).package = (t.packages.packageAt package).id := by
        intro m hm
        rw [Packages.recorded_eq, hm]
      cases id with
      | none =>
        refine .nothing fun m => (Packages.recorded_createPackage ..).trans ?_
        rw [Option.none_or, ite_self]
      | some p =>
        cases hid : (t.packages.packageAt package).id with
        | none =>
          refine .package (p := p) (fun m hm => (hpart m hm).trans hid) fun m => ?_
          exact Packages.recorded_createPackage t.packages package (some p) m
        | some e =>
          obtain rfl : e = p := hagree e hid p rfl
          refine .nothing fun m => (Packages.recorded_createPackage ..).trans ?_
          split
          · rename_i hm
            rw [Option.some_or, ← hid, ← hpart m hm]
          · rfl
    · rw [he]
      exact .nothing fun m => rfl

namespace Records
variable {ps ps' : Packages}

/-- Recording an identifier that agrees leaves what is there. -/
theorem stays (h : Records ps ps') : ps.IdentsStay ps' := by
  intro m
  cases h with
  | nothing h => exact h m ▸ .refl _
  | package hnew h =>
    rw [h m]
    refine ⟨fun p hp => ?_, fun _ hu => hu, fun _ he => he⟩
    split
    · rename_i hm
      rw [hnew m hm] at hp
      cases hp
    · exact hp
  | @ident name i hvalid hagrees h =>
    rw [h m]
    refine ⟨fun p hp => ?_, fun u hu => ?_, fun e he => ?_⟩
    · by_cases hm : m.package = name.package
      · rw [ps.recorded_package_congr hm] at hp
        simp only [RecordedIds.afterRecording, hm, if_true, Option.map_some, Option.some_or,
          hagrees.package p hp]
      · simp only [RecordedIds.afterRecording, hm, if_false, hp]
    · by_cases hm : m.package = name.package ∧ m.type = name.type
      · rw [ps.recorded_type_congr hm.1 hm.2] at hu
        simp only [RecordedIds.afterRecording, hm, and_self, if_true, Option.map_some,
          Option.some_or, hagrees.type u hu]
      · simp only [RecordedIds.afterRecording, hm, if_false, hu]
    · by_cases hm : m = name
      · subst hm
        simp only [RecordedIds.afterRecording, if_true, Option.map_some, Option.some_or,
          hagrees.entry e he]
      · simp only [RecordedIds.afterRecording, hm, if_false, he]

/-- Recording keeps what is recorded complete. -/
theorem complete (h : Records ps ps') (hcomplete : ps.IdentsComplete) : ps'.IdentsComplete := by
  have hstays := h.stays
  cases h with
  | nothing h =>
    refine ⟨fun m e he => ?_, fun m u hu => ?_⟩
    · rw [h m] at he ⊢
      exact hcomplete.entry m e he
    · rw [h m] at hu ⊢
      exact hcomplete.type m u hu
  | package hnew h =>
    refine ⟨fun m e he => ?_, fun m u hu => ?_⟩
    · rw [h m] at he ⊢
      exact hcomplete.entry m e he
    · -- a package with a type that has an identifier has one itself
      have hold : (ps.recorded m).type = some u := by
        rw [h m] at hu
        exact hu
      obtain ⟨hu0, p, hp, hp0⟩ := hcomplete.type m u hold
      exact ⟨hu0, p, (hstays m).package p hp, hp0⟩
  | @ident name i hvalid hagrees h =>
    have hparts : i.package ≠ 0 ∧ i.type ≠ 0 := by
      simpa only [Ident.isValid, Bool.and_eq_true, bne_iff_ne] using hvalid
    refine ⟨fun m e he => ?_, fun m u hu => ?_⟩
    · by_cases hm : m = name
      · subst hm
        refine ⟨i.type, ?_⟩
        rw [h m]
        simp only [RecordedIds.afterRecording, and_self, if_true, Option.map_some, Option.some_or]
      · rw [h m] at he
        simp only [RecordedIds.afterRecording, hm, if_false] at he
        obtain ⟨u, hu⟩ := hcomplete.entry m e he
        exact ⟨u, (hstays m).type u hu⟩
    · by_cases hm : m.package = name.package ∧ m.type = name.type
      · rw [h m] at hu ⊢
        simp only [RecordedIds.afterRecording, hm, and_self, if_true, Option.map_some,
          Option.some_or, Option.some.injEq] at hu ⊢
        exact ⟨hu ▸ hparts.2, i.package, rfl, hparts.1⟩
      · rw [h m] at hu
        simp only [RecordedIds.afterRecording, hm, if_false] at hu
        obtain ⟨hu0, p, hp, hp0⟩ := hcomplete.type m u hu
        exact ⟨hu0, p, (hstays m).package p hp, hp0⟩

end Records
end Table

/-! ## Runs -/

/-- A call, or an ingestion. -/
def Operation.Fills : Operation → Prop
  | .ingest _ => True
  | op => op.IsCall

theorem Operation.Fills.calls {op : Operation} (h : op.Fills) : ∀ call ∈ op.calls, call.IsCall := by
  intro call hcall
  cases op with
  | ingest additions =>
    obtain ⟨a, -, rfl⟩ := List.mem_map.mp hcall
    trivial
  | _ =>
    rw [List.mem_singleton.mp hcall]
    exact h

theorem Operation.calls_of_fills {ops : List Operation} (hops : ∀ op ∈ ops, op.Fills) :
    ∀ call ∈ ops.flatMap Operation.calls, call.IsCall := by
  intro call hcall
  obtain ⟨op, hop, hcall⟩ := List.mem_flatMap.mp hcall
  exact (hops op hop).calls call hcall

/-- A request for a name has succeeded with a valid identifier. -/
structure Accepts (c : Operation × Reply × Log) (name : Name) (i : Ident) : Prop where
  /-- The request was for that name, and brought the identifier. -/
  request : ∃ checked r, c.1.request? = some (checked, r) ∧ r.name = name ∧ r.id = some i
  /-- It succeeded. -/
  reply : c.2.1 = .accepted true
  /-- The identifier is valid. -/
  valid : i.isValid = true

namespace Table
variable {t : Table}

theorem run_calls_identsStay {ops : List Operation} (hops : ∀ op ∈ ops, op.IsCall) :
    t.packages.IdentsStay (t.run ops).1.packages :=
  run_related .refl .trans (fun _ _ _ hop => (records_of_call hop).stays) hops

/-- **What is recorded stays**, over any run. -/
theorem run_identsStay {ops : List Operation} (hops : ∀ op ∈ ops, op.Fills) :
    t.packages.IdentsStay (t.run ops).1.packages := by
  rw [Operation.run_eq_run_calls]
  exact run_calls_identsStay (Operation.calls_of_fills hops)

theorem perform_identsComplete {op : Operation} (hop : op.Fills)
    (h : t.packages.IdentsComplete) : (t.perform op).table.packages.IdentsComplete := by
  rw [Operation.perform_eq_run_calls]
  exact run_related (R := fun a b => a.IdentsComplete → b.IdentsComplete) (fun _ => id)
    (fun hab hbc ha => hbc (hab ha)) (fun _ _ _ hop => (records_of_call hop).complete) hop.calls h

/-- **What is recorded is complete.** -/
theorem ReachableBy.identsComplete (ht : ReachableBy Operation.Fills t) :
    t.packages.IdentsComplete :=
  ht.invariant (P := fun _ => Packages.IdentsComplete) (fun _ => .nil)
    fun _ _ hop h => perform_identsComplete hop h

/-- A request that has succeeded with a valid identifier has recorded it. -/
theorem ident?_of_accepts {op : Operation} {name : Name} {i : Ident}
    (h : Accepts (op, (t.perform op).answer, (t.perform op).log) name i) :
    ((t.perform op).table.packages.recorded name).ident? = some i := by
  obtain ⟨⟨checked, r, hrequest, rfl, hid⟩, hreply, hvalid⟩ := h
  rw [Operation.perform_request hrequest] at hreply ⊢
  obtain ⟨granted, -, hrecorded, hgranted⟩ :=
    recorded_request { t with pool := op.interned t.pool } checked r
  have hanswer : granted = some i := by
    rw [hgranted (Reply.accepted.inj hreply), hid, Option.filter_eq_some_iff]
    exact ⟨rfl, hvalid⟩
  have hafter := hrecorded r.name
  rw [hanswer] at hafter
  refine RecordedIds.ident?_eq_some_iff.mpr ?_
  simp only [Outcome.map, hafter, RecordedIds.afterRecording, and_self, if_true,
    Option.map_some, Option.some_or]

/-- After a run, every identifier that was accepted is recorded. -/
theorem ident?_run_of_accepts {ops : List Operation} (hops : ∀ op ∈ ops, op.IsCall)
    {c : Operation × Reply × Log} (hc : c ∈ t.transcript ops) {name : Name} {i : Ident}
    (h : Accepts c name i) : ((t.run ops).1.packages.recorded name).ident? = some i := by
  induction ops generalizing t with
  | nil => cases hc
  | cons op rest ih =>
    have hrest : ∀ op ∈ rest, op.IsCall := fun op hm => hops op (List.mem_cons_of_mem _ hm)
    rw [transcript_cons] at hc
    rcases List.mem_cons.mp hc with rfl | hc
    · -- it is recorded at once, and stays
      exact (run_calls_identsStay hrest name).ident? (ident?_of_accepts h)
    · exact ih hrest hc

/-- A request without a valid identifier records nothing. -/
theorem recorded_of_invalid {op : Operation} {checked : Bool} {r : Request}
    (hrequest : op.request? = some (checked, r)) (hinvalid : ∀ i, r.id = some i → i.isValid = false)
    (name : Name) : (t.perform op).table.packages.recorded name = t.packages.recorded name := by
  rw [Operation.perform_request hrequest]
  obtain ⟨granted, hgranted, hrecorded, -⟩ :=
    recorded_request { t with pool := op.interned t.pool } checked r
  cases granted with
  | none => exact (hrecorded name).trans (RecordedIds.afterRecording_none ..)
  | some i =>
    obtain ⟨hid, hvalid, -⟩ := hgranted i rfl
    rw [hinvalid i hid] at hvalid
    cases hvalid

/-! ## Written once, complete and valid -/

/-- **Identifiers are written once, complete and valid.** -/
structure WritesIdentsOnce (t : Table) : Prop where
  /-- What is recorded stays, whatever is done. -/
  stays : ∀ ops : List Operation, (∀ op ∈ ops, op.Fills) → t.packages.IdentsStay (t.run ops).1.packages
  /-- A type has an identifier only in a package that has one. -/
  package_of_type : ∀ name u, (t.packages.recorded name).type = some u →
    ∃ p, (t.packages.recorded name).package = some p
  /-- An entry has an identifier only in a type and a package that have one; the three
  parts make a valid identifier. -/
  complete : ∀ name e, (t.packages.recorded name).entry = some e →
    ∃ p u, (t.packages.recorded name).package = some p ∧
      (t.packages.recorded name).type = some u ∧ (Ident.ofParts p u e).isValid = true
  /-- The identifier of an entry is every valid one with which a request for its name
  has succeeded, be it on its own or within an ingestion. -/
  accepted : ∀ ops : List Operation, (∀ op ∈ ops, op.Fills) →
    ∀ c ∈ t.transcript (ops.flatMap Operation.calls), ∀ name i, Accepts c name i →
      ((t.run ops).1.packages.recorded name).ident? = some i
  /-- No two requests for one name succeed with different ones. -/
  agree : ∀ ops : List Operation, (∀ op ∈ ops, op.Fills) →
    ∀ c ∈ t.transcript (ops.flatMap Operation.calls),
    ∀ c' ∈ t.transcript (ops.flatMap Operation.calls), ∀ name i j,
      Accepts c name i → Accepts c' name j → i = j
  /-- An identifier that is not valid records nothing. -/
  invalid : ∀ op checked r, op.request? = some (checked, r) →
    (∀ i, r.id = some i → i.isValid = false) →
    ∀ name, (t.perform op).table.packages.recorded name = t.packages.recorded name

/-- **Calls and ingestions write identifiers once, complete and valid.** -/
theorem ReachableBy.writesIdentsOnce (ht : ReachableBy Operation.Fills t) :
    WritesIdentsOnce t := by
  have hcomplete := ht.identsComplete
  have haccepted : ∀ ops : List Operation, (∀ op ∈ ops, op.Fills) →
      ∀ c ∈ t.transcript (ops.flatMap Operation.calls), ∀ name i, Accepts c name i →
        ((t.run ops).1.packages.recorded name).ident? = some i := by
    intro ops hops c hc name i h
    rw [Operation.run_eq_run_calls]
    exact ident?_run_of_accepts (Operation.calls_of_fills hops) hc h
  constructor
  · exact fun ops hops => run_identsStay hops
  · intro name u hu
    obtain ⟨-, p, hp, -⟩ := hcomplete.type name u hu
    exact ⟨p, hp⟩
  · intro name e he
    obtain ⟨u, hu⟩ := hcomplete.entry name e he
    obtain ⟨hu0, p, hp, hp0⟩ := hcomplete.type name u hu
    exact ⟨p, u, hp, hu, Ident.isValid_ofParts hp0 hu0⟩
  · exact haccepted
  · intro ops hops c hc c' hc' name i j hi hj
    have hident := haccepted ops hops c hc name i hi
    rw [haccepted ops hops c' hc' name j hj] at hident
    exact (Option.some.inj hident).symm
  · exact fun op checked r hrequest hinvalid => recorded_of_invalid hrequest hinvalid

/-- A title gets its identifier within an ingestion and keeps it, though another one
is declared for it later. -/
theorem writesIdentsOnce_title :
    let title : Name := ⟨"app", .string, "title"⟩
    let t := ((ofPolicy .strict).run
      [.createPackage "app" (some 0x7f),
        .ingest [{ name := title, id := some ⟨0x7f010000⟩, value := { payload := .string "T" } }],
        .declare true ⟨title, some ⟨0x7f010001⟩, { state := .exported }⟩]).1
    WritesIdentsOnce t ∧ t.packages.recorded title = ⟨some 0x7f, some 0x01, some 0x0000⟩ := by
  refine ⟨ReachableBy.writesIdentsOnce (ReachableBy.run (.empty ..) fun op hop => ?_), rfl⟩
  simp only [List.mem_cons, List.not_mem_nil, or_false] at hop
  rcases hop with rfl | rfl | rfl <;> trivial

end Table
end AppResources
