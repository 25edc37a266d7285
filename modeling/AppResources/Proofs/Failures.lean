import AppResources.Proofs.Order

/-!
# Failed calls leave no trace

A call that fails may leave nodes behind: the path of its name, without any
content.  Such **empty nodes** can be seen in the packages, but no call can tell
them from places where nothing is.  Two tables **look alike** when every place
has the same content in both, a missing node counting as an empty one
(`LooksLike`).  Calls on tables that look alike have the same answer and the same
to say, and leave tables that look alike (`perform_alike`); a call that fails leaves
a table that looks like the one it found (`perform_of_failure`).

So the calls that fail can be taken out of a run, and nothing else about the run
changes (`Reachable.run_successful`).  The packages that are left may differ in
empty nodes only: they are the same once these are **pruned**
(`LooksLike.prune_eq`).
-/

namespace AppResources

open Keyed

/-! ## Empty nodes -/

/-- The entry has no slot, no identifier and no symbol. -/
def Entry.isEmpty (e : Entry) : Bool := e.slots.isEmpty && e.id.isNone && e.symbol == {}

/-- The type has no entry, no identifier and no symbol. -/
def TypeGroup.isEmpty (g : TypeGroup) : Bool :=
  g.entries.isEmpty && g.id.isNone && g.symbol == {}

/-- The package has no type and no identifier, and is of the kind that packages
are created with. -/
def Package.isEmpty (p : Package) : Bool :=
  p.types.isEmpty && p.id.isNone && p.kind == Package.kind {}

/-- The type without its empty entries. -/
def TypeGroup.prune (g : TypeGroup) : TypeGroup :=
  { g with entries := (g.entries.mapItems fun e => e).filter fun item => !item.2.isEmpty }

/-- The package without empty entries, and then without empty types. -/
def Package.prune (p : Package) : Package :=
  { p with types := (p.types.mapItems TypeGroup.prune).filter fun item => !item.2.isEmpty }

namespace Packages

/-- The packages without empty entries, then without empty types, and then
without empty packages. -/
def prune (ps : Packages) : Packages :=
  (Keyed.mapItems ps Package.prune).filter fun item => !item.2.isEmpty

/-! ## Tables that look alike -/

/-- Every place has the same content, a missing node counting as an empty one. -/
structure LooksLike (a b : Packages) : Prop where
  package : ∀ m, (packageAt a m).head = (packageAt b m).head
  group : ∀ m u, (groupAt a m u).head = (groupAt b m u).head
  entry : ∀ m, entryAt a m = entryAt b m

namespace LooksLike
variable {a b c : Packages}

theorem refl (a : Packages) : LooksLike a a := ⟨fun _ => rfl, fun _ _ => rfl, fun _ => rfl⟩

theorem trans (h : LooksLike a b) (h' : LooksLike b c) : LooksLike a c :=
  ⟨fun m => (h.package m).trans (h'.package m), fun m u => (h.group m u).trans (h'.group m u),
    fun m => (h.entry m).trans (h'.entry m)⟩

theorem recorded (h : LooksLike a b) (name : Name) : a.recorded name = b.recorded name := by
  have hpackage := congrArg Package.id (h.package name.package)
  have hgroup := congrArg TypeGroup.id (h.group name.package name.type)
  rw [recorded_eq, recorded_eq, h.entry]
  exact (RecordedIds.mk.injEq ..).mpr ⟨hpackage, hgroup, rfl⟩

theorem value? (h : LooksLike a b) (name : Name) (key : SlotKey) :
    a.value? name key = b.value? name key := by
  unfold Packages.value?
  rw [← slot?_entryAt, ← slot?_entryAt, h.entry]

/-- The same write keeps the likeness. -/
theorem write (h : LooksLike a b) (name : Name) (w : Write) :
    LooksLike (a.write name w) (b.write name w) where
  package m := by rw [head_packageAt_write, head_packageAt_write, h.package]
  group m u := by rw [head_groupAt_write, head_groupAt_write, h.group]
  entry m := by rw [entryAt_write, entryAt_write, h.entry]

theorem content (h : LooksLike a b) (v : Verdict) (name : Name) :
    LooksLike (v.content a name) (v.content b name) := by
  unfold Verdict.content
  cases v.write with
  | none => exact h
  | some w => exact h.write name w

/-- **A path without content cannot be seen.** -/
theorem write_empty (a : Packages) (name : Name) : LooksLike (a.write name {}) a where
  package m := by
    rw [head_packageAt_write]
    split <;> rfl
  group m u := by
    rw [head_groupAt_write]
    split <;> rfl
  entry m := by
    rw [entryAt_write]
    split <;> rfl

theorem createPackage (h : LooksLike a b) (package : String) (id : Option UInt8) :
    LooksLike (a.withPackage package fun p => { p with id := id.or p.id })
      (b.withPackage package fun p => { p with id := id.or p.id }) := by
  have hgroup : ∀ (ps : Packages) m u,
      group? (ps.withPackage package fun p => { p with id := id.or p.id }) m u = group? ps m u :=
    fun ps => ps.group?_withPackage_id package id
  constructor
  · intro m
    rw [packageAt_withPackage, packageAt_withPackage]
    split
    · exact congrArg (fun p : Package => { p with id := id.or p.id }) (h.package m)
    · exact h.package m
  · intro m u
    rw [groupAt, groupAt, hgroup, hgroup]
    exact h.group m u
  · intro m
    rw [entryAt, entryAt, resource?_congr (hgroup a), resource?_congr (hgroup b)]
    exact h.entry m

/-- **Tables that look alike are the same without their empty nodes.** -/
theorem prune_eq (h : LooksLike a b) (ha : a.Ordered) (hb : b.Ordered) : a.prune = b.prune := by
  -- what is empty below a node is dropped before the node itself is looked at
  have hentries : ∀ m u, (groupAt a m u).prune = (groupAt b m u).prune := by
    intro m u
    refine TypeGroup.eq_of_head (h.group m u) ?_
    refine filter_mapItems_ext (d := {}) (ha.groupAt m u).increasing (hb.groupAt m u).increasing rfl
      fun entry => ?_
    rw [getD_entries_groupAt, getD_entries_groupAt]
    exact h.entry ⟨m, u, entry⟩
  have htypes : ∀ m, (packageAt a m).prune = (packageAt b m).prune := by
    intro m
    refine Package.eq_of_head (h.package m) ?_
    refine filter_mapItems_ext (d := {}) (ha.packageAt m).increasing (hb.packageAt m).increasing rfl
      fun u => ?_
    rw [getD_types_packageAt, getD_types_packageAt]
    exact hentries m u
  exact filter_mapItems_ext ha.increasing hb.increasing rfl htypes

end LooksLike
end Packages

/-! ## Calls -/

/-- Adding a value or a file, declaring a symbol, or creating a package. -/
def Operation.IsCall : Operation → Prop
  | .add _ _ | .addFile _ _ _ _ _ _ | .declare _ _ | .createPackage _ _ => True
  | _ => False

/-- A call that does not create a package makes a request. -/
theorem Operation.IsCall.request_or_creation {op : Operation} (h : op.IsCall) :
    (∃ checked r, op.request? = some (checked, r)) ∨
      ∃ package id, op = .createPackage package id := by
  cases op with
  | add checked a => exact Or.inl ⟨checked, .add a, rfl⟩
  | addFile checked name config source path input => exact Or.inl ⟨checked, _, rfl⟩
  | declare checked d => exact Or.inl ⟨checked, .declare d, rfl⟩
  | createPackage package id => exact Or.inr ⟨package, id, rfl⟩
  | _ => cases h

/-- A request that fails writes nothing but the empty path. -/
theorem Request.write_of_failure {r : Request} {policy : Policy} {resolver : Resolver}
    {old : Option Value} {current : Symbol} {x : Table.Examination} {w : Write}
    (h : (r.verdict policy resolver old current x).answer = false)
    (hw : w ∈ (r.verdict policy resolver old current x).write) : w = {} := by
  cases x with
  | refused finding createsPath =>
    rw [write_refused] at hw
    split at hw
    · exact (Option.some.inj hw).symm
    · cases hw
  | granted id =>
    cases r with
    | add a =>
      cases old with
      | none => cases h
      | some old =>
        simp only [verdict, Addition.verdict] at h hw
        cases hr : resolver old a.value with
        | keepOriginal | takeNew =>
          rw [hr] at h
          cases h
        | conflict =>
          rw [hr] at hw
          cases hw
    | declare d =>
      simp only [verdict, Declaration.verdict] at h
      split at h <;> cases h

namespace Table

/-- The tables look alike, and are filled by the same rules. -/
structure Alike (t u : Table) : Prop where
  policy : t.policy = u.policy
  resolver : t.resolver = u.resolver
  packages : Packages.LooksLike t.packages u.packages

theorem Alike.refl (t : Table) : Alike t t := ⟨rfl, rfl, .refl _⟩

theorem Alike.trans {t u v : Table} (h : Alike t u) (h' : Alike u v) : Alike t v :=
  ⟨h.policy.trans h'.policy, h.resolver.trans h'.resolver, h.packages.trans h'.packages⟩

/-- Two outcomes with the same answer and the same log, and tables that look
alike. -/
structure SameOutcome {α : Type} (o o' : Outcome α) : Prop where
  answer : o.answer = o'.answer
  log : o.log = o'.log
  table : Alike o.table o'.table

theorem SameOutcome.map {α β : Type} {o o' : Outcome α} (h : SameOutcome o o') (f : α → β) :
    SameOutcome (o.map f) (o'.map f) :=
  ⟨congrArg f h.answer, h.log, h.table⟩

/-- A request treats tables that look alike in the same way. -/
theorem request_alike {t u : Table} (h : Alike t u) (checked : Bool) (r : Request) :
    SameOutcome (r.perform checked t) (r.perform checked u) := by
  have hverdict : r.verdict t.policy t.resolver (r.existing t.packages) (r.current t.packages)
      (t.examine checked r.name r.id) = r.verdict u.policy u.resolver (r.existing u.packages)
        (r.current u.packages) (u.examine checked r.name r.id) := by
    have hexisting : r.existing t.packages = r.existing u.packages := by
      cases r with
      | add a => exact h.packages.value? a.name a.key
      | declare d => rfl
    have hcurrent : r.current t.packages = r.current u.packages :=
      congrArg Entry.symbol (h.packages.entry r.name)
    rw [h.policy, h.resolver, hexisting, hcurrent, examine_congr (h.packages.recorded r.name)]
  rw [r.perform_eq, r.perform_eq, hverdict]
  exact ⟨rfl, rfl, h.policy, h.resolver, h.packages.content _ r.name⟩

theorem createPackage_alike {t u : Table} (h : Alike t u) (package : String)
    (id : Option UInt8) :
    SameOutcome (t.createPackage package id) (u.createPackage package id) := by
  have hhead := congrArg Package.id (h.packages.package package)
  have hid : (t.packages.packageAt package).id = (u.packages.packageAt package).id := hhead
  have ht := t.createPackage_cases package id
  rw [hid] at ht
  rcases ht with ⟨hagree, he⟩ | ⟨e, r, hrecorded, hrequested, hne, he⟩
  · rcases u.createPackage_cases package id with ⟨-, he'⟩ | ⟨e, r, hrecorded, hrequested, hne, -⟩
    · rw [he, he']
      exact ⟨rfl, rfl, h.policy, h.resolver, h.packages.createPackage package id⟩
    · -- one identifier is recorded in both tables
      exact absurd (hagree e hrecorded r hrequested) hne
  · rcases u.createPackage_cases package id with
      ⟨hagree, -⟩ | ⟨e', r', hrecorded', hrequested', -, he'⟩
    · exact absurd (hagree e hrecorded r hrequested) hne
    · obtain rfl : e = e' := Option.some.inj (hrecorded.symm.trans hrecorded')
      obtain rfl : r = r' := Option.some.inj (hrequested.symm.trans hrequested')
      rw [he, he']
      exact ⟨rfl, rfl, h⟩

/-- **A call treats tables that look alike in the same way.** -/
theorem perform_alike {t u : Table} (h : Alike t u) {op : Operation} (hop : op.IsCall) :
    SameOutcome (t.perform op) (u.perform op) := by
  rcases hop.request_or_creation with ⟨checked, r, hrequest⟩ | ⟨package, id, rfl⟩
  · have halike : Alike { t with pool := op.interned t.pool } { u with pool := op.interned u.pool } :=
      ⟨h.policy, h.resolver, h.packages⟩
    rw [Operation.perform_request hrequest, Operation.perform_request hrequest]
    exact (request_alike halike checked r).map _
  · exact (createPackage_alike h package id).map _

/-- **A call that fails leaves a table that looks like the one it found.** -/
theorem perform_of_failure {t : Table} {op : Operation} (hop : op.IsCall)
    (hfailure : (t.perform op).answer.isFailure = true) : Alike (t.perform op).table t := by
  rcases hop.request_or_creation with ⟨checked, r, hrequest⟩ | ⟨package, id, rfl⟩
  · rw [Operation.perform_request hrequest, r.perform_eq] at hfailure ⊢
    refine ⟨rfl, rfl, ?_⟩
    simp only [Outcome.map, Verdict.outcome, Reply.isFailure, Bool.not_eq_true'] at hfailure ⊢
    refine Verdict.content_cases (P := fun ps => Packages.LooksLike ps _) (fun _ => .refl _)
      fun w hw => ?_
    rw [Request.write_of_failure hfailure hw]
    exact .write_empty _ _
  · rcases t.createPackage_cases package id with ⟨-, he⟩ | ⟨e, r, -, -, -, he⟩
    · simp only [perform, Outcome.map, he, Reply.ofCreation, Reply.isFailure] at hfailure
      cases hfailure
    · simp only [perform, Outcome.map, he]
      exact .refl t

/-! ## Runs -/

/-- The calls of a run that did not fail. -/
def successful (t : Table) (ops : List Operation) : List (Operation × Reply × Log) :=
  (t.transcript ops).filter fun call => !call.2.1.isFailure

theorem successful_cons (t : Table) (op : Operation) (rest : List Operation) :
    t.successful (op :: rest) =
      if (t.perform op).answer.isFailure then (t.perform op).table.successful rest
      else (op, (t.perform op).answer, (t.perform op).log) ::
        (t.perform op).table.successful rest := by
  unfold successful
  rw [transcript_cons, List.filter_cons]
  cases (t.perform op).answer.isFailure <;> rfl

/-- On a table that looks alike, the calls that did not fail come to the same. -/
theorem run_successful_alike {t u : Table} (h : Alike t u) {ops : List Operation}
    (hops : ∀ op ∈ ops, op.IsCall) :
    u.transcript ((t.successful ops).map Prod.fst) = t.successful ops ∧
      Alike (t.run ops).1 (u.run ((t.successful ops).map Prod.fst)).1 := by
  induction ops generalizing t u with
  | nil => exact ⟨rfl, h⟩
  | cons op rest ih =>
    have hop := hops op List.mem_cons_self
    have hrest : ∀ op ∈ rest, op.IsCall := fun op hm => hops op (List.mem_cons_of_mem _ hm)
    rw [successful_cons]
    split
    · rename_i hfailure
      -- only the one table moves, and it still looks like the other
      exact ih ((perform_of_failure hop hfailure).trans h) hrest
    · have hsame := perform_alike h hop
      obtain ⟨htranscript, htable⟩ := ih hsame.table hrest
      rw [List.map_cons, transcript_cons, htranscript, ← hsame.answer, ← hsame.log]
      exact ⟨rfl, htable⟩

/-- **Failed calls are invisible to the rest of the run.**  When the calls that
failed are taken out of a run, every other call has the same answer and the same to
say, and the packages that are left are the same but for empty nodes. -/
theorem Reachable.run_successful {t : Table} (ht : t.Reachable) {ops : List Operation}
    (hops : ∀ op ∈ ops, op.IsCall) :
    t.transcript ((t.successful ops).map Prod.fst) = t.successful ops ∧
      (t.run ((t.successful ops).map Prod.fst)).1.packages.prune =
        (t.run ops).1.packages.prune := by
  obtain ⟨htranscript, halike⟩ := run_successful_alike (.refl t) hops
  refine ⟨htranscript, ?_⟩
  exact (halike.packages.prune_eq (ht.run ops).ordered (ht.run _).ordered).symm

/-- A second title, a second identifier of the package and an identifier of another
package are refused; the last refusal leaves an empty path behind. -/
theorem run_successful_refusals :
    let title (text : String) : Operation :=
      .add true { name := ⟨"app", .string, "title"⟩, value := { payload := .string text } }
    let create (id : UInt8) : Operation := .createPackage "app" (some id)
    let label : Operation :=
      .declare true ⟨⟨"app", .string, "label"⟩, some ⟨0x02010000⟩, { state := .exported }⟩
    let t := ofPolicy .strict
    let ops := [title "T", create 0x7f, title "U", create 0x01, label]
    t.transcript ((t.successful ops).map Prod.fst) = t.successful ops ∧
      (t.run ((t.successful ops).map Prod.fst)).1.packages.prune = (t.run ops).1.packages.prune ∧
      (t.successful ops).map Prod.fst = [title "T", create 0x7f] := by
  intro title create label t ops
  have hops : ∀ op ∈ ops, op.IsCall := by
    intro op hop
    simp only [ops, List.mem_cons, List.not_mem_nil, or_false] at hop
    rcases hop with rfl | rfl | rfl | rfl | rfl <;> trivial
  obtain ⟨hcalls, hprune⟩ := Reachable.run_successful (Reachable.ofPolicy .strict) hops
  exact ⟨hcalls, hprune, rfl⟩

end Table
end AppResources
