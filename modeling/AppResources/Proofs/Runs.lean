import AppResources.Operation
import AppResources.Proofs.Requests

/-!
# Runs and their transcripts

`Table.run` collects the replies of a sequence of operations; the **transcript**
pairs them with the operations, so that a run can be cut, reordered and compared
with another one call by call.  What a run **says** is the log of all its operations.

A table is **reachable** when operations have made it of an empty one.  The
resolver may have been replaced and texts interned at any time in between, so a
fact about reachable tables holds for every policy, every resolver and every
pool.  `ReachableBy` restricts the operations.
-/

namespace AppResources
namespace Table

/-- What operations of the given sort make of an empty table. -/
inductive ReachableBy (allowed : Operation → Prop) : Table → Prop where
  /-- Nothing has been done yet. -/
  | empty (policy : Policy) (resolver : Resolver) (pool : Pool) :
      ReachableBy allowed { policy, resolver, pool }
  /-- One more operation. -/
  | perform {t : Table} {op : Operation} (ht : ReachableBy allowed t) (hop : allowed op) :
      ReachableBy allowed (t.perform op).table
  /-- Another resolver is installed. -/
  | resolver {t : Table} (ht : ReachableBy allowed t) (resolver : Resolver) :
      ReachableBy allowed { t with resolver }
  /-- Texts are interned. -/
  | pool {t : Table} (ht : ReachableBy allowed t) (pool : Pool) :
      ReachableBy allowed { t with pool }

/-- What operations of any sort make of an empty table. -/
def Reachable (t : Table) : Prop := ReachableBy (fun _ => True) t

theorem Reachable.ofPolicy (policy : Policy) : (ofPolicy policy).Reachable := .empty ..

theorem Reachable.perform {t : Table} (ht : t.Reachable) (op : Operation) :
    (t.perform op).table.Reachable :=
  ReachableBy.perform ht trivial

/-- Operations of a narrower sort reach no other tables. -/
theorem ReachableBy.mono {allowed allowed' : Operation → Prop} (h : ∀ op, allowed op → allowed' op)
    {t : Table} (ht : ReachableBy allowed t) : ReachableBy allowed' t := by
  induction ht with
  | empty policy resolver pool => exact .empty policy resolver pool
  | perform _ hop ih => exact .perform ih (h _ hop)
  | resolver _ resolver ih => exact .resolver ih resolver
  | pool _ pool ih => exact .pool ih pool

theorem ReachableBy.reachable {allowed : Operation → Prop} {t : Table}
    (ht : ReachableBy allowed t) : t.Reachable :=
  ht.mono fun _ _ => trivial

theorem ReachableBy.run {allowed : Operation → Prop} {t : Table} (ht : ReachableBy allowed t)
    {ops : List Operation} (hops : ∀ op ∈ ops, allowed op) : ReachableBy allowed (t.run ops).1 := by
  induction ops generalizing t with
  | nil => exact ht
  | cons op rest ih =>
    have hfirst : ReachableBy allowed (t.perform op).table :=
      .perform ht (hops op List.mem_cons_self)
    exact ih hfirst fun op hm => hops op (List.mem_cons_of_mem _ hm)

/-- A run leads from a reachable table to a reachable table. -/
theorem Reachable.run {t : Table} (ht : t.Reachable) (ops : List Operation) :
    (t.run ops).1.Reachable :=
  ReachableBy.run ht fun _ _ => trivial

/-- The operations of a run, each with its reply and with what it had to say. -/
def transcript (t : Table) (ops : List Operation) : List (Operation × Reply × Log) :=
  ops.zip (t.run ops).2

/-- What operations of the given sort make of a table.  In between, another resolver may be
installed and texts may be interned. -/
inductive LeadsTo (allowed : Operation → Prop) (t : Table) : Table → Prop where
  /-- Nothing more has been done. -/
  | refl : LeadsTo allowed t t
  /-- One more operation. -/
  | perform {u : Table} {op : Operation} (h : LeadsTo allowed t u) (hop : allowed op) :
      LeadsTo allowed t (u.perform op).table
  /-- Another resolver is installed. -/
  | resolver {u : Table} (h : LeadsTo allowed t u) (resolver : Resolver) :
      LeadsTo allowed t { u with resolver }
  /-- Texts are interned. -/
  | pool {u : Table} (h : LeadsTo allowed t u) (pool : Pool) : LeadsTo allowed t { u with pool }

/-- What is reached from a reachable table is reachable. -/
theorem Reachable.leadsTo {allowed : Operation → Prop} {t u : Table} (ht : t.Reachable)
    (h : LeadsTo allowed t u) : u.Reachable := by
  induction h with
  | refl => exact ht
  | perform _ _ ih => exact ih.perform _
  | resolver _ resolver ih => exact ReachableBy.resolver ih resolver
  | pool _ pool ih => exact ReachableBy.pool ih pool

variable (t : Table)

theorem run_cons_fst (op : Operation) (rest : List Operation) :
    (t.run (op :: rest)).1 = ((t.perform op).table.run rest).1 := rfl

theorem run_append_fst (ops more : List Operation) :
    (t.run (ops ++ more)).1 = ((t.run ops).1.run more).1 := by
  induction ops generalizing t with
  | nil => rfl
  | cons op rest ih => exact ih _

theorem transcript_cons (op : Operation) (rest : List Operation) :
    t.transcript (op :: rest) = (op, (t.perform op).answer, (t.perform op).log) ::
      (t.perform op).table.transcript rest := rfl

theorem map_fst_transcript (ops : List Operation) :
    (t.transcript ops).map Prod.fst = ops := by
  induction ops generalizing t with
  | nil => rfl
  | cons op rest ih => rw [transcript_cons, List.map_cons, ih]

theorem transcript_append (ops more : List Operation) :
    t.transcript (ops ++ more) = t.transcript ops ++ (t.run ops).1.transcript more := by
  induction ops generalizing t with
  | nil => rfl
  | cons op rest ih =>
    rw [List.cons_append, transcript_cons, transcript_cons, run_cons_fst, ih, List.cons_append]

theorem mem_of_mem_transcript {ops : List Operation} {c : Operation × Reply × Log}
    (hc : c ∈ t.transcript ops) : c.1 ∈ ops := by
  have hmem := List.mem_map_of_mem (f := Prod.fst) hc
  rwa [map_fst_transcript] at hmem

/-- What a run has to say, in order. -/
def said (t : Table) (ops : List Operation) : Log := (t.run ops).2.flatMap Prod.snd

theorem said_cons (op : Operation) (rest : List Operation) :
    t.said (op :: rest) = (t.perform op).log ++ (t.perform op).table.said rest := rfl

/-- **What is said is only ever extended at its end.** -/
theorem said_append (ops more : List Operation) :
    t.said (ops ++ more) = t.said ops ++ (t.run ops).1.said more := by
  induction ops generalizing t with
  | nil => rfl
  | cons op rest ih =>
    rw [List.cons_append, said_cons, said_cons, run_cons_fst, ih, List.append_assoc]

/-- An addition leaves the rules alone. -/
theorem add_rules (checked : Bool) (a : Addition) :
    (t.add checked a).table.policy = t.policy ∧ (t.add checked a).table.resolver = t.resolver := by
  rw [add_eq]
  exact ⟨rfl, rfl⟩

/-- Ingesting is a run of additions. -/
theorem ingest_eq_run (additions : List Addition) :
    (t.ingest additions).table = (t.run (additions.map (.add true))).1 := by
  induction additions generalizing t with
  | nil => rfl
  | cons a rest ih => exact ih _

theorem ingest_rules (additions : List Addition) :
    (t.ingest additions).table.policy = t.policy ∧
      (t.ingest additions).table.resolver = t.resolver := by
  induction additions generalizing t with
  | nil => exact ⟨rfl, rfl⟩
  | cons a rest ih =>
    obtain ⟨hpolicy, hresolver⟩ := ih (t.add true a).table
    exact ⟨hpolicy.trans (t.add_rules true a).1, hresolver.trans (t.add_rules true a).2⟩

/-- **No operation changes the rules.** -/
theorem perform_rules (op : Operation) :
    (t.perform op).table.policy = t.policy ∧ (t.perform op).table.resolver = t.resolver := by
  cases op with
  | add checked a => exact t.add_rules checked a
  | addFile checked name config source path input =>
    have hfile := add_rules { t with pool := (t.pool.intern path).1 } checked
      { name, config, value := { source, payload := .fileReference path input } }
    rw [← addFile_eq] at hfile
    exact hfile
  | declare checked d =>
    show (t.declare checked d).table.policy = _ ∧ (t.declare checked d).table.resolver = _
    rw [declare_eq]
    exact ⟨rfl, rfl⟩
  | ingest additions => exact t.ingest_rules additions
  | createPackage package id =>
    show (t.createPackage package id).table.policy = _ ∧
      (t.createPackage package id).table.resolver = _
    rcases t.createPackage_cases package id with ⟨-, he⟩ | ⟨e, r, -, -, -, he⟩ <;> rw [he] <;>
      exact ⟨rfl, rfl⟩
  | _ => exact ⟨rfl, rfl⟩

/-- **How single operations relate tables, so do runs**, when the relation is reflexive
and transitive.  No operation changes the policy, so a step may rely on it. -/
theorem run_related {R : Packages → Packages → Prop} (hrefl : ∀ ps, R ps ps)
    (htrans : ∀ {a b c}, R a b → R b c → R a c) {allowed : Operation → Prop} {t : Table}
    (hstep : ∀ (u : Table) (op : Operation), u.policy = t.policy → allowed op →
      R u.packages (u.perform op).table.packages)
    {ops : List Operation} (hops : ∀ op ∈ ops, allowed op) :
    R t.packages (t.run ops).1.packages := by
  induction ops generalizing t with
  | nil => exact hrefl _
  | cons op rest ih =>
    have hpolicy : (t.perform op).table.policy = t.policy := (t.perform_rules op).1
    have hfirst := hstep t op rfl (hops op List.mem_cons_self)
    refine htrans hfirst (ih (fun u op' hu => hstep u op' (hu.trans hpolicy)) fun op' hm => ?_)
    exact hops op' (List.mem_cons_of_mem _ hm)

/-- **What the operations of a sort keep holds of every table that they reach.**  The
property may speak of the policy, which no operation changes. -/
theorem ReachableBy.invariant {allowed : Operation → Prop} {P : Policy → Packages → Prop}
    (hempty : ∀ policy, P policy [])
    (hstep : ∀ (t : Table) (op : Operation), allowed op → P t.policy t.packages →
      P t.policy (t.perform op).table.packages)
    {t : Table} (ht : ReachableBy allowed t) : P t.policy t.packages := by
  induction ht with
  | empty policy => exact hempty policy
  | @perform t op _ hop ih =>
    rw [(t.perform_rules op).1]
    exact hstep t op hop ih
  | resolver _ _ ih => exact ih
  | pool _ _ ih => exact ih

/-- **What every operation keeps holds of every reachable table.** -/
theorem Reachable.invariant {P : Packages → Prop} (hempty : P [])
    (hstep : ∀ (t : Table) (op : Operation), P t.packages → P (t.perform op).table.packages)
    {t : Table} (ht : t.Reachable) : P t.packages :=
  ReachableBy.invariant (P := fun _ => P) (fun _ => hempty) (fun t op _ => hstep t op) ht

end Table

/-- A request as an operation. -/
def Request.operation (checked : Bool) : Request → Operation
  | .add a => .add checked a
  | .declare d => .declare checked d

/-- What an operation is about, when it is a request. -/
def Operation.subject? : Operation → Option Subject
  | .add _ a => some (.slot a.name a.key)
  | .declare _ d => some (.symbol d.name)
  | _ => none

/-- The identifier that a request supplies. -/
def Operation.suppliedIdent? : Operation → Option Ident
  | .add _ a => a.id
  | .declare _ d => d.id
  | _ => none

/-- Only requests are about something. -/
theorem Operation.exists_request {op : Operation} (h : op.subject?.isSome) :
    ∃ (checked : Bool) (r : Request), op = r.operation checked := by
  cases op with
  | add checked a => exact ⟨checked, .add a, rfl⟩
  | declare checked d => exact ⟨checked, .declare d, rfl⟩
  | _ => cases h

namespace Request
variable (checked : Bool) (r : Request)

theorem subject?_operation : (r.operation checked).subject? = some r.subject := by
  cases r <;> rfl

theorem suppliedIdent?_operation : (r.operation checked).suppliedIdent? = r.id := by
  cases r <;> rfl

theorem perform_operation (t : Table) :
    t.perform (r.operation checked) = (r.perform checked t).map .accepted := by
  cases r <;> rfl

end Request

namespace Operation

/-- The request that an operation makes, and whether it has the entry name
checked.  A file is added like any other value. -/
def request? : Operation → Option (Bool × Request)
  | .add checked a => some (checked, .add a)
  | .addFile checked name config source path input =>
    some (checked, .add { name, config, value :=
      { source, payload := .fileReference path input } })
  | .declare checked d => some (checked, .declare d)
  | _ => none

/-- The pool after an operation, which interns the path of a file and nothing else. -/
def interned (pool : Pool) : Operation → Pool
  | .addFile _ _ _ _ path _ => (pool.intern path).1
  | _ => pool

/-- The calls that an operation consists of: an ingestion adds its values one by
one, and any other operation is one call. -/
def calls : Operation → List Operation
  | .ingest additions => additions.map (.add true)
  | op => [op]

/-- An operation that makes a request comes down to it, once its texts are interned. -/
theorem perform_request {op : Operation} {checked : Bool} {r : Request}
    (h : op.request? = some (checked, r)) (t : Table) :
    t.perform op =
      (r.perform checked { t with pool := op.interned t.pool }).map Reply.accepted := by
  cases op with
  | add checked a =>
    cases h
    rfl
  | addFile checked name config source path input =>
    cases h
    exact congrArg (Outcome.map Reply.accepted) (t.addFile_eq checked name config source path input)
  | declare checked d =>
    cases h
    rfl
  | _ => cases h

theorem pool_ingest (t : Table) (additions : List Addition) :
    (t.ingest additions).table.pool = t.pool := by
  induction additions generalizing t with
  | nil => rfl
  | cons a rest ih =>
    have hfirst : (t.add true a).table.pool = t.pool := by
      rw [Table.add_eq]
      rfl
    exact (ih _).trans hfirst

/-- **Nothing but the path of a file is interned.** -/
theorem pool_perform (t : Table) (op : Operation) :
    (t.perform op).table.pool = op.interned t.pool := by
  cases op with
  | ingest additions => exact pool_ingest t additions
  | createPackage package id =>
    show (t.createPackage package id).table.pool = t.pool
    rcases t.createPackage_cases package id with ⟨-, he⟩ | ⟨e, r, -, -, -, he⟩ <;> rw [he]
  | add checked a | addFile checked name config source path input | declare checked d =>
    rw [perform_request rfl, Request.perform_eq]
    rfl
  | _ => rfl

/-- An operation leaves the table that its calls leave. -/
theorem perform_eq_run_calls (t : Table) (op : Operation) :
    (t.perform op).table = (t.run op.calls).1 := by
  cases op with
  | ingest additions => exact t.ingest_eq_run additions
  | _ => rfl

/-- A run leaves the table that its calls leave. -/
theorem run_eq_run_calls (t : Table) (ops : List Operation) :
    (t.run ops).1 = (t.run (ops.flatMap calls)).1 := by
  induction ops generalizing t with
  | nil => rfl
  | cons op rest ih =>
    rw [Table.run_cons_fst, ih, perform_eq_run_calls, List.flatMap_cons, Table.run_append_fst]

end Operation
end AppResources
