import AppResources.Proofs.Collisions
import AppResources.Proofs.FiniteMap

/-!
# Strict and overlaying tables in step

The two offered resolvers differ in one rule only: two strong values of one kind, which
are no attributes, are in conflict for the strict one, and the later of them wins for
the other (`Resolver.overlay_eq_strict_or`).  So two tables that differ in nothing but
this resolver go **in step** (`InStep`): every operation has the same answer and the
same to say on both of them, and leaves tables in step, unless it adds a value that the
strict table refuses by that rule (`InStep.perform`).

A run whose additions all succeed on the strict table is therefore the same run on the
other one.  In any other run the two are in step up to the first addition that the
strict table refuses; that addition is refused on the other table too, or it replaces a
value there by one of its kind (`lockstep_ofPolicy`).  An ingestion counts as the
additions that it consists of.
-/

namespace AppResources

/-! ## The rule in which the resolvers differ -/

/-- Both values are strong and of one kind, and they are no attributes. -/
structure Value.Redeclares (incoming existing : Value) : Prop where
  existing_strong : existing.isWeak = false
  incoming_strong : incoming.isWeak = false
  kind : incoming.kind = existing.kind
  not_attribute : existing.kind ≠ .attr

/-- **The offered resolvers differ in one rule.** -/
theorem Resolver.overlay_eq_strict_or (existing incoming : Value) :
    overlay existing incoming = strict existing incoming ∨
      strict existing incoming = .conflict ∧ overlay existing incoming = .takeNew ∧
        incoming.Redeclares existing := by
  unfold overlay strict ofSameKind
  cases hattributes : resolveAttributes? existing incoming with
  | some resolution => exact Or.inl rfl
  | none =>
    cases hincoming : incoming.isWeak with
    | true => exact Or.inl rfl
    | false =>
      cases hexisting : existing.isWeak with
      | true => exact Or.inl rfl
      | false =>
        by_cases hkind : existing.kind = incoming.kind
        · -- two attributes would have been settled by their masks
          have hnot : existing.kind ≠ .attr := by
            intro hattr
            obtain ⟨a, ha⟩ := Option.isSome_iff_exists.mp (Value.kind_eq_attr_iff.mp hattr)
            obtain ⟨b, hb⟩ := Option.isSome_iff_exists.mp
              (Value.kind_eq_attr_iff.mp (hkind.symm.trans hattr))
            simp only [resolveAttributes?, ha, hb, reduceCtorEq] at hattributes
          exact Or.inr ⟨if_pos hkind, if_pos hkind, hexisting, hincoming, hkind.symm, hnot⟩
        · exact Or.inl ((if_neg hkind).trans (if_neg hkind).symm)

/-- On tables that differ in this rule only, an addition meets the same verdict, unless
the one with the strict rule refuses it. -/
theorem Addition.verdict_overlay_or {p q : Policy} (h : q.reportOverrides = p.reportOverrides)
    (a : Addition) (existing : Option Value) (x : Table.Examination) :
    a.verdict q .overlay existing x = a.verdict p .strict existing x ∨
      (a.verdict p .strict existing x).answer = false ∧
        ∃ old id, existing = some old ∧ a.value.Redeclares old ∧
          (a.verdict q .overlay existing x).answer = true ∧
          (a.verdict q .overlay existing x).write =
            some { ident := id, slot := some (a.key, a.value) } := by
  cases x with
  | refused finding createsPath => exact Or.inl rfl
  | granted id =>
    cases existing with
    | none => exact Or.inl rfl
    | some old =>
      simp only [verdict, h]
      rcases Resolver.overlay_eq_strict_or old a.value with he | ⟨hstrict, htake, hredeclares⟩
      · rw [he]
        exact Or.inl rfl
      · rw [hstrict, htake]
        exact Or.inr ⟨rfl, old, id, rfl, hredeclares, rfl, rfl⟩

/-! ## Tables in step -/

namespace Table

/-- The tables have the same content and the same rules, except that the first resolves
collisions strictly and the second lets later values win. -/
structure InStep (s o : Table) : Prop where
  packages : o.packages = s.packages
  protectVisibility : o.policy.protectVisibility = s.policy.protectVisibility
  reportOverrides : o.policy.reportOverrides = s.policy.reportOverrides
  strict : s.resolver = .strict
  overlay : o.resolver = .overlay

/-- The outcomes have the same answer and the same log, and leave tables in step. -/
structure Together {α : Type} (s o : Outcome α) : Prop where
  answer : o.answer = s.answer
  log : o.log = s.log
  table : InStep s.table o.table

theorem Together.map {α β : Type} {s o : Outcome α} (h : Together s o) (f : α → β) :
    Together (s.map f) (o.map f) :=
  ⟨congrArg f h.answer, h.log, h.table⟩

/-- The operation replaces a strong value, which is no attribute, by a strong one of its
kind. -/
def RedeclaresBy (t : Table) (op : Operation) : Prop :=
  ∃ checked a old, op.request? = some (checked, .add a) ∧
    t.packages.value? a.name a.key = some old ∧ a.value.Redeclares old ∧
    (t.perform op).answer = .accepted true ∧
    (t.perform op).table.packages.value? a.name a.key = some a.value

namespace InStep
variable {s o : Table}

/-- The pools do not matter. -/
theorem pools (h : InStep s o) (p q : Pool) :
    InStep { s with pool := p } { o with pool := q } :=
  ⟨h.packages, h.protectVisibility, h.reportOverrides, h.strict, h.overlay⟩

/-- Tables that are given the same content stay in step. -/
theorem content (h : InStep s o) {ps qs : Packages} (hcontent : qs = ps) :
    InStep { s with packages := ps } { o with packages := qs } :=
  ⟨hcontent, h.protectVisibility, h.reportOverrides, h.strict, h.overlay⟩

theorem outcome (h : InStep s o) (v : Verdict) (name : Name) :
    Together (v.outcome s name) (v.outcome o name) :=
  ⟨rfl, rfl, h.content (by rw [h.packages])⟩

theorem answer (h : InStep s o) (change : Packages → Packages) (reply : Packages → Reply) :
    Together (s.answer (change s.packages) (reply s.packages))
      (o.answer (change o.packages) (reply o.packages)) :=
  ⟨congrArg reply h.packages, rfl, h.content (congrArg change h.packages)⟩

theorem declare (h : InStep s o) (checked : Bool) (d : Declaration) :
    Together (s.declare checked d) (o.declare checked d) := by
  have hexamine : o.examine checked d.name d.id = s.examine checked d.name d.id :=
    examine_congr (by rw [h.packages]) checked d.id
  have hverdict : ∀ current x, d.verdict o.policy current x = d.verdict s.policy current x := by
    intro current x
    cases x with
    | refused finding createsPath => rfl
    | granted id => simp only [Declaration.verdict, h.protectVisibility]
  rw [declare_eq, declare_eq, hexamine, hverdict, h.packages]
  exact h.outcome _ d.name

/-- **An addition goes in step**, or is refused by the strict table only, and replaces a
value of its kind on the other one. -/
theorem add_or (h : InStep s o) (checked : Bool) (a : Addition) :
    Together (s.add checked a) (o.add checked a) ∨
      (s.add checked a).answer = false ∧ ∃ old, o.packages.value? a.name a.key = some old ∧
        a.value.Redeclares old ∧ (o.add checked a).answer = true ∧
        (o.add checked a).table.packages.value? a.name a.key = some a.value := by
  have hexamine : o.examine checked a.name a.id = s.examine checked a.name a.id :=
    examine_congr (by rw [h.packages]) checked a.id
  rw [add_eq, add_eq, hexamine, h.packages, h.strict, h.overlay]
  rcases a.verdict_overlay_or h.reportOverrides (s.packages.value? a.name a.key)
    (s.examine checked a.name a.id) with he | ⟨hrefused, old, id, hold, hredeclares, hadded, hw⟩
  · rw [he]
    exact Or.inl (h.outcome _ a.name)
  · refine Or.inr ⟨hrefused, old, hold, hredeclares, hadded, ?_⟩
    simp only [Verdict.outcome, Verdict.content, hw, Packages.value?_write, and_self, if_true]

/-- The same of an operation that adds a value or a file. -/
theorem perform_addition_or (h : InStep s o) {op : Operation} {checked : Bool} {a : Addition}
    (hop : op.request? = some (checked, .add a)) :
    Together (s.perform op) (o.perform op) ∨
      (s.perform op).answer = .accepted false ∧ o.RedeclaresBy op := by
  unfold RedeclaresBy
  rw [Operation.perform_request hop, Operation.perform_request hop]
  rcases (h.pools (op.interned s.pool) (op.interned o.pool)).add_or checked a with
    htogether | ⟨hrefused, old, hold, hredeclares, hadded, hvalue⟩
  · exact Or.inl (htogether.map _)
  · exact Or.inr ⟨congrArg Reply.accepted hrefused, checked, a, old, hop, hold, hredeclares,
      congrArg Reply.accepted hadded, hvalue⟩

/-- An addition that succeeds on the strict table goes in step. -/
theorem perform_addition (h : InStep s o) {op : Operation} {checked : Bool} {a : Addition}
    (hop : op.request? = some (checked, .add a))
    (hadded : (s.perform op).answer = .accepted true) :
    Together (s.perform op) (o.perform op) := by
  rcases h.perform_addition_or hop with htogether | ⟨hrefused, -⟩
  · exact htogether
  · rw [hadded] at hrefused
    cases hrefused

theorem ingest (h : InStep s o) {additions : List Addition}
    (hadded : (s.ingest additions).answer = true) :
    Together (s.ingest additions) (o.ingest additions) := by
  induction additions generalizing s o with
  | nil => exact ⟨rfl, rfl, h⟩
  | cons a rest ih =>
    obtain ⟨hfirst, hothers⟩ := (Bool.and_eq_true_iff ..).mp hadded
    rcases h.add_or true a with htogether | ⟨hrefused, -⟩
    · have hrest := ih htogether.table hothers
      refine ⟨?_, ?_, hrest.table⟩
      · exact congrArg₂ (· && ·) htogether.answer hrest.answer
      · exact congrArg₂ (· ++ ·) htogether.log hrest.log
    · rw [hrefused] at hfirst
      cases hfirst

theorem createPackage (h : InStep s o) (package : String) (id : Option UInt8) :
    Together (s.createPackage package id) (o.createPackage package id) := by
  unfold Table.createPackage
  rw [h.packages]
  cases (s.packages.package? package).bind Package.id with
  | none => cases id <;> exact ⟨rfl, rfl, h.content rfl⟩
  | some e =>
    cases id with
    | none => exact ⟨rfl, rfl, h.content rfl⟩
    | some r =>
      by_cases he : e = r
      · simp only [he, if_true]
        exact ⟨rfl, rfl, h⟩
      · simp only [he, if_false]
        exact ⟨rfl, rfl, h⟩

/-- **Every operation goes in step**, unless it adds values and the strict table refuses
some of them. -/
theorem perform (h : InStep s o) {op : Operation}
    (hadded : op.isAddition = true → (s.perform op).answer = .accepted true) :
    Together (s.perform op) (o.perform op) := by
  cases op with
  | add checked a | addFile checked name config source path input =>
    exact h.perform_addition rfl (hadded rfl)
  | declare checked d => exact (h.declare checked d).map _
  | ingest additions => exact (h.ingest (Reply.accepted.inj (hadded rfl))).map _
  | createPackage package id => exact (h.createPackage package id).map _
  | ensurePackage package => exact h.answer (·.withPackage package fun p => p) fun _ => .done
  | ensureGroup package type => exact h.answer (·.withGroup package type fun g => g) fun _ => .done
  | ensureEntry name => exact h.answer (·.withEntry name fun e => e) fun _ => .done
  | ensureSlot name key => exact h.answer (·.withEntry name fun e => e.withSlot key) fun _ => .done
  | removeSlot name key =>
    exact h.answer (·.removeSlot name key) fun ps => .removed (ps.slot? name key)
  | edit change => exact h.answer (·.edit change) fun _ => .done

end InStep

/-! ## Runs -/

/-- Every addition of the run succeeds. -/
def CleanRun (t : Table) (ops : List Operation) : Prop :=
  ∀ c ∈ t.transcript ops, c.1.isAddition = true → c.2.1 = .accepted true

theorem cleanRun_nil (t : Table) : t.CleanRun [] := fun _ hc => nomatch hc

theorem cleanRun_cons (t : Table) (op : Operation) (rest : List Operation) :
    t.CleanRun (op :: rest) ↔ (op.isAddition = true → (t.perform op).answer = .accepted true) ∧
      (t.perform op).table.CleanRun rest := by
  rw [CleanRun, transcript_cons, List.forall_mem_cons]
  rfl

theorem cleanRun_append (t : Table) (ops more : List Operation) :
    t.CleanRun (ops ++ more) ↔ t.CleanRun ops ∧ (t.run ops).1.CleanRun more := by
  rw [CleanRun, transcript_append, List.forall_mem_append]
  rfl

theorem cleanRun_additions (t : Table) (additions : List Addition) :
    t.CleanRun (additions.map (.add true)) ↔ (t.ingest additions).answer = true := by
  induction additions generalizing t with
  | nil => exact iff_of_true t.cleanRun_nil rfl
  | cons a rest ih =>
    have hfirst : ((Operation.add true a).isAddition = true →
        (t.perform (.add true a)).answer = .accepted true) ↔ (t.add true a).answer = true :=
      ⟨fun h => Reply.accepted.inj (h rfl), fun h _ => congrArg Reply.accepted h⟩
    rw [List.map_cons, cleanRun_cons, hfirst]
    exact (and_congr_right fun _ => ih _).trans (Bool.and_eq_true_iff ..).symm

/-- An operation is clean when its calls are. -/
theorem cleanRun_calls_iff (t : Table) (op : Operation) : t.CleanRun op.calls ↔
    (op.isAddition = true → (t.perform op).answer = .accepted true) := by
  cases op with
  | ingest additions =>
    refine (t.cleanRun_additions additions).trans ⟨fun h _ => congrArg Reply.accepted h, fun h => ?_⟩
    exact Reply.accepted.inj (h rfl)
  | _ => exact (t.cleanRun_cons _ []).trans (and_iff_left (cleanRun_nil _))

/-- A run is clean when its calls are. -/
theorem cleanRun_calls (t : Table) (ops : List Operation) :
    t.CleanRun (ops.flatMap Operation.calls) ↔ t.CleanRun ops := by
  induction ops generalizing t with
  | nil => exact Iff.rfl
  | cons op rest ih =>
    rw [List.flatMap_cons, cleanRun_append, cleanRun_cons, cleanRun_calls_iff,
      ← Operation.perform_eq_run_calls, ih]

/-- A run that is not clean has a first addition that does not succeed. -/
theorem exists_first_refused {t : Table} {ops : List Operation} (h : ¬ t.CleanRun ops) :
    ∃ before call after, ops = before ++ call :: after ∧ t.CleanRun before ∧
      call.isAddition = true ∧ ((t.run before).1.perform call).answer ≠ .accepted true := by
  induction ops generalizing t with
  | nil => exact absurd t.cleanRun_nil h
  | cons op rest ih =>
    by_cases hop : op.isAddition = true → (t.perform op).answer = .accepted true
    · have hrest : ¬ (t.perform op).table.CleanRun rest :=
        fun hr => h ((t.cleanRun_cons op rest).mpr ⟨hop, hr⟩)
      obtain ⟨before, call, after, rfl, hbefore, hadd, hrefused⟩ := ih hrest
      have hclean := (t.cleanRun_cons op before).mpr ⟨hop, hbefore⟩
      exact ⟨op :: before, call, after, rfl, hclean, hadd, hrefused⟩
    · obtain ⟨hadd, hrefused⟩ := Classical.not_imp.mp hop
      exact ⟨[], op, rest, rfl, t.cleanRun_nil, hadd, hrefused⟩

end Table

namespace Operation

/-- A call that adds, adds one value. -/
theorem request?_of_mem_calls {ops : List Operation} {call : Operation}
    (hcall : call ∈ ops.flatMap calls) (hadd : call.isAddition = true) :
    ∃ checked a, call.request? = some (checked, .add a) := by
  obtain ⟨op, -, hcall⟩ := List.mem_flatMap.mp hcall
  cases op with
  | ingest additions =>
    obtain ⟨a, -, rfl⟩ := List.mem_map.mp hcall
    exact ⟨true, a, rfl⟩
  | add checked a =>
    cases List.mem_singleton.mp hcall
    exact ⟨checked, a, rfl⟩
  | addFile checked name config source path input =>
    cases List.mem_singleton.mp hcall
    exact ⟨checked, _, rfl⟩
  | _ =>
    cases List.mem_singleton.mp hcall
    cases hadd

end Operation

namespace Table

/-- **A clean run goes in step.** -/
theorem InStep.run {s o : Table} (h : InStep s o) {ops : List Operation} (hclean : s.CleanRun ops) :
    o.transcript ops = s.transcript ops ∧ InStep (s.run ops).1 (o.run ops).1 := by
  induction ops generalizing s o with
  | nil => exact ⟨rfl, h⟩
  | cons op rest ih =>
    obtain ⟨hadded, hrest⟩ := (s.cleanRun_cons op rest).mp hclean
    have htogether := h.perform hadded
    obtain ⟨htranscript, htable⟩ := ih htogether.table hrest
    refine ⟨?_, htable⟩
    rw [transcript_cons, transcript_cons, htogether.answer, htogether.log, htranscript]

/-- **A strict table and one on which later values win go in step** until the strict one
refuses an addition. -/
structure Lockstep (strict overlay : Table) (ops : List Operation) : Prop where
  /-- When every addition succeeds on the strict table, every operation has the same
  answer and the same to say on both, and both end with the same content. -/
  clean : strict.CleanRun ops → overlay.transcript ops = strict.transcript ops ∧
    (overlay.run ops).1.packages = (strict.run ops).1.packages
  /-- Otherwise there is a first addition, on its own or within an ingestion, that the
  strict table refuses.  Up to it, both tables have answered and said the same and have
  the same content; the other table refuses it too, or replaces a strong value by one of
  its kind. -/
  parted : ¬ strict.CleanRun ops → ∃ before call after,
    ops.flatMap Operation.calls = before ++ call :: after ∧
    strict.CleanRun before ∧ call.isAddition = true ∧
    ((strict.run before).1.perform call).answer = .accepted false ∧
    overlay.transcript before = strict.transcript before ∧
    (overlay.run before).1.packages = (strict.run before).1.packages ∧
    (((overlay.run before).1.perform call).answer = .accepted false ∨
      (overlay.run before).1.RedeclaresBy call)

theorem InStep.lockstep {s o : Table} (h : InStep s o) (ops : List Operation) :
    Lockstep s o ops := by
  constructor
  · intro hclean
    obtain ⟨htranscript, htable⟩ := h.run hclean
    exact ⟨htranscript, htable.packages⟩
  · intro hnot
    rw [← cleanRun_calls] at hnot
    obtain ⟨before, call, after, hops, hbefore, hadd, hne⟩ := exists_first_refused hnot
    obtain ⟨htranscript, htable⟩ := h.run hbefore
    obtain ⟨checked, a, hrequest⟩ := Operation.request?_of_mem_calls
      (hops ▸ List.mem_append_right before List.mem_cons_self) hadd
    have hrefused : ((s.run before).1.perform call).answer = .accepted false := by
      rw [Operation.perform_request hrequest] at hne ⊢
      exact congrArg Reply.accepted (eq_false_of_ne_true fun ht => hne (congrArg _ ht))
    refine ⟨before, call, after, hops, hbefore, hadd, hrefused, htranscript, htable.packages, ?_⟩
    rcases htable.perform_addition_or hrequest with htogether | ⟨-, hredeclares⟩
    · exact Or.inl (htogether.answer.trans hrefused)
    · exact Or.inr hredeclares

/-- **A build that is clean in strict mode is the same build in default mode**, for two
empty tables whose policies differ in nothing but how they treat collisions. -/
theorem lockstep_ofPolicy (policy : Policy) (p q : Pool) (ops : List Operation) :
    Lockstep { ofPolicy { policy with strictCollisions := true } with pool := p }
      { ofPolicy { policy with strictCollisions := false } with pool := q } ops := by
  have hinStep : InStep { ofPolicy { policy with strictCollisions := true } with pool := p }
      { ofPolicy { policy with strictCollisions := false } with pool := q } :=
    ⟨rfl, rfl, rfl, rfl, rfl⟩
  exact hinStep.lockstep ops

/-- A second title is refused by the strict table, and replaces the first one on the
other. -/
example :
    let title (text : String) : Operation :=
      .add true { name := ⟨"app", .string, "title"⟩, value := { payload := .string text } }
    let failures (strictCollisions : Bool) : List Bool :=
      ((ofPolicy { strictCollisions }).run [title "T", title "U"]).2.map fun c => c.1.isFailure
    failures true = [false, true] ∧ failures false = [false, false] :=
  ⟨rfl, rfl⟩

end Table
end AppResources
