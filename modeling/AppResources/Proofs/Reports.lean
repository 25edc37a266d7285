import AppResources.Proofs.Refusals

/-!
# Answers and diagnostics

An operation says twice how it went: by its answer, and by what it writes to the log.
The two account for each other.  `AdditionSays` and `DeclarationSays` list what a
request can say, each case with the answer that goes with it: a request that fails
writes one error, and one that succeeds writes none.  Notes, remarks and warnings only
come with what they are about — a conflict, a value that was replaced, a declaration
that was passed over.

So the number of errors in a log is the number of calls that were refused
(`count_error_said`), an ingestion that was answered with success wrote no error
(`hasErrors_ingest`), and a table that does not report replaced values does all that one
that reports them does, and says the rest of it (`perform_quiet`).  `accountable` puts
this together.
-/

namespace AppResources

/-! ## What a request can say -/

/-- The diagnostic is of this severity and this category, and about this place. -/
structure Diagnostic.Is (d : Diagnostic) (severity : Severity) (category : Category)
    (source : Source) : Prop where
  severity : d.severity = severity
  category : d.category = category
  source : d.source = some source

/-- The diagnostic refuses a request made at this place, for its entry name or for its
identifier. -/
def Diagnostic.IsRefusal (d : Diagnostic) (source : Source) : Prop :=
  d.Is .error .name source ∨ d.Is .error .identifier source

theorem Diagnostic.IsRefusal.severity {d : Diagnostic} {source : Source}
    (h : d.IsRefusal source) : d.severity = .error :=
  h.elim Is.severity Is.severity

/-- **What an addition says**, from the value in its slot, with its answer. -/
inductive AdditionSays (policy : Policy) (resolver : Resolver) (existing : Option Value)
    (a : Addition) : Bool → Log → Prop where
  /-- The entry name or the identifier is refused, and nothing else is said. -/
  | refused {e : Diagnostic} (he : e.IsRefusal a.value.source) :
      AdditionSays policy resolver existing a false [e]
  /-- The value is in conflict with the one that is there, which the note is about. -/
  | conflict {old : Value} {e n : Diagnostic} (hold : existing = some old)
      (hr : resolver old a.value = .conflict) (he : e.Is .error .collision a.value.source)
      (hn : n.Is .note .collision old.source) :
      AdditionSays policy resolver existing a false [e, n]
  /-- The value replaces the one that is there, and the table reports it. -/
  | overridden {old : Value} {i : Diagnostic} (hreport : policy.reportOverrides = true)
      (hold : existing = some old) (hr : resolver old a.value = .takeNew)
      (hi : i.Is .info .collision a.value.source) :
      AdditionSays policy resolver existing a true [i]
  /-- No value is replaced, or the table does not report it. -/
  | silent (h : ¬ (policy.reportOverrides = true ∧
      ∃ old, existing = some old ∧ resolver old a.value = .takeNew)) :
      AdditionSays policy resolver existing a true []

/-- **What a declaration says**, from the symbol of its entry, with its answer. -/
inductive DeclarationSays (policy : Policy) (current : Symbol) (d : Declaration) :
    Bool → Log → Prop where
  /-- The entry name or the identifier is refused, and nothing else is said. -/
  | refused {e : Diagnostic} (he : e.IsRefusal d.symbol.source) :
      DeclarationSays policy current d false [e]
  /-- The declaration would weaken its entry, and the table passes over it. -/
  | passedOver {w : Diagnostic} (hprotect : policy.protectVisibility = true)
      (hweaker : d.symbol.state.weakerThan current.state = true)
      (hw : w.Is .warning .symbol d.symbol.source) : DeclarationSays policy current d true [w]
  /-- The declaration is carried out. -/
  | silent (h : ¬ (policy.protectVisibility = true ∧
      d.symbol.state.weakerThan current.state = true)) : DeclarationSays policy current d true []

theorem Log.hasErrors_append (log more : Log) :
    Log.hasErrors (log ++ more) = (log.hasErrors || more.hasErrors) :=
  List.any_append

theorem Log.count_append (log more : Log) (s : Severity) :
    Log.count (log ++ more) s = log.count s + more.count s :=
  List.countP_append

namespace AdditionSays
variable {policy : Policy} {resolver : Resolver} {existing : Option Value} {a : Addition}
  {flag : Bool} {log : Log}

/-- An addition that fails writes one error, and one that succeeds writes none. -/
theorem count_error (h : AdditionSays policy resolver existing a flag log) :
    log.count .error = if flag then 0 else 1 := by
  cases h with
  | refused he => simp [Log.count, he.severity]
  | conflict _ _ he hn => simp [Log.count, he.severity, hn.severity]
  | overridden _ _ _ hi => simp [Log.count, hi.severity]
  | silent => rfl

theorem failed_iff (h : AdditionSays policy resolver existing a flag log) :
    flag = false ↔ log.count .error = 1 := by
  rw [h.count_error]
  cases flag <;> decide

theorem hasErrors (h : AdditionSays policy resolver existing a flag log) :
    log.hasErrors = !flag := by
  cases h with
  | refused he => simp [Log.hasErrors, he.severity]
  | conflict _ _ he hn => simp [Log.hasErrors, he.severity]
  | overridden _ _ _ hi => simp [Log.hasErrors, hi.severity]
  | silent => rfl

end AdditionSays

namespace DeclarationSays
variable {policy : Policy} {current : Symbol} {d : Declaration} {flag : Bool} {log : Log}

theorem count_error (h : DeclarationSays policy current d flag log) :
    log.count .error = if flag then 0 else 1 := by
  cases h with
  | refused he => simp [Log.count, he.severity]
  | passedOver _ _ hw => simp [Log.count, hw.severity]
  | silent => rfl

/-- A declaration fails when all that it says is an error. -/
theorem failed_iff (h : DeclarationSays policy current d flag log) :
    flag = false ↔ ∃ e : Diagnostic, log = [e] ∧ e.IsRefusal d.symbol.source := by
  cases h with
  | refused he => exact ⟨fun _ => ⟨_, rfl, he⟩, fun _ => rfl⟩
  | passedOver _ _ hw =>
    refine ⟨(nomatch ·), ?_⟩
    rintro ⟨e, hlog, he⟩
    cases hlog
    cases hw.severity.symm.trans he.severity
  | silent =>
    refine ⟨(nomatch ·), ?_⟩
    rintro ⟨e, hlog, -⟩
    cases hlog

end DeclarationSays

/-! ## What requests say -/

namespace Table
variable (t : Table)

/-- The finding of a refused request is an error about its name or its identifier. -/
theorem isRefusal_of_refused {t : Table} {checked : Bool} {name : Name} {id : Option Ident}
    {finding : Finding} {createsPath : Bool}
    (hx : t.examine checked name id = .refused finding createsPath) (source : Source) :
    (finding.about source).IsRefusal source := by
  rcases examine_refused_cases hx with ⟨-, -, c, -, rfl⟩ | ⟨-, i, d, -, -, -, rfl⟩
  · exact Or.inl ⟨rfl, rfl, rfl⟩
  · exact Or.inr ⟨rfl, rfl, rfl⟩

theorem add_says (checked : Bool) (a : Addition) :
    AdditionSays t.policy t.resolver (t.packages.value? a.name a.key) a
      (t.add checked a).answer (t.add checked a).log := by
  rw [add_eq]
  cases hx : t.examine checked a.name a.id with
  | refused finding createsPath => exact .refused (isRefusal_of_refused hx _)
  | granted id =>
    cases hold : t.packages.value? a.name a.key with
    | none => exact .silent fun ⟨_, _, he, _⟩ => nomatch he
    | some old =>
      cases hr : t.resolver old a.value with
      | keepOriginal =>
        simp only [Verdict.outcome, Addition.verdict, hr]
        refine .silent ?_
        rintro ⟨-, old', he, hr'⟩
        cases he
        rw [hr] at hr'
        cases hr'
      | takeNew =>
        simp only [Verdict.outcome, Addition.verdict, hr]
        split
        · rename_i hreport
          exact .overridden hreport rfl hr ⟨rfl, rfl, rfl⟩
        · rename_i hreport
          exact .silent fun h => hreport h.1
      | conflict =>
        simp only [Verdict.outcome, Addition.verdict, hr]
        exact .conflict rfl hr ⟨rfl, rfl, rfl⟩ ⟨rfl, rfl, rfl⟩

theorem declare_says (checked : Bool) (d : Declaration) :
    DeclarationSays t.policy (t.packages.entryAt d.name).symbol d
      (t.declare checked d).answer (t.declare checked d).log := by
  rw [declare_eq]
  cases hx : t.examine checked d.name d.id with
  | refused finding createsPath => exact .refused (isRefusal_of_refused hx _)
  | granted id =>
    simp only [Verdict.outcome, Declaration.verdict]
    split
    · rename_i hpass
      obtain ⟨hprotect, hweaker⟩ := (Bool.and_eq_true_iff ..).mp hpass
      exact .passedOver hprotect hweaker ⟨rfl, rfl, rfl⟩
    · rename_i hpass
      exact .silent fun h => hpass ((Bool.and_eq_true_iff ..).mpr h)

/-- An addition, of a value or of a file, says what goes with its answer. -/
theorem perform_says {op : Operation} {checked : Bool} {a : Addition}
    (hop : op.request? = some (checked, .add a)) : ∃ flag,
      (t.perform op).answer = .accepted flag ∧
      AdditionSays t.policy t.resolver (t.packages.value? a.name a.key) a flag
        (t.perform op).log := by
  rw [Operation.perform_request hop]
  exact ⟨_, rfl, add_says { t with pool := op.interned t.pool } checked a⟩

/-- **An ingestion succeeds when it writes no error.** -/
theorem hasErrors_ingest (additions : List Addition) :
    (t.ingest additions).log.hasErrors = !(t.ingest additions).answer := by
  induction additions generalizing t with
  | nil => rfl
  | cons a rest ih =>
    have hfirst := (t.add_says true a).hasErrors
    show Log.hasErrors ((t.add true a).log ++ ((t.add true a).table.ingest rest).log) =
      !((t.add true a).answer && ((t.add true a).table.ingest rest).answer)
    rw [Log.hasErrors_append, hfirst, ih, Bool.not_and]

end Table

/-! ## Errors are refusals -/

/-- The answer is that the request was refused. -/
def Reply.isRefusal : Reply → Bool
  | accepted flag => !flag
  | _ => false

namespace Table
variable (t : Table)

/-- The calls that were refused. -/
def refusals (t : Table) (ops : List Operation) : Nat :=
  (t.transcript ops).countP fun c => c.2.1.isRefusal

theorem refusals_append (ops more : List Operation) :
    t.refusals (ops ++ more) = t.refusals ops + (t.run ops).1.refusals more := by
  rw [refusals, transcript_append, List.countP_append]
  rfl

theorem refusals_singleton (op : Operation) :
    t.refusals [op] = if (t.perform op).answer.isRefusal then 1 else 0 := by
  rw [refusals, transcript_cons, List.countP_cons]
  exact Nat.zero_add _

/-- A request writes one error if it is refused, and none otherwise. -/
theorem count_error_request (checked : Bool) (r : Request) :
    (r.perform checked t).log.count .error = if (r.perform checked t).answer then 0 else 1 := by
  cases r with
  | add a => exact (t.add_says checked a).count_error
  | declare d => exact (t.declare_says checked d).count_error

theorem count_error_of_request {op : Operation} {checked : Bool} {r : Request}
    (hop : op.request? = some (checked, r)) :
    (t.perform op).log.count .error = t.refusals [op] := by
  rw [refusals_singleton, Operation.perform_request hop]
  have hcount := count_error_request { t with pool := op.interned t.pool } checked r
  refine hcount.trans ?_
  show _ = if !(r.perform checked { t with pool := op.interned t.pool }).answer then 1 else 0
  cases (r.perform checked { t with pool := op.interned t.pool }).answer <;> rfl

/-- An ingestion writes an error for each addition that is refused. -/
theorem count_error_ingest (additions : List Addition) :
    (t.ingest additions).log.count .error = t.refusals (additions.map (.add true)) := by
  induction additions generalizing t with
  | nil => rfl
  | cons a rest ih =>
    have hfirst : (t.perform (.add true a)).log.count .error = t.refusals [.add true a] :=
      t.count_error_of_request rfl
    have hsplit := t.refusals_append [.add true a] (rest.map (.add true))
    show Log.count ((t.perform (.add true a)).log ++ ((t.add true a).table.ingest rest).log) _ = _
    rw [Log.count_append, hfirst, ih]
    exact hsplit.symm

/-- An operation writes an error for each of its calls that is refused. -/
theorem count_error_perform (op : Operation) :
    (t.perform op).log.count .error = t.refusals op.calls := by
  cases op with
  | add checked a | addFile checked name config source path input | declare checked d =>
    exact t.count_error_of_request rfl
  | ingest additions => exact t.count_error_ingest additions
  | createPackage package id =>
    show (t.createPackage package id).log.count .error = t.refusals [.createPackage package id]
    rw [refusals_singleton]
    show _ = if (Reply.ofCreation (t.createPackage package id).answer).isRefusal then 1 else 0
    rcases t.createPackage_cases package id with ⟨-, he⟩ | ⟨e, r, -, -, -, he⟩ <;> rw [he] <;> rfl
  | _ => rfl

/-- **The errors of a run are its refusals.** -/
theorem count_error_said (ops : List Operation) :
    (t.said ops).count .error = t.refusals (ops.flatMap Operation.calls) := by
  induction ops generalizing t with
  | nil => rfl
  | cons op rest ih =>
    rw [said_cons, Log.count_append, List.flatMap_cons, refusals_append, count_error_perform, ih,
      ← Operation.perform_eq_run_calls]

end Table

/-! ## Reports of replaced values -/

/-- The log without the remarks on values that were replaced. -/
def Log.withoutOverrides (log : Log) : Log :=
  log.filter fun d => !(d.severity == .info && d.category == .collision)

theorem Log.withoutOverrides_append (log more : Log) :
    Log.withoutOverrides (log ++ more) = log.withoutOverrides ++ more.withoutOverrides :=
  List.filter_append ..

/-- What is no remark stays. -/
theorem Log.withoutOverrides_singleton {d : Diagnostic} (h : d.severity ≠ .info) :
    Log.withoutOverrides [d] = [d] := by
  simp [Log.withoutOverrides, h]

/-- The same table, except that it does not report replaced values. -/
def Table.quiet (t : Table) : Table := { t with policy := { t.policy with reportOverrides := false } }

/-- The outcome on a table that does not report replaced values. -/
def Outcome.quiet {α : Type} (o : Outcome α) : Outcome α :=
  ⟨o.table.quiet, o.answer, o.log.withoutOverrides⟩

theorem Request.verdict_quiet {t : Table} {checked : Bool} {r : Request} {x : Table.Examination}
    (hx : t.examine checked r.name r.id = x) (existing : Option Value) (current : Symbol) :
    r.verdict t.quiet.policy t.resolver existing current x =
      { r.verdict t.policy t.resolver existing current x with
        log := (r.verdict t.policy t.resolver existing current x).log.withoutOverrides } := by
  cases x with
  | refused finding createsPath =>
    have hkeep : ∀ source, Log.withoutOverrides [finding.about source] = [finding.about source] := by
      intro source
      have herror := (Table.isRefusal_of_refused hx source).severity
      exact Log.withoutOverrides_singleton (by rw [herror]; decide)
    cases r with
    | add a => exact congrArg (Verdict.mk false · _) (hkeep a.value.source).symm
    | declare d => exact congrArg (Verdict.mk false · _) (hkeep d.symbol.source).symm
  | granted id =>
    cases r with
    | add a =>
      cases existing with
      | none => rfl
      | some old =>
        simp only [verdict, Addition.verdict]
        cases t.resolver old a.value with
        | keepOriginal => rfl
        | takeNew => cases h : t.policy.reportOverrides <;> rfl
        | conflict => rfl
    | declare d =>
      have hprotect : t.quiet.policy.protectVisibility = t.policy.protectVisibility := rfl
      simp only [verdict, Declaration.verdict, hprotect]
      split <;> rfl

namespace Table
variable (t : Table)

theorem request_quiet (checked : Bool) (r : Request) :
    r.perform checked t.quiet = (r.perform checked t).quiet := by
  have hx : t.quiet.examine checked r.name r.id = t.examine checked r.name r.id :=
    examine_congr rfl checked r.id
  rw [r.perform_eq, r.perform_eq, hx]
  have hverdict := Request.verdict_quiet (rfl : t.examine checked r.name r.id = _)
    (r.existing t.packages) (r.current t.packages)
  exact congrArg (Verdict.outcome · t.quiet r.name) hverdict

theorem ingest_quiet (additions : List Addition) :
    t.quiet.ingest additions = (t.ingest additions).quiet := by
  induction additions generalizing t with
  | nil => rfl
  | cons a rest ih =>
    have hfirst : t.quiet.add true a = (t.add true a).quiet := t.request_quiet true (.add a)
    have hrest := ih (t.add true a).table
    unfold ingest
    rw [hfirst]
    simp only [Outcome.quiet] at hrest ⊢
    rw [hrest, Log.withoutOverrides_append]

theorem perform_quiet_of_request {op : Operation} {checked : Bool} {r : Request}
    (hop : op.request? = some (checked, r)) : t.quiet.perform op = (t.perform op).quiet := by
  rw [Operation.perform_request hop, Operation.perform_request hop]
  exact congrArg (Outcome.map Reply.accepted)
    (request_quiet { t with pool := op.interned t.pool } checked r)

/-- **Whether replaced values are reported shows in nothing but the reports.** -/
theorem perform_quiet (op : Operation) : t.quiet.perform op = (t.perform op).quiet := by
  cases op with
  | add checked a | addFile checked name config source path input | declare checked d =>
    exact t.perform_quiet_of_request rfl
  | ingest additions => exact congrArg (Outcome.map Reply.accepted) (t.ingest_quiet additions)
  | createPackage package id =>
    have hcreate : t.quiet.createPackage package id = (t.createPackage package id).quiet := by
      unfold createPackage
      have hpackages : t.quiet.packages = t.packages := rfl
      rw [hpackages]
      cases (t.packages.package? package).bind Package.id with
      | none => cases id <;> rfl
      | some e =>
        cases id with
        | none => rfl
        | some r => by_cases he : e = r <;> simp only [he, if_true, if_false] <;> rfl
    exact congrArg (Outcome.map Reply.ofCreation) hcreate
  | _ => rfl

theorem run_quiet (ops : List Operation) : (t.quiet.run ops).1 = (t.run ops).1.quiet ∧
    t.quiet.transcript ops =
      (t.transcript ops).map fun c => (c.1, c.2.1, c.2.2.withoutOverrides) := by
  induction ops generalizing t with
  | nil => exact ⟨rfl, rfl⟩
  | cons op rest ih =>
    obtain ⟨htable, hrest⟩ := ih (t.perform op).table
    rw [run_cons_fst, run_cons_fst, transcript_cons, transcript_cons, perform_quiet, List.map_cons]
    exact ⟨htable, congrArg _ hrest⟩

/-! ## Answers and diagnostics account for each other -/

/-- **Answers and diagnostics account for each other.** -/
structure Accountable (t : Table) : Prop where
  /-- An addition, of a value or of a file, fails when it writes exactly one error; what
  else it writes goes with its answer. -/
  addition : ∀ op checked a, op.request? = some (checked, .add a) → ∃ flag,
    (t.perform op).answer = .accepted flag ∧
    (flag = false ↔ (t.perform op).log.count .error = 1) ∧
    AdditionSays t.policy t.resolver (t.packages.value? a.name a.key) a flag (t.perform op).log
  /-- A declaration fails when it writes an error and nothing else; what else it writes
  goes with its answer. -/
  declaration : ∀ checked d, ∃ flag,
    (t.perform (.declare checked d)).answer = .accepted flag ∧
    (flag = false ↔ ∃ e : Diagnostic, (t.perform (.declare checked d)).log = [e] ∧
      e.IsRefusal d.symbol.source) ∧
    DeclarationSays t.policy (t.packages.entryAt d.name).symbol d flag
      (t.perform (.declare checked d)).log
  /-- An ingestion succeeds when it writes no error. -/
  ingestion : ∀ additions, ∃ flag, (t.perform (.ingest additions)).answer = .accepted flag ∧
    (flag = true ↔ (t.perform (.ingest additions)).log.hasErrors = false)
  /-- A run writes an error for each call that is refused, be it on its own or within an
  ingestion. -/
  errors : ∀ ops, (t.said ops).count .error = t.refusals (ops.flatMap Operation.calls)
  /-- What is written is only ever extended at its end. -/
  extended : ∀ ops more, t.said (ops ++ more) = t.said ops ++ (t.run ops).1.said more
  /-- Without reports of replaced values, every call has the same answer and leaves the
  same content; what it writes lacks the reports and nothing else. -/
  reports : ∀ ops, (t.quiet.run ops).1 = (t.run ops).1.quiet ∧
    t.quiet.transcript ops =
      (t.transcript ops).map fun c => (c.1, c.2.1, c.2.2.withoutOverrides)

/-- **Whatever the table and its resolver, answers and diagnostics account for each
other.** -/
theorem accountable (t : Table) : Accountable t := by
  constructor
  · intro op checked a hop
    obtain ⟨flag, hanswer, hsays⟩ := t.perform_says hop
    exact ⟨flag, hanswer, hsays.failed_iff, hsays⟩
  · intro checked d
    have hsays := t.declare_says checked d
    exact ⟨_, rfl, hsays.failed_iff, hsays⟩
  · intro additions
    refine ⟨_, rfl, ?_⟩
    show _ ↔ (t.ingest additions).log.hasErrors = false
    rw [hasErrors_ingest, Bool.not_eq_false']
  · exact t.count_error_said
  · exact t.said_append
  · exact t.run_quiet

end Table
end AppResources
