import AppResources.Proofs.Runs

/-!
# Requests may change places

Two requests are about different things when their **subjects** differ: one
slot, or the symbol of one entry.  Such requests still meet — they create nodes
of one path, record identifiers on the same levels and export the same type —
and yet their order does not matter (`run_reordered`):

* without identifiers, every order of a list of requests that keeps the order
  of the requests about one subject leaves the same packages, and every request
  gets the same answer and has the same to say;
* with identifiers the same holds of a list in which every request succeeds.

Both come from one fact about two requests in succession, `Swap`.  A verdict
depends on what is recorded along the path and on the subject; a request about
something else leaves the subject alone, and what is recorded has no part in it
when there is no identifier.  When both succeed in one order, the identifiers
agree wherever the paths meet: what the first one recorded was compared with the
identifier of the second.  Hence each is granted before the other as well, and
their writes commute.  The step from two requests to a list is that of sorting
by exchanges: the request that comes first in the new order moves to the front.
-/

namespace AppResources

/-! ## Orders that differ between subjects only -/

/-- The same elements, with those of each subject in the same order. -/
structure Reordered {α κ : Type} [DecidableEq κ] (subject : α → κ) (xs ys : List α) : Prop where
  /-- The elements are the same. -/
  perm : xs.Perm ys
  /-- Those of one subject are in the same order. -/
  order : ∀ k, xs.filter (fun x => subject x = k) = ys.filter (fun y => subject y = k)

namespace Reordered
variable {α κ : Type} [DecidableEq κ] {subject : α → κ} {xs ys zs : List α}

theorem refl (subject : α → κ) (xs : List α) : Reordered subject xs xs := ⟨.refl xs, fun _ => rfl⟩

theorem trans (h : Reordered subject xs ys) (h' : Reordered subject ys zs) :
    Reordered subject xs zs :=
  ⟨h.perm.trans h'.perm, fun k => (h.order k).trans (h'.order k)⟩

theorem cons (x : α) (h : Reordered subject xs ys) : Reordered subject (x :: xs) (x :: ys) where
  perm := h.perm.cons x
  order k := by rw [List.filter_cons, List.filter_cons, h.order k]

/-- Neighbours with different subjects change places. -/
theorem swap {x y : α} (h : subject x ≠ subject y) (xs : List α) :
    Reordered subject (x :: y :: xs) (y :: x :: xs) where
  perm := .swap y x xs
  order k := by
    by_cases hx : subject x = k
    · have hy : ¬ subject y = k := fun hy => h (hx.trans hy.symm)
      simp only [List.filter_cons, hx, hy, decide_true, decide_false, if_true,
        Bool.false_eq_true, if_false]
    · simp only [List.filter_cons, hx, decide_false, Bool.false_eq_true, if_false]

/-- What comes first in the one order stands in the other behind other subjects
only. -/
theorem exists_split {y : α} (h : Reordered subject xs (y :: ys)) : ∃ pre post,
    xs = pre ++ y :: post ∧ (∀ x ∈ pre, subject x ≠ subject y) ∧
      Reordered subject (pre ++ post) ys := by
  -- `y` is the first of its subject in both orders
  have hfirst := h.order (subject y)
  rw [List.filter_cons_of_pos (by simp)] at hfirst
  obtain ⟨pre, post, rfl, hpre, -, -⟩ := List.filter_eq_cons_iff.mp hfirst
  have hne : ∀ x ∈ pre, subject x ≠ subject y := by
    intro x hx he
    exact hpre x hx (by simpa using he)
  refine ⟨pre, post, rfl, hne, ?_, fun k => ?_⟩
  · exact (List.perm_middle.symm.trans h.perm).cons_inv
  · have hk := h.order k
    rw [List.filter_append, List.filter_cons, List.filter_cons] at hk
    rw [List.filter_append]
    by_cases hyk : subject y = k
    · have hnil : pre.filter (fun x => subject x = k) = [] := by
        refine List.filter_eq_nil_iff.mpr fun x hx => ?_
        simpa [hyk] using hne x hx
      simp only [hyk, decide_true, if_true, hnil, List.nil_append] at hk ⊢
      exact (List.cons.inj hk).2
    · simpa only [hyk, decide_false, Bool.false_eq_true, if_false] using hk

end Reordered

/-! ## Two requests in succession -/

namespace Verdict

theorem value?_content {v : Verdict} {ps : Packages} {name m : Name} {key : SlotKey}
    (h : ∀ w ∈ v.write, ∀ x ∈ w.slot, m = name → key ≠ x.1) :
    (v.content ps name).value? m key = ps.value? m key := by
  refine content_cases (P := fun ps' => ps'.value? m key = _) (fun _ => rfl) fun w hw => ?_
  rw [Packages.value?_write]
  cases hs : w.slot with
  | none => rfl
  | some x => exact if_neg fun hx => h w hw x hs hx.1 hx.2

theorem symbol_content {v : Verdict} {ps : Packages} {name m : Name}
    (h : ∀ w ∈ v.write, m = name → w.symbol = none) :
    ((v.content ps name).entryAt m).symbol = (ps.entryAt m).symbol := by
  refine content_cases (P := fun ps' => (ps'.entryAt m).symbol = _) (fun _ => rfl) fun w hw => ?_
  rw [Packages.symbol_entryAt_write]
  split
  · rename_i hm
    rw [h w hw hm, Option.getD_none]
  · rfl

end Verdict

namespace Request

/-- A request meets the same value and symbol after a request about something
else, and so has the same verdict once it has passed the same examination. -/
theorem verdict_content {r s : Request} (h : r.subject ≠ s.subject) {v : Verdict}
    {policy : Policy} {resolver : Resolver} {old : Option Value} {current : Symbol}
    {x : Table.Examination} (hv : v = r.verdict policy resolver old current x) (ps : Packages)
    (y : Table.Examination) :
    s.verdict policy resolver (s.existing (v.content ps r.name)) (s.current (v.content ps r.name))
      y = s.verdict policy resolver (s.existing ps) (s.current ps) y := by
  subst hv
  cases s with
  | add a =>
    refine congrArg (a.verdict policy resolver · y) ?_
    refine Verdict.value?_content fun w hw slot hslot hname hkey => h ?_
    rw [subject_of_write_slot hw hslot, subject, ← hname, ← hkey]
  | declare d =>
    refine congrArg (d.verdict policy · y) ?_
    refine Verdict.symbol_content fun w hw hname => Classical.byContradiction fun hsymbol => ?_
    refine h ?_
    rw [subject_of_write_symbol hw hsymbol, ← hname]
    rfl

end Request

/-- What two requests record agrees on the levels that their paths share. -/
structure SharedAgree (name other : Name) (i j : Ident) : Prop where
  package : name.package = other.package → i.package = j.package
  type : name.package = other.package → name.type = other.type → i.type = j.type
  entry : name = other → i.entry = j.entry

theorem Verdict.content_comm {r s : Request} (h : r.subject ≠ s.subject) {v v' : Verdict}
    {policy : Policy} {resolver : Resolver} {old old' : Option Value} {current current' : Symbol}
    {x y : Table.Examination} (hv : v = r.verdict policy resolver old current x)
    (hv' : v' = s.verdict policy resolver old' current' y)
    (hident : ∀ i ∈ x.ident?, ∀ j ∈ y.ident?, SharedAgree r.name s.name i j) (ps : Packages) :
    v'.content (v.content ps r.name) s.name = v.content (v'.content ps s.name) r.name := by
  unfold content
  cases hw : v.write with
  | none => rfl
  | some w =>
    cases hw' : v'.write with
    | none => rfl
    | some w' =>
      rw [hv] at hw
      rw [hv'] at hw'
      rw [← Request.ident_of_write hw, ← Request.ident_of_write hw'] at hident
      refine Packages.write_comm ps ⟨fun i hi j hj => (hident i hi j hj).package,
        fun i hi j hj => (hident i hi j hj).type, fun i hi j hj => (hident i hi j hj).entry,
        fun hname => ?_, fun hname slot hslot slot' hslot' hkey => h ?_⟩
      · by_cases hs : w.symbol = none
        · exact Or.inl hs
        · refine Or.inr (Classical.byContradiction fun hs' => h ?_)
          rw [Request.subject_of_write_symbol hw hs, Request.subject_of_write_symbol hw' hs',
            hname]
      · rw [Request.subject_of_write_slot hw hslot, Request.subject_of_write_slot hw' hslot',
          hname, hkey]

namespace Table

/-- **Two requests in succession may change places**: each has the same answer
and the same to say, and the table they leave is the same. -/
structure Swap (t : Table) (op other : Operation) : Prop where
  /-- The first request, when it comes second. -/
  answer : ((t.perform other).table.perform op).answer = (t.perform op).answer
  log : ((t.perform other).table.perform op).log = (t.perform op).log
  /-- The second request, when it comes first. -/
  answer_other : (t.perform other).answer = ((t.perform op).table.perform other).answer
  log_other : (t.perform other).log = ((t.perform op).table.perform other).log
  /-- The table they leave. -/
  table : ((t.perform other).table.perform op).table = ((t.perform op).table.perform other).table

/-- Requests about different things may change places when each passes the same
examination before the other as after it. -/
theorem swap_of_examine {t : Table} {r s : Request} (h : r.subject ≠ s.subject) {c d : Bool}
    (hr : (s.perform d t).table.examine c r.name r.id = t.examine c r.name r.id)
    (hs : (r.perform c t).table.examine d s.name s.id = t.examine d s.name s.id)
    (hident : ∀ i ∈ (t.examine c r.name r.id).ident?, ∀ j ∈ (t.examine d s.name s.id).ident?,
      SharedAgree r.name s.name i j) :
    Swap t (r.operation c) (s.operation d) := by
  have hv := r.perform_eq c t
  have hv' := s.perform_eq d t
  -- each verdict after the other request is the verdict before it
  have hvafter : r.perform c (s.perform d t).table =
      (r.verdict t.policy t.resolver (r.existing t.packages) (r.current t.packages)
        (t.examine c r.name r.id)).outcome (s.perform d t).table r.name := by
    rw [r.perform_eq, hr, hv']
    exact congrArg (Verdict.outcome · _ _) (Request.verdict_content h.symm rfl t.packages _)
  have hvafter' : s.perform d (r.perform c t).table =
      (s.verdict t.policy t.resolver (s.existing t.packages) (s.current t.packages)
        (t.examine d s.name s.id)).outcome (r.perform c t).table s.name := by
    rw [s.perform_eq, hs, hv]
    exact congrArg (Verdict.outcome · _ _) (Request.verdict_content h rfl t.packages _)
  have htable : (r.perform c (s.perform d t).table).table =
      (s.perform d (r.perform c t).table).table := by
    rw [hvafter, hvafter', hv, hv']
    exact congrArg (fun packages => { t with packages })
      (Verdict.content_comm h rfl rfl hident t.packages).symm
  constructor <;> simp only [Request.perform_operation, Outcome.map]
  · exact congrArg Reply.accepted
      ((congrArg Outcome.answer hvafter).trans (congrArg Outcome.answer hv).symm)
  · exact (congrArg Outcome.log hvafter).trans (congrArg Outcome.log hv).symm
  · exact congrArg Reply.accepted
      ((congrArg Outcome.answer hv').trans (congrArg Outcome.answer hvafter').symm)
  · exact (congrArg Outcome.log hv').trans (congrArg Outcome.log hvafter').symm
  · exact htable

/-- Requests without identifiers may change places. -/
theorem swap_of_no_ident (t : Table) {r s : Request} (h : r.subject ≠ s.subject) (c d : Bool)
    (hr : r.id = none) (hs : s.id = none) : Swap t (r.operation c) (s.operation d) := by
  refine swap_of_examine h (examine_of_no_ident (by rw [hr]; rfl) ..)
    (examine_of_no_ident (by rw [hs]; rfl) ..) fun i hi => ?_
  have hnone := ident?_examine hi
  rw [hr] at hnone
  cases hnone

/-- One level of two paths, `shared` or not: an identifier that agrees with what
is recorded after the other one, which agreed before, could have come first. -/
theorem agree_exchange {α : Type} {f : Ident → α} {shared shared' : Prop} [Decidable shared]
    [Decidable shared'] {i? j? : Option Ident} {here there : Option α}
    (hcomm : shared' ↔ shared) (hshared : shared → here = there)
    (hi : ∀ i ∈ i?, ∀ p ∈ here, p = f i)
    (hj : ∀ j ∈ j?, ∀ p ∈ (if shared then (i?.map f).or there else there), p = f j) :
    (∀ j ∈ j?, ∀ p ∈ there, p = f j) ∧
      (∀ i ∈ i?, ∀ p ∈ (if shared' then (j?.map f).or here else here), p = f i) ∧
      (shared → ∀ i ∈ i?, ∀ j ∈ j?, f i = f j) := by
  by_cases h : shared
  · obtain rfl := hshared h
    simp only [hcomm.mpr h, h, if_true] at hj ⊢
    cases i? with
    | none =>
      refine ⟨hj, ?_, ?_⟩
      · intro i hi
        cases hi
      · intro _ i hi
        cases hi
    | some i =>
      -- the second one was compared with what the first one recorded
      have hij : ∀ j ∈ j?, f i = f j := fun j hj' => hj j hj' (f i) rfl
      refine ⟨fun j hj' p hp => ?_, fun i' hi' p hp => ?_, fun _ i' hi' j hj' => ?_⟩
      · rw [hi i rfl p hp, hij j hj']
      · cases hi'
        cases j? with
        | none => exact hi i rfl p hp
        | some j =>
          cases hp
          exact (hij j rfl).symm
      · cases hi'
        exact hij j hj'
  · simp only [mt hcomm.mp h, h, if_false, false_implies, and_true] at hj ⊢
    exact ⟨hj, hi⟩

/-- The same for whole identifiers, which are recorded on three levels. -/
theorem agrees_exchange {ps : Packages} {name other : Name} {i? j? : Option Ident}
    (hi : ∀ i ∈ i?, (ps.recorded name).Agrees i)
    (hj : ∀ j ∈ j?, ((ps.recorded other).afterRecording other name i?).Agrees j) :
    (∀ j ∈ j?, (ps.recorded other).Agrees j) ∧
      (∀ i ∈ i?, ((ps.recorded name).afterRecording name other j?).Agrees i) ∧
      ∀ i ∈ i?, ∀ j ∈ j?, SharedAgree name other i j := by
  have hpackage := agree_exchange (f := Ident.package) eq_comm
    (fun h => by rw [Packages.recorded, Packages.recorded, h])
    (fun i h => (hi i h).package) (fun j h => (hj j h).package)
  have htype := agree_exchange (f := Ident.type)
    (and_congr eq_comm eq_comm)
    (fun h => by rw [Packages.recorded, Packages.recorded, h.1, h.2])
    (fun i h => (hi i h).type) (fun j h => (hj j h).type)
  have hentry := agree_exchange (f := Ident.entry) eq_comm
    (fun h => by rw [h]) (fun i h => (hi i h).entry) (fun j h => (hj j h).entry)
  refine ⟨fun j h => ⟨hpackage.1 j h, htype.1 j h, hentry.1 j h⟩,
    fun i h => ⟨hpackage.2.1 i h, htype.2.1 i h, hentry.2.1 i h⟩, fun i hi j hj => ⟨?_, ?_, ?_⟩⟩
  · exact fun hp => hpackage.2.2 hp.symm i hi j hj
  · exact fun hp ht => htype.2.2 ⟨hp.symm, ht.symm⟩ i hi j hj
  · exact fun hn => hentry.2.2 hn.symm i hi j hj

/-- **Requests that succeed in one order may change places**, since each of them
is granted before the other as well. -/
theorem swap_of_accepted {t : Table} {r s : Request} (h : r.subject ≠ s.subject) {c d : Bool}
    (hr : (r.perform c t).answer = true)
    (hs : (s.perform d (r.perform c t).table).answer = true) :
    Swap t (r.operation c) (s.operation d) := by
  have hv := r.perform_eq c t
  have hafter := s.perform_eq d (r.perform c t).table
  rw [hv] at hr
  rw [hafter] at hs
  obtain ⟨i?, hx⟩ : ∃ i?, t.examine c r.name r.id = .granted i? :=
    ⟨_, Request.granted_of_answer hr⟩
  obtain ⟨j?, hy⟩ : ∃ j?, (r.perform c t).table.examine d s.name s.id = .granted j? :=
    ⟨_, Request.granted_of_answer hs⟩
  obtain ⟨hcheck, hi, hagrees⟩ := examine_eq_granted_iff.mp hx
  obtain ⟨hcheck', hj, hagrees'⟩ := examine_eq_granted_iff.mp hy
  have hrecorded : (r.perform c t).table.packages.recorded s.name =
      (t.packages.recorded s.name).afterRecording s.name r.name i? := by
    rw [hv]
    refine (Verdict.recorded_content rfl hr t.packages s.name).trans ?_
    rw [hx]
    rfl
  rw [hrecorded] at hagrees'
  obtain ⟨hfirst, hsecond, hshared⟩ := agrees_exchange hagrees hagrees'
  have hsx : t.examine d s.name s.id = .granted j? :=
    examine_eq_granted_iff.mpr ⟨hcheck', hj, hfirst⟩
  -- the second request succeeds before the first one too
  have hanswer : (s.verdict t.policy t.resolver (s.existing t.packages) (s.current t.packages)
      (t.examine d s.name s.id)).answer = true := by
    rw [hsx, ← Request.verdict_content h rfl t.packages]
    rw [hy, hv] at hs
    exact hs
  have hrx : (s.perform d t).table.examine c r.name r.id = .granted i? := by
    refine examine_eq_granted_iff.mpr ⟨hcheck, hi, fun i hmem => ?_⟩
    have hrecorded' := Verdict.recorded_content rfl hanswer t.packages r.name
    rw [s.perform_eq]
    refine hrecorded'.symm ▸ ?_
    rw [hsx]
    exact hsecond i hmem
  refine swap_of_examine h (hrx.trans hx.symm) (hy.trans hsx.symm) ?_
  rw [hx, hsx]
  exact hshared

/-! ## Runs -/

/-- The subject of a call of a transcript. -/
def subjectOf (c : Operation × Reply × Log) : Option Subject := c.1.subject?

/-- No call of a transcript supplies an identifier, or every call succeeds. -/
def Smooth (calls : List (Operation × Reply × Log)) : Prop :=
  (∀ c ∈ calls, c.1.suppliedIdent? = none) ∨ ∀ c ∈ calls, c.2.1 = .accepted true

theorem Smooth.of_perm {calls others : List (Operation × Reply × Log)} (h : Smooth calls)
    (hperm : calls.Perm others) : Smooth others :=
  h.imp (fun hall c hc => hall c (hperm.mem_iff.mpr hc))
    fun hall c hc => hall c (hperm.mem_iff.mpr hc)

theorem Smooth.tail {c : Operation × Reply × Log} {calls : List (Operation × Reply × Log)}
    (h : Smooth (c :: calls)) : Smooth calls :=
  h.imp (fun hall d hd => hall d (List.mem_cons_of_mem c hd))
    fun hall d hd => hall d (List.mem_cons_of_mem c hd)

/-- Two neighbours of a smooth transcript may change places. -/
theorem swap_of_smooth {t : Table} {op other : Operation} {rest : List Operation}
    (hop : op.subject?.isSome) (hother : other.subject?.isSome)
    (hne : op.subject? ≠ other.subject?) (h : Smooth (t.transcript (op :: other :: rest))) :
    Swap t op other := by
  obtain ⟨c, r, rfl⟩ := Operation.exists_request hop
  obtain ⟨d, s, rfl⟩ := Operation.exists_request hother
  rw [Request.subject?_operation, Request.subject?_operation] at hne
  have hsubject : r.subject ≠ s.subject := fun he => hne (congrArg some he)
  rw [transcript_cons, transcript_cons] at h
  rcases h with h | h
  · have hr := h _ List.mem_cons_self
    have hs := h _ (List.mem_cons_of_mem _ List.mem_cons_self)
    rw [Request.suppliedIdent?_operation] at hr hs
    exact swap_of_no_ident t hsubject c d hr hs
  · have hr := h _ List.mem_cons_self
    have hs := h _ (List.mem_cons_of_mem _ List.mem_cons_self)
    simp only [Request.perform_operation, Outcome.map, Reply.accepted.injEq] at hr hs
    exact swap_of_accepted hsubject hr hs

/-- A run and a reordered one come to the same. -/
structure SameRun (t : Table) (ops others : List Operation) : Prop where
  /-- They leave the same table. -/
  table : (t.run others).1 = (t.run ops).1
  /-- Every call has the same answer and the same to say. -/
  calls : Reordered subjectOf (t.transcript ops) (t.transcript others)

theorem SameRun.trans {t : Table} {ops others more : List Operation}
    (h : SameRun t ops others) (h' : SameRun t others more) : SameRun t ops more :=
  ⟨h'.table.trans h.table, h.calls.trans h'.calls⟩

/-- The same first call goes before both runs. -/
theorem SameRun.cons {t : Table} {op : Operation} {ops others : List Operation}
    (h : SameRun (t.perform op).table ops others) : SameRun t (op :: ops) (op :: others) :=
  ⟨h.table, h.calls.cons (op, (t.perform op).answer, (t.perform op).log)⟩

theorem SameRun.swap {t : Table} {op other : Operation} (h : Swap t op other)
    (hne : op.subject? ≠ other.subject?) (rest : List Operation) :
    SameRun t (op :: other :: rest) (other :: op :: rest) := by
  constructor
  · rw [run_cons_fst, run_cons_fst, run_cons_fst, run_cons_fst, h.table]
  · have hne' : subjectOf (op, (t.perform op).answer, (t.perform op).log) ≠
        subjectOf (other, (t.perform other).answer, (t.perform other).log) := hne
    rw [transcript_cons, transcript_cons, transcript_cons t other, transcript_cons _ op,
      h.answer, h.log, ← h.answer_other, ← h.log_other, h.table]
    exact .swap hne' _

/-- **A call moves to the front** past calls about other things. -/
theorem SameRun.move_front {t : Table} {op : Operation} {pre post : List Operation}
    (hrequests : ∀ other ∈ pre ++ op :: post, other.subject?.isSome)
    (hne : ∀ other ∈ pre, other.subject? ≠ op.subject?)
    (h : Smooth (t.transcript (pre ++ op :: post))) :
    SameRun t (pre ++ op :: post) (op :: (pre ++ post)) := by
  induction pre generalizing t with
  | nil => exact ⟨rfl, .refl _ _⟩
  | cons first pre ih =>
    have hmoved : SameRun t (first :: (pre ++ op :: post)) (first :: op :: (pre ++ post)) :=
      .cons (ih (fun other hm => hrequests other (List.mem_cons_of_mem first hm))
        (fun other hm => hne other (List.mem_cons_of_mem first hm)) h.tail)
    -- the calls before `op` do not change by its move, so the run stays smooth
    have hswap : Swap t first op :=
      swap_of_smooth (hrequests first List.mem_cons_self)
        (hrequests op (List.mem_append_right _ List.mem_cons_self))
        (hne first List.mem_cons_self) (h.of_perm hmoved.calls.perm)
    exact hmoved.trans (.swap hswap (hne first List.mem_cons_self) (pre ++ post))

theorem SameRun.of_reordered {t : Table} {ops others : List Operation}
    (hrequests : ∀ op ∈ ops, op.subject?.isSome)
    (horder : Reordered Operation.subject? ops others) (h : Smooth (t.transcript ops)) :
    SameRun t ops others := by
  induction others generalizing t ops with
  | nil =>
    obtain rfl := horder.perm.eq_nil
    exact ⟨rfl, .refl _ _⟩
  | cons first others ih =>
    -- what comes first in the new order moves to the front of the old one
    obtain ⟨pre, post, rfl, hne, hrest⟩ := horder.exists_split
    have hmoved := SameRun.move_front hrequests hne h
    have hmem : ∀ op ∈ pre ++ post, op ∈ pre ++ first :: post := fun op hm =>
      List.perm_middle.mem_iff.mpr (List.mem_cons_of_mem first hm)
    exact hmoved.trans (.cons (ih (fun op hm => hrequests op (hmem op hm)) hrest
      (h.of_perm hmoved.calls.perm).tail))

/-- **Requests about different things may be made in any order.**  Let a list of
requests be reordered so that the additions to one slot, and the declarations
about one name, keep their order.  If no request supplies an identifier, both
orders leave the same packages, and every request has the same answer and the
same to say.  If requests supply identifiers and all succeed in the one order,
all succeed in the other, and both leave the same packages. -/
theorem run_reordered (t : Table) {ops others : List Operation}
    (hrequests : ∀ op ∈ ops, op.subject?.isSome)
    (horder : Reordered Operation.subject? ops others) :
    ((∀ op ∈ ops, op.suppliedIdent? = none) →
      (t.run others).1.packages = (t.run ops).1.packages ∧
        Reordered subjectOf (t.transcript ops) (t.transcript others)) ∧
    ((∀ c ∈ t.transcript ops, c.2.1 = .accepted true) →
      (t.run others).1.packages = (t.run ops).1.packages ∧
        ∀ c ∈ t.transcript others, c.2.1 = .accepted true) := by
  constructor
  · intro hnone
    have h := SameRun.of_reordered hrequests horder
      (Or.inl fun c hc => hnone c.1 (t.mem_of_mem_transcript hc))
    exact ⟨congrArg Table.packages h.table, h.calls⟩
  · intro hall
    have h := SameRun.of_reordered hrequests horder (Or.inr hall)
    exact ⟨congrArg Table.packages h.table,
      fun c hc => hall c (h.calls.perm.mem_iff.mpr hc)⟩

/-- A title is added and a label of the same type declared. -/
def titleAndLabel (titleId labelId : Option Ident) : List Operation :=
  [.add true
      { name := ⟨"app", .string, "title"⟩, id := titleId, value := { payload := .string "T" } },
    .declare true
      { name := ⟨"app", .string, "label"⟩, id := labelId, symbol := { state := .exported } }]

/-- The two requests change places, with identifiers of one package and type and
without identifiers. -/
theorem run_reordered_titleAndLabel :
    let t := ofPolicy .strict
    let ops := titleAndLabel (some ⟨0x7f010000⟩) (some ⟨0x7f010001⟩)
    let bare := titleAndLabel none none
    ((t.run ops.reverse).1.packages = (t.run ops).1.packages ∧
        ∀ c ∈ t.transcript ops.reverse, c.2.1 = .accepted true) ∧
      (t.run bare.reverse).1.packages = (t.run bare).1.packages ∧
        Reordered subjectOf (t.transcript bare) (t.transcript bare.reverse) := by
  intro t ops bare
  have hsubject : ∀ i j, ∀ op ∈ titleAndLabel i j, op.subject?.isSome := by
    intro i j op hop
    simp only [titleAndLabel, List.mem_cons, List.not_mem_nil, or_false] at hop
    rcases hop with rfl | rfl <;> rfl
  have horder : ∀ i j,
      Reordered Operation.subject? (titleAndLabel i j) (titleAndLabel i j).reverse :=
    fun i j => .swap (by simp [Operation.subject?]) []
  constructor
  · refine (run_reordered t (hsubject _ _) (horder _ _)).2 fun c hc => ?_
    have hcalls : (t.transcript ops).map (fun c => c.2.1) = [.accepted true, .accepted true] := rfl
    have hmem := List.mem_map_of_mem (f := fun c => c.2.1) hc
    rw [hcalls] at hmem
    simpa using hmem
  · refine (run_reordered t (hsubject _ _) (horder _ _)).1 fun op hop => ?_
    simp only [titleAndLabel, List.mem_cons, List.not_mem_nil, or_false] at hop
    rcases hop with rfl | rfl <;> rfl

end Table
end AppResources
