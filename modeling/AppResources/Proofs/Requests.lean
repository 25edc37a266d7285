import AppResources.Operation
import AppResources.Proofs.Writes

/-!
# Requests and verdicts

Adding a value and declaring a symbol are **requests** about one name.  Each of
them looks at very little of the table: the identifiers recorded along the path
of its name, the value in its slot, the symbol of its entry.  From these it
reaches a **verdict** — its answer, what it has to say, and what it writes — and
the verdict is all that becomes of it (`Request.perform_eq`).

So two tables that look the same where a request looks treat it in the same
way, and what a request does to other places is settled once, by the laws of
writes.
-/

namespace AppResources

/-- What becomes of a request. -/
structure Verdict where
  /-- The answer. -/
  answer : Bool
  /-- What the table has to say. -/
  log : Log := []
  /-- What is written; without a write the content stays as it is. -/
  write : Option Write := none

namespace Verdict

/-- The content after a verdict on a request about a name. -/
def content (v : Verdict) (ps : Packages) (name : Name) : Packages :=
  match v.write with
  | some w => ps.write name w
  | none => ps

/-- A verdict changes the content by a write, or not at all. -/
theorem content_cases {P : Packages → Prop} {v : Verdict} {ps : Packages} {name : Name}
    (hkeep : v.write = none → P ps) (hwrite : ∀ w ∈ v.write, P (ps.write name w)) :
    P (v.content ps name) := by
  unfold content
  cases hw : v.write with
  | none => exact hkeep hw
  | some w => exact hwrite w hw

/-- The outcome of a verdict. -/
def outcome (v : Verdict) (t : Table) (name : Name) : Outcome Bool :=
  ⟨{ t with packages := v.content t.packages name }, v.answer, v.log⟩

/-- A refusal before the request began. -/
def refusal (source : Source) (finding : Finding) (createsPath : Bool) : Verdict where
  answer := false
  log := [finding.about source]
  write := if createsPath then some {} else none

end Verdict

/-- The verdict on an addition, from its examination and the value in its slot. -/
def Addition.verdict (a : Addition) (policy : Policy) (resolver : Resolver)
    (existing : Option Value) : Table.Examination → Verdict
  | .refused finding createsPath => .refusal a.value.source finding createsPath
  | .granted id =>
    let store : Write := { ident := id, slot := some (a.key, a.value) }
    match existing with
    | none => { answer := true, write := some store }
    | some old =>
      match resolver old a.value with
      | .keepOriginal => { answer := true, write := id.map fun id => { ident := some id } }
      | .takeNew =>
        { answer := true
          log := if policy.reportOverrides then
            [(Finding.overriddenValue a.name a.config old.source).about a.value.source] else []
          write := some store }
      | .conflict =>
        { answer := false
          log := [(Finding.duplicateValue a.name a.config a.product).about a.value.source,
            Finding.previousValue.about old.source] }

/-- The verdict on a declaration, from its examination and the symbol of its
entry. -/
def Declaration.verdict (d : Declaration) (policy : Policy) (current : Symbol) :
    Table.Examination → Verdict
  | .refused finding createsPath => .refusal d.symbol.source finding createsPath
  | .granted id =>
    if policy.protectVisibility && d.symbol.state.weakerThan current.state then
      { answer := true
        log := [(Finding.ignoredDowngrade d.name d.symbol.state current.state
          current.source).about d.symbol.source]
        write := id.map fun id => { ident := some id } }
    else { answer := true, write := some { ident := id, symbol := some d.symbol } }

/-- A value to be added, or a symbol to be declared. -/
inductive Request where
  /-- Adds a value. -/
  | add (addition : Addition)
  /-- Declares a symbol. -/
  | declare (declaration : Declaration)

/-- What a request is about: a slot, or the symbol of an entry. -/
inductive Subject where
  /-- The slot of a key in the entry of a name. -/
  | slot (name : Name) (key : SlotKey)
  /-- The symbol of the entry of a name. -/
  | symbol (name : Name)
  deriving DecidableEq

namespace Request

/-- The name that a request is about. -/
def name : Request → Name
  | add a => a.name
  | declare d => d.name

/-- The identifier that a request supplies. -/
def id : Request → Option Ident
  | add a => a.id
  | declare d => d.id

/-- What a request is about. -/
def subject : Request → Subject
  | add a => .slot a.name a.key
  | declare d => .symbol d.name

/-- Carries out a request. -/
def perform (checked : Bool) (t : Table) : Request → Outcome Bool
  | add a => t.add checked a
  | declare d => t.declare checked d

/-- The value that a request meets. -/
def existing (ps : Packages) : Request → Option Value
  | add a => ps.value? a.name a.key
  | declare _ => none

/-- The symbol that a request meets. -/
def current (ps : Packages) (r : Request) : Symbol := (ps.entryAt r.name).symbol

/-- The verdict on a request, from its examination and from what it meets. -/
def verdict (policy : Policy) (resolver : Resolver) (existing : Option Value) (current : Symbol)
    (x : Table.Examination) : Request → Verdict
  | add a => a.verdict policy resolver existing x
  | declare d => d.verdict policy current x

end Request

/-! ## Requests come down to verdicts -/

namespace Table
variable (t : Table)

theorem refuse_eq (name : Name) (source : Source) (finding : Finding) (createsPath : Bool) :
    t.refuse name source finding createsPath =
      (Verdict.refusal source finding createsPath).outcome t name := by
  cases createsPath <;> rfl

theorem recordIfGiven_eq (name : Name) (id : Option Ident) (answer : Bool) (log : Log) :
    (⟨{ t with packages := t.packages.recordIfGiven name id }, answer, log⟩ : Outcome Bool) =
      Verdict.outcome ⟨answer, log, id.map fun id => { ident := some id }⟩ t name := by
  cases id <;> rfl

theorem add_eq (checked : Bool) (a : Addition) : t.add checked a =
    (a.verdict t.policy t.resolver (t.packages.value? a.name a.key)
      (t.examine checked a.name a.id)).outcome t a.name := by
  unfold add
  cases t.examine checked a.name a.id with
  | refused finding createsPath => exact t.refuse_eq ..
  | granted id =>
    have hstore : (t.packages.store a.name a.key a.value).recordIfGiven a.name id =
        t.packages.write a.name { ident := id, slot := some (a.key, a.value) } := by
      rw [Packages.store_eq_write]
      exact t.packages.recordIfGiven_write a.name rfl id
    simp only [hstore, Addition.verdict]
    cases t.packages.value? a.name a.key with
    | none => rfl
    | some old =>
      cases hr : t.resolver old a.value with
      | keepOriginal => simp only [hr, recordIfGiven_eq]
      | takeNew | conflict => simp only [hr, Verdict.outcome, Verdict.content]

theorem declare_eq (checked : Bool) (d : Declaration) : t.declare checked d =
    (d.verdict t.policy (t.packages.entryAt d.name).symbol
      (t.examine checked d.name d.id)).outcome t d.name := by
  unfold declare
  cases t.examine checked d.name d.id with
  | refused finding createsPath => exact t.refuse_eq ..
  | granted id =>
    have hcurrent : ((t.packages.resource? d.name).map Entry.symbol).getD {} =
        (t.packages.entryAt d.name).symbol := by
      unfold Packages.entryAt
      cases t.packages.resource? d.name <;> rfl
    have hset : (t.packages.setSymbol d.name d.symbol).recordIfGiven d.name id =
        t.packages.write d.name { ident := id, symbol := some d.symbol } := by
      rw [Packages.setSymbol_eq_write]
      exact t.packages.recordIfGiven_write d.name rfl id
    simp only [hcurrent, hset, Declaration.verdict]
    split
    · exact t.recordIfGiven_eq ..
    · rfl

/-- A file is added like any other value, once its path is interned. -/
theorem addFile_eq (checked : Bool) (name : Name) (config : Config) (source : Source)
    (path : String) (input : Option Source) :
    t.addFile checked name config source path input =
      { t with pool := (t.pool.intern path).1 }.add checked
        { name, config, value := { source, payload := .fileReference path input } } := by
  have htext : (t.pool.intern path).2.text = path := by
    unfold Pool.intern
    split <;> rfl
  unfold addFile
  rw [← htext]
  simp only [htext]

/-- **Creating a package**: its place is created and its identifier recorded, unless
another one is. -/
theorem createPackage_cases (package : String) (id : Option UInt8) :
    ((∀ e ∈ (t.packages.packageAt package).id, ∀ r ∈ id, e = r) ∧
      t.createPackage package id =
        ⟨{ t with packages := t.packages.withPackage package fun p =>
            { p with id := id.or p.id } }, .ok (), []⟩) ∨
    ∃ e r, (t.packages.packageAt package).id = some e ∧ id = some r ∧ e ≠ r ∧
      t.createPackage package id = ⟨t, .error (.packageIdConflict package e r), []⟩ := by
  unfold createPackage
  rw [Packages.bind_id_package?]
  cases id with
  | none => exact Or.inl ⟨by simp, by cases (t.packages.packageAt package).id <;> rfl⟩
  | some r =>
    cases he : (t.packages.packageAt package).id with
    | none => exact Or.inl ⟨by simp, rfl⟩
    | some e =>
      by_cases her : e = r
      · subst her
        refine Or.inl ⟨by simp, ?_⟩
        -- the identifier is there already, so recording it changes nothing
        obtain ⟨p, hp⟩ : ∃ p, t.packages.package? package = some p := by
          cases hp : t.packages.package? package with
          | none => simp [Packages.packageAt, hp] at he
          | some p => exact ⟨p, rfl⟩
        have hpid : p.id = some e := Packages.packageAt_of_some _ hp ▸ he
        have hsame : (t.packages.withPackage package fun p => { p with id := (some e).or p.id }) =
            t.packages := by
          refine Keyed.update_of_get? hp ?_
          simp only [Option.getD_some, ← hpid, Option.or_self]
        rw [hsame]
        exact if_pos rfl
      · exact Or.inr ⟨e, r, rfl, rfl, her, if_neg her⟩

end Table

/-- **A request is its verdict.** -/
theorem Request.perform_eq (checked : Bool) (t : Table) (r : Request) : r.perform checked t =
    (r.verdict t.policy t.resolver (r.existing t.packages) (r.current t.packages)
      (t.examine checked r.name r.id)).outcome t r.name := by
  cases r with
  | add a => exact t.add_eq checked a
  | declare d => exact t.declare_eq checked d

/-! ## Examinations -/

/-- The identifier that an examination lets through. -/
def Table.Examination.ident? : Table.Examination → Option Ident
  | .granted id => id
  | .refused _ _ => none

/-- An identifier has the parts that are recorded, on every level. -/
structure RecordedIds.Agrees (r : RecordedIds) (id : Ident) : Prop where
  package : ∀ p ∈ r.package, p = id.package
  type : ∀ t ∈ r.type, t = id.type
  entry : ∀ e ∈ r.entry, e = id.entry

theorem RecordedIds.any_ne_eq_false {α : Type} [BEq α] [LawfulBEq α] {recorded : Option α}
    {part : α} : recorded.any (· != part) = false ↔ ∀ r ∈ recorded, r = part := by
  cases recorded with
  | none => simp
  | some r => simp

theorem RecordedIds.disagreement?_eq_none_iff {r : RecordedIds} {id : Ident} :
    r.disagreement? id = none ↔ r.Agrees id := by
  unfold disagreement?
  constructor
  · intro h
    split at h
    · cases h
    · rename_i hp
      split at h
      · cases h
      · rename_i ht
        split at h
        · cases h
        · rename_i he
          rw [Bool.not_eq_true] at hp ht he
          exact ⟨any_ne_eq_false.mp hp, any_ne_eq_false.mp ht, any_ne_eq_false.mp he⟩
  · intro h
    rw [any_ne_eq_false.mpr h.package, any_ne_eq_false.mpr h.type, any_ne_eq_false.mpr h.entry]
    rfl

namespace Table

/-- **A request is granted** when its entry name is allowed and its identifier, if
it has a valid one, agrees with what is recorded. -/
theorem examine_eq_granted_iff {t : Table} {checked : Bool} {name : Name} {id : Option Ident}
    {granted : Option Ident} : t.examine checked name id = .granted granted ↔
      (checked = true → invalidEntryCharacter? name.entry = none) ∧
        granted = id.filter Ident.isValid ∧
        ∀ i ∈ granted, (t.packages.recorded name).Agrees i := by
  unfold examine
  have hcheck : (if checked then invalidEntryCharacter? name.entry else none) = none ↔
      (checked = true → invalidEntryCharacter? name.entry = none) := by
    cases checked <;> simp
  cases hc : if checked then invalidEntryCharacter? name.entry else none with
  | some c =>
    rw [← hcheck, hc]
    simp
  | none =>
    rw [← hcheck, hc]
    cases id.filter Ident.isValid with
    | none =>
      simp only [Examination.granted.injEq, true_and]
      constructor
      · rintro rfl
        exact ⟨rfl, by simp⟩
      · exact fun h => h.1.symm
    | some i =>
      cases hd : (t.packages.recorded name).disagreement? i with
      | none =>
        have hagrees := RecordedIds.disagreement?_eq_none_iff.mp hd
        simp only [hd, Examination.granted.injEq, true_and]
        constructor
        · rintro rfl
          exact ⟨rfl, fun j hj => Option.some.inj hj ▸ hagrees⟩
        · exact fun h => h.1.symm
      | some d =>
        simp only [hd, reduceCtorEq, true_and, false_iff, not_and]
        rintro rfl hall
        rw [RecordedIds.disagreement?_eq_none_iff.mpr (hall i rfl)] at hd
        cases hd

/-- Only a valid identifier that was supplied is let through. -/
theorem ident?_examine {t : Table} {checked : Bool} {name : Name} {id : Option Ident} {i : Ident}
    (hi : i ∈ (t.examine checked name id).ident?) : id.filter Ident.isValid = some i := by
  cases hx : t.examine checked name id with
  | refused finding createsPath => simp [hx, Examination.ident?] at hi
  | granted granted =>
    simp only [hx, Examination.ident?] at hi
    rw [← (examine_eq_granted_iff.mp hx).2.1]
    exact hi

/-- An examination looks at nothing but what is recorded along the path. -/
theorem examine_congr {t u : Table} {name : Name}
    (h : t.packages.recorded name = u.packages.recorded name) (checked : Bool)
    (id : Option Ident) : t.examine checked name id = u.examine checked name id := by
  unfold examine
  rw [h]

/-- Without a valid identifier an examination looks at nothing. -/
theorem examine_of_no_ident {id : Option Ident} (h : id.filter Ident.isValid = none)
    (t u : Table) (checked : Bool) (name : Name) :
    t.examine checked name id = u.examine checked name id := by
  unfold examine
  rw [h]

end Table

/-! ## What verdicts write -/

namespace Request
variable {policy : Policy} {resolver : Resolver} {old : Option Value} {current : Symbol}
  {x : Table.Examination} {r : Request} {w : Write}

/-- A refusal writes the empty path, or nothing. -/
theorem write_refused (r : Request) (finding : Finding) (createsPath : Bool) :
    (r.verdict policy resolver old current (.refused finding createsPath)).write =
      if createsPath then some {} else none := by
  cases r <;> rfl

/-- **What a request can write**: the identifier that was let through, and with it
at most what the request is about. -/
theorem write_cases (hw : w ∈ (r.verdict policy resolver old current x).write) :
    w = { ident := x.ident? } ∨
      (∃ a, r = .add a ∧ w = { ident := x.ident?, slot := some (a.key, a.value) }) ∨
      (∃ d, r = .declare d ∧ w = { ident := x.ident?, symbol := some d.symbol }) := by
  cases x with
  | refused finding createsPath =>
    rw [write_refused] at hw
    split at hw
    · cases hw
      exact Or.inl rfl
    · cases hw
  | granted id =>
    have hrecord : ∀ {v : Write}, v ∈ (id.map fun i => ({ ident := some i } : Write)) →
        v = { ident := id } := by
      intro v hv
      obtain ⟨i, rfl, rfl⟩ := Option.map_eq_some_iff.mp hv
      rfl
    cases r with
    | add a =>
      have hstore : ∀ {v : Write}, v ∈ some { ident := id, slot := some (a.key, a.value) } →
          ∃ b, add a = .add b ∧ v = { ident := id, slot := some (b.key, b.value) } :=
        fun hv => ⟨a, rfl, (Option.some.inj hv).symm⟩
      cases old with
      | none => exact Or.inr (Or.inl (hstore hw))
      | some old =>
        simp only [verdict, Addition.verdict] at hw
        cases hr : resolver old a.value with
        | keepOriginal =>
          rw [hr] at hw
          exact Or.inl (hrecord hw)
        | takeNew =>
          rw [hr] at hw
          exact Or.inr (Or.inl (hstore hw))
        | conflict =>
          rw [hr] at hw
          cases hw
    | declare d =>
      simp only [verdict, Declaration.verdict] at hw
      split at hw
      · exact Or.inl (hrecord hw)
      · exact Or.inr (Or.inr ⟨d, rfl, (Option.some.inj hw).symm⟩)

theorem ident_of_write (hw : w ∈ (r.verdict policy resolver old current x).write) :
    w.ident = x.ident? := by
  rcases write_cases hw with rfl | ⟨a, rfl, rfl⟩ | ⟨d, rfl, rfl⟩ <;> rfl

theorem subject_of_write_symbol (hw : w ∈ (r.verdict policy resolver old current x).write)
    (hs : w.symbol ≠ none) : r.subject = .symbol r.name := by
  rcases write_cases hw with rfl | ⟨a, rfl, rfl⟩ | ⟨d, rfl, rfl⟩
  · exact absurd rfl hs
  · exact absurd rfl hs
  · rfl

theorem subject_of_write_slot (hw : w ∈ (r.verdict policy resolver old current x).write)
    {y : SlotKey × Value} (hy : y ∈ w.slot) : r.subject = .slot r.name y.1 := by
  rcases write_cases hw with rfl | ⟨a, rfl, rfl⟩ | ⟨d, rfl, rfl⟩
  · cases hy
  · cases hy
    rfl
  · cases hy

/-- A request that succeeds without a write had no identifier to record. -/
theorem ident?_of_no_write (h : (r.verdict policy resolver old current x).answer = true)
    (hw : (r.verdict policy resolver old current x).write = none) : x.ident? = none := by
  cases x with
  | refused finding createsPath => rfl
  | granted id =>
    cases r with
    | add a =>
      cases old with
      | none => cases hw
      | some old =>
        simp only [verdict, Addition.verdict] at h hw
        cases hr : resolver old a.value with
        | keepOriginal =>
          rw [hr] at hw
          exact Option.map_eq_none_iff.mp hw
        | takeNew =>
          rw [hr] at hw
          cases hw
        | conflict =>
          rw [hr] at h
          cases h
    | declare d =>
      simp only [verdict, Declaration.verdict] at hw
      split at hw
      · exact Option.map_eq_none_iff.mp hw
      · cases hw

/-- A request that is answered with success was granted. -/
theorem granted_of_answer (h : (r.verdict policy resolver old current x).answer = true) :
    x = .granted x.ident? := by
  cases x with
  | granted id => rfl
  | refused finding createsPath => cases r <;> cases h

end Request

/-- What is recorded along a path after a request that succeeded. -/
theorem Verdict.recorded_content {r : Request} {v : Verdict} {policy : Policy}
    {resolver : Resolver} {old : Option Value} {current : Symbol} {x : Table.Examination}
    (hv : v = r.verdict policy resolver old current x) (hanswer : v.answer = true)
    (ps : Packages) (m : Name) : (v.content ps r.name).recorded m =
      (ps.recorded m).afterRecording m r.name x.ident? := by
  subst hv
  refine content_cases (P := fun ps' => ps'.recorded m = _) (fun hw => ?_) fun w hw => ?_
  · have hnone : x.ident? = none := Request.ident?_of_no_write hanswer hw
    simp only [RecordedIds.afterRecording, hnone, Option.map_none, Option.none_or, ite_self]
  · rw [← Request.ident_of_write hw]
    exact Packages.recorded_write ps r.name w m

end AppResources
