import AppResources.Proofs.Collisions
import AppResources.Proofs.Reports

/-!
# Strong values on a strict table

A table that was made with strict collisions has the strict resolver as long as no other one
is installed.  When a strong value is added to the slot of another strong value there, the
stored one always stays, and the addition is refused as a conflict — whatever the kinds of
the two values, with one exception.  Two attributes are settled by their masks before
their kinds count, and with equal masks the stored attribute stays **without** a conflict:
the addition is answered with success and nothing is said, even if the two accept
different numbers or symbols (`strictlyCollides`, `strict_accepts_sameFormat`).
-/

namespace AppResources

/-- Both values are attributes, and their masks are equal. -/
def Value.SameFormat (v w : Value) : Prop := ∃ m, v.mask? = some m ∧ w.mask? = some m

namespace Resolver
variable {existing incoming : Value}

/-- The first of two attributes with equal masks stays when it is strong. -/
theorem keepOriginal_of_sameFormat {sameKind : Resolution} (h : existing.SameFormat incoming)
    (hstrong : existing.isWeak = false) :
    ofSameKind sameKind existing incoming = .keepOriginal := by
  obtain ⟨m, hexisting, hincoming⟩ := h
  obtain ⟨a, ha, rfl⟩ := Option.map_eq_some_iff.mp hexisting
  obtain ⟨b, hb, hmask⟩ := Option.map_eq_some_iff.mp hincoming
  simp only [ofSameKind, resolveAttributes?, ha, hb, hmask, hstrong, if_true, Bool.false_eq_true,
    if_false]

/-- **Any other two strong values are in conflict** for the strict resolver. -/
theorem strict_conflict (h : ¬ existing.SameFormat incoming) (hexisting : existing.isWeak = false)
    (hincoming : incoming.isWeak = false) : strict existing incoming = .conflict := by
  by_cases hattr : existing.attribute? = none ∨ incoming.attribute? = none
  · exact (conflict_others_iff hattr).mpr ⟨hexisting, hincoming, fun _ => rfl⟩
  · obtain ⟨ha, hb⟩ := not_or.mp hattr
    obtain ⟨a, ha⟩ := Option.ne_none_iff_exists'.mp ha
    obtain ⟨b, hb⟩ := Option.ne_none_iff_exists'.mp hb
    refine (conflict_attributes_iff ha hb).mpr ⟨fun hmask => h ⟨b.mask, ?_, ?_⟩, ?_, ?_⟩
    · rw [Value.mask?, ha, Option.map_some, hmask]
    · rw [Value.mask?, hb, Option.map_some]
    · exact fun hopen => Bool.false_ne_true (hexisting.symm.trans hopen.1)
    · exact fun hopen => Bool.false_ne_true (hincoming.symm.trans hopen.1)

end Resolver

namespace Table
variable {t : Table}

/-- **What becomes of a strong value** that is added to the slot of another one. -/
structure StrictlyCollides (t : Table) (op : Operation) (a : Addition) (old : Value) : Prop where
  /-- The stored value stays in any case. -/
  kept : (t.perform op).table.packages.value? a.name a.key = some old
  /-- The addition is refused as a conflict with it, and nothing changes. -/
  conflict : ¬ old.SameFormat a.value → (t.perform op).answer = .accepted false ∧
    (t.perform op).table.packages = t.packages ∧
    ∃ e n : Diagnostic, (t.perform op).log = [e, n] ∧ e.Is .error .collision a.value.source ∧
      n.Is .note .collision old.source
  /-- Only an attribute with the mask of the stored one is accepted, and nothing is said. -/
  sameFormat : old.SameFormat a.value → (t.perform op).answer = .accepted true ∧
    (t.perform op).log = []

/-- An addition of a strong value, once its name and its identifier have been examined. -/
theorem add_strictlyCollides (hstrict : t.resolver = .strict) {checked : Bool} {a : Addition}
    {id : Option Ident} (hx : t.examine checked a.name a.id = .granted id) {old : Value}
    (hold : t.packages.value? a.name a.key = some old) (hstrong : old.isWeak = false)
    (hincoming : a.value.isWeak = false) : StrictlyCollides t (.add checked a) a old := by
  have hperform : t.perform (.add checked a) =
      (((a.verdict t.policy .strict (some old) (.granted id)).outcome t a.name).map .accepted) := by
    rw [← hx, ← hold, ← hstrict, ← add_eq]
    rfl
  by_cases hformat : old.SameFormat a.value
  · have hr : Resolver.strict old a.value = .keepOriginal :=
      Resolver.keepOriginal_of_sameFormat hformat hstrong
    simp only [Addition.verdict, hr] at hperform
    constructor
    · rw [hperform]
      show (Verdict.content ⟨true, [], _⟩ t.packages a.name).value? a.name a.key = some old
      refine Verdict.content_cases (P := fun ps => ps.value? a.name a.key = some old)
        (fun _ => hold) fun w hw => ?_
      obtain ⟨i, -, rfl⟩ := Option.map_eq_some_iff.mp hw
      rw [Packages.value?_write]
      exact hold
    · exact fun h => absurd hformat h
    · intro _
      rw [hperform]
      exact ⟨rfl, rfl⟩
  · have hr : Resolver.strict old a.value = .conflict :=
      Resolver.strict_conflict hformat hstrong hincoming
    simp only [Addition.verdict, hr] at hperform
    constructor
    · rw [hperform]
      exact hold
    · intro _
      rw [hperform]
      exact ⟨rfl, rfl, _, _, rfl, ⟨rfl, rfl, rfl⟩, ⟨rfl, rfl, rfl⟩⟩
    · exact fun h => absurd h hformat

/-- **On a table made with strict collisions two strong values are in conflict**, be they
values or files, unless they are attributes with equal masks. -/
theorem strictlyCollides (hpolicy : t.policy.strictCollisions = true)
    (hresolver : t.resolver = (ofPolicy t.policy).resolver) {op : Operation} {checked : Bool}
    {a : Addition} (hop : op.request? = some (checked, .add a)) {id : Option Ident}
    (hx : t.examine checked a.name a.id = .granted id) {old : Value}
    (hold : t.packages.value? a.name a.key = some old) (hstrong : old.isWeak = false)
    (hincoming : a.value.isWeak = false) : StrictlyCollides t op a old := by
  have hstrict : t.resolver = .strict := hresolver.trans (if_pos hpolicy)
  have hadd := add_strictlyCollides (t := { t with pool := op.interned t.pool }) hstrict hx hold
    hstrong hincoming
  have hperform : t.perform op = Table.perform { t with pool := op.interned t.pool }
    (.add checked a) := Operation.perform_request hop t
  constructor
  · rw [hperform]
    exact hadd.kept
  · rw [hperform]
    exact hadd.conflict
  · rw [hperform]
    exact hadd.sameFormat

/-- A title is not replaced, and neither is an attribute by one of another mask. -/
theorem strictlyCollides_title :
    let title (text : String) : Addition :=
      { name := ⟨"app", .string, "title"⟩, value := { payload := .string text } }
    let t := ((ofPolicy .strict).run [.add true (title "T")]).1
    ¬ (title "T").value.SameFormat (title "U").value ∧
      StrictlyCollides t (.add true (title "U")) (title "U") (title "T").value :=
  ⟨fun ⟨_, h, _⟩ => (nomatch h), strictlyCollides rfl rfl rfl rfl rfl rfl rfl⟩

/-- An attribute that accepts other numbers than the stored one is dropped in silence. -/
theorem strict_accepts_sameFormat :
    let size (max : Int32) : Addition :=
      { name := ⟨"app", .attr, "size"⟩, value := { payload := .attr { mask := .integer, max } } }
    let t := ((ofPolicy .strict).run [.add true (size 1)]).1
    t.Reachable ∧ t.policy.strictCollisions = true ∧ t.resolver = (ofPolicy t.policy).resolver ∧
      t.packages.value? (size 2).name (size 2).key = some (size 1).value ∧
      (size 1).value.isWeak = false ∧ (size 2).value.isWeak = false ∧
      t.examine true (size 2).name (size 2).id = .granted none ∧
      (t.perform (.add true (size 2))).answer = .accepted true ∧
      (t.perform (.add true (size 2))).log = [] :=
  ⟨(Reachable.ofPolicy _).run _, rfl, rfl, rfl, rfl, rfl, rfl, rfl, rfl⟩

end Table
end AppResources
