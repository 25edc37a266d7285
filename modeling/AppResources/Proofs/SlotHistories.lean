import AppResources.Proofs.Idempotence
import AppResources.Proofs.Merging
import Mathlib.Data.List.Forall2

/-!
# Adding values to one slot

When values are added one after another to a slot that is not there yet, each under the
same valid name and without an identifier, the replies are the answers of the resolver and
the slot holds what the resolver leaves (`run_addsTo`).  For the offered resolvers both are
known in closed form, of attributes (`MergesAttributes`) and of other values
(`MergesOthers`).

Among attributes the order matters little: whether all of them are accepted does not depend
on it, and when they are, neither do the mask and the strength of the one that is left.
-/

namespace AppResources

/-- The operation adds the value to the slot, without an identifier. -/
def Operation.AddsTo (name : Name) (key : SlotKey) (op : Operation) (x : Value) : Prop :=
  ∃ checked a, op.request? = some (checked, .add a) ∧ a.name = name ∧ a.key = key ∧
    a.id = none ∧ a.value = x

/-- Additions, checked or not, add their values. -/
theorem Operation.forall₂_addsTo (checked : Bool) (name : Name) (key : SlotKey)
    (xs : List Value) : List.Forall₂ (AddsTo name key) (xs.map fun x =>
      .add checked { name, config := key.config, product := key.product, value := x }) xs :=
  List.forall₂_map_left_iff.mpr
    (List.forall₂_same.mpr fun _ _ => ⟨checked, _, rfl, rfl, rfl, rfl, rfl⟩)

namespace Table

/-- The replies to operations, one after another. -/
def replies (t : Table) (ops : List Operation) : List Reply := (t.run ops).2.map Prod.fst

/-- Every operation succeeds. -/
def AllAccepted (t : Table) (ops : List Operation) : Prop :=
  ∀ reply ∈ t.replies ops, reply = .accepted true

variable {t : Table} {name : Name} {key : SlotKey} {ops : List Operation} {xs : List Value}

/-- An addition that is admitted is answered by the resolver. -/
theorem answer_add_bare {checked : Bool} {a : Addition} (ha : a.id = none)
    (hadmitted : a.Admitted checked) : (t.add checked a).answer =
      t.resolver.accepts (t.packages.slot? a.name a.key) a.value := by
  rcases t.examine_bare checked ha with ⟨-, hx⟩ | ⟨hnot, -⟩
  · have hvalue : (t.packages.slot? a.name a.key).join = t.packages.value? a.name a.key := rfl
    rw [add_eq, hx, Resolver.accepts, hvalue]
    cases t.packages.value? a.name a.key with
    | none => rfl
    | some old => cases hr : t.resolver old a.value <;> simp [Addition.verdict, Verdict.outcome, hr]
  · exact absurd hadmitted hnot

/-- A value that is added meets what is in its slot. -/
theorem perform_addsTo (hname : invalidEntryCharacter? name.entry = none) {op : Operation}
    {x : Value} (hop : op.AddsTo name key x) :
    (t.perform op).answer = .accepted (t.resolver.accepts (t.packages.slot? name key) x) ∧
      (t.perform op).table.packages.slot? name key =
        t.resolver.offer (t.packages.slot? name key) x := by
  obtain ⟨checked, a, hrequest, rfl, rfl, ha, rfl⟩ := hop
  have hadmitted : a.Admitted checked := by
    rw [Addition.Admitted, hname, ite_self]
  have hoffers : (Operation.add checked a).offers a.name a.key = some a.value :=
    if_pos ⟨hadmitted, rfl, rfl⟩
  rw [Operation.perform_request hrequest]
  constructor
  · exact congrArg Reply.accepted (answer_add_bare ha hadmitted)
  · refine (slot?_add_bare checked ha a.name a.key).trans ?_
    rw [hoffers, Option.elim_some]

/-- **Values that are added to one slot**: the answers of the resolver, and what it leaves. -/
theorem run_addsTo (hname : invalidEntryCharacter? name.entry = none)
    (hops : List.Forall₂ (Operation.AddsTo name key) ops xs) :
    t.replies ops = (t.resolver.answers (t.packages.slot? name key) xs).map .accepted ∧
      (t.run ops).1.packages.slot? name key =
        xs.foldl t.resolver.offer (t.packages.slot? name key) := by
  induction hops generalizing t with
  | nil => exact ⟨rfl, rfl⟩
  | @cons op x ops xs hop _ ih =>
    obtain ⟨hanswer, hslot⟩ := perform_addsTo (t := t) hname hop
    obtain ⟨hreplies, hleft⟩ := ih (t := (t.perform op).table)
    rw [(t.perform_rules op).2, hslot] at hreplies hleft
    refine ⟨?_, hleft⟩
    show (t.perform op).answer :: replies (t.perform op).table ops = _
    rw [hanswer, hreplies]
    rfl

/-- What the resolver leaves of values is in the slot. -/
theorem value?_run_addsTo (hname : invalidEntryCharacter? name.entry = none)
    (habsent : t.packages.slot? name key = none)
    (hops : List.Forall₂ (Operation.AddsTo name key) ops xs) {left? : Option Value}
    (hleft : xs.foldl t.resolver.offer none = left?.map some) (hne : xs ≠ []) :
    ∃ v, left? = some v ∧ (t.run ops).1.packages.value? name key = some v := by
  obtain ⟨v, hv⟩ := t.resolver.exists_foldl_offer none hne
  obtain ⟨-, hslot⟩ := run_addsTo (t := t) hname hops
  rw [habsent, hv] at hslot
  refine ⟨v, ?_, congrArg Option.join hslot⟩
  obtain ⟨w, hw, he⟩ := Option.map_eq_some_iff.mp (hleft.symm.trans hv)
  rw [hw, Option.some.inj he]

/-- **What becomes of attributes** that are added to a slot. -/
structure MergesAttributes (t : Table) (name : Name) (key : SlotKey) (ops : List Operation)
    (xs : List Value) : Prop where
  /-- Refused are those that are no placeholders and have not the mask of the leader. -/
  replies : t.replies ops = xs.map fun x =>
    .accepted (decide (x.Open ∨ ∀ s ∈ leader? Value.Open xs, x.mask? = s.mask?))
  /-- Left is the first strong attribute of the leader's mask or else the last one, and
  without a leader the last attribute. -/
  stored : ∃ v, mergedAttribute? xs = some v ∧ (t.run ops).1.packages.value? name key = some v
  /-- In any other order all of them are accepted as well, or not all of them as well, and
  what is left has the same mask and the same strength if they are. -/
  order : ∀ ops' ys, xs.Perm ys → List.Forall₂ (Operation.AddsTo name key) ops' ys →
    (t.AllAccepted ops ↔ t.AllAccepted ops') ∧
      (t.AllAccepted ops → ∃ v w, (t.run ops).1.packages.value? name key = some v ∧
        (t.run ops').1.packages.value? name key = some w ∧ v.mask? = w.mask? ∧
          v.isWeak = w.isWeak)

/-- **What becomes of other values** that are added to a slot. -/
structure MergesOthers (t : Table) (name : Name) (key : SlotKey) (ops : List Operation)
    (xs : List Value) : Prop where
  /-- With the overlaying resolver the strong values are refused that have not the kind of
  the first one, and the last of its kind is left, or the first value where all are weak. -/
  overlay : t.resolver = .overlay →
    (t.replies ops = xs.map fun x =>
      .accepted (decide (x.Weak ∨ ∀ s ∈ leader? Value.Weak xs, x.kind = s.kind))) ∧
    ∃ v, overlaid? xs = some v ∧ (t.run ops).1.packages.value? name key = some v
  /-- With the strict resolver every strong value after the first one is refused, which is
  left, or the first value where all are weak. -/
  strict : t.resolver = .strict →
    (t.replies ops =
      (xs.mapIdx fun i x => decide (x.Weak ∨ ∀ y ∈ xs.take i, y.Weak)).map .accepted) ∧
    ∃ v, retained? xs = some v ∧ (t.run ops).1.packages.value? name key = some v

/-- All attributes are accepted when those agree that are no placeholders. -/
theorem allAccepted_attributes_iff (hname : invalidEntryCharacter? name.entry = none)
    (habsent : t.packages.slot? name key = none) {sameKind : Resolution}
    (hresolver : t.resolver = .ofSameKind sameKind)
    (hops : List.Forall₂ (Operation.AddsTo name key) ops xs) (hxs : ∀ x ∈ xs, x.kind = .attr) :
    t.AllAccepted ops ↔ Agree xs := by
  obtain ⟨hreplies, -⟩ := run_addsTo (t := t) hname hops
  rw [habsent, hresolver, Resolver.answers_attributes hxs] at hreplies
  rw [AllAccepted, hreplies, agree_iff]
  simp

/-- **Attributes that are added to a slot are merged** by the mask of their leader. -/
theorem mergesAttributes (hresolver : t.resolver = .overlay ∨ t.resolver = .strict)
    (hname : invalidEntryCharacter? name.entry = none)
    (habsent : t.packages.slot? name key = none)
    (hops : List.Forall₂ (Operation.AddsTo name key) ops xs) (hne : xs ≠ [])
    (hxs : ∀ x ∈ xs, x.kind = .attr) : MergesAttributes t name key ops xs := by
  obtain ⟨sameKind, hsame⟩ : ∃ sameKind, t.resolver = .ofSameKind sameKind :=
    hresolver.elim (fun h => ⟨.takeNew, h⟩) fun h => ⟨.conflict, h⟩
  have hstored : ∀ {ops ys}, List.Forall₂ (Operation.AddsTo name key) ops ys → ys ≠ [] →
      (∀ y ∈ ys, y.kind = .attr) →
      ∃ v, mergedAttribute? ys = some v ∧ (t.run ops).1.packages.value? name key = some v := by
    intro ops ys hops hne hys
    refine value?_run_addsTo hname habsent hops ?_ hne
    rw [hsame]
    exact Resolver.foldl_offer_attributes hys
  constructor
  · obtain ⟨hreplies, -⟩ := run_addsTo (t := t) hname hops
    rw [hreplies, habsent, hsame, Resolver.answers_attributes hxs, List.map_map]
    rfl
  · exact hstored hops hne hxs
  · intro ops' ys hperm hops'
    have hne' : ys ≠ [] := fun h => hne (List.perm_nil.mp (h ▸ hperm))
    have hys : ∀ y ∈ ys, y.kind = .attr := fun y hy => hxs y (hperm.mem_iff.mpr hy)
    have hagree := allAccepted_attributes_iff hname habsent hsame hops hxs
    refine ⟨?_, fun haccepted => ?_⟩
    · rw [hagree, allAccepted_attributes_iff hname habsent hsame hops' hys]
      exact agree_perm hperm
    · obtain ⟨v, hv, hvstored⟩ := hstored hops hne hxs
      obtain ⟨w, hw, hwstored⟩ := hstored hops' hne' hys
      exact ⟨v, w, hvstored, hwstored, mergedAttribute?_perm hperm (hagree.mp haccepted) hv hw⟩

/-- Two placeholders, a number that leads, a text that is refused, and two more numbers. -/
theorem mergesAttributes_sizes :
    let size (mask : FormatMask) (max : Int32) (weak : Bool) : Value :=
      { weak, payload := .attr { mask, max } }
    let xs := [size .any 1 true, size .any 2 true, size .integer 3 true, size .string 4 false,
      size .integer 5 false, size .integer 6 false]
    let name : Name := ⟨"app", .attr, "size"⟩
    let ops := xs.map fun x => Operation.add true { name, value := x }
    xs ≠ [] ∧ (∀ x ∈ xs, x.kind = .attr) ∧
      MergesAttributes (ofPolicy .permissive) name {} ops xs := by
  intro size xs name ops
  have hkind : ∀ x ∈ xs, x.kind = .attr := by decide
  exact ⟨List.cons_ne_nil _ _, hkind, mergesAttributes (Or.inl rfl) (by decide) rfl
    (Operation.forall₂_addsTo true name {} xs) (List.cons_ne_nil _ _) hkind⟩

/-- **Other values that are added to a slot are merged** by their strength and, by the
overlaying resolver, by the kind of the first strong one. -/
theorem mergesOthers (hname : invalidEntryCharacter? name.entry = none)
    (habsent : t.packages.slot? name key = none)
    (hops : List.Forall₂ (Operation.AddsTo name key) ops xs) (hne : xs ≠ [])
    (hxs : ∀ x ∈ xs, x.kind ≠ .attr) : MergesOthers t name key ops xs := by
  obtain ⟨hreplies, -⟩ := run_addsTo (t := t) hname hops
  constructor
  · intro hresolver
    refine ⟨?_, value?_run_addsTo hname habsent hops ?_ hne⟩
    · rw [hreplies, habsent, hresolver, Resolver.answers_overlay hxs, List.map_map]
      rfl
    · rw [hresolver]
      exact Resolver.foldl_offer_overlay hxs
  · intro hresolver
    refine ⟨?_, value?_run_addsTo hname habsent hops ?_ hne⟩
    · rw [hreplies, habsent, hresolver, Resolver.answers_strict hxs]
    · rw [hresolver]
      exact Resolver.foldl_offer_strict hxs

/-- A placeholder, a title that leads, a style that is refused, and one more title. -/
theorem mergesOthers_titles :
    let title (text : String) : Value := { payload := .string text }
    let xs := [{ payload := .id }, title "T", { payload := .style none false [] }, title "U"]
    let name : Name := ⟨"app", .string, "title"⟩
    let ops := xs.map fun x => Operation.add true { name, value := x }
    xs ≠ [] ∧ (∀ x ∈ xs, x.kind ≠ .attr) ∧ MergesOthers (ofPolicy .permissive) name {} ops xs ∧
      MergesOthers (ofPolicy .strict) name {} ops xs := by
  intro title xs name ops
  have hkind : ∀ x ∈ xs, x.kind ≠ .attr := by decide
  have hops := Operation.forall₂_addsTo true name {} xs
  exact ⟨List.cons_ne_nil _ _, hkind,
    mergesOthers (by decide) rfl hops (List.cons_ne_nil _ _) hkind,
    mergesOthers (by decide) rfl hops (List.cons_ne_nil _ _) hkind⟩

end Table
end AppResources
