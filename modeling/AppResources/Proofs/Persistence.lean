import AppResources.Proofs.Collisions
import AppResources.Proofs.FiniteMap

/-!
# Strong values persist

A value that is in a slot is only ever replaced as the resolver decides, as long as slots
are not dropped or written to directly.  So whatever the resolver keeps of a value over
every collision, any run keeps of it (`SlotMap.Run.keeps`): the run may add, declare,
create and ingest as it likes, and be refused as often as it likes.

What the offered resolvers keep of a strong value is that it is strong, and its kind.  A
strong attribute they keep as it is, and the strict one keeps every strong value
(`Resolver.Follows`).  No placeholder and no value of another kind ever takes the place
of a strong value (`Reachable.keepsStrongValues`).
-/

namespace AppResources

/-- The operation drops a slot, or writes to slots without asking the resolver. -/
def Operation.overwrites : Operation → Bool
  | .removeSlot _ _ | .edit (.slot _ _ _) | .edit (.comments _) => true
  | _ => false

/-! ## What a resolver keeps -/

namespace SlotMap

/-- The slot holds a value with the property. -/
def Holds (m : SlotMap) (name : Name) (key : SlotKey) (P : Value → Prop) : Prop :=
  ∃ v, (m name key).join = some v ∧ P v

section Keeps
variable {r : Resolver} {P : Value → Prop} (hP : ∀ v x, P v → P (r.settle v x))
  {m m' : SlotMap} {name : Name} {key : SlotKey}
include hP

theorem Adds.keeps {n : Name} {k : SlotKey} {x : Value} {flag : Bool}
    (h : Adds r m n k x flag m') (hv : m.Holds name key P) : m'.Holds name key P := by
  by_cases hat : name = n ∧ key = k
  · obtain ⟨rfl, rfl⟩ := hat
    obtain ⟨v, hv, hPv⟩ := hv
    cases h with
    | stored hnone =>
      rw [hnone] at hv
      cases hv
    | replaced hold hr =>
      -- the new value is what the collision has left
      obtain rfl := Option.some.inj (hold.symm.trans hv)
      have hnew := hP _ x hPv
      rw [Resolver.settle_of_takeNew hr] at hnew
      exact ⟨x, congrArg Option.join (if_pos ⟨rfl, rfl⟩), hnew⟩
    | kept | refused => exact ⟨v, hv, hPv⟩
  · unfold Holds
    rw [h.frame hat]
    exact hv

theorem AddsAll.keeps {additions : List Addition} {flag : Bool}
    (h : AddsAll r m additions flag m') (hv : m.Holds name key P) : m'.Holds name key P := by
  induction h with
  | nil => exact hv
  | cons ha _ ih => exact ih (ha.keeps hP hv)

/-- **What the resolver keeps of a value, every operation keeps** that does not pass the
resolver by. -/
theorem Step.keeps {op : Operation} {reply : Reply} (h : Step r m op reply m')
    (hop : op.overwrites = false) (hv : m.Holds name key P) : m'.Holds name key P := by
  cases h with
  | add h => exact h.keeps hP hv
  | addFile h => exact h.keeps hP hv
  | ingest h => exact h.keeps hP hv
  | @ensureSlot n k =>
    by_cases hat : name = n ∧ key = k
    · obtain ⟨rfl, rfl⟩ := hat
      obtain ⟨v, hv, hPv⟩ := hv
      have hthere : m name key = some (some v) := Option.join_eq_some_iff.mp hv
      refine ⟨v, ?_, hPv⟩
      rw [set, if_pos ⟨rfl, rfl⟩, hthere]
      rfl
    · unfold Holds
      rw [set_of_ne hat]
      exact hv
  | removeSlot | editSlot | editComments => cases hop
  | other => exact hv

/-- **What the resolver keeps of a value, a run keeps.** -/
theorem Run.keeps {calls : List (Operation × Reply × Log)} (h : Run r m calls m')
    (hops : ∀ c ∈ calls, c.1.overwrites = false) (hv : m.Holds name key P) :
    m'.Holds name key P := by
  induction h with
  | nil => exact hv
  | cons hstep _ ih =>
    obtain ⟨hfirst, hrest⟩ := List.forall_mem_cons.mp hops
    exact ih hrest (hstep.keeps hP hfirst hv)

end Keeps
end SlotMap

/-! ## Strong values -/

namespace Table
variable {t : Table}

/-- In every later state the slot of a strong value holds what follows it. -/
theorem Reachable.follows_run (ht : t.Reachable) {sameKind : Resolution}
    (hsame : t.resolver = .ofSameKind sameKind) {ops : List Operation}
    (hops : ∀ op ∈ ops, op.overwrites = false) {name : Name} {key : SlotKey} {v : Value}
    (hv : t.packages.value? name key = some v) (hstrong : v.isWeak = false) :
    ∃ w, (t.run ops).1.packages.value? name key = some w ∧ Resolver.Follows sameKind v w := by
  have hrun := ht.run_slotMap ops
  rw [slotMap_eq, slotMap_eq, hsame] at hrun
  refine hrun.keeps (fun _ x hw => hw.settle hstrong x) (fun c hc => ?_) ⟨v, hv, Or.inl rfl⟩
  exact hops c.1 (t.mem_of_mem_transcript hc)

/-- **Strong values are never lost** to placeholders or to values of another kind. -/
structure KeepsStrongValues (t : Table) : Prop where
  /-- The slot of a strong value holds a strong value of its kind in every later state. -/
  kind : ∀ ops : List Operation, (∀ op ∈ ops, op.overwrites = false) → ∀ name key v,
    t.packages.value? name key = some v → v.isWeak = false →
      ∃ w, (t.run ops).1.packages.value? name key = some w ∧ w.isWeak = false ∧ w.kind = v.kind
  /-- A strong attribute stays as it is. -/
  strong_attribute : ∀ ops : List Operation, (∀ op ∈ ops, op.overwrites = false) → ∀ name key v,
    t.packages.value? name key = some v → v.isWeak = false → v.kind = .attr →
      (t.run ops).1.packages.value? name key = some v
  /-- With the strict resolver every strong value stays as it is. -/
  strict : t.resolver = .strict → ∀ ops : List Operation,
    (∀ op ∈ ops, op.overwrites = false) → ∀ name key v,
      t.packages.value? name key = some v → v.isWeak = false →
        (t.run ops).1.packages.value? name key = some v

/-- **With either of the offered resolvers, strong values persist.** -/
theorem Reachable.keepsStrongValues (ht : t.Reachable)
    (hresolver : t.resolver = .overlay ∨ t.resolver = .strict) : KeepsStrongValues t := by
  obtain ⟨sameKind, hsame⟩ : ∃ sameKind, t.resolver = .ofSameKind sameKind :=
    hresolver.elim (fun h => ⟨.takeNew, h⟩) fun h => ⟨.conflict, h⟩
  constructor
  · intro ops hops name key v hv hstrong
    obtain ⟨w, hw, hfollows⟩ := ht.follows_run hsame hops hv hstrong
    rcases hfollows with rfl | ⟨hweak, hkind, -, -⟩
    · exact ⟨w, hw, hstrong, rfl⟩
    · exact ⟨w, hw, hweak, hkind⟩
  · intro ops hops name key v hv hstrong hattr
    obtain ⟨w, hw, hfollows⟩ := ht.follows_run hsame hops hv hstrong
    rcases hfollows with rfl | ⟨-, -, hnone, -⟩
    · exact hw
    · rw [Value.kind_eq_attr_iff, hnone] at hattr
      cases hattr
  · intro hstrict ops hops name key v hv hstrong
    have hconflict : t.resolver = .ofSameKind .conflict := hstrict
    obtain ⟨w, hw, hfollows⟩ := ht.follows_run hconflict hops hv hstrong
    rcases hfollows with rfl | ⟨-, -, -, htake⟩
    · exact hw
    · cases htake

/-- A title gives way to another title, but not to an `id` placeholder or to a color; on a
strict table it gives way to nothing. -/
theorem keepsStrongValues_title :
    let title : Name := ⟨"app", .string, "title"⟩
    let add (payload : Payload) : Operation := .add true { name := title, value := { payload } }
    let later := [add .id, add (.string "U"), add (.primitive ⟨DataType.colorRgb8, 0⟩), add .id]
    let overlay := ((ofPolicy .permissive).run [add (.string "T")]).1
    let strict := ((ofPolicy .strict).run [add (.string "T")]).1
    (KeepsStrongValues overlay ∧
      (overlay.run later).1.packages.value? title {} = some { payload := .string "U" }) ∧
    KeepsStrongValues strict ∧
      (strict.run later).1.packages.value? title {} = some { payload := .string "T" } :=
  ⟨⟨Reachable.keepsStrongValues ((Reachable.ofPolicy _).run _) (Or.inl rfl), rfl⟩,
    Reachable.keepsStrongValues ((Reachable.ofPolicy _).run _) (Or.inr rfl), rfl⟩

end Table
end AppResources
