import AppResources.Proofs.KeyedLaws

/-!
# Searching for a position

A level need not be walked.  Any search that answers with the position of a key's item, or
with the position where such an item has to stand (`Locates`), serves as well: on an
increasing list what `get?`, `update`, `modify` and `remove` do is done at the answered
position.  How the search goes about it, by halving for instance, does not matter.
-/

namespace AppResources.Keyed

open Std

variable {κ β : Type}

/-- **What a search may answer**: the position of the key's item, or the position that
separates the smaller keys from the larger ones. -/
inductive Locates [Ord κ] (items : Keyed κ β) (key : κ) : Except Nat Nat → Prop where
  | found {before after : Keyed κ β} {b : β} (h : items = before ++ (key, b) :: after) :
      Locates items key (.ok before.length)
  | missing {before after : Keyed κ β} (h : items = before ++ after)
      (hbefore : ∀ item ∈ before, compare item.1 key = .lt)
      (hafter : ∀ item ∈ after, compare key item.1 = .lt) :
      Locates items key (.error before.length)

/-! ## Working at a position -/

/-- The item at the answered position. -/
def getAt (items : Keyed κ β) : Except Nat Nat → Option β
  | .ok i => items[i]?.map Prod.snd
  | .error _ => none

/-- Changes the item at the answered position, or inserts one there. -/
def updateAt (items : Keyed κ β) (key : κ) (change : Option β → β) :
    Except Nat Nat → Keyed κ β
  | .ok i => List.modify items i fun item => (item.1, change (some item.2))
  | .error i => items.insertIdx i (key, change none)

/-- Changes the item at the answered position. -/
def modifyAt (items : Keyed κ β) (change : β → β) : Except Nat Nat → Keyed κ β
  | .ok i => List.modify items i fun item => (item.1, change item.2)
  | .error _ => items

/-- Drops the item at the answered position. -/
def removeAt (items : Keyed κ β) : Except Nat Nat → Keyed κ β
  | .ok i => items.eraseIdx i
  | .error _ => items

theorem insertIdx_length_append {α : Type} (before after : List α) (x : α) :
    (before ++ after).insertIdx before.length x = before ++ x :: after := by
  induction before with
  | nil => rfl
  | cons y before ih =>
    rw [List.cons_append, List.length_cons, List.insertIdx_succ_cons, ih, List.cons_append]

variable [Ord κ]

/-! ## Walking past smaller keys -/

section Walk
variable {before : Keyed κ β} {key : κ} (h : ∀ item ∈ before, compare key item.1 = .gt)
include h

theorem get?_append (rest : Keyed κ β) : get? (before ++ rest) key = get? rest key := by
  induction before with
  | nil => rfl
  | cons item before ih =>
    obtain ⟨hitem, hbefore⟩ := List.forall_mem_cons.mp h
    simp only [List.cons_append, get?, hitem, ih hbefore]

theorem update_append (rest : Keyed κ β) (change : Option β → β) :
    update (before ++ rest) key change = before ++ update rest key change := by
  induction before with
  | nil => rfl
  | cons item before ih =>
    obtain ⟨hitem, hbefore⟩ := List.forall_mem_cons.mp h
    simp only [List.cons_append, update, hitem, ih hbefore]

theorem modify_append (rest : Keyed κ β) (change : β → β) :
    modify (before ++ rest) key change = before ++ modify rest key change := by
  induction before with
  | nil => rfl
  | cons item before ih =>
    obtain ⟨hitem, hbefore⟩ := List.forall_mem_cons.mp h
    simp only [List.cons_append, modify, hitem, ih hbefore]

theorem remove_append (rest : Keyed κ β) :
    remove (before ++ rest) key = before ++ remove rest key := by
  induction before with
  | nil => rfl
  | cons item before ih =>
    obtain ⟨hitem, hbefore⟩ := List.forall_mem_cons.mp h
    simp only [List.cons_append, remove, hitem, ih hbefore]

end Walk

/-! ## Answers -/

variable [LawfulEqOrd κ] [TransOrd κ] {items : Keyed κ β} {key : κ} {answer : Except Nat Nat}

/-- **A search of an increasing list has an answer.** -/
theorem Increasing.exists_locates (h : Increasing items) (key : κ) :
    ∃ answer, Locates items key answer := by
  induction items with
  | nil => exact ⟨_, .missing (List.append_nil []).symm (by simp) (by simp)⟩
  | cons item rest ih =>
    obtain ⟨k, b⟩ := item
    obtain ⟨hhead, hrest⟩ := List.pairwise_cons.mp h
    cases hk : compare key k with
    | lt =>
      have hafter : ∀ item ∈ (k, b) :: rest, compare key item.1 = .lt :=
        List.forall_mem_cons.mpr ⟨hk, fun item hm => TransCmp.lt_trans hk (hhead item hm)⟩
      exact ⟨_, .missing (List.nil_append _).symm (by simp) hafter⟩
    | eq =>
      obtain rfl := LawfulEqOrd.eq_of_compare hk
      exact ⟨_, .found (List.nil_append _).symm⟩
    | gt =>
      obtain ⟨answer, hanswer⟩ := ih hrest
      cases hanswer with
      | @found before after b' hitems =>
        exact ⟨_, .found (by rw [hitems, List.cons_append])⟩
      | @missing before after hitems hbefore hafter =>
        have hsmaller : ∀ item ∈ (k, b) :: before, compare item.1 key = .lt :=
          List.forall_mem_cons.mpr ⟨OrientedCmp.lt_of_gt hk, hbefore⟩
        exact ⟨_, .missing (by rw [hitems, List.cons_append]) hsmaller hafter⟩

omit [LawfulEqOrd κ] in
/-- A walk passes what stands before the answered position, and stops there. -/
theorem Locates.walk (hanswer : Locates items key answer) (h : Increasing items) :
    ∃ before after, items = before ++ after ∧ (∀ item ∈ before, compare key item.1 = .gt) ∧
      ((∃ b rest, after = (key, b) :: rest ∧ answer = .ok before.length) ∨
        ((∀ item ∈ after, compare key item.1 = .lt) ∧ answer = .error before.length)) := by
  cases hanswer with
  | @found before rest b hitems =>
    refine ⟨before, (key, b) :: rest, hitems, fun item hm => ?_, Or.inl ⟨b, rest, rfl, rfl⟩⟩
    rw [hitems] at h
    exact OrientedCmp.gt_of_lt ((List.pairwise_append.mp h).2.2 item hm _ List.mem_cons_self)
  | @missing before after hitems hbefore hafter =>
    refine ⟨before, after, hitems, fun item hm => ?_, Or.inr ⟨hafter, rfl⟩⟩
    exact OrientedCmp.gt_of_lt (hbefore item hm)

/-- **An answer says what a lookup finds.** -/
theorem Locates.get?_eq (hanswer : Locates items key answer) (h : Increasing items) :
    get? items key = items.getAt answer := by
  obtain ⟨before, after, rfl, hbefore, hstop⟩ := hanswer.walk h
  rw [get?_append hbefore]
  rcases hstop with ⟨b, rest, rfl, rfl⟩ | ⟨hafter, rfl⟩
  · simp [get?, getAt, ReflOrd.compare_self]
  · cases after with
    | nil => rfl
    | cons item rest => simp only [get?, getAt, hafter item List.mem_cons_self]

/-- **An update works at the answered position**, and inserts there what the key lacks. -/
theorem Locates.update_eq (hanswer : Locates items key answer) (h : Increasing items)
    (change : Option β → β) : items.update key change = items.updateAt key change answer := by
  obtain ⟨before, after, rfl, hbefore, hstop⟩ := hanswer.walk h
  rw [update_append hbefore]
  rcases hstop with ⟨b, rest, rfl, rfl⟩ | ⟨hafter, rfl⟩
  · simp [update, updateAt, ReflOrd.compare_self, List.modify_eq_take_drop]
  · rw [updateAt, insertIdx_length_append]
    cases after with
    | nil => rfl
    | cons item rest => simp only [update, hafter item List.mem_cons_self]

/-- **A change of what is there works at the answered position.** -/
theorem Locates.modify_eq (hanswer : Locates items key answer) (h : Increasing items)
    (change : β → β) : items.modify key change = items.modifyAt change answer := by
  obtain ⟨before, after, rfl, hbefore, hstop⟩ := hanswer.walk h
  rw [modify_append hbefore]
  rcases hstop with ⟨b, rest, rfl, rfl⟩ | ⟨hafter, rfl⟩
  · simp [modify, modifyAt, ReflOrd.compare_self, List.modify_eq_take_drop]
  · cases after with
    | nil => rfl
    | cons item rest => simp only [modify, modifyAt, hafter item List.mem_cons_self]

/-- **A removal works at the answered position.** -/
theorem Locates.remove_eq (hanswer : Locates items key answer) (h : Increasing items) :
    items.remove key = items.removeAt answer := by
  obtain ⟨before, after, rfl, hbefore, hstop⟩ := hanswer.walk h
  rw [remove_append hbefore]
  rcases hstop with ⟨b, rest, rfl, rfl⟩ | ⟨hafter, rfl⟩
  · simp [remove, removeAt, ReflOrd.compare_self, List.eraseIdx_append_of_length_le]
  · cases after with
    | nil => rfl
    | cons item rest => simp only [remove, removeAt, hafter item List.mem_cons_self]

end AppResources.Keyed
