import AppResources.Proofs.Collisions

/-!
# Merging values

When values are offered to one slot, one after another, each is answered, and in the end
the slot holds one of them.  For the offered resolvers both have a **closed form**: which
values are refused, and which of the others is left, can be read off the whole sequence
without following the slot.

A sequence is led by its first value that is no placeholder (`leader?`).  Among attributes
the placeholders are those that are weak and accept anything (`Value.Open`).  An attribute
that is none of them is refused unless it has the mask of the leader (`answers_attributes`);
of this mask the first strong attribute is left, or else the last one
(`foldl_offer_attributes`).  Among other values the placeholders are the weak ones.  With the
overlaying resolver a strong value is refused unless it has the kind of the leader, and the
last of this kind is left (`answers_overlay`, `foldl_offer_overlay`); with the strict
resolver every strong value but the leader is refused (`answers_strict`,
`foldl_offer_strict`).

What is left is kept in its closed form by one more value, and so by every sequence
(`foldl_offer_eq`); the answers follow from what is left by the values before
(`answers_eq_mapIdx`, `answers_eq_map`).
-/

namespace AppResources

/-! ## Leaders -/

/-- The first value that is no placeholder. -/
def leader? (placeholder : Value → Prop) [DecidablePred placeholder] (xs : List Value) :
    Option Value :=
  xs.find? fun x => ¬ placeholder x

section Leaders
variable {placeholder : Value → Prop} [DecidablePred placeholder] {xs : List Value} {x s : Value}

theorem leader?_append (xs ys : List Value) : leader? placeholder (xs ++ ys) =
    (leader? placeholder xs).or (leader? placeholder ys) :=
  List.find?_append

theorem leader?_cons_of_not (h : ¬ placeholder x) (xs : List Value) :
    leader? placeholder (x :: xs) = some x :=
  List.find?_cons_of_pos (decide_eq_true h)

theorem leader?_concat_of_some (h : leader? placeholder xs = some s) (x : Value) :
    leader? placeholder (xs ++ [x]) = some s := by
  rw [leader?_append, h, Option.some_or]

theorem leader?_concat_of_none (h : leader? placeholder xs = none) (x : Value) :
    leader? placeholder (xs ++ [x]) = if placeholder x then none else some x := by
  rw [leader?_append, h, Option.none_or]
  by_cases hx : placeholder x <;> simp [leader?, hx]

theorem placeholder_of_leader? (h : leader? placeholder xs = none) : ∀ x ∈ xs, placeholder x := by
  intro x hx
  have hnot := List.find?_eq_none.mp h x hx
  rwa [decide_eq_true_eq, not_not] at hnot

theorem mem_of_leader? (h : leader? placeholder xs = some s) : s ∈ xs ∧ ¬ placeholder s := by
  have hnot := List.find?_some h
  exact ⟨List.mem_of_find?_eq_some h, of_decide_eq_true hnot⟩

/-- A sequence has a leader as soon as it has a value that may be one. -/
theorem exists_leader? (hx : x ∈ xs) (h : ¬ placeholder x) :
    ∃ s, leader? placeholder xs = some s := by
  cases hlead : leader? placeholder xs with
  | none => exact absurd (placeholder_of_leader? hlead x hx) h
  | some s => exact ⟨s, rfl⟩

/-- Whether a value that is no placeholder agrees with the leader is settled by those before
it, since it leads all that come after it. -/
theorem agrees_leader? {agrees : Value → Value → Prop} (hself : ∀ x, agrees x x)
    (hx : ¬ placeholder x) (before after : List Value) :
    (∀ s ∈ leader? placeholder (before ++ x :: after), agrees x s) ↔
      ∀ s ∈ leader? placeholder before, agrees x s := by
  rw [leader?_append, leader?_cons_of_not hx]
  cases leader? placeholder before with
  | none => exact iff_of_true (fun s hs => Option.some.inj hs ▸ hself x) fun s hs => nomatch hs
  | some s => exact Iff.rfl

end Leaders

/-! ## Answers to a history -/

namespace Resolver

/-- The answer to an addition: it fails when its value is in conflict with the one in the
slot. -/
def accepts (r : Resolver) (slot? : Option (Option Value)) (x : Value) : Bool :=
  slot?.join.all fun old => r old x ≠ .conflict

/-- The answers to additions, one after another. -/
def answers (r : Resolver) : Option (Option Value) → List Value → List Bool
  | _, [] => []
  | slot?, x :: rest => r.accepts slot? x :: r.answers (r.offer slot? x) rest

/-- Each answer is given to what the values before have made of the slot. -/
theorem answers_eq_mapIdx (r : Resolver) (slot? : Option (Option Value)) (xs : List Value) :
    r.answers slot? xs =
      xs.mapIdx fun i x => r.accepts ((xs.take i).foldl r.offer slot?) x := by
  induction xs generalizing slot? with
  | nil => rfl
  | cons y rest ih =>
    rw [List.mapIdx_cons]
    exact congrArg _ (ih _)

/-- **Values that have to agree with the leader of those before** have to agree with the
leader of all. -/
theorem answers_eq_map {r : Resolver} {placeholder : Value → Prop} [DecidablePred placeholder]
    (agrees : Value → Value → Prop) [DecidableRel agrees] (hself : ∀ x, agrees x x)
    {xs : List Value} (haccepts : ∀ before x after, xs = before ++ x :: after →
      r.accepts (before.foldl r.offer none) x =
        decide (placeholder x ∨ ∀ s ∈ leader? placeholder before, agrees x s)) :
    r.answers none xs =
      xs.map fun x => decide (placeholder x ∨ ∀ s ∈ leader? placeholder xs, agrees x s) := by
  rw [answers_eq_mapIdx]
  refine List.ext_getElem (by rw [List.length_mapIdx, List.length_map]) fun i hi hi' => ?_
  rw [List.length_mapIdx] at hi
  have hsplit : xs = xs.take i ++ xs[i] :: xs.drop (i + 1) := by
    rw [← List.drop_eq_getElem_cons hi, List.take_append_drop]
  rw [List.getElem_mapIdx, List.getElem_map, haccepts _ _ _ hsplit]
  refine decide_eq_decide.mpr (or_congr_right' fun hx => ?_)
  have hleader := agrees_leader? hself hx (xs.take i) (xs.drop (i + 1))
  rw [← hsplit] at hleader
  exact hleader.symm

/-- **A closed form that one more value keeps** is the closed form of every sequence. -/
theorem foldl_offer_eq {r : Resolver} {P : Value → Prop} {left? : List Value → Option Value}
    (hnil : left? [] = none) (hoffer : ∀ xs x, (∀ y ∈ xs, P y) → P x →
      r.offer ((left? xs).map some) x = (left? (xs ++ [x])).map some)
    {xs : List Value} (hxs : ∀ x ∈ xs, P x) : xs.foldl r.offer none = (left? xs).map some := by
  induction xs using List.reverseRecOn with
  | nil => rw [hnil, List.foldl_nil, Option.map_none]
  | append_singleton xs x ih =>
    obtain ⟨hbefore, hx⟩ := List.forall_mem_append.mp hxs
    rw [List.foldl_append, ih hbefore, List.foldl_cons, List.foldl_nil]
    exact hoffer xs x hbefore (hx x (List.mem_singleton.mpr rfl))

variable {sameKind : Resolution} {v x : Value}

theorem settle_attribute (hv : v.kind = .attr) (hx : x.kind = .attr) :
    (ofSameKind sameKind).settle v x =
      if v.isWeak = true ∧ (v.mask? = x.mask? ∨ v.mask? = some .any) then x else v := by
  obtain ⟨a, ha⟩ := Option.isSome_iff_exists.mp (Value.kind_eq_attr_iff.mp hv)
  obtain ⟨b, hb⟩ := Option.isSome_iff_exists.mp (Value.kind_eq_attr_iff.mp hx)
  refine if_congr ((takeNew_attributes_iff ha hb).trans ?_) rfl rfl
  rw [Value.mask?, Value.mask?, ha, hb, Option.map_some, Option.map_some, Option.some.injEq,
    Option.some.injEq]

theorem accepts_attribute (hv : v.kind = .attr) (hx : x.kind = .attr) :
    (ofSameKind sameKind).accepts (some (some v)) x =
      decide (x.Open ∨ v.Open ∨ x.mask? = v.mask?) := by
  obtain ⟨a, ha⟩ := Option.isSome_iff_exists.mp (Value.kind_eq_attr_iff.mp hv)
  obtain ⟨b, hb⟩ := Option.isSome_iff_exists.mp (Value.kind_eq_attr_iff.mp hx)
  refine decide_eq_decide.mpr ((not_congr (conflict_attributes_iff ha hb)).trans ?_)
  rw [Value.mask?, Value.mask?, ha, hb, Option.map_some, Option.map_some, Option.some.injEq,
    not_and_or, not_and_or, not_not, not_not, not_not, or_comm, or_right_comm, or_comm,
    @eq_comm _ a.mask]

theorem settle_other (hv : v.kind ≠ .attr) : (ofSameKind sameKind).settle v x =
    if x.isWeak = false ∧ (v.isWeak = true ∨ v.kind = x.kind ∧ sameKind = .takeNew) then x
    else v :=
  if_congr (takeNew_others_iff (Or.inl (Value.attribute?_eq_none_iff.mpr hv))) rfl rfl

theorem accepts_other (hv : v.kind ≠ .attr) :
    (ofSameKind sameKind).accepts (some (some v)) x = decide (x.isWeak = true ∨
      v.isWeak = true ∨ x.kind = v.kind ∧ sameKind ≠ .conflict) := by
  have hconflict : ofSameKind sameKind v x = .conflict ↔ _ :=
    conflict_others_iff (Or.inl (Value.attribute?_eq_none_iff.mpr hv))
  refine decide_eq_decide.mpr ((not_congr hconflict).trans ?_)
  rw [not_and_or, not_and_or, Bool.not_eq_false, Bool.not_eq_false, Classical.not_imp,
    or_left_comm, @eq_comm _ v.kind]

end Resolver

/-! ## Attributes -/

/-- The first strong attribute of a mask, or else the last one. -/
def strongest? (mask : Option FormatMask) (xs : List Value) : Option Value :=
  (xs.find? fun x => x.isWeak = false ∧ x.mask? = mask).or
    (xs.filter fun x => x.mask? = mask).getLast?

/-- The attribute that is left of a sequence: of the mask of its leader, or the last one
where there are placeholders only. -/
def mergedAttribute? (xs : List Value) : Option Value :=
  match leader? Value.Open xs with
  | some s => strongest? s.mask? xs
  | none => xs.getLast?

section Attributes
variable {xs ys : List Value} {x s v w : Value} {mask : Option FormatMask}

/-- Without a strong attribute of the mask, all of the mask are weak. -/
theorem weak_of_find? (h : (xs.find? fun x => x.isWeak = false ∧ x.mask? = mask) = none) :
    ∀ x ∈ xs, x.mask? = mask → x.isWeak = true := by
  intro x hx hmask
  have hnot := List.find?_eq_none.mp h x hx
  rw [decide_eq_true_eq, not_and', Bool.not_eq_false] at hnot
  exact hnot hmask

/-- What is left of a mask has the mask, and is weak only if all of the mask are. -/
theorem strongest?_some (h : strongest? mask xs = some v) : v ∈ xs ∧ v.mask? = mask ∧
    (v.isWeak = true → ∀ x ∈ xs, x.mask? = mask → x.isWeak = true) := by
  unfold strongest? at h
  cases hfind : xs.find? fun x => x.isWeak = false ∧ x.mask? = mask with
  | some w =>
    rw [hfind, Option.some_or, Option.some.injEq] at h
    subst h
    have hboth := List.find?_some hfind
    obtain ⟨hstrong, hmask⟩ := of_decide_eq_true hboth
    refine ⟨List.mem_of_find?_eq_some hfind, hmask, fun hweak => ?_⟩
    rw [hstrong] at hweak
    cases hweak
  | none =>
    rw [hfind, Option.none_or] at h
    obtain ⟨hmem, hmask⟩ := List.mem_filter.mp (List.mem_of_getLast? h)
    exact ⟨hmem, of_decide_eq_true hmask, fun _ => weak_of_find? hfind⟩

theorem exists_strongest? (hs : s ∈ xs) : ∃ v, strongest? s.mask? xs = some v := by
  unfold strongest?
  cases xs.find? fun x => x.isWeak = false ∧ x.mask? = s.mask? with
  | some w => exact ⟨w, rfl⟩
  | none =>
    have hmem : s ∈ xs.filter fun x => x.mask? = s.mask? :=
      List.mem_filter.mpr ⟨hs, decide_eq_true rfl⟩
    exact ⟨_, List.getLast?_eq_some_getLast (List.ne_nil_of_mem hmem)⟩

/-- One more attribute is left if it has the mask and nothing strong was left before. -/
theorem strongest?_concat (mask : Option FormatMask) (xs : List Value) (x : Value) :
    strongest? mask (xs ++ [x]) =
      if x.mask? = mask ∧ ∀ v ∈ strongest? mask xs, v.isWeak = true then some x
      else strongest? mask xs := by
  cases hfind : xs.find? fun x => x.isWeak = false ∧ x.mask? = mask with
  | some w =>
    have hboth := List.find?_some hfind
    obtain ⟨hstrong, -⟩ := of_decide_eq_true hboth
    have hleft : ∀ more, strongest? mask (xs ++ more) = some w := by
      intro more
      rw [strongest?, List.find?_append, hfind, Option.some_or, Option.some_or]
    rw [hleft, ← List.append_nil xs, hleft, if_neg]
    rintro ⟨-, hall⟩
    exact Bool.false_ne_true (hstrong.symm.trans (hall w rfl))
  | none =>
    have hweak : ∀ v ∈ strongest? mask xs, v.isWeak = true := by
      intro v hv
      obtain ⟨hmem, hmask, -⟩ := strongest?_some hv
      exact weak_of_find? hfind v hmem hmask
    by_cases hmask : x.mask? = mask
    · rw [if_pos ⟨hmask, hweak⟩, strongest?, List.find?_append, hfind, List.filter_append]
      cases hx : x.isWeak <;> simp [hmask, hx]
    · rw [if_neg fun h => hmask h.1, strongest?, strongest?, List.find?_append, hfind,
        List.filter_append]
      simp [hmask]

/-- What a leader leaves has its mask, and is no placeholder. -/
theorem mergedAttribute?_of_leader (h : leader? Value.Open xs = some s) :
    ∃ v, mergedAttribute? xs = some v ∧ strongest? s.mask? xs = some v ∧ v ∈ xs ∧
      v.mask? = s.mask? ∧ ¬ v.Open := by
  obtain ⟨hs, hclosed⟩ := mem_of_leader? h
  obtain ⟨v, hv⟩ := exists_strongest? hs
  obtain ⟨hmem, hmask, hweak⟩ := strongest?_some hv
  have hmerged : mergedAttribute? xs = some v := by
    rw [mergedAttribute?, h]
    exact hv
  refine ⟨v, hmerged, hv, hmem, hmask, fun hopen => hclosed ?_⟩
  obtain ⟨hvweak, hany⟩ := Value.open_iff.mp hopen
  exact Value.open_iff.mpr ⟨hweak hvweak s hs rfl, hmask.symm.trans hany⟩

/-- Placeholders leave a placeholder. -/
theorem mergedAttribute?_of_no_leader (h : leader? Value.Open xs = none) :
    mergedAttribute? xs = xs.getLast? ∧ ∀ l ∈ xs.getLast?, l ∈ xs ∧ l.Open := by
  refine ⟨by rw [mergedAttribute?, h], fun l hl => ?_⟩
  have hmem := List.mem_of_getLast? hl
  exact ⟨hmem, placeholder_of_leader? h l hmem⟩

/-- One more attribute is left when there were placeholders only, and otherwise when it has
the mask of the leader and nothing strong was left before. -/
theorem mergedAttribute?_concat (xs : List Value) (x : Value) : mergedAttribute? (xs ++ [x]) =
    match leader? Value.Open xs with
    | some s => if x.mask? = s.mask? ∧ ∀ v ∈ mergedAttribute? xs, v.isWeak = true then some x
        else mergedAttribute? xs
    | none => some x := by
  cases hlead : leader? Value.Open xs with
  | some s =>
    simp only [mergedAttribute?, hlead, leader?_concat_of_some hlead]
    exact strongest?_concat s.mask? xs x
  | none =>
    have hnew := leader?_concat_of_none hlead x
    by_cases hx : x.Open
    · rw [if_pos hx] at hnew
      simp only [mergedAttribute?, hnew, List.getLast?_concat]
    · rw [if_neg hx] at hnew
      have hweak : ∀ v ∈ strongest? x.mask? xs, v.isWeak = true := by
        intro v hv
        obtain ⟨hmem, -, -⟩ := strongest?_some hv
        exact (placeholder_of_leader? hlead v hmem).1
      simp only [mergedAttribute?, hnew]
      rw [strongest?_concat, if_pos ⟨rfl, hweak⟩]

/-- Attributes that are no placeholders have one mask. -/
def Agree (xs : List Value) : Prop :=
  ∀ x ∈ xs, ∀ y ∈ xs, ¬ x.Open → ¬ y.Open → x.mask? = y.mask?

theorem agree_iff : Agree xs ↔
    ∀ x ∈ xs, x.Open ∨ ∀ s ∈ leader? Value.Open xs, x.mask? = s.mask? := by
  constructor
  · intro h x hx
    by_cases hopen : x.Open
    · exact Or.inl hopen
    · refine Or.inr fun s hs => ?_
      obtain ⟨hmem, hclosed⟩ := mem_of_leader? hs
      exact h x hx s hmem hopen hclosed
  · intro h x hx y hy hxclosed hyclosed
    obtain ⟨s, hs⟩ := exists_leader? hx hxclosed
    have hxmask := (h x hx).resolve_left hxclosed s hs
    have hymask := (h y hy).resolve_left hyclosed s hs
    exact hxmask.trans hymask.symm

theorem agree_perm (h : xs.Perm ys) : Agree xs ↔ Agree ys := by
  unfold Agree
  simp only [h.mem_iff]

/-- The strength of what is left of a mask does not depend on the order. -/
theorem strongest?_perm (h : xs.Perm ys) (hv : strongest? mask xs = some v)
    (hw : strongest? mask ys = some w) : v.isWeak = w.isWeak := by
  obtain ⟨hvmem, hvmask, hvweak⟩ := strongest?_some hv
  obtain ⟨hwmem, hwmask, hwweak⟩ := strongest?_some hw
  rw [Bool.eq_iff_iff]
  constructor
  · exact fun hweak => hvweak hweak w (h.mem_iff.mpr hwmem) hwmask
  · exact fun hweak => hwweak hweak v (h.mem_iff.mp hvmem) hvmask

/-- **Where attributes agree, the mask and the strength of what is left** do not depend on
the order in which they come. -/
theorem mergedAttribute?_perm (h : xs.Perm ys) (hagree : Agree xs)
    (hv : mergedAttribute? xs = some v) (hw : mergedAttribute? ys = some w) :
    v.mask? = w.mask? ∧ v.isWeak = w.isWeak := by
  cases hlead : leader? Value.Open xs with
  | none =>
    have hopen := placeholder_of_leader? hlead
    have hlead' : leader? Value.Open ys = none := by
      refine Option.eq_none_iff_forall_ne_some.mpr fun s hs => ?_
      obtain ⟨hmem, hclosed⟩ := mem_of_leader? hs
      exact hclosed (hopen s (h.mem_iff.mpr hmem))
    obtain ⟨he, hvopen⟩ := mergedAttribute?_of_no_leader hlead
    obtain ⟨he', hwopen⟩ := mergedAttribute?_of_no_leader hlead'
    obtain ⟨hvweak, hvany⟩ := Value.open_iff.mp (hvopen v (he.symm.trans hv)).2
    obtain ⟨hwweak, hwany⟩ := Value.open_iff.mp (hwopen w (he'.symm.trans hw)).2
    exact ⟨hvany.trans hwany.symm, hvweak.trans hwweak.symm⟩
  | some s =>
    obtain ⟨hs, hclosed⟩ := mem_of_leader? hlead
    obtain ⟨s', hlead'⟩ := exists_leader? (h.mem_iff.mp hs) hclosed
    obtain ⟨hs', hclosed'⟩ := mem_of_leader? hlead'
    -- either sequence has a leader of its own, but both have one mask
    have hmasks : s.mask? = s'.mask? := hagree s hs s' (h.mem_iff.mpr hs') hclosed hclosed'
    obtain ⟨v', hv', hvleft, -, hvmask, -⟩ := mergedAttribute?_of_leader hlead
    obtain ⟨w', hw', hwleft, -, hwmask, -⟩ := mergedAttribute?_of_leader hlead'
    obtain rfl := Option.some.inj (hv'.symm.trans hv)
    obtain rfl := Option.some.inj (hw'.symm.trans hw)
    rw [← hmasks] at hwleft hwmask
    exact ⟨hvmask.trans hwmask.symm, strongest?_perm h hvleft hwleft⟩

namespace Resolver
variable {sameKind : Resolution}

/-- One more attribute keeps the closed form of what is left. -/
theorem offer_attribute (hxs : ∀ y ∈ xs, y.kind = .attr) (hx : x.kind = .attr) :
    (ofSameKind sameKind).offer ((mergedAttribute? xs).map some) x =
      (mergedAttribute? (xs ++ [x])).map some := by
  rw [mergedAttribute?_concat]
  cases hlead : leader? Value.Open xs with
  | none =>
    obtain ⟨he, hopen⟩ := mergedAttribute?_of_no_leader hlead
    rw [he]
    cases hlast : xs.getLast? with
    | none => rfl
    | some l =>
      -- a placeholder is left, which gives way to any attribute
      obtain ⟨hmem, hl⟩ := hopen l hlast
      obtain ⟨hweak, hany⟩ := Value.open_iff.mp hl
      show some (some ((ofSameKind sameKind).settle l x)) = some (some x)
      rw [settle_attribute (hxs l hmem) hx, if_pos ⟨hweak, Or.inr hany⟩]
  | some s =>
    obtain ⟨v, hv, -, hmem, hmask, hclosed⟩ := mergedAttribute?_of_leader hlead
    simp only [hv, Option.mem_some, forall_eq']
    show some (some ((ofSameKind sameKind).settle v x)) = _
    have hiff : v.isWeak = true ∧ (v.mask? = x.mask? ∨ v.mask? = some .any) ↔
        x.mask? = s.mask? ∧ v.isWeak = true := by
      constructor
      · rintro ⟨hweak, he | hany⟩
        · exact ⟨he.symm.trans hmask, hweak⟩
        · exact absurd (Value.open_iff.mpr ⟨hweak, hany⟩) hclosed
      · rintro ⟨he, hweak⟩
        exact ⟨hweak, Or.inl (hmask.trans he.symm)⟩
    rw [settle_attribute (hxs v hmem) hx, apply_ite (Option.map some), if_congr hiff rfl rfl,
      apply_ite fun v => some (some v)]
    rfl

/-- **What attributes leave in a slot**, with either of the offered resolvers. -/
theorem foldl_offer_attributes (hxs : ∀ x ∈ xs, x.kind = .attr) :
    xs.foldl (ofSameKind sameKind).offer none = (mergedAttribute? xs).map some :=
  foldl_offer_eq rfl (fun _ _ => offer_attribute) hxs

/-- **Which attributes are refused**: those that are no placeholders and have not the mask
of the leader. -/
theorem answers_attributes (hxs : ∀ x ∈ xs, x.kind = .attr) :
    (ofSameKind sameKind).answers none xs =
      xs.map fun x => decide (x.Open ∨ ∀ s ∈ leader? Value.Open xs, x.mask? = s.mask?) := by
  refine answers_eq_map (fun x s => x.mask? = s.mask?) (fun _ => rfl) ?_
  rintro before x after rfl
  obtain ⟨hbefore, hafter⟩ := List.forall_mem_append.mp hxs
  have hx : x.kind = .attr := hafter x List.mem_cons_self
  rw [foldl_offer_attributes hbefore]
  cases hlead : leader? Value.Open before with
  | none =>
    obtain ⟨he, hopen⟩ := mergedAttribute?_of_no_leader hlead
    rw [he, decide_eq_true (Or.inr fun s hs => nomatch hs)]
    cases hlast : before.getLast? with
    | none => rfl
    | some l =>
      obtain ⟨hmem, hl⟩ := hopen l hlast
      rw [Option.map_some, accepts_attribute (hbefore l hmem) hx]
      exact decide_eq_true (Or.inr (Or.inl hl))
  | some s =>
    obtain ⟨v, hv, -, hmem, hmask, hclosed⟩ := mergedAttribute?_of_leader hlead
    rw [hv, Option.map_some, accepts_attribute (hbefore v hmem) hx, hmask]
    simp only [hclosed, false_or, Option.mem_some, forall_eq']

end Resolver
end Attributes

/-! ## Other values -/

/-- The value gives way to others. -/
abbrev Value.Weak (v : Value) : Prop := v.isWeak = true

/-- What is left of other values when the later ones win: the last strong value of the kind
of the first one, or the first value where all are weak. -/
def overlaid? (xs : List Value) : Option Value :=
  match leader? Value.Weak xs with
  | some s => (xs.filter fun x => x.isWeak = false ∧ x.kind = s.kind).getLast?
  | none => xs.head?

/-- What is left of other values when strong ones may not meet: the first strong value, or
the first value where all are weak. -/
def retained? (xs : List Value) : Option Value := (leader? Value.Weak xs).or xs.head?

section Others
variable {xs : List Value} {x s v : Value}

/-- The first of weak values is one of them. -/
theorem weak_head? (h : leader? Value.Weak xs = none) : ∀ l ∈ xs.head?, l ∈ xs ∧ l.Weak := by
  intro l hl
  have hmem := List.mem_of_head? hl
  exact ⟨hmem, placeholder_of_leader? h l hmem⟩

/-- What is left by the overlaying rule is strong and of the kind of the leader. -/
theorem overlaid?_of_leader (h : leader? Value.Weak xs = some s) :
    ∃ v, overlaid? xs = some v ∧ v ∈ xs ∧ v.isWeak = false ∧ v.kind = s.kind := by
  obtain ⟨hs, hstrong⟩ := mem_of_leader? h
  rw [Bool.not_eq_true] at hstrong
  have hmem : s ∈ xs.filter fun x => x.isWeak = false ∧ x.kind = s.kind :=
    List.mem_filter.mpr ⟨hs, decide_eq_true ⟨hstrong, rfl⟩⟩
  obtain ⟨v, hv⟩ := Option.isSome_iff_exists.mp
    (List.getLast?_isSome.mpr (List.ne_nil_of_mem hmem))
  obtain ⟨hmem, hboth⟩ := List.mem_filter.mp (List.mem_of_getLast? hv)
  have hleft : overlaid? xs = some v := by
    rw [overlaid?, h]
    exact hv
  exact ⟨v, hleft, hmem, of_decide_eq_true hboth⟩

theorem overlaid?_of_no_leader (h : leader? Value.Weak xs = none) : overlaid? xs = xs.head? := by
  rw [overlaid?, h]

/-- One more value is left when it is strong and has the kind of the leader; where all were
weak, it is left when it is strong, or the first of all. -/
theorem overlaid?_concat (xs : List Value) (x : Value) : overlaid? (xs ++ [x]) =
    match leader? Value.Weak xs with
    | some s => if x.isWeak = false ∧ x.kind = s.kind then some x else overlaid? xs
    | none => if x.isWeak = true then some (xs.head?.getD x) else some x := by
  cases hlead : leader? Value.Weak xs with
  | some s =>
    simp only [overlaid?, hlead, leader?_concat_of_some hlead, List.filter_append]
    by_cases hx : x.isWeak = false ∧ x.kind = s.kind
    · rw [if_pos hx, List.filter_cons_of_pos (by rwa [decide_eq_true_eq]), List.filter_nil,
        List.getLast?_concat]
    · rw [if_neg hx, List.filter_cons_of_neg (by rwa [decide_eq_true_eq]), List.filter_nil,
        List.append_nil]
  | none =>
    have hnew := leader?_concat_of_none hlead x
    by_cases hx : x.Weak
    · rw [if_pos hx] at hnew
      rw [if_pos hx, overlaid?_of_no_leader hnew]
      cases xs <;> rfl
    · rw [if_neg hx] at hnew
      have hnone : (xs.filter fun y => y.isWeak = false ∧ y.kind = x.kind) = [] := by
        refine List.filter_eq_nil_iff.mpr fun y hy hboth => ?_
        have hy : y.Weak := placeholder_of_leader? hlead y hy
        exact Bool.false_ne_true ((of_decide_eq_true hboth).1.symm.trans hy)
      have hboth : x.isWeak = false ∧ x.kind = x.kind := ⟨(Bool.not_eq_true _).mp hx, rfl⟩
      simp only [overlaid?, hnew, List.filter_append, hnone, if_neg hx]
      rw [List.filter_cons_of_pos (by rwa [decide_eq_true_eq]), List.filter_nil,
        List.getLast?_concat]

/-- One more value is left where all were weak, when it is strong or the first of all. -/
theorem retained?_concat (xs : List Value) (x : Value) : retained? (xs ++ [x]) =
    match leader? Value.Weak xs with
    | some s => some s
    | none => if x.isWeak = true then some (xs.head?.getD x) else some x := by
  cases hlead : leader? Value.Weak xs with
  | some s => rw [retained?, leader?_concat_of_some hlead, Option.some_or]
  | none =>
    rw [retained?, leader?_concat_of_none hlead]
    split
    · cases xs <;> rfl
    · rfl

namespace Resolver
variable {sameKind : Resolution}

/-- What comes after weak values replaces the first of them when it is strong. -/
theorem offer_weak (hxs : ∀ y ∈ xs, y.kind ≠ .attr) (hlead : leader? Value.Weak xs = none)
    (x : Value) : (ofSameKind sameKind).offer (xs.head?.map some) x =
      (if x.isWeak = true then some (xs.head?.getD x) else some x).map some := by
  cases hhead : xs.head? with
  | none => exact (congrArg (Option.map some) (ite_self (some x))).symm
  | some l =>
    obtain ⟨hmem, hl⟩ := weak_head? hlead l hhead
    show some (some ((ofSameKind sameKind).settle l x)) = _
    rw [settle_other (hxs l hmem)]
    cases x.isWeak <;> simp [hl]

/-- One more value keeps the closed form of what the overlaying resolver leaves. -/
theorem offer_overlay (hxs : ∀ y ∈ xs, y.kind ≠ .attr) (x : Value) :
    overlay.offer ((overlaid? xs).map some) x = (overlaid? (xs ++ [x])).map some := by
  rw [overlaid?_concat]
  cases hlead : leader? Value.Weak xs with
  | none =>
    rw [overlaid?_of_no_leader hlead]
    exact offer_weak hxs hlead x
  | some s =>
    obtain ⟨v, hv, hmem, hstrong, hkind⟩ := overlaid?_of_leader hlead
    rw [hv]
    show some (some (overlay.settle v x)) = _
    have hiff : x.isWeak = false ∧ (v.isWeak = true ∨ v.kind = x.kind ∧
        Resolution.takeNew = .takeNew) ↔ x.isWeak = false ∧ x.kind = s.kind := by
      simp [hstrong, hkind, @eq_comm _ s.kind]
    rw [overlay, settle_other (hxs v hmem), if_congr hiff rfl rfl,
      apply_ite fun v => some (some v), apply_ite (Option.map some)]
    rfl

/-- **What other values leave in a slot** with the overlaying resolver. -/
theorem foldl_offer_overlay (hxs : ∀ x ∈ xs, x.kind ≠ .attr) :
    xs.foldl overlay.offer none = (overlaid? xs).map some :=
  foldl_offer_eq rfl (fun _ x h _ => offer_overlay h x) hxs

/-- One more value keeps the closed form of what the strict resolver leaves. -/
theorem offer_strict (hxs : ∀ y ∈ xs, y.kind ≠ .attr) (x : Value) :
    strict.offer ((retained? xs).map some) x = (retained? (xs ++ [x])).map some := by
  rw [retained?_concat]
  cases hlead : leader? Value.Weak xs with
  | none =>
    rw [retained?, hlead, Option.none_or]
    exact offer_weak hxs hlead x
  | some s =>
    obtain ⟨hmem, hstrong⟩ := mem_of_leader? hlead
    rw [retained?, hlead, Option.some_or]
    show some (some (strict.settle s x)) = _
    rw [strict, settle_other (hxs s hmem)]
    simp [hstrong]

/-- **What other values leave in a slot** with the strict resolver. -/
theorem foldl_offer_strict (hxs : ∀ x ∈ xs, x.kind ≠ .attr) :
    xs.foldl strict.offer none = (retained? xs).map some :=
  foldl_offer_eq rfl (fun _ x h _ => offer_strict h x) hxs

/-- Whatever comes after weak values is accepted. -/
theorem accepts_weak (hxs : ∀ y ∈ xs, y.kind ≠ .attr) (hlead : leader? Value.Weak xs = none)
    (x : Value) : (ofSameKind sameKind).accepts (xs.head?.map some) x = true := by
  cases hhead : xs.head? with
  | none => rfl
  | some l =>
    obtain ⟨hmem, hl⟩ := weak_head? hlead l hhead
    rw [Option.map_some, accepts_other (hxs l hmem)]
    exact decide_eq_true (Or.inr (Or.inl hl))

/-- **Which other values are refused** by the overlaying resolver: the strong ones that have
not the kind of the leader. -/
theorem answers_overlay (hxs : ∀ x ∈ xs, x.kind ≠ .attr) : overlay.answers none xs =
    xs.map fun x => decide (x.Weak ∨ ∀ s ∈ leader? Value.Weak xs, x.kind = s.kind) := by
  refine answers_eq_map (fun x s => x.kind = s.kind) (fun _ => rfl) ?_
  rintro before x after rfl
  obtain ⟨hbefore, -⟩ := List.forall_mem_append.mp hxs
  rw [foldl_offer_overlay hbefore]
  cases hlead : leader? Value.Weak before with
  | none =>
    rw [overlaid?_of_no_leader hlead, decide_eq_true (Or.inr fun s hs => nomatch hs)]
    exact accepts_weak hbefore hlead x
  | some s =>
    obtain ⟨v, hv, hmem, hstrong, hkind⟩ := overlaid?_of_leader hlead
    rw [hv, Option.map_some, overlay, accepts_other (hbefore v hmem), hstrong, hkind]
    simp

/-- **Which other values are refused** by the strict resolver: the strong ones but the
first. -/
theorem answers_strict (hxs : ∀ x ∈ xs, x.kind ≠ .attr) : strict.answers none xs =
    xs.mapIdx fun i x => decide (x.Weak ∨ ∀ y ∈ xs.take i, y.Weak) := by
  rw [answers_eq_mapIdx]
  refine congrArg (List.mapIdx · xs) (funext fun i => funext fun x => ?_)
  have hbefore : ∀ y ∈ xs.take i, y.kind ≠ .attr := fun y hy => hxs y (List.mem_of_mem_take hy)
  rw [foldl_offer_strict hbefore]
  cases hlead : leader? Value.Weak (xs.take i) with
  | none =>
    rw [decide_eq_true (Or.inr (placeholder_of_leader? hlead)), retained?, hlead, Option.none_or]
    exact accepts_weak hbefore hlead x
  | some s =>
    obtain ⟨hmem, hstrong⟩ := mem_of_leader? hlead
    rw [retained?, hlead, Option.some_or, Option.map_some, strict, accepts_other (hbefore s hmem)]
    refine decide_eq_decide.mpr (or_congr_right ?_)
    exact iff_of_false (fun h => h.elim hstrong fun h => h.2 rfl) fun h => hstrong (h s hmem)

end Resolver
end Others
end AppResources
