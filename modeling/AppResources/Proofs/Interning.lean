import AppResources.Pool
import AppResources.Proofs.KeyOrder
import Mathlib.Data.List.Dedup

/-!
# Interning

A pool is called to intern texts, to intern styled texts, and to list what it keeps.
Whatever a call asks for, the pool interns texts one after another (`perform_fst`), and
interning a text gives it a cell of its own unless it has one (`cells_intern`).  So every
text has one cell and no two texts share it (`OneCellEach`), and a handle that was handed
out names the cell that the pool keeps for its text (`Keeps`); both stay when further texts
are interned.

After a **session** of calls the pool keeps the texts that were interned and no others,
whatever their order and however often they came, and all handles of the session share
storage exactly when their texts are equal (`InternsOnce`).
-/

namespace AppResources

/-- All texts of a styled text: the names of its spans, in order, and then the text. -/
def Styled.texts {τ : Type} (s : Styled τ) : List τ := s.spans.map Span.name ++ [s.text]

/-- Every span lies within the text. -/
def Styled.fits (s : Styled String) : Bool := s.spans.all fun span => span.fits s.text.length

/-- Handles are compared by their texts. -/
theorem Handle.beq_iff {a b : Handle} : (a == b) = true ↔ a.text = b.text := by
  show (a.text == b.text) = true ↔ _
  exact beq_iff_eq

namespace Pool

/-- A pool that keeps nothing yet. -/
def empty (serial : Nat) : Pool := ⟨serial, []⟩

/-! ## Interning one text -/

/-- The cell of a text: the one it has, or the next unused one. -/
def cellOf (p : Pool) (text : String) : Nat := (p.cells.get? text).getD p.size

/-- Every text has a cell of its own. -/
structure OneCellEach (p : Pool) : Prop where
  /-- The texts stand in order, each of them once. -/
  increasing : p.cells.Increasing
  /-- The cells are numbered as they came into use. -/
  used : ∀ text, ∀ cell ∈ p.cells.get? text, cell < p.size
  /-- No two texts share a cell. -/
  distinct : ∀ s t, ∀ cell ∈ p.cells.get? s, cell ∈ p.cells.get? t → s = t

/-- The handle names the cell that the pool keeps for its text. -/
structure Keeps (p : Pool) (h : Handle) : Prop where
  pool : h.pool = p.serial
  cell : p.cells.get? h.text = some h.cell

theorem oneCellEach_empty (serial : Nat) : (empty serial).OneCellEach :=
  ⟨Keyed.increasing_nil, fun _ _ h => (nomatch h), fun _ _ _ h => (nomatch h)⟩

variable {p : Pool}

theorem texts_eq_handles (p : Pool) : p.texts = p.handles.map Handle.text := by
  rw [texts, handles, List.map_map]
  rfl

theorem handle_intern (p : Pool) (text : String) :
    (p.intern text).2 = ⟨text, p.serial, p.cellOf text⟩ := by
  unfold intern cellOf
  cases p.cells.get? text <;> rfl

theorem serial_intern (p : Pool) (text : String) : (p.intern text).1.serial = p.serial := by
  unfold intern
  cases p.cells.get? text <;> rfl

/-- **Interning a text gives it its cell.** -/
theorem cells_intern (p : Pool) (text : String) :
    (p.intern text).1.cells = p.cells.update text fun _ => p.cellOf text := by
  unfold intern cellOf
  cases h : p.cells.get? text with
  | none => rfl
  | some cell => exact (Keyed.update_of_get? h rfl).symm

theorem get?_intern (p : Pool) (text t : String) : (p.intern text).1.cells.get? t =
    if t = text then some (p.cellOf text) else p.cells.get? t := by
  rw [cells_intern]
  exact Keyed.get?_update ..

theorem contains_intern (p : Pool) (text t : String) :
    (p.intern text).1.contains t = true ↔ t = text ∨ p.contains t = true := by
  unfold contains
  rw [get?_intern]
  by_cases h : t = text
  · simp only [h, if_true, Option.isSome_some, true_or]
  · simp only [h, if_false, false_or]

/-- A text that is kept is found, and nothing changes. -/
theorem intern_of_contains {text : String} (h : p.contains text = true) :
    (p.intern text).1 = p := by
  obtain ⟨cell, hcell⟩ := Option.isSome_iff_exists.mp h
  unfold intern
  rw [hcell]

theorem mem_texts_iff (hp : p.OneCellEach) {text : String} :
    text ∈ p.texts ↔ p.contains text = true := by
  unfold texts contains
  rw [Option.isSome_iff_exists, List.mem_map]
  constructor
  · rintro ⟨⟨t, cell⟩, hmem, rfl⟩
    exact ⟨cell, (Keyed.get?_eq_some_iff hp.increasing).mpr hmem⟩
  · rintro ⟨cell, hcell⟩
    exact ⟨(text, cell), (Keyed.get?_eq_some_iff hp.increasing).mp hcell, rfl⟩

/-- A text that is new takes up the next cell. -/
theorem size_intern_of_new (hp : p.OneCellEach) {text : String}
    (hnew : p.cells.get? text = none) : (p.intern text).1.size = p.size + 1 := by
  obtain ⟨before, after, hcells, hupdate⟩ :=
    (Keyed.inserts_update hp.increasing hnew fun _ => p.cellOf text).split
  rw [size, size, cells_intern, hupdate, hcells, List.length_append, List.length_append,
    List.length_cons, Nat.add_assoc]

/-- **Interning leaves every text with a cell of its own.** -/
theorem OneCellEach.intern (hp : p.OneCellEach) (text : String) :
    (p.intern text).1.OneCellEach := by
  cases hnew : p.cells.get? text with
  | some cell =>
    rw [intern_of_contains (by rw [contains, hnew]; rfl)]
    exact hp
  | none =>
    have hcell : p.cellOf text = p.size := by rw [cellOf, hnew, Option.getD_none]
    constructor
    · rw [cells_intern]
      exact hp.increasing.update text _
    · intro t cell ht
      rw [size_intern_of_new hp hnew]
      rw [get?_intern, hcell] at ht
      split at ht
      · cases ht
        exact Nat.lt_succ_self _
      · exact Nat.lt_succ_of_lt (hp.used t cell ht)
    · intro s t cell hs ht
      rw [get?_intern, hcell] at hs ht
      -- the new cell lies beyond all those in use
      by_cases hst : s = text <;> by_cases htt : t = text
      · rw [hst, htt]
      · rw [if_pos hst] at hs
        rw [if_neg htt] at ht
        cases hs
        exact absurd (hp.used t _ ht) (Nat.lt_irrefl _)
      · rw [if_neg hst] at hs
        rw [if_pos htt] at ht
        cases ht
        exact absurd (hp.used s _ hs) (Nat.lt_irrefl _)
      · rw [if_neg hst] at hs
        rw [if_neg htt] at ht
        exact hp.distinct s t cell hs ht

theorem keeps_intern (p : Pool) (text : String) : (p.intern text).1.Keeps (p.intern text).2 := by
  rw [handle_intern]
  refine ⟨(serial_intern p text).symm, ?_⟩
  rw [get?_intern, if_pos rfl]

/-- What is kept stays kept. -/
theorem Keeps.intern {h : Handle} (hh : p.Keeps h) (text : String) :
    (p.intern text).1.Keeps h := by
  refine ⟨hh.pool.trans (serial_intern p text).symm, ?_⟩
  rw [get?_intern]
  split
  · rename_i htext
    rw [cellOf, ← htext, hh.cell, Option.getD_some]
  · exact hh.cell

/-- **Handles that are kept share storage when their texts are equal**, and only then. -/
theorem Keeps.sharesStorage_iff (hp : p.OneCellEach) {a b : Handle} (ha : p.Keeps a)
    (hb : p.Keeps b) : a.sharesStorage b = true ↔ a.text = b.text := by
  unfold Handle.sharesStorage
  rw [Bool.and_eq_true, beq_iff_eq, beq_iff_eq]
  constructor
  · rintro ⟨-, hcell⟩
    exact hp.distinct a.text b.text a.cell ha.cell (hcell ▸ hb.cell)
  · intro htext
    refine ⟨ha.pool.trans hb.pool.symm, Option.some.inj ?_⟩
    rw [← ha.cell, ← hb.cell, htext]

/-- Handles of different pools share nothing. -/
theorem Keeps.sharesStorage_other {q : Pool} (hserial : p.serial ≠ q.serial) {a b : Handle}
    (ha : p.Keeps a) (hb : q.Keeps b) : a.sharesStorage b = false := by
  unfold Handle.sharesStorage
  rw [Bool.and_eq_false_iff, beq_eq_false_iff_ne]
  exact Or.inl fun he => hserial (ha.pool.symm.trans (he.trans hb.pool))

/-! ## Interning texts one after another -/

/-- The pool after the texts have been interned in order. -/
def internAll (p : Pool) (texts : List String) : Pool :=
  texts.foldl (fun p text => (p.intern text).1) p

theorem internAll_cons (p : Pool) (text : String) (rest : List String) :
    p.internAll (text :: rest) = (p.intern text).1.internAll rest := rfl

theorem internAll_append (p : Pool) (texts more : List String) :
    p.internAll (texts ++ more) = (p.internAll texts).internAll more :=
  List.foldl_append

/-- What interning a text keeps, interning many keeps. -/
theorem internAll_invariant {P : Pool → Prop} (hstep : ∀ p text, P p → P (p.intern text).1)
    (hp : P p) (texts : List String) : P (p.internAll texts) := by
  induction texts generalizing p with
  | nil => exact hp
  | cons text rest ih => exact ih (hstep p text hp)

theorem OneCellEach.internAll (hp : p.OneCellEach) (texts : List String) :
    (p.internAll texts).OneCellEach :=
  internAll_invariant (fun _ text h => h.intern text) hp texts

theorem Keeps.internAll {h : Handle} (hh : p.Keeps h) (texts : List String) :
    (p.internAll texts).Keeps h :=
  internAll_invariant (P := fun q => q.Keeps h) (fun _ text hq => hq.intern text) hh texts

theorem serial_internAll (p : Pool) (texts : List String) :
    (p.internAll texts).serial = p.serial :=
  internAll_invariant (P := fun q => q.serial = p.serial)
    (fun q text hq => (serial_intern q text).trans hq) rfl texts

/-- **The pool keeps what it kept and what was interned.** -/
theorem contains_internAll (p : Pool) (texts : List String) (t : String) :
    (p.internAll texts).contains t = true ↔ t ∈ texts ∨ p.contains t = true := by
  induction texts generalizing p with
  | nil => simp only [internAll, List.foldl_nil, List.not_mem_nil, false_or]
  | cons text rest ih =>
    rw [internAll_cons, ih, contains_intern, List.mem_cons, or_left_comm, or_assoc]

/-- Texts that are kept are found, and nothing changes. -/
theorem internAll_of_contains {texts : List String} (h : ∀ t ∈ texts, p.contains t = true) :
    p.internAll texts = p := by
  induction texts with
  | nil => rfl
  | cons text rest ih =>
    obtain ⟨hfirst, hrest⟩ := List.forall_mem_cons.mp h
    rw [internAll_cons, intern_of_contains hfirst, ih hrest]

/-! ## Styled texts -/

theorem internSpans_fst (p : Pool) (spans : List (Span String)) :
    (p.internSpans spans).1 = p.internAll (spans.map Span.name) := by
  induction spans generalizing p with
  | nil => rfl
  | cons s rest ih => exact ih _

/-- The spans come back in order, with handles of their names. -/
theorem map_text_internSpans (p : Pool) (spans : List (Span String)) :
    (p.internSpans spans).2.map (Span.map Handle.text) = spans := by
  induction spans generalizing p with
  | nil => rfl
  | cons s rest ih =>
    have hname : (p.intern s.name).2.text = s.name := by rw [handle_intern]
    refine congrArg₂ List.cons ?_ (ih _)
    show (⟨(p.intern s.name).2.text, s.first, s.last⟩ : Span String) = s
    rw [hname]

theorem keeps_internSpans (p : Pool) (spans : List (Span String)) :
    ∀ s ∈ (p.internSpans spans).2, (p.internSpans spans).1.Keeps s.name := by
  induction spans generalizing p with
  | nil => exact fun _ hs => nomatch hs
  | cons s rest ih =>
    refine List.forall_mem_cons.mpr ⟨?_, ih _⟩
    show (Pool.internSpans _ rest).1.Keeps _
    rw [internSpans_fst]
    exact (keeps_intern p s.name).internAll _

/-- A styled text with a span outside of it is refused, and nothing is interned. -/
theorem internStyled_of_not_fits {s : Styled String} (h : s.fits = false) :
    ∃ fault, p.internStyled s = (p, .error fault) := by
  unfold internStyled
  cases hfind : s.spans.find? fun span => !span.fits s.text.length with
  | some span => exact ⟨_, rfl⟩
  | none =>
    rw [Styled.fits, List.all_eq_false] at h
    obtain ⟨span, hspan, hout⟩ := h
    have hfits := List.find?_eq_none.mp hfind span hspan
    rw [Bool.not_eq_true', Bool.not_eq_false] at hfits
    exact absurd hfits hout

/-- **A styled text that fits is interned** with the names of its spans, and comes back in
handles that the pool keeps. -/
theorem internStyled_of_fits {s : Styled String} (h : s.fits = true) : ∃ r : Styled Handle,
    p.internStyled s = (p.internAll s.texts, .ok r) ∧ r.map Handle.text = s ∧
      ∀ handle ∈ r.texts, (p.internAll s.texts).Keeps handle := by
  have hfind : (s.spans.find? fun span => !span.fits s.text.length) = none := by
    refine List.find?_eq_none.mpr fun span hspan => ?_
    rw [List.all_eq_true.mp h span hspan]
    exact Bool.false_ne_true
  have hpool : ((p.internSpans s.spans).1.intern s.text).1 = p.internAll s.texts := by
    rw [internSpans_fst, Styled.texts, internAll_append]
    rfl
  have htext : ((p.internSpans s.spans).1.intern s.text).2.text = s.text := by
    rw [handle_intern]
  refine ⟨⟨((p.internSpans s.spans).1.intern s.text).2, (p.internSpans s.spans).2⟩, ?_, ?_, ?_⟩
  · rw [internStyled, hfind, ← hpool]
  · rw [Styled.map, map_text_internSpans, htext]
  · intro handle hhandle
    rw [← hpool]
    rcases List.mem_append.mp hhandle with hname | hself
    · obtain ⟨span, hspan, rfl⟩ := List.mem_map.mp hname
      exact (keeps_internSpans p s.spans span hspan).intern s.text
    · rw [List.mem_singleton.mp hself]
      exact keeps_intern _ s.text

/-! ## Calls and sessions -/

/-- A call to a pool. -/
inductive Call where
  /-- Interns a text. -/
  | intern (text : String)
  /-- Interns a styled text, or is refused. -/
  | internStyled (s : Styled String)
  /-- Lists the texts kept. -/
  | list

/-- The texts that a call interns; a styled text that is refused interns none. -/
def Call.interned : Call → List String
  | .intern text => [text]
  | .internStyled s => if s.fits then s.texts else []
  | .list => []

/-- The pool after a call, and the handles that the call returns. -/
def perform (p : Pool) : Call → Pool × List Handle
  | .intern text => ((p.intern text).1, [(p.intern text).2])
  | .internStyled s =>
    match p.internStyled s with
    | (p, .ok styled) => (p, styled.texts)
    | (p, .error _) => (p, [])
  | .list => (p, p.handles)

/-- The pool after a sequence of calls, and all handles that they return. -/
def session (p : Pool) : List Call → Pool × List Handle
  | [] => (p, [])
  | call :: rest =>
    let (p, returned) := p.perform call
    let (last, others) := p.session rest
    (last, returned ++ others)

/-- The texts that a sequence of calls interns, in order. -/
def internedBy (calls : List Call) : List String := calls.flatMap Call.interned

/-- **A call interns its texts**, and nothing else becomes of the pool. -/
theorem perform_fst (p : Pool) (call : Call) : (p.perform call).1 = p.internAll call.interned := by
  cases call with
  | intern text => rfl
  | list => rfl
  | internStyled s =>
    cases hfits : s.fits with
    | true =>
      obtain ⟨r, hr, -, -⟩ := internStyled_of_fits (p := p) hfits
      simp only [perform, hr, Call.interned, hfits, if_true]
    | false =>
      obtain ⟨fault, hr⟩ := internStyled_of_not_fits (p := p) hfits
      simp only [perform, hr, Call.interned, hfits, Bool.false_eq_true, if_false]
      rfl

/-- Handles are returned for the texts asked for, in order. -/
theorem map_text_perform (p : Pool) (call : Call) : (p.perform call).2.map Handle.text =
    match call with
    | .list => p.texts
    | _ => call.interned := by
  cases call with
  | intern text => rw [perform, handle_intern]; rfl
  | list => exact p.texts_eq_handles.symm
  | internStyled s =>
    cases hfits : s.fits with
    | true =>
      obtain ⟨r, hr, htexts, -⟩ := internStyled_of_fits (p := p) hfits
      simp only [perform, hr, Call.interned, hfits, if_true]
      rw [← htexts, Styled.texts, Styled.texts, Styled.map, List.map_append, List.map_map,
        List.map_map]
      rfl
    | false =>
      obtain ⟨fault, hr⟩ := internStyled_of_not_fits (p := p) hfits
      simp only [perform, hr, Call.interned, hfits, Bool.false_eq_true, if_false, List.map_nil]

/-- The pool keeps every handle that a call returns. -/
theorem keeps_perform (hp : p.OneCellEach) (call : Call) :
    ∀ h ∈ (p.perform call).2, (p.perform call).1.Keeps h := by
  cases call with
  | intern text => exact fun h hh => List.mem_singleton.mp hh ▸ keeps_intern p text
  | list =>
    intro h hh
    obtain ⟨item, hitem, rfl⟩ := List.mem_map.mp hh
    exact ⟨rfl, (Keyed.get?_eq_some_iff hp.increasing).mpr hitem⟩
  | internStyled s =>
    cases hfits : s.fits with
    | true =>
      obtain ⟨r, hr, -, hkeeps⟩ := internStyled_of_fits (p := p) hfits
      simp only [perform, hr]
      exact hkeeps
    | false =>
      obtain ⟨fault, hr⟩ := internStyled_of_not_fits (p := p) hfits
      simp only [perform, hr]
      exact fun _ hh => nomatch hh

theorem session_fst (p : Pool) (calls : List Call) :
    (p.session calls).1 = p.internAll (internedBy calls) := by
  induction calls generalizing p with
  | nil => rfl
  | cons call rest ih =>
    rw [internedBy, List.flatMap_cons, internAll_append, ← perform_fst]
    exact ih _

/-- The pool keeps every handle of a session. -/
theorem keeps_session (hp : p.OneCellEach) (calls : List Call) :
    ∀ h ∈ (p.session calls).2, (p.session calls).1.Keeps h := by
  induction calls generalizing p with
  | nil => exact fun _ hh => nomatch hh
  | cons call rest ih =>
    have hfirst := keeps_perform hp call
    have hnext : (p.perform call).1.OneCellEach := perform_fst p call ▸ hp.internAll _
    intro h hh
    show ((p.perform call).1.session rest).1.Keeps h
    rcases List.mem_append.mp hh with hreturned | hothers
    · rw [session_fst]
      exact (hfirst h hreturned).internAll _
    · exact ih hnext h hothers

/-- A session returns a handle of every text that it interns. -/
theorem exists_handle_session (p : Pool) {calls : List Call} {text : String}
    (h : text ∈ internedBy calls) : ∃ a ∈ (p.session calls).2, a.text = text := by
  induction calls generalizing p with
  | nil => cases h
  | cons call rest ih =>
    rw [internedBy, List.flatMap_cons] at h
    rcases List.mem_append.mp h with hfirst | hrest
    · have hlist : text ∈ (p.perform call).2.map Handle.text := by
        rw [map_text_perform]
        cases call with
        | list => cases hfirst
        | intern | internStyled => exact hfirst
      obtain ⟨a, ha, hatext⟩ := List.mem_map.mp hlist
      exact ⟨a, List.mem_append_left _ ha, hatext⟩
    · obtain ⟨a, ha, hatext⟩ := ih (p.perform call).1 hrest
      exact ⟨a, List.mem_append_right _ ha, hatext⟩

/-! ## Every text once -/

/-- After a session that began with an empty pool, the pool keeps what was interned. -/
theorem contains_session (serial : Nat) (calls : List Call) (text : String) :
    ((empty serial).session calls).1.contains text = true ↔ text ∈ internedBy calls := by
  rw [session_fst, contains_internAll]
  exact or_iff_left Bool.false_ne_true

theorem oneCellEach_session (serial : Nat) (calls : List Call) :
    ((empty serial).session calls).1.OneCellEach := by
  rw [session_fst]
  exact (oneCellEach_empty serial).internAll _

theorem serial_session (p : Pool) (calls : List Call) : (p.session calls).1.serial = p.serial := by
  rw [session_fst]
  exact serial_internAll ..

theorem mem_texts_session (serial : Nat) (calls : List Call) (text : String) :
    text ∈ ((empty serial).session calls).1.texts ↔ text ∈ internedBy calls := by
  rw [mem_texts_iff (oneCellEach_session serial calls), contains_session]

/-- The texts are listed in order, each of them once. -/
theorem OneCellEach.texts_ascend (hp : p.OneCellEach) :
    p.texts.Pairwise (· < ·) ∧ p.texts.Nodup :=
  have hascend : Keyed.Ascending (· < ·) p.cells := hp.increasing.ascending lt_of_compare_text
  ⟨hascend.increasing, hascend.distinct⟩

/-- Two pools that keep the same texts list them in the same way. -/
theorem OneCellEach.texts_ext {q : Pool} (hp : p.OneCellEach) (hq : q.OneCellEach)
    (h : ∀ text, text ∈ p.texts ↔ text ∈ q.texts) : p.texts = q.texts := by
  have hperm : p.texts.Perm q.texts :=
    (List.perm_ext_iff_of_nodup hp.texts_ascend.2 hq.texts_ascend.2).mpr h
  refine hperm.eq_of_pairwise (fun s t _ _ hst hts => ?_) hp.texts_ascend.1 hq.texts_ascend.1
  exact absurd (String.lt_trans hst hts) (String.lt_irrefl s)

theorem size_eq_length_texts (p : Pool) : p.size = p.texts.length := by
  rw [size, texts, List.length_map]

/-- **A pool interns each text once**: what becomes of an empty pool when the texts
`interned` are interned in it and the handles `returned` are handed out. -/
structure InternsOnce (serial : Nat) (interned : List String) (last : Pool)
    (returned : List Handle) : Prop where
  /-- The size is the number of different texts interned. -/
  size : last.size = interned.dedup.length
  /-- The texts interned are kept, and no others. -/
  contains : ∀ text, last.contains text = true ↔ text ∈ interned
  /-- They are listed in order, each of them once. -/
  ascending : last.texts.Pairwise (· < ·)
  listed : ∀ text, text ∈ last.texts ↔ text ∈ interned
  /-- Handles are handed out for these texts, and for no others. -/
  handed : ∀ text, (∃ a ∈ returned, a.text = text) ↔ text ∈ interned
  /-- They share storage when their texts are equal, and only then. -/
  storage : ∀ a ∈ returned, ∀ b ∈ returned, a.sharesStorage b = true ↔ a.text = b.text
  /-- Handles of different pools share no storage; they are equal when their texts are. -/
  others : ∀ other, serial ≠ other → ∀ calls, ∀ a ∈ returned,
    ∀ b ∈ ((empty other).session calls).2,
      ((a == b) = true ↔ a.text = b.text) ∧ a.sharesStorage b = false
  /-- A call that interns nothing but texts that are kept changes nothing. -/
  settled : ∀ call : Call, (∀ text ∈ call.interned, last.contains text = true) →
    (last.perform call).1 = last
  /-- Neither the order of the texts counts, nor how often they come. -/
  order : ∀ other calls, (∀ text, text ∈ internedBy calls ↔ text ∈ interned) →
    ((empty other).session calls).1.size = last.size ∧
      ((empty other).session calls).1.texts = last.texts

/-- **In every session, a pool interns each text once.** -/
theorem session_internsOnce (serial : Nat) (calls : List Call) :
    InternsOnce serial (internedBy calls) ((empty serial).session calls).1
      ((empty serial).session calls).2 := by
  have hlast := oneCellEach_session serial calls
  have hmem := mem_texts_session serial calls
  have hkeeps := keeps_session (oneCellEach_empty serial) calls
  constructor
  · have hperm : ((empty serial).session calls).1.texts.Perm (internedBy calls).dedup := by
      refine (List.perm_ext_iff_of_nodup hlast.texts_ascend.2 (List.nodup_dedup _)).mpr ?_
      exact fun text => (hmem text).trans List.mem_dedup.symm
    rw [size_eq_length_texts]
    exact hperm.length_eq
  · exact contains_session serial calls
  · exact hlast.texts_ascend.1
  · exact hmem
  · intro text
    refine ⟨?_, exists_handle_session (empty serial)⟩
    rintro ⟨a, ha, rfl⟩
    rw [← contains_session serial, contains, (hkeeps a ha).cell]
    rfl
  · exact fun a ha b hb => (hkeeps a ha).sharesStorage_iff hlast (hkeeps b hb)
  · intro other hother calls' a ha b hb
    have hkept := keeps_session (oneCellEach_empty other) calls' b hb
    refine ⟨Handle.beq_iff, (hkeeps a ha).sharesStorage_other ?_ hkept⟩
    rw [serial_session, serial_session]
    exact hother
  · intro call hcall
    rw [perform_fst]
    exact internAll_of_contains hcall
  · intro other calls' hsame
    have htexts : ((empty other).session calls').1.texts =
        ((empty serial).session calls).1.texts := by
      refine (oneCellEach_session other calls').texts_ext hlast fun text => ?_
      rw [mem_texts_session, hsame, hmem]
    refine ⟨?_, htexts⟩
    rw [size_eq_length_texts, htexts, ← size_eq_length_texts]

end Pool
end AppResources
