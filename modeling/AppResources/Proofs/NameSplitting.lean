import AppResources.Proofs.TextReaders
import AppResources.Proofs.WrittenNames
import Mathlib.Data.List.Induction

/-!
# Splitting a written name

The pass knows that a part is still to come by its being empty.  Two things follow from this,
and both are a matter of what a single character does (`NameScan.pass_induction`).

* A text in which every mark that the pass takes ends a part that is not empty is read, and
  the parts rebuild it.  These texts are exactly those written from parts whose marks stand
  where they may (`exists_written`, `splitName_written`).
* A mark that comes with nothing before it leaves its part empty, so the pass goes on as if it
  had not been there and only demands that the part be given (`splitName_emptyPart`).  Hence
  `/foo` is refused, but `/string/foo` is read as `string/foo` (`splitName_leadingSlash`).
-/

namespace AppResources

namespace NameScan

/-- The parts as they would be if the text ended here. -/
def parts (s : NameScan) : NameParts := ⟨s.package, s.type, s.pending.reverse⟩

/-- The mark of the part has been taken, so the part has to be given. -/
def demands (s : NameScan) : NamePart → Bool
  | .package => s.sawColon
  | .type => s.sawSlash

/-- Demands the part from now on. -/
def demand (s : NameScan) : NamePart → NameScan
  | .package => { s with sawColon := true }
  | .type => { s with sawSlash := true }

/-- Ends the part. -/
def close (s : NameScan) : NamePart → NameScan
  | .package => { s with package := s.pending.reverse, pending := [], sawColon := true }
  | .type => { s with type := s.pending.reverse, pending := [], sawSlash := true }

/-- Reads on. -/
def push (s : NameScan) (c : Char) : NameScan := { s with pending := c :: s.pending }

/-- The pass over a text. -/
def reached (text : List Char) : NameScan := text.foldl next {}

/-- The mark of the part would end an empty part here. -/
def EndsEmpty (s : NameScan) (part : NamePart) : Prop :=
  s.parts.given part = [] ∧ s.parts.entry = []

variable {s : NameScan} {parts : NameParts} {part : NamePart} {c : Char}

@[simp] theorem parts_close (s : NameScan) (part : NamePart) :
    (s.close part).parts = s.parts.close part := by
  cases part <;> simp [close, NameScan.parts, NameParts.close]

@[simp] theorem parts_push (s : NameScan) (c : Char) : (s.push c).parts = s.parts.push [c] := by
  simp [push, NameScan.parts, NameParts.push]

@[simp] theorem parts_demand (s : NameScan) (part : NamePart) :
    (s.demand part).parts = s.parts := by
  cases part <;> rfl

@[simp] theorem demands_push (s : NameScan) (c : Char) (part : NamePart) :
    (s.push c).demands part = s.demands part := by
  cases part <;> rfl

theorem demands_close (s : NameScan) (part q : NamePart) :
    (s.close part).demands q = true ↔ q = part ∨ s.demands q = true := by
  cases part <;> cases q <;> simp [close, demands]

theorem demands_demand (s : NameScan) (part q : NamePart) :
    (s.demand part).demands q = true ↔ q = part ∨ s.demands q = true := by
  cases part <;> cases q <;> simp [demand, demands]

/-! ## A single character -/

/-- The mark of a part that is still empty ends that part. -/
theorem next_mark (h : s.parts.given part = []) : s.next part.mark = s.close part := by
  cases part with
  | package =>
    have hpackage : s.package = [] := h
    simp [next, NamePart.mark, hpackage, close]
  | type =>
    have htype : s.type = [] := h
    simp [next, NamePart.mark, htype, close]

/-- Any other character is read as it stands. -/
theorem next_plain (h : s.parts.IsPlain c) : s.next c = s.push c := by
  have htype : s.type = [] → c ≠ '/' := h .type
  have hpackage : s.package = [] → c ≠ ':' := h .package
  rw [next, if_neg (by simpa using htype), if_neg (by simpa using hpackage), push]

theorem mark_or_plain (s : NameScan) (c : Char) :
    (∃ part, c = NamePart.mark part ∧ s.parts.given part = []) ∨ s.parts.IsPlain c := by
  by_cases h : ∃ part, c = NamePart.mark part ∧ s.parts.given part = []
  · exact .inl h
  · exact .inr fun part hpart hc => h ⟨part, hc, hpart⟩

theorem reached_append (text rest : List Char) :
    reached (text ++ rest) = rest.foldl next (reached text) :=
  List.foldl_append

theorem reached_concat (text : List Char) (c : Char) :
    reached (text ++ [c]) = (reached text).next c :=
  reached_append text [c]

/-- **Induction along the pass**: each character either ends a part that is still empty or is
read as it stands. -/
@[elab_as_elim] theorem pass_induction {motive : List Char → Prop} (nil : motive [])
    (mark : ∀ text part, (reached text).parts.given part = [] →
      reached (text ++ [part.mark]) = (reached text).close part → motive text →
      motive (text ++ [part.mark]))
    (plain : ∀ text c, (reached text).parts.IsPlain c →
      reached (text ++ [c]) = (reached text).push c → motive text → motive (text ++ [c]))
    (text : List Char) : motive text := by
  induction text using List.reverseRecOn with
  | nil => exact nil
  | append_singleton text c ih =>
    rcases (reached text).mark_or_plain c with ⟨part, rfl, hpart⟩ | hplain
    · exact mark text part hpart (by rw [reached_concat, next_mark hpart]) ih
    · exact plain text c hplain (by rw [reached_concat, next_plain hplain]) ih

/-! ## What holds all along the pass -/

theorem tidy_reached (text : List Char) : (reached text).parts.Tidy := by
  induction text using pass_induction with
  | nil =>
    constructor
    · rintro (_ | _) <;> exact List.not_mem_nil
    · rintro (_ | _) _ <;> exact ⟨List.not_mem_nil, List.not_mem_nil⟩
  | mark text part hpart hreached ih =>
    rw [hreached, parts_close]
    exact ih.close hpart
  | plain text c hplain hreached ih =>
    rw [hreached, parts_push]
    exact ih.push hplain

theorem entry_reached_suffix (text : List Char) : (reached text).parts.entry <:+ text := by
  induction text using pass_induction with
  | nil => exact List.suffix_refl []
  | mark text part hpart hreached ih =>
    rw [hreached, parts_close, NameParts.entry_close]
    exact List.nil_suffix
  | plain text c hplain hreached ih =>
    obtain ⟨before, hbefore⟩ := ih
    rw [hreached, parts_push, NameParts.entry_push]
    exact ⟨before, by rw [← List.append_assoc, hbefore]⟩

/-- A part whose mark stands in the text is given or demanded. -/
theorem demands_reached {part : NamePart} (text : List Char)
    (hpart : (reached text).parts.given part = []) (hmark : part.mark ∈ text) :
    (reached text).demands part = true := by
  induction text using pass_induction with
  | nil => cases hmark
  | mark text q hq hreached ih =>
    rw [hreached, demands_close]
    rw [hreached, parts_close] at hpart
    rcases part.eq_or_eq_other q with rfl | rfl
    · exact .inl rfl
    · rw [NameParts.given_close_other] at hpart
      exact .inr (ih hpart (by simpa [NamePart.mark_other_ne] using hmark))
  | plain text c hplain hreached ih =>
    rw [hreached, parts_push, NameParts.given_push] at hpart
    rw [hreached, demands_push]
    exact ih hpart (by simpa [(hplain part hpart).symm] using hmark)

/-! ## The end of the pass -/

/-- The pass ends well when all that is demanded is given. -/
theorem finish_eq_some_iff :
    s.finish = some parts ↔ (∀ part, s.demands part = true → s.parts.given part ≠ []) ∧
      s.parts = parts := by
  simp [finish, NamePart.forall_iff, demands, NameParts.given, NameScan.parts]

theorem finish_demand (s : NameScan) (part : NamePart) :
    (s.demand part).finish = s.finish.filter fun parts => parts.given part ≠ [] := by
  ext parts
  simp only [Option.filter_eq_some_iff, finish_eq_some_iff, parts_demand, demands_demand,
    decide_eq_true_eq]
  constructor
  · rintro ⟨hgiven, rfl⟩
    exact ⟨⟨fun q hq => hgiven q (.inr hq), rfl⟩, hgiven part (.inl rfl)⟩
  · rintro ⟨⟨hgiven, rfl⟩, hpart⟩
    refine ⟨fun q hq => ?_, rfl⟩
    rcases hq with rfl | hq
    · exact hpart
    · exact hgiven q hq

/-! ## Marks of empty parts -/

/-- An empty part that is ended stays empty and is demanded. -/
theorem EndsEmpty.next (h : s.EndsEmpty part) : s.next part.mark = s.demand part := by
  obtain ⟨hpart, hentry⟩ := h
  have hpending : s.pending = [] := List.reverse_eq_nil_iff.mp hentry
  rw [next_mark hpart]
  cases part with
  | package =>
    have hpackage : s.package = [] := hpart
    simp [close, demand, hpending, hpackage]
  | type =>
    have htype : s.type = [] := hpart
    simp [close, demand, hpending, htype]

theorem demand_next (s : NameScan) (part : NamePart) (c : Char) :
    (s.demand part).next c = (s.next c).demand part := by
  rcases s.mark_or_plain c with ⟨q, rfl, hq⟩ | hplain
  · rw [next_mark hq, next_mark (by rwa [parts_demand])]
    cases part <;> cases q <;> rfl
  · rw [next_plain hplain, next_plain (by rwa [parts_demand])]
    cases part <;> rfl

/-- What is demanded makes no difference to how a text is read. -/
theorem foldl_demand (s : NameScan) (part : NamePart) (text : List Char) :
    text.foldl next (s.demand part) = (text.foldl next s).demand part := by
  induction text generalizing s with
  | nil => rfl
  | cons c text ih => rw [List.foldl_cons, List.foldl_cons, demand_next, ih]

end NameScan

open NameScan NameParts

variable {text : List Char} {parts : NameParts} {part : NamePart}

theorem splitName_eq_some_iff : splitName text = some parts ↔
    (∀ part, (reached text).demands part = true → (reached text).parts.given part ≠ []) ∧
      (reached text).parts = parts := finish_eq_some_iff

theorem tidy_of_splitName (h : splitName text = some parts) : parts.Tidy := by
  obtain ⟨-, rfl⟩ := splitName_eq_some_iff.mp h
  exact tidy_reached text

/-- The entry stands at the end of the text. -/
theorem entry_suffix (h : splitName text = some parts) : parts.entry <:+ text := by
  obtain ⟨-, rfl⟩ := splitName_eq_some_iff.mp h
  exact entry_reached_suffix text

/-- The mark of a missing part stands nowhere in the text. -/
theorem mark_notMem_of_missing (h : splitName text = some parts) (hpart : parts.given part = []) :
    part.mark ∉ text := by
  obtain ⟨hgiven, rfl⟩ := splitName_eq_some_iff.mp h
  exact fun hmark => hgiven part (demands_reached text hpart hmark) hpart

/-! ## Reading what is written -/

/-- A character that ends no part is one more of the entry. -/
theorem splitName_plain {c : Char} (h : splitName text = some parts) (hc : parts.IsPlain c) :
    splitName (text ++ [c]) = some (parts.push [c]) := by
  obtain ⟨hgiven, rfl⟩ := splitName_eq_some_iff.mp h
  rw [splitName_eq_some_iff, reached_concat, next_plain hc]
  exact ⟨by simpa using hgiven, parts_push _ _⟩

/-- The mark of a missing part makes that part of the entry. -/
theorem splitName_mark (h : splitName text = some parts) (hpart : parts.given part = [])
    (hentry : parts.entry ≠ []) : splitName (text ++ [part.mark]) = some (parts.close part) := by
  obtain ⟨hgiven, rfl⟩ := splitName_eq_some_iff.mp h
  rw [splitName_eq_some_iff, reached_concat, next_mark hpart, parts_close]
  refine ⟨fun q hq => ?_, rfl⟩
  rcases q.eq_or_eq_other part with rfl | rfl
  · rwa [given_close_self]
  · rw [given_close_other]
    exact hgiven _ (((demands_close _ _ _).mp hq).resolve_left (NamePart.other_ne part))

theorem splitName_append {rest : List Char} (h : splitName text = some parts)
    (hrest : ∀ c ∈ rest, parts.IsPlain c) : splitName (text ++ rest) = some (parts.push rest) := by
  induction rest generalizing text parts with
  | nil => simpa using h
  | cons c rest ih =>
    obtain ⟨hc, hrest⟩ := List.forall_mem_cons.mp hrest
    have hnext := ih (splitName_plain h hc) fun d hd q hq => hrest d hd q (by simpa using hq)
    simpa [push_push] using hnext

/-- A part with its mark behind it is read as that part. -/
theorem splitName_marked (h : splitName text = some parts) (hentry : parts.entry = [])
    (part : NamePart) (hpart : parts.given part = []) (given : List Char)
    (hplain : ∀ c ∈ given, parts.IsPlain c) :
    splitName (text ++ part.marked given) = some ((parts.push given).close part) := by
  by_cases hgiven : given = []
  · subst hgiven
    rw [NamePart.marked_nil, List.append_nil, h, push_nil, close_of_empty hpart hentry]
  · rw [NamePart.marked_of_ne hgiven, ← List.append_assoc]
    refine splitName_mark (splitName_append h hplain) (by simpa using hpart) ?_
    simpa [hentry] using hgiven

/-- **What is written is read.** -/
theorem splitName_written {first : NamePart} (h : parts.ReadableFrom first) :
    splitName (parts.written first) = some parts := by
  obtain ⟨htidy, hforeign⟩ := h
  -- neither mark stands in the first part
  have hnone : splitName [] = some ⟨[], [], []⟩ := rfl
  have hfirst := splitName_marked hnone rfl first (by cases first <;> rfl)
    (parts.given first) fun c hc q _ hmark => by
      rcases q.eq_or_eq_other first with rfl | rfl
      · exact htidy.own _ (hmark ▸ hc)
      · exact hforeign (hmark ▸ hc)
  -- in the second one the mark of the first may stand, once that is given
  have hsecond := splitName_marked hfirst (entry_close ..) first.other (by cases first <;> rfl)
    (parts.given first.other) fun c hc q hq hmark => by
      rcases q.eq_or_eq_other first with rfl | rfl
      · exact (htidy.missing _ (by simpa using hq)).1 (hmark ▸ hc)
      · exact htidy.own _ (hmark ▸ hc)
  have hparts : (((NameParts.mk [] [] []).push (parts.given first)).close first |>.push
      (parts.given first.other)).close first.other = { parts with entry := [] } := by
    cases first <;> rfl
  rw [hparts] at hsecond
  exact splitName_append hsecond fun c hc q hq hmark =>
    (htidy.missing q (by cases q <;> exact hq)).2 (hmark ▸ hc)

/-- **A mark ends an empty part**: it comes while its part is still empty and with nothing
before it, that is, at the beginning of the text or right behind another mark. -/
def HasEmptyPart (text : List Char) : Prop :=
  ∃ before part after, text = before ++ NamePart.mark part :: after ∧
    (reached before).EndsEmpty part

/-- **Without an empty part a text is what is written from its parts.** -/
theorem exists_written (h : ¬ HasEmptyPart text) :
    ∃ parts first, splitName text = some parts ∧ text = parts.written first ∧
      parts.ReadableFrom first := by
  have hinit : ∀ {text c}, ¬ HasEmptyPart (text ++ [c]) → ¬ HasEmptyPart text := by
    rintro text c h ⟨before, part, after, rfl, hend⟩
    exact h ⟨before, part, after ++ [c], by simp, hend⟩
  induction text using pass_induction with
  | nil => exact ⟨⟨[], [], []⟩, .package, rfl, rfl, tidy_reached [], List.not_mem_nil⟩
  | mark text part hpart hreached ih =>
    obtain ⟨parts, first, hsplit, hwritten, htidy, -⟩ := ih (hinit h)
    obtain ⟨-, rfl⟩ := splitName_eq_some_iff.mp hsplit
    have hentry : (reached text).parts.entry ≠ [] := fun hentry =>
      h ⟨text, part, [], rfl, hpart, hentry⟩
    -- the part that is ended comes second
    refine ⟨_, part.other, splitName_mark hsplit hpart hentry, ?_, htidy.close hpart, ?_⟩
    · rw [written_close hpart hentry first, ← hwritten]
    · simpa using (htidy.missing part hpart).1
  | plain text c hplain hreached ih =>
    obtain ⟨parts, first, hsplit, hwritten, htidy, hforeign⟩ := ih (hinit h)
    obtain ⟨-, rfl⟩ := splitName_eq_some_iff.mp hsplit
    refine ⟨_, first, splitName_plain hsplit hplain, ?_, htidy.push hplain, ?_⟩
    · rw [written_push, ← hwritten]
    · simpa using hforeign

/-! ## Empty parts -/

/-- **The mark of an empty part is passed over**: it only demands that the part be given
further on. -/
theorem splitName_emptyPart {before after : List Char} (h : (reached before).EndsEmpty part) :
    splitName (before ++ part.mark :: after) =
      (splitName (before ++ after)).filter fun parts => parts.given part ≠ [] := by
  have hreached : reached (before ++ part.mark :: after) =
      (reached (before ++ after)).demand part := by
    rw [reached_append, List.foldl_cons, h.next, foldl_demand, ← reached_append]
  exact (congrArg finish hreached).trans (finish_demand _ part)

/-- The text with some marks of empty parts taken out, one after another. -/
inductive LosesMarks : List Char → List Char → Prop where
  | none (text : List Char) : LosesMarks text text
  | mark {before after kept : List Char} {part : NamePart} (h : (reached before).EndsEmpty part)
      (rest : LosesMarks (before ++ after) kept) : LosesMarks (before ++ part.mark :: after) kept

theorem LosesMarks.length_le {kept : List Char} (h : LosesMarks text kept) :
    kept.length ≤ text.length := by
  induction h with
  | none => exact Nat.le_refl _
  | mark _ _ ih =>
    simp only [List.length_append, List.length_cons] at ih ⊢
    omega

/-- The parts that are read rebuild the text, but for marks of empty parts. -/
theorem losesMarks_of_splitName (h : splitName text = some parts) :
    ∃ first, LosesMarks text (parts.written first) := by
  -- a mark that is taken out leaves a shorter text
  induction hn : text.length using Nat.strongRecOn generalizing text with
  | ind n ih =>
    by_cases hempty : HasEmptyPart text
    · obtain ⟨before, part, after, rfl, hend⟩ := hempty
      rw [splitName_emptyPart hend, Option.filter_eq_some_iff] at h
      obtain ⟨first, hlost⟩ := ih (before ++ after).length (by simp [← hn]) h.1 rfl
      exact ⟨first, .mark hend hlost⟩
    · obtain ⟨parts', first, hsplit, hwritten, -⟩ := exists_written hempty
      cases h.symm.trans hsplit
      exact ⟨first, hwritten ▸ .none text⟩

/-- A text with an empty part is longer than what is written from its parts. -/
theorem length_written_lt (h : splitName text = some parts) (hempty : HasEmptyPart text)
    (first : NamePart) : (parts.written first).length < text.length := by
  obtain ⟨before, part, after, rfl, hend⟩ := hempty
  rw [splitName_emptyPart hend, Option.filter_eq_some_iff] at h
  obtain ⟨first', hlost⟩ := losesMarks_of_splitName h.1
  have hle := hlost.length_le
  rw [length_written parts first' first] at hle
  simp only [List.length_append, List.length_cons] at hle ⊢
  omega

/-- **Parts are read from what is written of them** exactly when their marks stand where they
may. -/
theorem splitName_written_iff {first : NamePart} :
    splitName (parts.written first) = some parts ↔ parts.ReadableFrom first := by
  refine ⟨fun h => ?_, splitName_written⟩
  have hnonempty : ¬ HasEmptyPart (parts.written first) := fun hempty =>
    Nat.lt_irrefl _ (length_written_lt h hempty first)
  obtain ⟨parts', first', hsplit, hwritten, hreadable⟩ := exists_written hnonempty
  cases h.symm.trans hsplit
  rcases first'.eq_or_eq_other first with rfl | rfl
  · exact hreadable
  · -- written in the other order, a part must be missing
    obtain ⟨htidy, hforeign⟩ := hreadable
    rw [NamePart.other_other] at hforeign
    refine ⟨htidy, ?_⟩
    by_cases hfirst : parts.given first = []
    · rw [hfirst]
      exact List.not_mem_nil
    · by_cases hother : parts.given first.other = []
      · simpa using (htidy.missing _ hother).1
      · exact absurd hwritten
          (written_ne_written_other hfirst hother (htidy.own first) hforeign)

/-- **What becomes of a text** in the pass, and of a text that the pass refuses. -/
structure SplitsFaithfully (text : List Char) : Prop where
  /-- A text without an empty part is read, and its parts rebuild it; no other text is rebuilt. -/
  rebuilt : ¬ HasEmptyPart text ↔
    ∃ parts first, splitName text = some parts ∧ text = parts.written first
  /-- The parts of any text rebuild it but for marks of empty parts. -/
  lost : ∀ parts, splitName text = some parts →
    ∃ first, LosesMarks text (parts.written first)
  /-- A text with the mark of an empty part is read as if the mark were not there, and
  refused if the part is not given further on. -/
  emptyPart : ∀ before part after, text = before ++ NamePart.mark part :: after →
    (reached before).EndsEmpty part → splitName text =
      (splitName (before ++ after)).filter fun parts => parts.given part ≠ []
  /-- A text that the pass refuses is refused by all readers behind their own signs. -/
  refused : splitName text = none →
    (∀ whole, (takeSign '*' whole).2 = text → readName? whole = none) ∧
    (∀ whole rest, trim whole = '@' :: rest → (takeSign '*' (takeSign '+' rest).2).2 = text →
      readMention? whole = none) ∧
    ∀ whole, trim whole = '?' :: text → readThemeName? whole = none

/-- **A text without an empty part is rebuilt from its parts**, and in every other text
nothing is lost but marks of empty parts. -/
theorem splitsFaithfully (text : List Char) : SplitsFaithfully text where
  rebuilt := by
    constructor
    · intro h
      obtain ⟨parts, first, hsplit, hwritten, -⟩ := exists_written h
      exact ⟨parts, first, hsplit, hwritten⟩
    · rintro ⟨parts, first, hsplit, hwritten⟩ hempty
      have hlt := length_written_lt hsplit hempty first
      rw [← hwritten] at hlt
      exact Nat.lt_irrefl _ hlt
  lost _ h := losesMarks_of_splitName h
  emptyPart _ _ _ htext hend := htext ▸ splitName_emptyPart hend
  refused h := by
    have hname : ∀ whole, (takeSign '*' whole).2 = text → readName? whole = none := by
      rintro whole rfl
      rw [readName?_eq, h]
      rfl
    refine ⟨hname, ?_, ?_⟩
    · intro whole rest hat htext
      rw [Option.eq_none_iff_forall_ne_some]
      intro m hm
      obtain ⟨rest', hat', hafter⟩ := readMention?_eq_some_iff.mp hm
      cases hat.symm.trans hat'
      have hread := (readMentionAfter?_eq_some_iff.mp hafter).1
      rw [hname _ htext] at hread
      cases hread
    · intro whole hmark
      rw [Option.eq_none_iff_forall_ne_some]
      intro n hn
      obtain ⟨rest, parts, hmark', hsplit, -⟩ := readThemeName?_eq_some_iff.mp hn
      cases hmark.symm.trans hmark'
      rw [h] at hsplit
      cases hsplit

/-- **A leading mark can be passed over**: `/string/foo` has an empty part, but it is read as
`string/foo`, by the readers of names and of references too. -/
theorem splitName_leadingSlash :
    let text := "/string/foo".toList
    let parts : NameParts := ⟨[], "string".toList, "foo".toList⟩
    HasEmptyPart text ∧ splitName text = some parts ∧ (∀ first, text ≠ parts.written first) ∧
      readName? text = some (⟨"", .string, "foo"⟩, false) ∧
      readMention? ('@' :: text) = some ⟨⟨"", .string, "foo"⟩, false, false⟩ :=
  ⟨⟨[], .type, "string/foo".toList, rfl, rfl, rfl⟩, rfl, by rintro (_ | _) <;> decide, rfl, rfl⟩

end AppResources
