import Mathlib.Data.List.Infix
import Mathlib.Data.List.TakeWhile
import Migration.Proofs.Text.Bytes
import Migration.Text.Pattern

/-!
# What a scan finds

A pattern *recognises* the values of some kind if it reads exactly those whose text stands at the
front (`Pattern.Recognises`). Nothing else about a pattern matters for its scans: `Pattern.Scans`
tells, without the pattern's reader, which lists of matches a text may have, going from left to
right and never back into a match. A scan is such a list (`scans_scanLines`, `scans_scan`), and
everything about scans is proved by induction on that relation:

* every match stands in the text at its offset, at an admitted place (`Scans.stands`);
* a match ends where the next one starts, or before (`Scans.pairwise`);
* a value that is passed over stands at a place that a match covers (`Scans.complete`).
-/

namespace Migration.Text

/-! ## Literals and runs -/

theorem after?_eq_some_iff {literal text rest : List Char} :
    after? literal text = some rest ↔ text = literal ++ rest := by
  induction literal generalizing text with
  | nil => rw [after?, Option.some.injEq, List.nil_append]
  | cons l literal ih =>
    cases text with
    | nil => simp [after?]
    | cons c text =>
      rw [after?, List.cons_append, List.cons.injEq]
      split
      case isTrue h => rw [ih, and_iff_right h.symm]
      case isFalse h => exact ⟨nofun, fun ⟨hc, _⟩ => absurd hc.symm h⟩

theorem after?_append (literal rest : List Char) : after? literal (literal ++ rest) = some rest :=
  after?_eq_some_iff.2 rfl

/-- A run takes characters of its kind only, and stops at the first of another kind. -/
theorem run_eq_iff {kind : Char → Bool} {text word rest : List Char} :
    run kind text = (word, rest) ↔
      text = word ++ rest ∧ (∀ c ∈ word, kind c = true) ∧ ∀ c ∈ rest.head?, kind c = false := by
  rw [run, Prod.mk.injEq]
  constructor
  · rintro ⟨rfl, rfl⟩
    refine ⟨List.takeWhile_append_dropWhile.symm, fun c hc => List.mem_takeWhile_imp hc, ?_⟩
    intro c hc
    have := List.head?_dropWhile_not kind text
    rw [Option.mem_def.1 hc] at this
    exact this
  · rintro ⟨rfl, hword, hrest⟩
    rw [List.takeWhile_append_of_pos hword, List.dropWhile_append_of_pos hword]
    cases rest with
    | nil => simp
    | cons c rest => simp [hrest c rfl]

/-- A text starts with a run of every kind, which may be empty. -/
theorem exists_run (kind : Char → Bool) (text : List Char) :
    ∃ word rest, run kind text = (word, rest) ∧ text = word ++ rest ∧
      (∀ c ∈ word, kind c = true) ∧ ∀ c ∈ rest.head?, kind c = false :=
  ⟨_, _, rfl, run_eq_iff.1 rfl⟩

/-! ## Recognising values -/

namespace Pattern

variable {α : Type}

/-- The pattern reads a value at the front of a text if and only if the value is `valid` and its
    text stands there. -/
structure Recognises (p : Pattern α) (valid : α → Prop) : Prop where
  read?_eq_some_iff {text : List Char} {value : α} :
    p.read? text = some value ↔ valid value ∧ p.written value <+: text
  written_ne_nil {value : α} : valid value → p.written value ≠ []

/-- Two values whose texts stand at the same place are the same. -/
theorem Recognises.unique {p : Pattern α} {valid : α → Prop} (hp : p.Recognises valid)
    {text : List Char} {a b : α} (ha : valid a) (hb : valid b) (hta : p.written a <+: text)
    (htb : p.written b <+: text) : a = b :=
  Option.some.inj <|
    (hp.read?_eq_some_iff.2 ⟨ha, hta⟩).symm.trans (hp.read?_eq_some_iff.2 ⟨hb, htb⟩)

/-! ## Scans -/

/-- Whether a match may start behind the text `seen`: at the very start, or behind a character that
    `behind` admits. -/
def admits (behind : Char → Bool) (seen : List Char) : Bool :=
  match seen.getLast? with
  | none => true
  | some c => behind c

@[simp] theorem admits_nil (behind : Char → Bool) : admits behind [] = true := rfl

@[simp] theorem admits_concat (behind : Char → Bool) (seen : List Char) (c : Char) :
    admits behind (seen ++ [c]) = behind c := by
  rw [admits, List.getLast?_concat]

theorem admits_anywhere (seen : List Char) : admits (fun _ => true) seen = true := by
  rw [admits]
  split <;> rfl

variable (p : Pattern α) (valid : α → Prop) (behind : Char → Bool)

/-- The matches in `text`, which goes on behind `seen`: a match is taken where one may start, and
    the matches after it are those of the text behind it; a character where no match starts is
    passed over. -/
inductive Scans : (seen text : List Char) → List (Found α) → Prop
  | done {seen : List Char} : Scans seen [] []
  | hit {seen rest : List Char} {value : α} {founds : List (Found α)} :
      admits behind seen = true → valid value → Scans (seen ++ p.written value) rest founds →
      Scans seen (p.written value ++ rest) (⟨byteLength seen, value, rest⟩ :: founds)
  | miss {seen text : List Char} {c : Char} {founds : List (Found α)} :
      (admits behind seen = true → ∀ value, valid value → ¬p.written value <+: c :: text) →
      Scans (seen ++ [c]) text founds → Scans seen (c :: text) founds

/-- The match `found` stands in `text` behind `before`. -/
structure Stands (text before : List Char) (found : Found α) : Prop where
  text_eq : text = before ++ (p.written found.value ++ found.rest)
  offset_eq : found.offset = byteLength before
  admitted : admits behind before = true
  valid_value : valid found.value

/-- The match `found` covers the place behind `front ++ inner`: it starts behind `front`, and that
    place cuts its text in two. -/
structure Covers (text front inner tail : List Char) (found : Found α) : Prop where
  stands : p.Stands valid behind text front found
  written_eq : p.written found.value = inner ++ tail
  inner_ne_nil : inner ≠ []
  tail_ne_nil : tail ≠ []

variable {p valid behind}

/-- At a place that a match covers, the text goes on with the rest of the match. -/
theorem Covers.tail_append {text front inner tail more : List Char} {found : Found α}
    (h : p.Covers valid behind text front inner tail found)
    (htext : text = front ++ inner ++ more) : tail ++ found.rest = more := by
  have := h.stands.text_eq.symm.trans htext
  rwa [h.written_eq, List.append_assoc, List.append_assoc, List.append_cancel_left_eq,
    List.append_cancel_left_eq] at this

/-- Skipping characters is going on behind them. -/
theorem scanFrom_skip (seen skipped text : List Char) :
    p.scanFrom behind skipped.length (byteLength seen) (admits behind seen) (skipped ++ text) =
      p.scanFrom behind 0 (byteLength (seen ++ skipped)) (admits behind (seen ++ skipped))
        text := by
  induction skipped generalizing seen with
  | nil => rw [List.append_nil]; rfl
  | cons c skipped ih =>
    have := ih (seen ++ [c])
    rw [byteLength_append, admits_concat, List.append_assoc] at this
    exact this

/-- Where a value is read, the scan takes it and goes on behind its text. -/
theorem scanFrom_hit {seen rest : List Char} {value : α} (hadm : admits behind seen = true)
    (hne : p.written value ≠ []) (hread : p.read? (p.written value ++ rest) = some value) :
    p.scanFrom behind 0 (byteLength seen) (admits behind seen) (p.written value ++ rest) =
      ⟨byteLength seen, value, rest⟩ ::
        p.scanFrom behind 0 (byteLength (seen ++ p.written value))
          (admits behind (seen ++ p.written value)) rest := by
  obtain ⟨c, word, hword⟩ := List.exists_cons_of_ne_nil hne
  have hskip := @scanFrom_skip _ p behind (seen ++ [c]) word rest
  rw [byteLength_append, admits_concat, List.append_assoc, List.singleton_append, ← hword] at hskip
  have hdrop : (c :: (word ++ rest)).drop (p.written value).length = rest := by
    rw [hword]
    exact List.drop_left
  rw [hword, List.cons_append] at hread
  rw [← hskip, hword, List.cons_append, scanFrom, hadm, if_pos rfl, hread]
  simp only [hdrop]
  rw [hword]
  rfl

/-- Where no value is read, the scan passes over one character. -/
theorem scanFrom_miss {seen text : List Char} {c : Char}
    (hread : admits behind seen = true → p.read? (c :: text) = none) :
    p.scanFrom behind 0 (byteLength seen) (admits behind seen) (c :: text) =
      p.scanFrom behind 0 (byteLength (seen ++ [c])) (admits behind (seen ++ [c])) text := by
  have hnone : (if admits behind seen = true then p.read? (c :: text) else none) = none := by
    split
    case isTrue hadm => exact hread hadm
    case isFalse => rfl
  rw [scanFrom, hnone, byteLength_append, admits_concat]
  rfl

/-- A scan gives the matches of its text. (By induction on the length of the text, as a match is
    left behind in one step.) -/
theorem scans_scanFrom (hp : p.Recognises valid) (seen text : List Char) :
    p.Scans valid behind seen text
      (p.scanFrom behind 0 (byteLength seen) (admits behind seen) text) := by
  induction hn : text.length using Nat.strongRecOn generalizing seen text with
  | ind n ih =>
    cases text with
    | nil => exact .done
    | cons c text =>
      by_cases h : admits behind seen = true ∧ ∃ value, p.read? (c :: text) = some value
      · obtain ⟨hadm, value, hread⟩ := h
        obtain ⟨hvalid, rest, htext⟩ := hp.read?_eq_some_iff.1 hread
        have hne := hp.written_ne_nil hvalid
        rw [← htext] at hread hn ⊢
        rw [scanFrom_hit hadm hne hread]
        refine .hit hadm hvalid (ih rest.length ?_ _ rest rfl)
        rw [← hn, List.length_append]
        exact Nat.lt_add_of_pos_left (List.length_pos_of_ne_nil hne)
      · have hnone (hadm : admits behind seen = true) : p.read? (c :: text) = none :=
          Option.eq_none_iff_forall_ne_some.2 fun value hread => h ⟨hadm, value, hread⟩
        rw [scanFrom_miss hnone]
        refine .miss (fun hadm value hvalid hpre => ?_) (ih text.length ?_ _ text rfl)
        · exact h ⟨hadm, value, hp.read?_eq_some_iff.2 ⟨hvalid, hpre⟩⟩
        · rw [← hn]
          exact Nat.lt_succ_self _

theorem scans_scanLines (hp : p.Recognises valid) (text : List Char) :
    p.Scans valid (· == '\n') [] text (p.scanLines text) :=
  scans_scanFrom hp [] text

theorem scans_scan (hp : p.Recognises valid) (text : List Char) :
    p.Scans valid (fun _ => true) [] text (p.scan text) :=
  scans_scanFrom hp [] text

namespace Scans

variable {seen text : List Char} {founds : List (Found α)}

/-- Every match stands in the text, at a place where a match may start. -/
theorem stands (h : p.Scans valid behind seen text founds) {found : Found α}
    (hfound : found ∈ founds) :
    ∃ before, seen <+: before ∧ p.Stands valid behind (seen ++ text) before found := by
  induction h with
  | done => exact absurd hfound List.not_mem_nil
  | @hit seen rest value founds hadm hvalid _ ih =>
    rcases List.mem_cons.1 hfound with rfl | hfound
    · exact ⟨seen, List.prefix_refl seen, rfl, rfl, hadm, hvalid⟩
    · obtain ⟨before, hseen, hstands⟩ := ih hfound
      rw [List.append_assoc] at hstands
      exact ⟨before, (List.prefix_append _ _).trans hseen, hstands⟩
  | @miss seen text c founds _ _ ih =>
    obtain ⟨before, hseen, hstands⟩ := ih hfound
    rw [List.append_assoc] at hstands
    exact ⟨before, (List.prefix_append _ _).trans hseen, hstands⟩

theorem valid_of_mem (h : p.Scans valid behind seen text founds) {found : Found α}
    (hfound : found ∈ founds) : valid found.value := by
  obtain ⟨_, _, hstands⟩ := h.stands hfound
  exact hstands.valid_value

theorem byteLength_le_offset (h : p.Scans valid behind seen text founds) {found : Found α}
    (hfound : found ∈ founds) : byteLength seen ≤ found.offset := by
  obtain ⟨before, ⟨more, rfl⟩, hstands⟩ := h.stands hfound
  rw [hstands.offset_eq, byteLength_append]
  exact Nat.le_add_right _ _

/-- A match ends where the next one starts, or before. -/
theorem pairwise (h : p.Scans valid behind seen text founds) :
    founds.Pairwise fun a b => a.offset + byteLength (p.written a.value) ≤ b.offset := by
  induction h with
  | done => exact .nil
  | hit _ _ hscan ih =>
    refine .cons (fun found hfound => ?_) ih
    have := hscan.byteLength_le_offset hfound
    rwa [byteLength_append] at this
  | miss _ _ ih => exact ih

theorem pairwise_offset_lt (hp : p.Recognises valid) (h : p.Scans valid behind seen text founds) :
    founds.Pairwise fun a b => a.offset < b.offset := by
  refine h.pairwise.imp_of_mem fun {a b} ha _ hab => ?_
  obtain ⟨before, _, hstands⟩ := h.stands ha
  have := byteLength_pos (hp.written_ne_nil hstands.valid_value)
  omega

/-- A value that stands where a match may start is found, or else a match covers its place. -/
theorem complete (hp : p.Recognises valid) (h : p.Scans valid behind seen text founds)
    {before rest : List Char} {value : α} (hseen : seen <+: before)
    (htext : seen ++ text = before ++ (p.written value ++ rest))
    (hadm : admits behind before = true) (hvalid : valid value) :
    (∃ found ∈ founds, p.Stands valid behind (seen ++ text) before found ∧ found.value = value) ∨
      ∃ found ∈ founds, ∃ front inner tail, before = front ++ inner ∧
        p.Covers valid behind (seen ++ text) front inner tail found := by
  have hne := hp.written_ne_nil hvalid
  induction h with
  | done =>
    -- No text is left that the value could stand in.
    obtain ⟨more, rfl⟩ := hseen
    rw [List.append_assoc, List.append_cancel_left_eq, eq_comm, List.append_eq_nil_iff,
      List.append_eq_nil_iff] at htext
    exact absurd htext.2.1 hne
  | @hit seen text v founds hadm' hv _ ih =>
    obtain ⟨inner, rfl⟩ := hseen
    rw [List.append_assoc, List.append_cancel_left_eq] at htext
    have hstands : p.Stands valid behind (seen ++ (p.written v ++ text)) seen
        ⟨byteLength seen, v, text⟩ := ⟨rfl, rfl, hadm', hv⟩
    by_cases hpre : p.written v <+: inner
    · -- Behind the match, it is for the rest of the scan to find the value.
      have hlater := ih (List.prefix_append_right_inj seen |>.2 hpre) (by simp [htext])
      rw [List.append_assoc] at hlater
      refine hlater.imp ?_ ?_
      · exact fun ⟨found, hfound, h⟩ => ⟨found, List.mem_cons_of_mem _ hfound, h⟩
      · exact fun ⟨found, hfound, h⟩ => ⟨found, List.mem_cons_of_mem _ hfound, h⟩
    · rcases List.append_eq_append_iff.1 htext with ⟨tail, hw, _⟩ | ⟨tail, hw, _⟩
      · exact absurd ⟨tail, hw.symm⟩ hpre
      by_cases hinner : inner = []
      · -- At the start of the match, there is one value only that can be read.
        subst hinner
        rw [List.nil_append] at htext
        have hvalue : v = value :=
          hp.unique hv hvalid (List.prefix_append _ text) (htext ▸ List.prefix_append _ rest)
        rw [List.append_nil]
        exact .inl ⟨_, List.mem_cons_self, hstands, hvalue⟩
      · refine .inr ⟨_, List.mem_cons_self, seen, inner, tail, rfl, hstands, hw, hinner, ?_⟩
        rintro rfl
        rw [List.append_nil] at hw
        exact hpre (hw ▸ List.prefix_refl _)
  | @miss seen text c founds hmiss _ ih =>
    obtain ⟨inner, rfl⟩ := hseen
    rw [List.append_assoc, List.append_cancel_left_eq] at htext
    cases inner with
    | nil =>
      -- A character is passed over only if no value stands there.
      rw [List.append_nil] at hadm
      exact absurd ⟨rest, htext.symm⟩ (hmiss hadm value hvalid)
    | cons d inner =>
      rw [List.cons_append, List.cons.injEq] at htext
      obtain ⟨rfl, rfl⟩ := htext
      have := ih ⟨inner, by simp⟩ (by simp)
      rw [List.append_assoc] at this
      exact this

end Scans

end Pattern

end Migration.Text
