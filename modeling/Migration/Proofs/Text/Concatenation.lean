import Migration.Proofs.Text.Scan

/-!
# Scans of texts that are put together

What a scan finds in a text that is made of two parts. The matches are those of the two parts, the
second ones moved back by the bytes of the first part, if the second part may start with a match and
no match goes from one part into the other (`scanLines_append`).

In general a match may go over the joint: a value that was cut off at the end of the first part is
completed by the second part. It then takes up all that is left of the first part. So the matches of
the first part stay as they are if nothing is found in what is left of a value that is cut off
(`CutSafe`, `prefix_scanLines_append`): more text only adds matches at the end.

The values of a pattern that are written on one line (`OneLine`) neither go over the start of a line
nor have one inside of them, so they satisfy both conditions.
-/

namespace Migration.Text

variable {α : Type}

/-- Of two texts at the front of another, the shorter one stands at the front of the longer one. -/
theorem prefix_of_byteLength_le {a b text : List Char} (ha : a <+: text) (hb : b <+: text)
    (h : byteLength a ≤ byteLength b) : a <+: b := by
  rcases List.prefix_or_prefix_of_prefix ha hb with hab | ⟨more, rfl⟩
  · exact hab
  · cases more with
    | nil => rw [List.append_nil]
    | cons c more => exact absurd h (Nat.not_le.2 (byteLength_lt (List.cons_ne_nil c more)))

/-- Two texts at the front of another are told apart by their numbers of bytes. -/
theorem eq_of_byteLength_eq {a b text : List Char} (ha : a <+: text) (hb : b <+: text)
    (h : byteLength a = byteLength b) : a = b := by
  have hab := prefix_of_byteLength_le ha hb h.le
  have hba := prefix_of_byteLength_le hb ha h.ge
  exact hab.eq_of_length_le hba.length_le

/-- What follows a mark anywhere in a text is an end of what follows the first such mark. -/
theorem suffix_of_mark {c : Char} {first rest front more : List Char} (hfirst : c ∉ first)
    (h : first ++ c :: rest = front ++ c :: more) : more <:+ rest := by
  rcases List.append_eq_append_iff.1 h with ⟨between, rfl, hrest⟩ | ⟨between, rfl, hmore⟩
  · cases between with
    | nil => exact (List.cons.inj hrest).2 ▸ List.suffix_rfl
    | cons d between =>
      rw [(List.cons.inj hrest).2]
      exact (List.suffix_cons c more).trans (List.suffix_append _ _)
  · cases between with
    | nil => exact (List.cons.inj hmore).2 ▸ List.suffix_rfl
    | cons d between =>
      rw [← (List.cons.inj hmore).1] at hfirst
      exact absurd (List.mem_append_right _ List.mem_cons_self) hfirst

/-- The same match in a text that goes on with `more`. -/
def Found.followedBy (more : List Char) (found : Found α) : Found α :=
  { found with rest := found.rest ++ more }

/-- The same match in a text that has so many `bytes` more in front. -/
def Found.shifted (bytes : Nat) (found : Found α) : Found α :=
  { found with offset := found.offset + bytes }

namespace Pattern

variable {p : Pattern α} {valid : α → Prop} {behind : Char → Bool}

/-! ## Where matches may start -/

theorem admits_append (front : List Char) {inner : List Char} (h : inner ≠ []) :
    admits behind (front ++ inner) = admits behind inner := by
  obtain ⟨most, last, rfl⟩ := (List.eq_nil_or_concat' inner).resolve_left h
  rw [← List.append_assoc, admits_concat, admits_concat]

/-- Behind a text that a match may follow, matches may start where they may start without it. -/
theorem admits_append_of_admits {front : List Char} (h : admits behind front = true)
    (seen : List Char) : admits behind (front ++ seen) = admits behind seen := by
  cases seen with
  | nil => rw [List.append_nil, h, admits_nil]
  | cons c seen => exact admits_append front (List.cons_ne_nil c seen)

/-- A start of a line that is not the start of the text comes behind a line feed. -/
theorem lineFeed_mem_of_admits {text : List Char} (hne : text ≠ [])
    (h : admits (· == '\n') text = true) : '\n' ∈ text := by
  obtain ⟨lines, last, rfl⟩ := (List.eq_nil_or_concat' text).resolve_left hne
  rw [admits_concat, beq_iff_eq] at h
  rw [h]
  exact List.mem_append_right _ List.mem_cons_self

/-! ## Matches before and behind a joint -/

theorem Stands.followedBy {text before : List Char} {found : Found α}
    (h : p.Stands valid behind text before found) (more : List Char) :
    p.Stands valid behind (text ++ more) before (found.followedBy more) where
  text_eq := by rw [h.text_eq, List.append_assoc, List.append_assoc]; rfl
  offset_eq := h.offset_eq
  admitted := h.admitted
  valid_value := h.valid_value

theorem Stands.shifted {text before front : List Char} {found : Found α}
    (hfront : admits behind front = true) (h : p.Stands valid behind text before found) :
    p.Stands valid behind (front ++ text) (front ++ before) (found.shifted (byteLength front)) where
  text_eq := by rw [h.text_eq, List.append_assoc]; rfl
  offset_eq := by rw [byteLength_append, Nat.add_comm, ← h.offset_eq]; rfl
  admitted := (admits_append_of_admits hfront before).trans h.admitted
  valid_value := h.valid_value

/-- The matches of a text are no others than those that the scan gives. -/
theorem Scans.eq_scanFrom (hp : p.Recognises valid) {seen text : List Char}
    {founds : List (Found α)} (h : p.Scans valid behind seen text founds) :
    founds = p.scanFrom behind 0 (byteLength seen) (admits behind seen) text := by
  induction h with
  | done => rfl
  | @hit seen rest value founds hadm hvalid _ ih =>
    rw [scanFrom_hit hadm (hp.written_ne_nil hvalid)
      (hp.read?_eq_some_iff.2 ⟨hvalid, List.prefix_append _ rest⟩), ← ih]
  | @miss seen text c founds hmiss _ ih =>
    rw [scanFrom_miss, ← ih]
    intro hadm
    refine Option.eq_none_iff_forall_ne_some.2 fun value hread => ?_
    obtain ⟨hvalid, hpre⟩ := hp.read?_eq_some_iff.1 hread
    exact hmiss hadm value hvalid hpre

/-- A text in front that a match may follow moves the matches, and changes nothing else. -/
theorem Scans.shift {front seen text : List Char} {founds : List (Found α)}
    (hfront : admits behind front = true) (h : p.Scans valid behind seen text founds) :
    p.Scans valid behind (front ++ seen) text
      (founds.map (Found.shifted (byteLength front))) := by
  induction h with
  | done => exact .done
  | @hit seen rest value founds hadm hvalid _ ih =>
    have hoffset : byteLength seen + byteLength front = byteLength (front ++ seen) := by
      rw [byteLength_append, Nat.add_comm]
    rw [List.map_cons, Found.shifted, hoffset]
    rw [← List.append_assoc] at ih
    exact .hit ((admits_append_of_admits hfront seen).trans hadm) hvalid ih
  | @miss seen text c founds hmiss _ ih =>
    rw [← List.append_assoc] at ih
    refine .miss (fun hadm => hmiss ?_) ih
    rwa [admits_append_of_admits hfront] at hadm

/-- If no match goes over the joint of two texts, the matches are those of the first text, then
    those of the second one. -/
theorem Scans.split {seen first second : List Char} {founds : List (Found α)}
    (h : p.Scans valid behind seen (first ++ second) founds)
    (hcross : ∀ found ∈ founds, found.offset < byteLength (seen ++ first) →
      found.offset + byteLength (p.written found.value) ≤ byteLength (seen ++ first)) :
    ∃ before after, founds = before.map (Found.followedBy second) ++ after ∧
      p.Scans valid behind seen first before ∧
      p.Scans valid behind (seen ++ first) second after := by
  generalize htext : first ++ second = text at h
  induction h generalizing first with
  | @done seen =>
    obtain ⟨rfl, rfl⟩ := List.append_eq_nil_iff.1 htext
    exact ⟨[], [], rfl, .done, .done⟩
  | @hit seen rest value founds hadm hvalid hscan ih =>
    cases first with
    | nil =>
      rw [List.nil_append] at htext
      subst htext
      exact ⟨[], _, rfl, .done, by rw [List.append_nil]; exact .hit hadm hvalid hscan⟩
    | cons c first =>
      -- The match starts in the first text, so it ends there.
      have hle := hcross _ List.mem_cons_self (byteLength_lt (List.cons_ne_nil c first))
      rw [byteLength_append, Nat.add_le_add_iff_left] at hle
      obtain ⟨first', hfirst⟩ : p.written value <+: c :: first :=
        prefix_of_byteLength_le (htext ▸ List.prefix_append _ rest) (List.prefix_append _ second)
          hle
      rw [← hfirst, List.append_assoc, List.append_cancel_left_eq] at htext
      rw [← hfirst, ← List.append_assoc] at hcross ⊢
      obtain ⟨before, after, rfl, hbefore, hafter⟩ :=
        ih (fun found hfound => hcross found (List.mem_cons_of_mem _ hfound)) htext
      refine ⟨⟨byteLength seen, value, first'⟩ :: before, after, ?_, .hit hadm hvalid hbefore,
        hafter⟩
      rw [← htext]
      rfl
  | @miss seen text c founds hmiss hscan ih =>
    cases first with
    | nil =>
      rw [List.nil_append] at htext
      subst htext
      exact ⟨[], _, rfl, .done, by rw [List.append_nil]; exact .miss hmiss hscan⟩
    | cons d first =>
      rw [List.cons_append, List.cons.injEq] at htext
      obtain ⟨rfl, rfl⟩ := htext
      rw [List.append_cons] at hcross ⊢
      obtain ⟨before, after, rfl, hbefore, hafter⟩ := ih hcross rfl
      refine ⟨before, after, rfl, .miss (fun hadm value hvalid hpre => ?_) hbefore, hafter⟩
      exact hmiss hadm value hvalid (hpre.trans (List.prefix_append (d :: first) second))

/-- The matches of two texts, if the second one starts where a match may start and no match goes
    from the first one into it. -/
theorem scanLines_append (hp : p.Recognises valid) {first second : List Char}
    (hfirst : admits (· == '\n') first = true)
    (hcross : ∀ found ∈ p.scanLines (first ++ second), found.offset < byteLength first →
      found.offset + byteLength (p.written found.value) ≤ byteLength first) :
    p.scanLines (first ++ second) = (p.scanLines first).map (Found.followedBy second) ++
      (p.scanLines second).map (Found.shifted (byteLength first)) := by
  obtain ⟨before, after, hfounds, hbefore, hafter⟩ :=
    (scans_scanLines hp (first ++ second)).split hcross
  have hshift := (scans_scanLines hp second).shift hfirst
  rw [List.append_nil] at hshift
  rw [hfounds, hbefore.eq_scanFrom hp, hafter.eq_scanFrom hp, hshift.eq_scanFrom hp]
  rfl

/-! ## Values that are cut off -/

/-- If the text of a value is cut off before its end, then no value stands in what is left of it,
    at a place behind its start where a match may start. -/
def CutSafe (p : Pattern α) (valid : α → Prop) (behind : Char → Bool) : Prop :=
  ∀ ⦃value other : α⦄ ⦃front rest tail : List Char⦄, valid value → valid other →
    p.written value = front ++ (p.written other ++ rest) ++ tail → front ≠ [] → tail ≠ [] →
    admits behind front = false

/-- Where a value is cut off at the end of a text, nothing else is found. -/
theorem Scans.eq_nil_of_cut {seen text tail : List Char} {founds : List (Found α)} {value : α}
    (hcut : p.CutSafe valid behind) (h : p.Scans valid behind seen text founds)
    (hvalid : valid value) (hwritten : p.written value = text ++ tail) (htail : tail ≠ [])
    (hmiss : ∀ other, valid other → ¬p.written other <+: text) : founds = [] := by
  refine List.eq_nil_iff_forall_not_mem.2 fun found hfound => ?_
  obtain ⟨_, ⟨front, rfl⟩, hstands⟩ := h.stands hfound
  obtain rfl : text = front ++ (p.written found.value ++ found.rest) := by
    simpa using hstands.text_eq
  by_cases hfront : front = []
  · subst hfront
    exact hmiss _ hstands.valid_value (List.prefix_append _ found.rest)
  · have hadm := hcut hvalid hstands.valid_value hwritten hfront htail
    rw [← admits_append seen hfront, hstands.admitted] at hadm
    exact absurd hadm (by decide)

/-- More text leaves the matches as they are, and adds others behind them. -/
theorem Scans.prefix_scanFrom (hp : p.Recognises valid) (hcut : p.CutSafe valid behind)
    {seen text : List Char} {founds : List (Found α)}
    (h : p.Scans valid behind seen text founds) (more : List Char) :
    founds.map (Found.followedBy more) <+:
      p.scanFrom behind 0 (byteLength seen) (admits behind seen) (text ++ more) := by
  induction h with
  | done => exact List.nil_prefix
  | @hit seen rest value founds hadm hvalid _ ih =>
    have hread : p.read? (p.written value ++ (rest ++ more)) = some value :=
      hp.read?_eq_some_iff.2 ⟨hvalid, List.prefix_append _ _⟩
    rw [List.append_assoc, scanFrom_hit hadm (hp.written_ne_nil hvalid) hread, List.map_cons]
    exact List.cons_prefix_cons.2 ⟨rfl, ih⟩
  | @miss seen text c founds hmiss hscan ih =>
    by_cases hread : admits behind seen = true ∧ ∃ value, p.read? (c :: text ++ more) = some value
    · -- The value that is read now was cut off before, so nothing was found behind it.
      obtain ⟨hadm, value, hread⟩ := hread
      obtain ⟨hvalid, hpre⟩ := hp.read?_eq_some_iff.1 hread
      obtain ⟨tail, hwritten⟩ : c :: text <+: p.written value :=
        (List.prefix_or_prefix_of_prefix (List.prefix_append _ more) hpre).resolve_right
          (hmiss hadm value hvalid)
      have htail : tail ≠ [] := by
        rintro rfl
        rw [List.append_nil] at hwritten
        exact hmiss hadm value hvalid (hwritten ▸ List.prefix_refl _)
      have hnil := (Scans.miss hmiss hscan).eq_nil_of_cut hcut hvalid hwritten.symm htail
        (hmiss hadm)
      rw [hnil]
      exact List.nil_prefix
    · rw [List.cons_append, scanFrom_miss]
      · exact ih
      · exact fun hadm => Option.eq_none_iff_forall_ne_some.2 fun value h => hread ⟨hadm, value, h⟩

theorem prefix_scanLines_append (hp : p.Recognises valid)
    (hcut : p.CutSafe valid (· == '\n')) (text more : List Char) :
    (p.scanLines text).map (Found.followedBy more) <+: p.scanLines (text ++ more) :=
  (scans_scanLines hp text).prefix_scanFrom hp hcut more

/-! ## Values on one line -/

/-- The values of the pattern are written on one line. -/
def OneLine (p : Pattern α) (valid : α → Prop) : Prop :=
  ∀ ⦃value : α⦄, valid value → '\n' ∉ p.written value

/-- No line starts inside of a value that is written on one line. -/
theorem OneLine.cutSafe (h : p.OneLine valid) : p.CutSafe valid (· == '\n') := by
  intro value other front rest tail hvalid _ hwritten hfront _
  refine Bool.eq_false_iff.2 fun hadm => h hvalid ?_
  rw [hwritten, List.append_assoc]
  exact List.mem_append_left _ (lineFeed_mem_of_admits hfront hadm)

/-- A value that is written on one line ends before the next line starts. -/
theorem OneLine.not_cross (h : p.OneLine valid) {first second before : List Char} {found : Found α}
    (hfirst : admits (· == '\n') first = true)
    (hstands : p.Stands valid (· == '\n') (first ++ second) before found)
    (hlt : found.offset < byteLength first) :
    found.offset + byteLength (p.written found.value) ≤ byteLength first := by
  obtain ⟨htext, hoffset, _, hvalid⟩ := hstands
  rw [hoffset] at hlt ⊢
  refine Nat.not_lt.1 fun hgt => h hvalid ?_
  rw [← byteLength_append] at hgt
  -- Otherwise the line feed at the end of the first text is one of the value.
  rw [← List.append_assoc] at htext
  have hshort : before <+: first := prefix_of_byteLength_le
    (htext ▸ (List.prefix_append before _).trans (List.prefix_append _ _))
    (List.prefix_append _ second) hlt.le
  obtain ⟨inner, rfl⟩ := hshort
  have hinner : inner ≠ [] := by
    rintro rfl
    rw [List.append_nil] at hlt
    exact Nat.lt_irrefl _ hlt
  have hlong : before ++ inner <+: before ++ p.written found.value :=
    prefix_of_byteLength_le (List.prefix_append _ second) (htext ▸ List.prefix_append _ _) hgt.le
  rw [List.prefix_append_right_inj] at hlong
  rw [admits_append before hinner] at hfirst
  exact hlong.subset (lineFeed_mem_of_admits hinner hfirst)

/-- Values that are written on one line are found line by line. -/
theorem OneLine.scanLines_append (h : p.OneLine valid) (hp : p.Recognises valid)
    {first second : List Char} (hfirst : admits (· == '\n') first = true) :
    p.scanLines (first ++ second) = (p.scanLines first).map (Found.followedBy second) ++
      (p.scanLines second).map (Found.shifted (byteLength first)) := by
  refine Pattern.scanLines_append hp hfirst fun found hfound hlt => ?_
  obtain ⟨before, _, hstands⟩ := (scans_scanLines hp (first ++ second)).stands hfound
  exact h.not_cross hfirst hstands hlt

end Pattern

end Migration.Text
