import Migration.Proofs.Text.Scan

/-!
# Segments written with a separator

A list of segments is written as one text, with a separator between every two of them. If no
character of the separator stands in a segment (`Separates`), then the written form tells the
segments, whatever the length of the separator and also if there are empty segments: of two lists
that are not empty, one starts with the other if and only if its written form is that of the other
or goes on behind it with a separator (`written_eq_or_prefix_iff`).

The written form is not a good one to induct on, since the last segment has no separator behind it.
With one there, every segment ends where the separator's first character comes up for the first
time (`prefix_of_ended`).

A separator of one character can also be used to take a text apart, and then it is in none of the
parts (`not_mem_of_splitOn`).
-/

namespace Migration.Text

/-- No character of `separator` stands in one of the segments. -/
def Separates (separator : String) (segments : List String) : Prop :=
  ∀ segment ∈ segments, ∀ c ∈ separator.toList, c ∉ segment.toList

instance (separator : String) (segments : List String) :
    Decidable (Separates separator segments) :=
  decidable_of_iff ((segments.all fun segment =>
      separator.toList.all fun c => !segment.toList.contains c) = true) <| by
    simp only [Separates, List.all_eq_true, Bool.not_eq_true', ← Bool.not_eq_true,
      List.contains_iff_mem]

/-- The segments with the separator behind every one of them. -/
def ended (separator : String) (segments : List String) : List Char :=
  segments.flatMap fun segment => segment.toList ++ separator.toList

theorem ended_eq (separator : String) {segments : List String} (h : segments ≠ []) :
    ended separator segments = (separator.intercalate segments ++ separator).toList := by
  induction segments with
  | nil => exact absurd rfl h
  | cons segment rest ih =>
    cases rest with
    | nil =>
      rw [ended, List.flatMap_singleton, String.intercalate_singleton, String.toList_append]
    | cons next rest =>
      rw [ended, List.flatMap_cons, ← ended, ih (List.cons_ne_nil next rest),
        String.intercalate_cons_cons]
      simp only [String.toList_append, List.append_assoc]

theorem Separates.tail {separator segment : String} {rest : List String}
    (h : Separates separator (segment :: rest)) : Separates separator rest :=
  fun other hother => h other (List.mem_cons_of_mem segment hother)

/-- There is one way to cut a text at the first place of a character: the part before it is a run of
    other characters. -/
theorem append_cons_inj {c : Char} {s t x y : List Char} (hs : c ∉ s) (ht : c ∉ t)
    (h : s ++ c :: x = t ++ c :: y) : s = t ∧ x = y := by
  have hrun {word rest : List Char} (hword : c ∉ word) :
      run (· != c) (word ++ c :: rest) = (word, c :: rest) := by
    refine run_eq_iff.2 ⟨rfl, fun d hd => bne_iff_ne.2 (ne_of_mem_of_not_mem hd hword), ?_⟩
    simp
  have hpair := (hrun hs).symm.trans (h ▸ hrun ht)
  rw [Prod.mk.injEq, List.cons.injEq] at hpair
  exact ⟨hpair.1, hpair.2.2⟩

/-- The separator's first character, where it comes up first, ends the first segment. -/
theorem prefix_of_ended {separator : String} (hseparator : separator ≠ "") {a b : List String}
    (ha : Separates separator a) (hb : Separates separator b)
    (h : ended separator a <+: ended separator b) : a <+: b := by
  have hne : separator.toList ≠ [] := fun heq => hseparator (String.toList_eq_nil_iff.1 heq)
  obtain ⟨c, more, hc⟩ := List.exists_cons_of_ne_nil hne
  have hfirst : c ∈ separator.toList := by rw [hc]; exact List.mem_cons_self
  induction a generalizing b with
  | nil => exact List.nil_prefix
  | cons s a ih =>
    cases b with
    | nil =>
      obtain ⟨rest, hrest⟩ := h
      simp [ended, hc] at hrest
    | cons t b =>
      obtain ⟨rest, hrest⟩ := h
      have hs : c ∉ s.toList := ha s List.mem_cons_self c hfirst
      have ht : c ∉ t.toList := hb t List.mem_cons_self c hfirst
      simp only [ended, List.flatMap_cons, hc, List.append_assoc, List.cons_append] at hrest
      obtain ⟨hst, hmore⟩ := append_cons_inj hs ht hrest
      obtain rfl : s = t := String.toList_inj.1 hst
      refine List.cons_prefix_cons.2 ⟨rfl, ih ha.tail hb.tail ⟨rest, ?_⟩⟩
      simpa only [ended, hc] using List.append_cancel_left hmore

/-- One list of segments starts with another if and only if it is written like the other, or the
    other with a separator is what its written form starts with. -/
theorem written_eq_or_prefix_iff {separator : String} (hseparator : separator ≠ "")
    {a b : List String} (ha : a ≠ []) (hb : b ≠ []) (hsa : Separates separator a)
    (hsb : Separates separator b) :
    separator.intercalate b = separator.intercalate a ∨
        (separator.intercalate a ++ separator).toList <+: (separator.intercalate b).toList ↔
      a <+: b := by
  constructor
  · intro h
    refine prefix_of_ended hseparator hsa hsb ?_
    rw [ended_eq separator ha, ended_eq separator hb]
    rcases h with heq | hprefix
    · rw [heq]
    · rw [String.toList_append (s := separator.intercalate b)]
      exact hprefix.trans (List.prefix_append _ _)
  · rintro ⟨rest, rfl⟩
    by_cases hrest : rest = []
    · exact .inl (by rw [hrest, List.append_nil])
    · right
      rw [String.intercalate_append_of_ne_nil ha hrest,
        String.toList_append (s := separator.intercalate a ++ separator)]
      exact List.prefix_append _ _

/-! ## Parts of a text -/

theorem not_mem_of_splitOn {α : Type} [DecidableEq α] (c : α) (text : List α) :
    ∀ part ∈ text.splitOn c, c ∉ part := by
  induction text with
  | nil => simp
  | cons d text ih =>
    rw [List.splitOn_cons_eq_if_modifyHead]
    obtain ⟨first, rest, hparts⟩ := List.exists_cons_of_ne_nil (List.splitOn_ne_nil c text)
    rw [hparts] at ih ⊢
    rw [List.forall_mem_cons] at ih
    split
    case isTrue hd => exact List.forall_mem_cons.2 ⟨List.not_mem_nil, List.forall_mem_cons.2 ih⟩
    case isFalse hd =>
      refine List.forall_mem_cons.2 ⟨fun hmem => ?_, ih.2⟩
      rcases List.mem_cons.1 hmem with heq | hmem
      · exact hd (beq_iff_eq.2 heq.symm)
      · exact ih.1 hmem

end Migration.Text
