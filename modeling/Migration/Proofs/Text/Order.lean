import Mathlib.Data.Finset.Card
import Mathlib.Data.List.Sort
import Mathlib.Data.String.Basic
import Migration.Text.Bytes

/-!
# Texts in order

Names are listed in ascending order, and so is what goes by a name (its *key*). Of such lists we
need these things:

* it is sorted and nothing is lost; things of the same key stay in the order in which they were
  given (`filter_mergeSort_key`);
* the order in which they were given does not show otherwise: without repeated keys, the sorted list
  depends only on what is in it (`mergeSort_key_eq_of_perm`);
* taken apart by their keys, the things of a list are all there (`flatMap_filter_perm`), and if
  those with the same key stand side by side, they also keep their order
  (`flatMap_filter_eq_self`);
* the texts that start with a given one stand side by side, right behind the place where that one
  would stand. To see whether there are any, it is enough to look at the first text from that place
  on (`exists_prefix_iff_find?`).
-/

namespace Migration.Text

theorem ascending_iff {a b : String} : ascending a b = true ↔ a ≤ b := decide_eq_true_iff

theorem startsWith_iff {start text : String} :
    startsWith start text = true ↔ start.toList <+: text.toList :=
  List.isPrefixOf_iff_prefix

/-! ## Sorting by a key -/

section Key

variable {α : Type} (key : α → String)

theorem ascending_key_trans (a b c : α) (hab : ascending (key a) (key b) = true)
    (hbc : ascending (key b) (key c) = true) : ascending (key a) (key c) = true :=
  ascending_iff.2 ((ascending_iff.1 hab).trans (ascending_iff.1 hbc))

theorem ascending_key_total (a b : α) :
    (ascending (key a) (key b) || ascending (key b) (key a)) = true := by
  rw [Bool.or_eq_true, ascending_iff, ascending_iff]
  exact le_total (key a) (key b)

theorem pairwise_mergeSort_key (l : List α) :
    (l.mergeSort fun a b => ascending (key a) (key b)).Pairwise fun a b => key a ≤ key b :=
  (List.pairwise_mergeSort (ascending_key_trans key) (ascending_key_total key) l).imp
    ascending_iff.1

/-- Sorting keeps things of the same key in their order. -/
theorem filter_mergeSort_key (l : List α) (name : String) :
    ((l.mergeSort fun a b => ascending (key a) (key b)).filter fun a => key a = name) =
      l.filter fun a => key a = name := by
  -- What has the key `name` is in ascending order already, so the sorted list has it as it stands;
  -- and it has no more of that key.
  have hties : (l.filter fun a => key a = name).Pairwise fun a b =>
      ascending (key a) (key b) = true := by
    refine List.pairwise_of_forall_mem_list fun a ha b hb => ?_
    have hkeys : key a = key b := by
      rw [of_decide_eq_true (List.mem_filter.1 ha).2, of_decide_eq_true (List.mem_filter.1 hb).2]
    exact ascending_iff.2 hkeys.le
  have hsub := (List.sublist_mergeSort (ascending_key_trans key) (ascending_key_total key) hties
    List.filter_sublist).filter fun a => key a = name
  simp only [List.filter_filter, Bool.and_self] at hsub
  refine (hsub.eq_of_length ?_).symm
  exact ((List.mergeSort_perm l _).filter _).length_eq.symm

/-- Without repeated keys, it does not matter in which order things are given. -/
theorem mergeSort_key_eq_of_perm {l l' : List α} (h : l'.Perm l) (hkeys : (l.map key).Nodup) :
    (l'.mergeSort fun a b => ascending (key a) (key b)) =
      l.mergeSort fun a b => ascending (key a) (key b) := by
  have hperm := ((List.mergeSort_perm l' fun a b => ascending (key a) (key b)).trans h).trans
    (List.mergeSort_perm l fun a b => ascending (key a) (key b)).symm
  refine hperm.eq_of_pairwise (fun a b ha hb hab hba => ?_) (pairwise_mergeSort_key key l')
    (pairwise_mergeSort_key key l)
  have ha' : a ∈ l := h.mem_iff.1 (List.mem_mergeSort.1 ha)
  exact List.inj_on_of_nodup_map hkeys ha' (List.mem_mergeSort.1 hb) (le_antisymm hab hba)

end Key

/-! ## Taking a list apart by keys -/

section Parts

variable {α κ : Type} [BEq κ] [LawfulBEq κ] (key : α → κ)

/-- What has one key is all there among what does not have another. -/
theorem filter_filter_key {k k' : κ} (h : k' ≠ k) (l : List α) :
    ((l.filter fun a => !key a == k).filter fun a => key a == k') =
      l.filter fun a => key a == k' := by
  rw [List.filter_filter]
  refine List.filter_congr fun a _ => ?_
  by_cases hkey : key a = k'
  · rw [hkey, beq_false_of_ne h, Bool.not_false, Bool.and_true]
  · rw [beq_false_of_ne hkey, Bool.false_and]

/-- If every key that occurs is among `keys`, once, then the parts with these keys are together the
    whole list. -/
theorem flatMap_filter_perm {keys : List κ} (hkeys : keys.Nodup) {l : List α}
    (h : ∀ a ∈ l, key a ∈ keys) :
    (keys.flatMap fun k => l.filter fun a => key a == k).Perm l := by
  induction keys generalizing l with
  | nil =>
    rw [List.eq_nil_iff_forall_not_mem.2 fun a ha => List.not_mem_nil (h a ha)]
    exact .nil
  | cons k keys ih =>
    obtain ⟨hk, hkeys⟩ := List.nodup_cons.1 hkeys
    -- The parts with the other keys are parts of what does not have the key `k`.
    have hothers : ∀ k' ∈ keys, (l.filter fun a => key a == k') =
        (l.filter fun a => !key a == k).filter fun a => key a == k' := fun k' hk' =>
      (filter_filter_key key (ne_of_mem_of_not_mem hk' hk) l).symm
    have hrest : ∀ a ∈ l.filter fun a => !key a == k, key a ∈ keys := by
      intro a ha
      obtain ⟨hmem, hnot⟩ := List.mem_filter.1 ha
      refine (List.mem_cons.1 (h a hmem)).resolve_left fun heq => ?_
      rw [heq, beq_self_eq_true] at hnot
      cases hnot
    rw [List.flatMap_cons, List.flatMap_congr hothers]
    exact ((ih hkeys hrest).append_left _).trans (List.filter_append_perm _ l)

/-- If nothing that has a property stands behind what does not have it, then the list is what has
    the property, and then the rest. -/
theorem filter_append_filter_not {p : α → Bool} {l : List α}
    (h : l.Pairwise fun a b => p b = true → p a = true) :
    l.filter p ++ l.filter (fun a => !p a) = l := by
  induction l with
  | nil => rfl
  | cons a l ih =>
    obtain ⟨hfirst, hrest⟩ := List.pairwise_cons.1 h
    cases ha : p a with
    | true =>
      rw [List.filter_cons_of_pos ha, List.filter_cons_of_neg (by simp [ha]), List.cons_append,
        ih hrest]
    | false =>
      have hnone : ∀ b ∈ l, p b = false := fun b hb =>
        Bool.eq_false_iff.2 fun hpb => Bool.false_ne_true (ha.symm.trans (hfirst b hb hpb))
      rw [List.filter_cons_of_neg (by simp [ha]), List.filter_cons_of_pos (by simp [ha]),
        List.filter_eq_nil_iff.2 fun b hb => by simp [hnone b hb],
        List.filter_eq_self.2 fun b hb => by simp [hnone b hb], List.nil_append]

/-- If keys follow a rank that goes up along the list, then the parts, in the order in which their
    keys come up, are the list as it stands. -/
theorem flatMap_filter_eq_self (rank : α → Nat) {l : List α}
    (hsorted : l.Pairwise fun a b => rank a ≤ rank b)
    (hrank : ∀ a ∈ l, ∀ b ∈ l, key a = key b ↔ rank a = rank b) :
    ((l.map key).eraseDups.flatMap fun k => l.filter fun a => key a == k) = l := by
  -- By induction on the length: without the key that comes up first, the list is shorter.
  induction h : l.length using Nat.strongRecOn generalizing l with
  | ind n ih =>
    cases l with
    | nil => rfl
    | cons a l =>
      obtain ⟨hfirst, hrest⟩ := List.pairwise_cons.1 hsorted
      let others := l.filter fun b => !key b == key a
      have hothers : others.Sublist l := List.filter_sublist
      have hkeys : ((a :: l).map key).eraseDups = key a :: (others.map key).eraseDups := by
        rw [List.map_cons, List.eraseDups_cons, List.filter_map]
        rfl
      have hparts : ∀ k ∈ (others.map key).eraseDups,
          ((a :: l).filter fun b => key b == k) = others.filter fun b => key b == k := by
        intro k hk
        obtain ⟨b, hb, rfl⟩ := List.mem_map.1 (List.mem_eraseDups.1 hk)
        have hne : key b ≠ key a := by simpa using (List.mem_filter.1 hb).2
        rw [List.filter_cons_of_neg (by simpa using hne.symm), filter_filter_key key hne]
      -- What stands before something with the first key has a rank between the first one and that.
      have hsplit : (l.filter fun b => key b == key a) ++ others = l := by
        refine filter_append_filter_not (hrest.imp_of_mem fun {b c} hb hc hle hkey => ?_)
        have hc' := (hrank c (List.mem_cons_of_mem a hc) a List.mem_cons_self).1 (beq_iff_eq.1 hkey)
        refine beq_iff_eq.2 ((hrank b (List.mem_cons_of_mem a hb) a List.mem_cons_self).2 ?_)
        exact le_antisymm (hle.trans hc'.le) (hfirst b hb)
      have hmem : ∀ b ∈ others, b ∈ a :: l := fun b hb =>
        List.mem_cons_of_mem a (hothers.subset hb)
      have hshorter : others.length < n := by
        rw [← h, List.length_cons]
        exact Nat.lt_succ_of_le hothers.length_le
      rw [hkeys, List.flatMap_cons, List.flatMap_congr hparts,
        ih others.length hshorter (hrest.sublist hothers)
          (fun b hb c hc => hrank b (hmem b hb) c (hmem c hc)) rfl,
        List.filter_cons_of_pos (by simp), List.cons_append, hsplit]

end Parts

/-! ## Different names -/

theorem pairwise_lt_mergeSort {names : List String} (h : names.Nodup) :
    (names.mergeSort ascending).Pairwise (· < ·) := by
  have hle := pairwise_mergeSort_key id names
  have hne : (names.mergeSort ascending).Nodup :=
    (List.mergeSort_perm names ascending).nodup_iff.2 h
  exact List.Pairwise.imp₂ (fun _ _ => lt_of_le_of_ne) hle hne

theorem toFinset_eraseDups (names : List String) : names.eraseDups.toFinset = names.toFinset := by
  ext name
  rw [List.mem_toFinset, List.mem_toFinset, List.mem_eraseDups]

theorem eraseDups_perm {names names' : List String} (h : names'.Perm names) :
    names'.eraseDups.Perm names.eraseDups := by
  refine (List.perm_ext_iff_of_nodup (nodup_eraseDups _) (nodup_eraseDups _)).2 fun name => ?_
  rw [List.mem_eraseDups, List.mem_eraseDups, h.mem_iff]

theorem eraseDups_concat (names : List String) (name : String) :
    (names ++ [name]).eraseDups =
      if name ∈ names then names.eraseDups else names.eraseDups ++ [name] := by
  rw [List.eraseDups_append]
  split_ifs with h <;> simp [List.removeAll, h, List.eraseDups_cons]

/-- Of every name, the first occurrence is kept, in its order. -/
theorem pairwise_idxOf_eraseDups (names : List String) :
    names.eraseDups.Pairwise fun a b => names.idxOf a < names.idxOf b := by
  induction names using List.reverseRecOn with
  | nil => exact .nil
  | append_singleton names name ih =>
    have hkeep : ∀ a ∈ names.eraseDups, (names ++ [name]).idxOf a = names.idxOf a := fun a ha =>
      List.idxOf_append_of_mem (List.mem_eraseDups.1 ha)
    have hbefore : names.eraseDups.Pairwise fun a b =>
        (names ++ [name]).idxOf a < (names ++ [name]).idxOf b :=
      ih.imp_of_mem fun {a b} ha hb hlt => by rwa [hkeep a ha, hkeep b hb]
    rw [eraseDups_concat]
    split_ifs with hname
    · exact hbefore
    · refine List.pairwise_append.2 ⟨hbefore, List.pairwise_singleton _ _, fun a ha b hb => ?_⟩
      rw [List.mem_singleton.1 hb, hkeep a ha, List.idxOf_append_of_notMem hname]
      exact Nat.lt_add_right _ (List.idxOf_lt_length_iff.2 (List.mem_eraseDups.1 ha))

/-! ## Texts with the same start -/

/-- What stands between a text and one that starts with it starts with it too. -/
theorem prefix_of_not_lt {s a b : List Char} (hsa : ¬a < s) (hab : ¬b < a) (h : s <+: b) :
    s <+: a := by
  induction s generalizing a b with
  | nil => exact List.nil_prefix
  | cons c s ih =>
    obtain ⟨b, rfl, hb⟩ := List.cons_prefix_iff.1 h
    cases a with
    | nil => exact absurd (List.nil_lt_cons c s) hsa
    | cons d a =>
      rw [List.cons_lt_cons_iff, not_or, not_and] at hsa hab
      obtain rfl : c = d := le_antisymm (not_lt.1 hsa.1) (not_lt.1 hab.1)
      exact List.cons_prefix_cons.2 ⟨rfl, ih (hsa.2 rfl) (hab.2 rfl) hb⟩

theorem le_of_prefix_toList {start text : String} (h : start.toList <+: text.toList) :
    start ≤ text :=
  not_lt.1 fun hlt => List.IsPrefix.le h (String.lt_iff_toList_lt.1 hlt)

/-- If any text of a sorted list starts with `start`, then so does the first one that is not before
    `start`. -/
theorem exists_prefix_iff_find? {texts : List String} (hsorted : texts.Pairwise (· ≤ ·))
    (start : String) :
    (∃ text ∈ texts, start.toList <+: text.toList) ↔
      ∃ text, texts.find? (ascending start) = some text ∧ start.toList <+: text.toList := by
  constructor
  · rintro ⟨text, htext, hstart⟩
    have hasc : ascending start text = true := ascending_iff.2 (le_of_prefix_toList hstart)
    obtain ⟨first, hfirst⟩ := Option.isSome_iff_exists.1 (List.find?_isSome.2 ⟨text, htext, hasc⟩)
    obtain ⟨hle, before, behind, rfl, hbefore⟩ := List.find?_eq_some_iff_append.1 hfirst
    refine ⟨first, hfirst, ?_⟩
    rcases List.mem_append.1 htext with hmem | hmem
    · -- The texts before `first` are before `start`.
      have hnot := hbefore text hmem
      rw [hasc] at hnot
      cases hnot
    rcases List.mem_cons.1 hmem with rfl | hmem
    · exact hstart
    · have hfirst_le : first ≤ text :=
        (List.pairwise_cons.1 (List.pairwise_append.1 hsorted).2.1).1 text hmem
      exact prefix_of_not_lt (String.lt_iff_toList_lt.not.1 (not_lt.2 (ascending_iff.1 hle)))
        (String.lt_iff_toList_lt.not.1 (not_lt.2 hfirst_le)) hstart
  · rintro ⟨text, hfound, hstart⟩
    exact ⟨text, List.mem_of_find?_eq_some hfound, hstart⟩

end Migration.Text
