import Migration.Proofs.Text.Order
import Migration.Text.Dictionary

/-!
# What a dictionary holds

A dictionary is told by the values of its keys: what is in it is what is found in it
(`mem_entries_iff`), and since its keys are in order, they tell its entries (`entries_eq`). One more
value changes what is found for its key and nothing else (`get?_insert`). So what a pass leaves in a
dictionary can be followed key by key, without a look at how it is kept.
-/

namespace Migration.Dictionary

open Text

variable {α : Type} {dictionary : Dictionary α} {key : String} {value : α}

theorem lookup_insertInto (key : String) (value : α) (entries : List (String × α))
    (other : String) :
    (insertInto key value entries).lookup other =
      if other = key then some value else entries.lookup other := by
  induction entries with
  | nil =>
    by_cases hother : other = key <;> simp [insertInto, hother]
  | cons entry rest ih =>
    obtain ⟨first, old⟩ := entry
    rw [insertInto]
    by_cases hother : other = key
    · subst hother
      rw [if_pos rfl] at ih ⊢
      by_cases heq : other = first
      · rw [if_pos heq, List.lookup_cons_self]
      · rw [if_neg heq]
        split
        · exact List.lookup_cons_self
        · rw [List.lookup_cons, beq_false_of_ne heq, ih]
    · rw [if_neg hother] at ih ⊢
      by_cases heq : key = first
      · rw [if_pos heq, List.lookup_cons, List.lookup_cons, ← heq, beq_false_of_ne hother]
      · rw [if_neg heq]
        split
        · rw [List.lookup_cons, beq_false_of_ne hother]
        · rw [List.lookup_cons, List.lookup_cons, ih]

/-- A new value is found for its key, and for the others what was there before. -/
theorem get?_insert (dictionary : Dictionary α) (key : String) (value : α) (other : String) :
    (dictionary.insert key value).get? other =
      if other = key then some value else dictionary.get? other :=
  lookup_insertInto key value dictionary.entries other

theorem pairwise_lt (dictionary : Dictionary α) :
    dictionary.entries.Pairwise fun a b => a.1 < b.1 :=
  dictionary.sorted.imp fun ⟨hle, hne⟩ => lt_of_le_of_ne (ascending_iff.1 hle) hne

/-- What is in a dictionary is what is found in it. -/
theorem mem_entries_iff : (key, value) ∈ dictionary.entries ↔ dictionary.get? key = some value := by
  rw [get?, List.lookup_eq_some_iff]
  constructor
  · intro hmem
    obtain ⟨before, behind, hentries⟩ := List.append_of_mem hmem
    refine ⟨before, behind, hentries, fun entry hentry => ?_⟩
    have hsorted := dictionary.pairwise_lt
    rw [hentries, List.pairwise_append] at hsorted
    exact bne_iff_ne.2 (hsorted.2.2 entry hentry _ List.mem_cons_self).ne'
  · rintro ⟨before, behind, hentries, -⟩
    rw [hentries]
    exact List.mem_append_right _ List.mem_cons_self

/-- The entries of a dictionary, if its keys are known in ascending order. -/
theorem entries_eq {keys : List String} {f : String → α} (hkeys : keys.Pairwise (· < ·))
    (h : ∀ key, dictionary.get? key = if key ∈ keys then some (f key) else none) :
    dictionary.entries = keys.map fun key => (key, f key) := by
  have hsorted : (keys.map fun key => (key, f key)).Pairwise fun a b => a.1 < b.1 :=
    List.pairwise_map.2 hkeys
  have hmem : ∀ entry, entry ∈ dictionary.entries ↔ entry ∈ keys.map fun key => (key, f key) := by
    rintro ⟨key, value⟩
    rw [mem_entries_iff, h, List.mem_map]
    simp only [Prod.mk.injEq]
    constructor
    · intro hsome
      split_ifs at hsome with hkey
      exact ⟨key, hkey, rfl, Option.some.inj hsome⟩
    · rintro ⟨other, hother, rfl, rfl⟩
      exact if_pos hother
  have hnodup {entries : List (String × α)} (hlt : entries.Pairwise fun a b => a.1 < b.1) :
      entries.Nodup := hlt.imp fun hab heq => hab.ne (congrArg Prod.fst heq)
  have hperm := (List.perm_ext_iff_of_nodup (hnodup dictionary.pairwise_lt) (hnodup hsorted)).2 hmem
  exact hperm.eq_of_pairwise (fun a b _ _ hab hba => absurd hba hab.asymm) dictionary.pairwise_lt
    hsorted

end Migration.Dictionary
