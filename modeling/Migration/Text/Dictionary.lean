import Migration.Text.Bytes

/-!
# Dictionaries

A dictionary has values by their keys. It has every key once, and the keys are in ascending order.
That is part of the type, so a dictionary does not tell in which order it was filled.
-/

namespace Migration

open Text

/-- Values by key, in ascending order of the keys. -/
structure Dictionary (α : Type) where
  entries : List (String × α)
  sorted : entries.Pairwise fun a b => ascending a.1 b.1 = true ∧ a.1 ≠ b.1

namespace Dictionary

variable {α : Type}

/-- The dictionary that has nothing. -/
def empty : Dictionary α := ⟨[], .nil⟩

/-- The value of a key. -/
def get? (dictionary : Dictionary α) (key : String) : Option α := dictionary.entries.lookup key

/-- Entries in order with the value of a key, in the place of the one that was there. -/
def insertInto (key : String) (value : α) : List (String × α) → List (String × α)
  | [] => [(key, value)]
  | entry :: rest =>
    if key = entry.1 then (key, value) :: rest
    else if ascending key entry.1 then (key, value) :: entry :: rest
    else entry :: insertInto key value rest

section Insert

variable {key : String} {value : α} {entries : List (String × α)}

theorem mem_insertInto {entry : String × α} (h : entry ∈ insertInto key value entries) :
    entry = (key, value) ∨ entry ∈ entries := by
  induction entries with
  | nil => exact .inl (List.mem_singleton.1 h)
  | cons first rest ih =>
    unfold insertInto at h
    split at h
    · exact (List.mem_cons.1 h).imp_right (List.mem_cons_of_mem first)
    · split at h
      · exact List.mem_cons.1 h
      · rcases List.mem_cons.1 h with heq | h
        · exact .inr (List.mem_cons.2 (.inl heq))
        · exact (ih h).imp_right (List.mem_cons_of_mem first)

theorem sorted_insertInto
    (h : entries.Pairwise fun a b => ascending a.1 b.1 = true ∧ a.1 ≠ b.1) :
    (insertInto key value entries).Pairwise fun a b => ascending a.1 b.1 = true ∧ a.1 ≠ b.1 := by
  induction entries with
  | nil => exact List.pairwise_singleton _ _
  | cons first rest ih =>
    obtain ⟨hfirst, hrest⟩ := List.pairwise_cons.1 h
    unfold insertInto
    split
    · rename_i heq
      exact List.pairwise_cons.2 ⟨fun entry hentry => heq ▸ hfirst entry hentry, hrest⟩
    · rename_i hne
      split
      · rename_i hbefore
        refine List.pairwise_cons.2 ⟨fun entry hentry => ?_, h⟩
        rcases List.mem_cons.1 hentry with rfl | hentry
        · exact ⟨hbefore, hne⟩
        · -- The key is not after the first one, and that one is before all others.
          obtain ⟨hle, hdiffers⟩ := hfirst entry hentry
          have hfirstLe : key ≤ first.1 := of_decide_eq_true hbefore
          refine ⟨decide_eq_true (String.le_trans hfirstLe (of_decide_eq_true hle)), ?_⟩
          rintro rfl
          exact hne (String.le_antisymm hfirstLe (of_decide_eq_true hle))
      · rename_i hbehind
        refine List.pairwise_cons.2 ⟨fun entry hentry => ?_, ih hrest⟩
        rcases mem_insertInto hentry with rfl | hentry
        · refine ⟨decide_eq_true ?_, fun heq => hne heq.symm⟩
          exact (String.le_total first.1 key).resolve_right fun hle => hbehind (decide_eq_true hle)
        · exact hfirst entry hentry

end Insert

/-- The dictionary with a value for a key. -/
def insert (dictionary : Dictionary α) (key : String) (value : α) : Dictionary α :=
  ⟨insertInto key value dictionary.entries, sorted_insertInto dictionary.sorted⟩

end Dictionary

end Migration
