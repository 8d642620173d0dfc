import Migration.Proofs.Text.Scan
import Migration.Text.CodeSet

/-!
# Trimming and first lines

What is left of a text that is trimmed, said without the order in which its ends are looked at: the
text is made of blanks, the rest, and blanks again, where the rest neither starts nor ends with a
blank (`Trims`). There is one such rest, and trimming gives it (`trim_eq_iff`).
-/

namespace Migration.Text

/-- The text neither starts nor ends with a blank. -/
structure IsTrimmed (text : List Char) : Prop where
  head : ∀ c ∈ text.head?, isBlank c = false
  last : ∀ c ∈ text.getLast?, isBlank c = false

/-- The text is `core` with blanks around it, and `core` has none at its ends. -/
def Trims (text core : List Char) : Prop :=
  ∃ front back, text = front ++ core ++ back ∧ (∀ c ∈ front, isBlank c = true) ∧
    (∀ c ∈ back, isBlank c = true) ∧ IsTrimmed core

/-- The line `line` comes first in the text. -/
def IsFirstLine (text line : List Char) : Prop :=
  '\n' ∉ line ∧ (text = line ∨ ∃ more, text = line ++ '\n' :: more)

theorem trimStart_append {front rest : List Char} (hfront : ∀ c ∈ front, isBlank c = true)
    (hrest : ∀ c ∈ rest.head?, isBlank c = false) : trimStart (front ++ rest) = rest :=
  congrArg Prod.snd (run_eq_iff.2 ⟨rfl, hfront, hrest⟩)

theorem trimEnd_append {core back : List Char} (hback : ∀ c ∈ back, isBlank c = true)
    (hcore : ∀ c ∈ core.getLast?, isBlank c = false) : trimEnd (core ++ back) = core := by
  have hdrop : trimStart (back.reverse ++ core.reverse) = core.reverse := by
    refine trimStart_append (fun c hc => hback c (List.mem_reverse.1 hc)) ?_
    rwa [List.head?_reverse]
  rw [trimStart, ← List.reverse_append] at hdrop
  rw [trimEnd, hdrop, List.reverse_reverse]

theorem trims_trim (text : List Char) : Trims text (trim text) := by
  obtain ⟨front, rest, hstart, rfl, hfront, hrest⟩ := exists_run isBlank text
  obtain ⟨back, core, hend, hreverse, hback, hcore⟩ := exists_run isBlank rest.reverse
  have htrim : trim (front ++ rest) = core.reverse := by
    have hstart' : trimStart (front ++ rest) = rest := congrArg Prod.snd hstart
    rw [trim, hstart']
    exact congrArg (fun parts => parts.2.reverse) hend
  have hrest' : rest = core.reverse ++ back.reverse := by
    rw [← List.reverse_append, ← hreverse, List.reverse_reverse]
  refine ⟨front, back.reverse, ?_, hfront, fun c hc => hback c (List.mem_reverse.1 hc), ?_, ?_⟩
  · rw [htrim, List.append_assoc, ← hrest']
  · intro c hc
    refine hrest c ?_
    rw [htrim, Option.mem_def] at hc
    rw [Option.mem_def, hrest', List.head?_append, hc, Option.some_or]
  · rwa [htrim, List.getLast?_reverse]

/-- Trimming gives what stands between the blanks at the two ends. -/
theorem trim_eq_iff {text core : List Char} : trim text = core ↔ Trims text core := by
  constructor
  · rintro rfl
    exact trims_trim text
  · rintro ⟨front, back, rfl, hfront, hback, hcore⟩
    by_cases hnil : core = []
    · -- Nothing but blanks: they all go at the front.
      have hall : ∀ c ∈ front ++ back, isBlank c = true :=
        fun c hc => (List.mem_append.1 hc).elim (hfront c) (hback c)
      have hstart : trimStart (front ++ back ++ []) = [] := trimStart_append hall nofun
      rw [List.append_nil] at hstart
      rw [hnil, List.append_nil, trim, hstart]
      rfl
    · obtain ⟨c, more, rfl⟩ := List.exists_cons_of_ne_nil hnil
      have hhead : ∀ d ∈ (c :: more ++ back).head?, isBlank d = false := hcore.head
      rw [List.append_assoc, trim, trimStart_append hfront hhead, trimEnd_append hback hcore.last]

/-! ## First lines -/

theorem isFirstLine_takeWhile (text : List Char) :
    IsFirstLine text (text.takeWhile (· != '\n')) := by
  obtain ⟨line, rest, hrun, rfl, hline, hrest⟩ := exists_run (· != '\n') text
  have htake : (line ++ rest).takeWhile (· != '\n') = line := congrArg Prod.fst hrun
  rw [htake]
  refine ⟨fun hmem => by simpa using hline _ hmem, ?_⟩
  cases rest with
  | nil => exact .inl (List.append_nil line)
  | cons c more =>
    have hc : c = '\n' := by simpa using hrest c rfl
    exact .inr ⟨more, by rw [hc]⟩

end Migration.Text
