import Migration.Text.Case

/-!
# Title case piece by piece

The pass that puts a text into title case remembers one thing: whether it stands behind a letter.
That is told by the last character that it has passed (`inWordBehind`). So the title case of two
texts is that of the first one, followed by that of the second one as it stands behind the first
(`titleCaseFrom_append`), however many characters the forms of single letters have.

What is no letter stays as it is and ends a word, and behind it the pass is as it was at the start.
Hence a separator without letters can be put in before or after (`titleCase_append_separator`), also
between any number of segments (`titleCase_intercalate`).
-/

namespace Migration.Text

/-- Whether what follows the text stands behind a letter, where `inWord` says so of the text
    itself. -/
def inWordBehind (inWord : Bool) (text : List Char) : Bool :=
  (text.getLast?.map isAlphabetic).getD inWord

theorem inWordBehind_cons (inWord : Bool) (c : Char) (text : List Char) :
    inWordBehind inWord (c :: text) = inWordBehind (isAlphabetic c) text := by
  rw [inWordBehind, inWordBehind, List.getLast?_cons]
  cases text.getLast? with
  | none => rfl
  | some last => rfl

theorem titleCaseFrom_append (inWord : Bool) (a b : List Char) :
    titleCaseFrom inWord (a ++ b) =
      titleCaseFrom inWord a ++ titleCaseFrom (inWordBehind inWord a) b := by
  induction a generalizing inWord with
  | nil => rfl
  | cons c a ih =>
    rw [List.cons_append, titleCaseFrom, titleCaseFrom, inWordBehind_cons]
    split
    case isTrue h => rw [ih, h, List.append_assoc]
    case isFalse h => rw [ih, Bool.eq_false_iff.2 h, List.cons_append]

section Separator

variable {text : List Char} (htext : ∀ c ∈ text, isAlphabetic c = false)

include htext

theorem titleCaseFrom_of_not_alphabetic (inWord : Bool) : titleCaseFrom inWord text = text := by
  induction text generalizing inWord with
  | nil => rfl
  | cons c text ih =>
    obtain ⟨hc, htext⟩ := List.forall_mem_cons.1 htext
    rw [titleCaseFrom, hc, if_neg Bool.false_ne_true, ih htext]

theorem inWordBehind_of_not_alphabetic (hne : text ≠ []) (inWord : Bool) :
    inWordBehind inWord text = false := by
  rw [inWordBehind, List.getLast?_eq_some_getLast hne, Option.map_some, Option.getD_some]
  exact htext _ (List.getLast_mem hne)

end Separator

section Join

variable {separator : String} (hne : separator ≠ "")
  (hplain : ∀ c ∈ separator.toList, isAlphabetic c = false)

include hne hplain

/-- Before and behind a separator, title case is that of the two texts on their own. -/
theorem titleCase_append_separator (a b : String) :
    titleCase (a ++ separator ++ b) = titleCase a ++ separator ++ titleCase b := by
  have hlist : separator.toList ≠ [] := mt String.toList_eq_nil_iff.1 hne
  rw [titleCase, String.toList_append, String.toList_append, List.append_assoc,
    titleCaseFrom_append, titleCaseFrom_append, titleCaseFrom_of_not_alphabetic hplain,
    inWordBehind_of_not_alphabetic hplain hlist, ← List.append_assoc, String.ofList_append,
    String.ofList_append, String.ofList_toList]
  rfl

theorem titleCase_intercalate (segments : List String) :
    titleCase (separator.intercalate segments) =
      separator.intercalate (segments.map titleCase) := by
  induction segments with
  | nil => rfl
  | cons segment rest ih =>
    cases rest with
    | nil => rw [List.map_singleton, String.intercalate_singleton, String.intercalate_singleton]
    | cons next rest =>
      rw [String.intercalate_cons_cons, titleCase_append_separator hne hplain, ih]
      exact String.intercalate_cons_cons.symm

end Join

end Migration.Text
