import Mathlib.Data.List.Basic
import Migration.Proofs.Text.Bytes

/-!
# Line numbers

The number of a line is found by halving the table of line starts. The table is in ascending order,
so the starts not after an offset come first in it, and halving finds how many they are
(`LineIndex.countFrom_eq`). Besides the start of the text itself, they are as many as the line feeds
among the bytes before the offset (`countP_lineStartsFrom`), so that the number of a line is one
more than these (`LineIndex.lineOf_eq_count_take`), wherever the offset lies. Behind the text
`before` they are the line feeds in `before` (`LineIndex.lineOf_append`).

The lines themselves, each with the offset of its start, are those of `linesOf`. The lines of a text
that goes on behind a line feed are those before it and those behind it (`linesOf_append`).
-/

namespace Migration.Text

/-! ## Line starts -/

theorem lt_of_mem_lineStartsFrom {text : List Char} {offset start : Nat}
    (h : start ∈ lineStartsFrom offset text) : offset < start := by
  induction text generalizing offset with
  | nil => exact absurd h List.not_mem_nil
  | cons c text ih =>
    rw [lineStartsFrom] at h
    split at h
    · rcases List.mem_cons.1 h with rfl | h
      · exact Nat.lt_succ_self offset
      · exact (Nat.lt_succ_self offset).trans (ih h)
    · exact (Nat.lt_add_of_pos_right c.utf8Size_pos).trans (ih h)

theorem pairwise_lineStartsFrom (offset : Nat) (text : List Char) :
    (lineStartsFrom offset text).Pairwise (· < ·) := by
  induction text generalizing offset with
  | nil => exact .nil
  | cons c text ih =>
    rw [lineStartsFrom]
    split
    · exact .cons (fun start hstart => lt_of_mem_lineStartsFrom hstart) (ih _)
    · exact ih _

theorem lineStartsFrom_cons (offset : Nat) (c : Char) (text : List Char) :
    lineStartsFrom offset (c :: text) =
      (if c = '\n' then [offset + c.utf8Size] else []) ++
        lineStartsFrom (offset + c.utf8Size) text := by
  rw [lineStartsFrom]
  split
  case isTrue h =>
    subst h
    rfl
  case isFalse => rfl

/-- No line starts before the first character has ended. -/
theorem le_of_mem_lineStartsFrom_cons {offset start : Nat} {c : Char} {text : List Char}
    (h : start ∈ lineStartsFrom offset (c :: text)) : offset + c.utf8Size ≤ start := by
  rw [lineStartsFrom_cons, List.mem_append] at h
  rcases h with h | h
  · split at h
    · exact (List.mem_singleton.1 h).ge
    · exact absurd h List.not_mem_nil
  · exact (lt_of_mem_lineStartsFrom h).le

/-- There are as many starts within so many bytes as there are line feeds among these bytes, which
    need not end where a character does. -/
theorem countP_lineStartsFrom (offset reach : Nat) (text : List Char) :
    (lineStartsFrom offset text).countP (fun start => start ≤ offset + reach) =
      ((text.flatMap String.utf8EncodeChar).take reach).count 0x0A := by
  induction text generalizing offset reach with
  | nil => rw [List.flatMap_nil, List.take_nil]; rfl
  | cons c text ih =>
    rw [List.flatMap_cons]
    rcases Nat.lt_or_ge reach c.utf8Size with hinside | hbehind
    · -- The bytes end inside the first character, where there is neither a start nor a line feed.
      have hlength : reach ≤ (String.utf8EncodeChar c).length :=
        (String.length_utf8EncodeChar c).symm ▸ hinside.le
      rw [List.take_append_of_le_length hlength, count_lineFeed_take_utf8EncodeChar hinside,
        List.countP_eq_zero]
      intro start hstart
      have hstart := le_of_mem_lineStartsFrom_cons hstart
      rw [decide_eq_true_eq]
      omega
    · obtain ⟨more, rfl⟩ := Nat.exists_eq_add_of_le hbehind
      have htake : (String.utf8EncodeChar c ++ text.flatMap String.utf8EncodeChar).take
          (c.utf8Size + more) =
          String.utf8EncodeChar c ++ (text.flatMap String.utf8EncodeChar).take more := by
        rw [← String.length_utf8EncodeChar c, List.take_length_add_append]
      rw [htake, List.count_append, count_lineFeed_utf8EncodeChar, lineStartsFrom_cons,
        List.countP_append, ← Nat.add_assoc, ih]
      congr 1
      split
      case isTrue h => simp [h]
      case isFalse h => simp [h]

/-! ## Finding the line -/

/-- In ascending order, the numbers not above a bound come first. -/
theorem getElem_le_iff_lt_countP {starts : List Nat} (h : starts.Pairwise (· < ·)) (offset : Nat)
    {i : Nat} (hi : i < starts.length) :
    starts[i] ≤ offset ↔ i < starts.countP fun start => start ≤ offset := by
  induction starts generalizing i with
  | nil => exact absurd hi (Nat.not_lt_zero i)
  | cons start starts ih =>
    obtain ⟨hlt, h⟩ := List.pairwise_cons.1 h
    by_cases hle : start ≤ offset
    · rw [List.countP_cons_of_pos (by simpa)]
      cases i with
      | zero => exact iff_of_true hle (Nat.succ_pos _)
      | succ i => rw [Nat.succ_lt_succ_iff, ← ih h]; rfl
    · -- The first is above the bound already, and so are all the others.
      have hnone : (start :: starts).countP (fun start => start ≤ offset) = 0 := by
        refine List.countP_eq_zero.2 fun later hlater => ?_
        rw [decide_eq_true_eq]
        rcases List.mem_cons.1 hlater with rfl | hlater
        · exact hle
        · exact fun hle' => hle ((hlt later hlater).le.trans hle')
      have hmem := List.countP_eq_zero.1 hnone _ (List.getElem_mem hi)
      rw [hnone]
      exact iff_of_false (by simpa using hmem) (Nat.not_lt_zero i)

namespace LineIndex

/-- Halving finds the number of starts not after the offset, if they are the first ones and their
    number lies between the bounds. -/
theorem countFrom_eq {index : LineIndex} {offset count : Nat}
    (hcount : ∀ i (hi : i < index.starts.size), index.starts[i] ≤ offset ↔ i < count)
    {low high : Nat} (h : high ≤ index.starts.size) (hlow : low ≤ count) (hhigh : count ≤ high) :
    index.countFrom offset low high h = count := by
  fun_induction index.countFrom offset low high h with
  | case1 low high h hlt middle hle ih =>
    exact ih ((hcount middle _).1 hle) hhigh
  | case2 low high h hlt middle hle ih =>
    exact ih hlow (Nat.not_lt.1 fun hlt => hle ((hcount middle _).2 hlt))
  | case3 low high h hlt => omega

theorem lineOf_ofText (text : List Char) (offset : Nat) :
    (ofText text).lineOf offset =
      (lineStartsFrom 0 text).countP (fun start => start ≤ offset) + 1 := by
  have hsorted : (0 :: lineStartsFrom 0 text).Pairwise (· < ·) :=
    .cons (fun start hstart => lt_of_mem_lineStartsFrom hstart) (pairwise_lineStartsFrom 0 text)
  have hfirst : (0 :: lineStartsFrom 0 text).countP (fun start => start ≤ offset) =
      (lineStartsFrom 0 text).countP (fun start => start ≤ offset) + 1 :=
    List.countP_cons_of_pos (by simp)
  rw [← hfirst]
  refine countFrom_eq (fun i hi => ?_) _ (Nat.zero_le _) List.countP_le_length
  exact getElem_le_iff_lt_countP hsorted offset hi

/-- Every line feed before an offset has ended a line. -/
theorem lineOf_eq_count_take (text : String) (offset : Nat) :
    (ofText text.toList).lineOf offset = 1 + ((bytes text).take offset).count 0x0A := by
  have hcount := countP_lineStartsFrom 0 offset text.toList
  rw [Nat.zero_add, ← bytes_eq_flatMap] at hcount
  rw [lineOf_ofText, hcount, Nat.add_comm]

/-- What follows `before` lies in the line that comes after all lines ended in `before`. -/
theorem lineOf_append (before rest : List Char) :
    (ofText (before ++ rest)).lineOf (byteLength before) = before.count '\n' + 1 := by
  have htext : (String.ofList before ++ String.ofList rest).toList = before ++ rest := by
    rw [String.toList_append, String.toList_ofList, String.toList_ofList]
  rw [← htext, lineOf_eq_count_take, byteLength_eq_utf8ByteSize, take_bytes_append,
    count_lineFeed_bytes, String.toList_ofList, Nat.add_comm]

/-- The line of an offset is one more than the number of line feeds among the bytes before it, also
    where the offset lies inside a character or beyond the end of the text. So the lines are
    numbered from one up to the number of line feeds and one more, and no offset lies in an earlier
    line than those before it. -/
theorem lineOf_counts_lineFeeds (text : String) (offset : Nat) :
    (ofText text.toList).lineOf offset = 1 + ((bytes text).take offset).count 0x0A ∧
      1 ≤ (ofText text.toList).lineOf offset ∧
      (ofText text.toList).lineOf offset ≤ text.toList.count '\n' + 1 ∧
      ∀ later, offset ≤ later →
        (ofText text.toList).lineOf offset ≤ (ofText text.toList).lineOf later := by
  refine ⟨lineOf_eq_count_take text offset, ?_, ?_, fun later hlater => ?_⟩
  · rw [lineOf_eq_count_take]
    exact Nat.le_add_right 1 _
  · rw [lineOf_eq_count_take, Nat.add_comm, ← count_lineFeed_bytes]
    exact Nat.succ_le_succ ((List.take_sublist offset _).count_le 0x0A)
  · rw [lineOf_eq_count_take, lineOf_eq_count_take]
    exact Nat.add_le_add_left ((List.take_prefix_take_left hlater).sublist.count_le 0x0A) 1

/-- Inside the accented letter, at and behind a line feed, at the end and beyond it. -/
theorem lineOf_counts_lineFeeds_around_accent :
    [1, 2, 3, 5, 100].map (ofText "é\nb\n".toList).lineOf = [1, 1, 2, 3, 3] ∧
      (ofText "é\nb\n".toList).lineOf 1 ≤ (ofText "é\nb\n".toList).lineOf 100 := by
  have hline (offset : Nat) := (lineOf_counts_lineFeeds "é\nb\n" offset).1
  have hbytes : bytes "é\nb\n" = [0xC3, 0xA9, 0x0A, 0x62, 0x0A] := by decide
  refine ⟨?_, (lineOf_counts_lineFeeds "é\nb\n" 1).2.2.2 100 (by decide)⟩
  simp only [List.map_cons, List.map_nil, hline, hbytes]
  decide

end LineIndex

/-! ## The lines of a text -/

/-- A line of a text, without the line feed that ends it, and the byte offset of its start. -/
structure Line where
  offset : Nat
  content : List Char
deriving DecidableEq

/-- The same line in a text that has so many `bytes` more in front. -/
def Line.shifted (bytes : Nat) (line : Line) : Line := { line with offset := line.offset + bytes }

/-- Lines one behind the other from `offset` on, with a line feed behind each. -/
def placeLines : (offset : Nat) → List (List Char) → List Line
  | _, [] => []
  | offset, content :: more =>
    ⟨offset, content⟩ :: placeLines (offset + byteLength content + 1) more

/-- The lines of a text: what line feeds separate, so that the last line is not ended by one. -/
def linesOf (text : List Char) : List Line := placeLines 0 (text.splitOn '\n')

theorem placeLines_shift (offset bytes : Nat) (contents : List (List Char)) :
    placeLines (offset + bytes) contents =
      (placeLines offset contents).map (Line.shifted bytes) := by
  induction contents generalizing offset with
  | nil => rfl
  | cons content more ih =>
    have hnext : offset + bytes + byteLength content + 1 =
        offset + byteLength content + 1 + bytes := by
      omega
    rw [placeLines, placeLines, List.map_cons, hnext, ih]
    rfl

theorem placeLines_append (offset : Nat) (first second : List (List Char)) :
    placeLines offset (first ++ second) = placeLines offset first ++
      placeLines (offset + byteLength (first.flatMap (· ++ ['\n']))) second := by
  induction first generalizing offset with
  | nil => rfl
  | cons content more ih =>
    have hfeed : byteLength ['\n'] = 1 := rfl
    rw [List.cons_append, placeLines, placeLines, ih, List.flatMap_cons, byteLength_append,
      byteLength_append, hfeed, List.cons_append, Nat.add_assoc, Nat.add_assoc, Nat.add_assoc]

/-- With a line feed at its end, a text is its lines with a line feed behind each. -/
theorem flatMap_splitOn (text : List Char) :
    (text.splitOn '\n').flatMap (· ++ ['\n']) = text ++ ['\n'] := by
  induction text with
  | nil => rfl
  | cons c text ih =>
    rw [List.splitOn_cons_eq_if_modifyHead]
    split
    case isTrue hc => rw [List.flatMap_cons, ih, beq_iff_eq.1 hc]; rfl
    case isFalse =>
      obtain ⟨content, more, hlines⟩ := List.exists_cons_of_ne_nil (List.splitOn_ne_nil '\n' text)
      rw [hlines] at ih ⊢
      rw [List.modifyHead_cons, List.cons_append, ← ih]
      rfl

theorem length_placeLines (offset : Nat) (contents : List (List Char)) :
    (placeLines offset contents).length = contents.length := by
  induction contents generalizing offset with
  | nil => rfl
  | cons content more ih => rw [placeLines, List.length_cons, ih, List.length_cons]

/-- A text has one line more than line feeds. -/
theorem length_linesOf (text : List Char) : (linesOf text).length = text.count '\n' + 1 := by
  rw [linesOf, length_placeLines]
  induction text with
  | nil => rfl
  | cons c text ih =>
    rw [List.splitOn_cons_eq_if_modifyHead, List.count_cons]
    split
    · rw [List.length_cons, ih]
    · rw [List.length_modifyHead, ih]

theorem linesOf_of_not_mem {text : List Char} (h : '\n' ∉ text) : linesOf text = [⟨0, text⟩] := by
  rw [linesOf, List.splitOn_eq_singleton h]
  rfl

/-- The lines of two texts with a line feed between them. -/
theorem linesOf_append (first second : List Char) :
    linesOf (first ++ '\n' :: second) =
      linesOf first ++ (linesOf second).map (Line.shifted (byteLength (first ++ ['\n']))) := by
  rw [linesOf, List.splitOn_append_cons_self, placeLines_append, flatMap_splitOn,
    placeLines_shift]
  rfl

/-- The line that starts behind a text has as many others before it as the text has line feeds. -/
theorem getElem?_linesOf {before : List Char}
    (h : before = [] ∨ ∃ lines, before = lines ++ ['\n']) (rest : List Char) :
    ∃ content, (linesOf (before ++ rest))[before.count '\n']? =
      some ⟨byteLength before, content⟩ := by
  obtain ⟨content, more, hrest⟩ := List.exists_cons_of_ne_nil (List.splitOn_ne_nil '\n' rest)
  refine ⟨content, ?_⟩
  rcases h with rfl | ⟨lines, rfl⟩
  · rw [List.nil_append, linesOf, hrest]
    rfl
  · rw [List.append_assoc, List.singleton_append, linesOf_append, List.count_append,
      List.count_singleton_self, ← length_linesOf, List.getElem?_append_right (Nat.le_refl _),
      Nat.sub_self, linesOf, hrest, placeLines, List.map_cons, List.getElem?_cons_zero,
      Line.shifted, Nat.zero_add]

end Migration.Text
