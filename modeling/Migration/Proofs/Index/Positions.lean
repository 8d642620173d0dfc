import Migration.Proofs.Index.Context
import Migration.Proofs.Index.Grammar

/-!
# Where tests stand

A test stands at the start of a line, and its place is told twice: by the byte offset of that line
and by its number. Both are right, and go up along the index (`indexTests_placed`).

A declaration may go over many lines, so it is not by lines that one is told from the next. But it
ends with a colon, and the next one starts behind a line feed: between the two there is always the
end of a line (`Declaration.pairwise_between`). Nothing else is needed for the order of tests.
-/

namespace Migration

open Text

variable {naming : TestNaming}

namespace Declaration

/-- No line starts right behind the colon of a declaration. -/
theorem admits_append_written (before : List Char) (d : Declaration) :
    Pattern.admits (· == '\n') (before ++ d.written) = false := by
  rw [written, ← List.append_assoc]
  exact Pattern.admits_concat _ _ ':'

/-- Between a declaration and any later one, a line ends. -/
theorem pairwise_between (source : List Char) :
    (scan naming source).Pairwise fun found later => ∃ before between,
      StandsIn naming source before found ∧
      StandsIn naming source (before ++ found.value.written ++ (between ++ ['\n'])) later := by
  have hp := recognises_pattern naming.functionPrefix.toList
  refine (Pattern.scans_scanLines hp source).pairwise.imp_of_mem fun {found later} hf hl hle => ?_
  obtain ⟨before, hfound⟩ := exists_standsIn hf
  obtain ⟨front, hlater⟩ := exists_standsIn hl
  have hend : before ++ found.value.written <+: source :=
    ⟨found.rest, by rw [hfound.text_eq, List.append_assoc]; rfl⟩
  rw [hfound.offset_eq, hlater.offset_eq, ← byteLength_append] at hle
  obtain ⟨inner, rfl⟩ := prefix_of_byteLength_le hend ⟨_, hlater.text_eq.symm⟩ hle
  have hadm := hlater.admitted
  have hne : inner ≠ [] := by
    rintro rfl
    rw [List.append_nil, admits_append_written] at hadm
    exact absurd hadm (by decide)
  obtain ⟨between, last, rfl⟩ := (List.eq_nil_or_concat' inner).resolve_left hne
  rw [← List.append_assoc, Pattern.admits_concat, beq_iff_eq] at hadm
  rw [hadm] at hlater
  exact ⟨before, between, hfound, hlater⟩

/-- At the place of a declaration, no other text is that of one. -/
theorem StandsIn.text_eq_of_declaredAt {source : String} {before : List Char}
    {found : Found Declaration} (h : StandsIn naming source.toList before found)
    {name params text : String}
    (hd : DeclaredAt naming.functionPrefix source found.offset name params text) :
    text = String.ofList found.value.written := by
  obtain ⟨before', after, d, hsource, hoffset, _, hproper, _, _, rfl⟩ := declaredAt_iff.1 hd
  have htext := h.text_eq
  obtain rfl : before' = before :=
    eq_of_byteLength_eq ⟨_, hsource.symm⟩ ⟨_, htext.symm⟩ (hoffset.trans h.offset_eq)
  rw [hsource, List.append_cancel_left_eq] at htext
  rw [(recognises_pattern naming.functionPrefix.toList).unique hproper h.valid_value
    (List.prefix_append _ after) (htext ▸ List.prefix_append _ found.rest)]

end Declaration

/-! ## Offsets and lines -/

/-- The byte before the start of a line is a line feed. -/
theorem StartsLine.byte_before {before : String} (h : StartsLine before) (rest : String) :
    before.utf8ByteSize = 0 ∨ (bytes (before ++ rest))[before.utf8ByteSize - 1]? = some 0x0A := by
  rcases h with rfl | ⟨lines, rfl⟩
  · exact .inl rfl
  · right
    have hfeed : "\n".utf8ByteSize = 1 := rfl
    have hlength : (bytes lines).length = lines.utf8ByteSize := rfl
    rw [bytes_append, bytes_append, String.utf8ByteSize_append, hfeed, Nat.add_sub_cancel,
      List.append_assoc, List.getElem?_append_right hlength.le, hlength, Nat.sub_self]
    rfl

/-- The start of a line is that of the line with as many others before it as line feeds. -/
theorem StartsLine.line_eq {before : String} (h : StartsLine before) (rest : String) :
    ∃ content, (linesOf (before ++ rest).toList)[before.toList.count '\n']? =
      some ⟨before.utf8ByteSize, content⟩ := by
  rw [String.toList_append, ← byteLength_toList]
  refine getElem?_linesOf (h.imp ?_ ?_) rest.toList
  · rintro rfl
    rfl
  · rintro ⟨lines, rfl⟩
    exact ⟨lines.toList, String.toList_append⟩

theorem line_testOf {source : String} {before : List Char} {found : Found Declaration}
    (h : Declaration.StandsIn naming source.toList before found) :
    (testOf naming source found).line = before.count '\n' + 1 := by
  have htext : source.toList = before ++ (found.value.written ++ found.rest) := h.text_eq
  rw [testOf, htext, h.offset_eq]
  exact LineIndex.lineOf_append before _

/-- The place of a test is the start of a line, told by its byte offset and by its number, which is
    one more than the number of line feeds before. Both go up along the index, and the declaration
    of a test ends before the next test. -/
theorem indexTests_placed (naming : TestNaming) (source : String) :
    (∀ test ∈ indexTests naming source,
      (test.offset = 0 ∨ (bytes source)[test.offset - 1]? = some 0x0A) ∧
      test.line = 1 + ((bytes source).take test.offset).count 0x0A ∧
      (∃ content, (linesOf source.toList)[test.line - 1]? = some ⟨test.offset, content⟩) ∧
      ∃ text, DeclaredAt naming.functionPrefix source test.offset test.name test.params text) ∧
    (indexTests naming source).Pairwise fun test later =>
      test.offset < later.offset ∧ test.line < later.line ∧
      ∀ text, DeclaredAt naming.functionPrefix source test.offset test.name test.params text →
        test.offset + text.utf8ByteSize < later.offset := by
  constructor
  · intro test htest
    obtain ⟨found, hfound, rfl⟩ := mem_indexTests_iff.1 htest
    obtain ⟨before, hstands⟩ := Declaration.exists_standsIn hfound
    let rest := String.ofList (found.value.written ++ found.rest)
    have hsource : String.ofList before ++ rest = source := by
      rw [← String.ofList_append, ← String.toList_inj, String.toList_ofList]
      exact hstands.text_eq.symm
    have hstart : StartsLine (String.ofList before) := by
      rw [startsLine_iff_admits, String.toList_ofList]
      exact hstands.admitted
    have hoffset : (testOf naming source found).offset = (String.ofList before).utf8ByteSize :=
      hstands.offset_eq.trans (byteLength_eq_utf8ByteSize before)
    have hline : (testOf naming source found).line =
        (String.ofList before).toList.count '\n' + 1 := by
      rw [String.toList_ofList]
      exact line_testOf hstands
    refine ⟨?_, ?_, ?_, _, declaredAt_of_stands hstands⟩
    · rw [hoffset]
      exact hsource ▸ hstart.byte_before rest
    · rw [hoffset, hline, ← count_lineFeed_bytes, ← take_bytes_append _ rest, hsource, Nat.add_comm]
    · rw [hoffset, hline, Nat.add_sub_cancel]
      exact hsource ▸ hstart.line_eq rest
  · rw [indexTests_eq_map, List.pairwise_map]
    refine (Declaration.pairwise_between source.toList).imp ?_
    rintro found later ⟨before, between, hfound, hlater⟩
    have hoffset : found.offset + byteLength found.value.written < later.offset := by
      rw [hfound.offset_eq, hlater.offset_eq, ← byteLength_append]
      exact byteLength_lt (List.append_ne_nil_of_right_ne_nil between (List.cons_ne_nil _ _))
    refine ⟨?_, ?_, fun text htext => ?_⟩
    · exact Nat.lt_of_le_of_lt (Nat.le_add_right _ _) hoffset
    · rw [line_testOf hfound, line_testOf hlater]
      simp only [List.count_append, List.count_singleton_self]
      omega
    · rw [hfound.text_eq_of_declaredAt htext, ← byteLength_eq_utf8ByteSize]
      exact hoffset

/-- A declaration that goes over two lines, behind a comment with letters of several bytes, and
    another one that follows it. -/
theorem indexTests_placed_behind_accents :
    let source := "# é\nasync def test_a(\n  x):\n\n\tdef test_b():\n"
    indexTests {} source =
        [⟨"Unknown", "test_a", "\n  x", "", 5, 2⟩, ⟨"Unknown", "test_b", "", "", 30, 5⟩] ∧
      (5 = 0 ∨ (bytes source)[5 - 1]? = some 0x0A) ∧
      2 = 1 + ((bytes source).take 5).count 0x0A ∧
      (∃ content, (linesOf source.toList)[2 - 1]? = some ⟨5, content⟩) ∧
      ∃ text, DeclaredAt "test_" source 5 "test_a" "\n  x" text ∧ 5 + text.utf8ByteSize < 30 := by
  intro source
  have hindex : indexTests {} source =
      [⟨"Unknown", "test_a", "\n  x", "", 5, 2⟩, ⟨"Unknown", "test_b", "", "", 30, 5⟩] := by
    have hsource : source.toList = _ := String.toList_ofList
    rw [indexTests, hsource]
    simp only [LineIndex.lineOf_ofText]
    decide
  obtain ⟨hall, hpairs⟩ := indexTests_placed {} source
  rw [hindex] at hall hpairs
  obtain ⟨hstart, hline, hcontent, text, htext⟩ := hall _ List.mem_cons_self
  have hlater := (List.pairwise_cons.1 hpairs).1 _ List.mem_cons_self
  exact ⟨hindex, hstart, hline, hcontent, text, htext, hlater.2.2 text htext⟩

end Migration
