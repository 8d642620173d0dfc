import Migration.Proofs.Index.Context
import Migration.Proofs.Index.Grammar

/-!
# The index of texts that are put together

What becomes of an index when its source text goes on. A declaration may be cut off at the end of
the text, in the middle of its parameters, and become one with what follows; but then no test was
listed behind its start (`Declaration.cutSafe`): a test that starts on a later line would have to
close its own parameters and end in a colon, and the closing bracket and the colon that come first
are those of the declaration that was cut off. So the tests listed stay as they are, docstrings
apart, and others come after them (`indexTests_append_stable`).

If the second text starts a line and no declaration goes from the first text into it, the index is
put together from those of the two texts (`indexTests_append`). The tests of the second text then
stand further back, and those before its first heading belong to the last class of the first text.
-/

namespace Migration

open Text

namespace Declaration

/-- A declaration that is cut off hides no other one. -/
theorem cutSafe {beginning : List Char} (hbeginning : '\n' ∉ beginning) :
    (pattern beginning).CutSafe (Proper beginning) (· == '\n') := by
  intro d other front rest tail hd _ hwritten hfront htail
  refine Bool.eq_false_iff.2 fun hadm => ?_
  have hlineFeed := Pattern.lineFeed_mem_of_admits hfront hadm
  change d.written = front ++ (other.written ++ rest) ++ tail at hwritten
  rw [written_eq, List.append_assoc] at hwritten
  rcases List.append_eq_append_iff.1 hwritten with ⟨inner, rfl, hrest⟩ | ⟨inner, hopening, _⟩
  · -- The other one starts behind the opening bracket, so the bracket that closes its parameters is
    -- the one that closes those of `d`, or comes later.
    rw [written_eq other, closing, closing] at hrest
    have hmark : d.params ++ ')' :: (resultText d.result ++ [':']) =
        (inner ++ (other.opening ++ other.params)) ++
          ')' :: (resultText other.result ++ ':' :: (rest ++ tail)) := by
      rw [hrest]
      simp
    -- Behind that bracket there is one colon only, and it is the last character.
    obtain ⟨most, last, hmost⟩ := (List.eq_nil_or_concat' (rest ++ tail)).resolve_left
      (List.append_ne_nil_of_right_ne_nil rest htail)
    obtain ⟨more, hmore⟩ := suffix_of_mark hd.params hmark
    rw [hmost, ← List.cons_append, ← List.append_assoc, ← List.append_assoc] at hmore
    have hresult := (List.append_inj' hmore rfl).1
    refine hd.not_mem_resultText (.inl rfl) ?_
    rw [← hresult]
    exact List.mem_append_right _ List.mem_cons_self
  · refine hd.lineFeed_not_mem_opening hbeginning ?_
    rw [hopening]
    exact List.mem_append_left _ hlineFeed

variable {naming : TestNaming}

/-- A text that goes on keeps its declarations. -/
theorem prefix_scan_append (hfunction : '\n' ∉ naming.functionPrefix.toList)
    (text more : List Char) :
    (scan naming text).map (Found.followedBy more) <+: scan naming (text ++ more) :=
  Pattern.prefix_scanLines_append (recognises_pattern _) (cutSafe hfunction) text more

end Declaration

/-- The test without the line that documents it. -/
def IndexedTest.undocumented (test : IndexedTest) : IndexedTest := { test with doc := "" }

variable {naming : TestNaming}

/-! ## A text that goes on -/

/-- What follows a source text changes nothing about its tests but their docstrings. -/
theorem map_undocumented_followedBy (hclass : '\n' ∉ naming.classPrefix.toList)
    (source more : String) :
    (((Declaration.scan naming source.toList).map (Found.followedBy more.toList)).map
        (testOf naming (source ++ more))).map IndexedTest.undocumented =
      (indexTests naming source).map IndexedTest.undocumented := by
  rw [indexTests_eq_map, List.map_map, List.map_map, List.map_map]
  refine List.map_congr_left fun found hfound => ?_
  obtain ⟨before, hstands⟩ := Declaration.exists_standsIn hfound
  have hmore := hstands.followedBy more.toList
  rw [← String.toList_append] at hmore
  simp only [Function.comp_apply]
  rw [testOf_eq_testAt hclass hstands, testOf_eq_testAt hclass hmore]
  rfl

/-- A source text that goes on keeps its tests and its headings: more text adds others behind them,
    and leaves the class, the name, the parameters and the place of every test as they are. -/
theorem indexTests_append_stable (naming : TestNaming) (source more : String)
    (hclass : '\n' ∉ naming.classPrefix.toList)
    (hfunction : '\n' ∉ naming.functionPrefix.toList) :
    (indexTests naming source).map IndexedTest.undocumented <+:
        (indexTests naming (source ++ more)).map IndexedTest.undocumented ∧
      ClassHeading.scan naming source.toList <+:
        ClassHeading.scan naming (source ++ more).toList := by
  constructor
  · obtain ⟨others, hscan⟩ :=
      Declaration.prefix_scan_append hfunction source.toList more.toList
    rw [← map_undocumented_followedBy hclass source more, indexTests_eq_map, String.toList_append,
      ← hscan, List.map_append, List.map_append]
    exact List.prefix_append _ _
  · rw [String.toList_append]
    exact ClassHeading.prefix_scan_append hclass _ _

/-- A text that ends in the middle of a declaration, which then becomes one. -/
theorem indexTests_append_stable_at_cut :
    indexTests {} ("class TestA:\n  def test_a():\n  def test_b(x,\n" ++
          "    y):\nclass TestB:\n") =
        [⟨"TestA", "test_a", "", "", 13, 2⟩, ⟨"TestA", "test_b", "x,\n    y", "", 29, 3⟩] ∧
      (indexTests {} "class TestA:\n  def test_a():\n  def test_b(x,\n").map
          IndexedTest.undocumented <+:
        (indexTests {} ("class TestA:\n  def test_a():\n  def test_b(x,\n" ++
          "    y):\nclass TestB:\n")).map IndexedTest.undocumented ∧
      ClassHeading.scan {} "class TestA:\n  def test_a():\n  def test_b(x,\n".toList <+:
        ClassHeading.scan {} ("class TestA:\n  def test_a():\n  def test_b(x,\n" ++
          "    y):\nclass TestB:\n").toList := by
  refine ⟨?_, indexTests_append_stable {} _ _ (by decide) (by decide)⟩
  rw [indexTests, String.toList_append, String.toList_ofList, String.toList_ofList]
  simp only [LineIndex.lineOf_ofText]
  decide

/-! ## Two texts -/

/-- The test of the text `second` as it stands behind the text `first`: further back, and of the
    last class of the first text if no heading of the second one comes before it. -/
def IndexedTest.behind (naming : TestNaming) (first second : String) (test : IndexedTest) :
    IndexedTest :=
  { test with
    className :=
      if ∀ heading ∈ ClassHeading.scan naming second.toList, test.offset < heading.offset then
        lastClass naming first.toList
      else test.className
    offset := test.offset + first.utf8ByteSize
    line := test.line + first.toList.count '\n' }

/-- Before a declaration there are no headings if and only if all headings are behind it. -/
theorem scan_before_eq_nil_iff (hclass : '\n' ∉ naming.classPrefix.toList)
    {source before : List Char} {found : Found Declaration}
    (h : Declaration.StandsIn naming source before found) :
    ClassHeading.scan naming before = [] ↔
      ∀ heading ∈ ClassHeading.scan naming source, byteLength before < heading.offset := by
  have htext : source = before ++ (found.value.written ++ found.rest) := h.text_eq
  rw [htext, ← filter_headings_eq hclass h.admitted h.valid_value found.rest,
    List.filter_eq_nil_iff]
  simp only [decide_eq_true_eq, Nat.not_le]

/-- What the index tells of the declarations of the second text, behind the first one. -/
theorem map_testOf_shifted (hclass : '\n' ∉ naming.classPrefix.toList) {first : String}
    (hfirst : StartsLine first) (second : String) :
    ((Declaration.scan naming second.toList).map (Found.shifted (byteLength first.toList))).map
        (testOf naming (first ++ second)) =
      (indexTests naming second).map (IndexedTest.behind naming first second) := by
  rw [startsLine_iff_admits] at hfirst
  rw [indexTests_eq_map, List.map_map, List.map_map]
  refine List.map_congr_left fun found hfound => ?_
  obtain ⟨before, hstands⟩ := Declaration.exists_standsIn hfound
  have hshifted := hstands.shifted hfirst
  rw [← String.toList_append] at hshifted
  have hbefore := scan_before_eq_nil_iff hclass hstands
  simp only [Function.comp_apply]
  rw [testOf_eq_testAt hclass hstands, testOf_eq_testAt hclass hshifted]
  simp only [testAt, IndexedTest.behind, ← hbefore, lastClass_append hclass hfirst,
    byteLength_append, List.count_append, byteLength_toList, Found.shifted]
  rw [Nat.add_comm first.utf8ByteSize, Nat.add_comm (List.count '\n' first.toList),
    Nat.add_right_comm]

/-- The index of two texts, if the second one starts a line and no declaration goes from the first
    one into it: the tests of the first one, docstrings apart, and then those of the second one,
    further back and with the last class of the first text where none of the second one comes
    before. -/
theorem indexTests_append (naming : TestNaming) (first second : String)
    (hclass : '\n' ∉ naming.classPrefix.toList) (hfirst : StartsLine first)
    (hcross : ∀ found ∈ Declaration.scan naming (first ++ second).toList,
      found.offset < first.utf8ByteSize →
        found.offset + (String.ofList found.value.written).utf8ByteSize ≤ first.utf8ByteSize) :
    ∃ tests, indexTests naming (first ++ second) =
        tests ++ (indexTests naming second).map (IndexedTest.behind naming first second) ∧
      tests.map IndexedTest.undocumented =
        (indexTests naming first).map IndexedTest.undocumented := by
  have hscan : Declaration.scan naming (first ++ second).toList =
      (Declaration.scan naming first.toList).map (Found.followedBy second.toList) ++
        (Declaration.scan naming second.toList).map (Found.shifted (byteLength first.toList)) := by
    rw [String.toList_append] at hcross ⊢
    refine Pattern.scanLines_append (Declaration.recognises_pattern _)
      (startsLine_iff_admits.1 hfirst) fun found hfound hlt => ?_
    rw [byteLength_toList] at hlt ⊢
    rw [byteLength_eq_utf8ByteSize]
    exact hcross found hfound hlt
  refine ⟨_, ?_, map_undocumented_followedBy hclass first second⟩
  rw [indexTests_eq_map naming (first ++ second), hscan, List.map_append,
    map_testOf_shifted hclass hfirst]

/-- A class that goes on in the second text. The first test of that text is of the last class of the
    first text, and the other one is of a class that the second text opens. -/
theorem indexTests_append_at_open_class :
    let first := "class TestA:\n  def test_a():\n"
    let second := "  def test_b(x,\n    y):\n    '''B.'''\nclass TestC:\n  def test_c():\n"
    ((indexTests {} second).map fun test => (test.className, test.doc)) =
        [("Unknown", "B."), ("TestC", "")] ∧
      ((indexTests {} second).map (IndexedTest.behind {} first second)) =
        [⟨"TestA", "test_b", "x,\n    y", "B.", 29, 3⟩, ⟨"TestC", "test_c", "", "", 79, 7⟩] ∧
      ∃ tests, indexTests {} (first ++ second) =
          tests ++ (indexTests {} second).map (IndexedTest.behind {} first second) ∧
        tests.map IndexedTest.undocumented =
          (indexTests {} first).map IndexedTest.undocumented := by
  intro first second
  have hlist : first.toList = _ := String.toList_ofList
  have hlist' : second.toList = _ := String.toList_ofList
  have hcross : ∀ found ∈ Declaration.scan {} (first ++ second).toList,
      found.offset < first.utf8ByteSize →
        found.offset + (String.ofList found.value.written).utf8ByteSize ≤ first.utf8ByteSize := by
    rw [String.toList_append, hlist, hlist']
    decide
  have hfirst : StartsLine first := .inr ⟨"class TestA:\n  def test_a():", rfl⟩
  refine ⟨?_, ?_, indexTests_append {} first second (by decide) hfirst hcross⟩
  · rw [indexTests, hlist']
    simp only [LineIndex.lineOf_ofText]
    decide
  · rw [indexTests, hlist']
    simp only [LineIndex.lineOf_ofText]
    decide

end Migration
