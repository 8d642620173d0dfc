import Migration.Index.Basic
import Migration.Proofs.Index.Patterns
import Migration.Proofs.Text.Lines

/-!
# The class of a test

The index tells every test its class in one pass over the headings, which never goes back. That is
the same as looking up, for every test on its own, the last of all headings that is not after it
(`classAt`): both scans give their finds in ascending order, so the headings that the pass has left
behind are exactly those not after the test at hand (`withClass_eq_map`).

So the tests of the index are the declarations of the scan, one by one (`indexTests_eq_map`).
-/

namespace Migration

open Text

/-- The name of the last heading that is not after `offset`, or `unknownClass` if there is none. -/
def classAt (headings : List ClassHeading) (offset : Nat) : String :=
  ((headings.filter fun heading => heading.offset ≤ offset).getLast?.map ClassHeading.name).getD
    unknownClass

/-! ## Scans in ascending order -/

theorem ClassHeading.pairwise_scan (naming : TestNaming) (text : List Char) :
    (ClassHeading.scan naming text).Pairwise fun a b => a.offset < b.offset := by
  have hp := ClassHeading.recognises_pattern naming.classPrefix.toList
  exact List.pairwise_map.2 ((Pattern.scans_scanLines hp text).pairwise_offset_lt hp)

theorem Declaration.pairwise_scan (naming : TestNaming) (text : List Char) :
    (Declaration.scan naming text).Pairwise fun a b => a.offset < b.offset := by
  have hp := Declaration.recognises_pattern naming.functionPrefix.toList
  exact (Pattern.scans_scanLines hp text).pairwise_offset_lt hp

/-! ## One pass and separate searches -/

/-- In ascending order, the headings not after an offset come first. -/
theorem filter_eq_takeWhile {headings : List ClassHeading}
    (h : headings.Pairwise fun a b => a.offset < b.offset) (offset : Nat) :
    headings.filter (fun heading => heading.offset ≤ offset) =
      headings.takeWhile fun heading => heading.offset ≤ offset := by
  induction headings with
  | nil => rfl
  | cons heading headings ih =>
    obtain ⟨hlt, h⟩ := List.pairwise_cons.1 h
    by_cases hle : heading.offset ≤ offset
    · rw [List.filter_cons_of_pos (by simpa), List.takeWhile_cons_of_pos (by simpa), ih h]
    · rw [List.filter_cons_of_neg (by simpa using hle),
        List.takeWhile_cons_of_neg (by simpa using hle), List.filter_eq_nil_iff]
      intro later hlater
      have := hlt later hlater
      simp only [decide_eq_true_eq]
      omega

/-- The pass over the headings agrees with a search for every declaration. The headings `passed`
    are behind the pass, so they are not after any declaration to come, and the last of them is the
    class of the text before. -/
theorem withClass_eq_map {α : Type} (passed ahead : List ClassHeading) {founds : List (Found α)}
    (hahead : ahead.Pairwise fun a b => a.offset < b.offset)
    (hfounds : founds.Pairwise fun a b => a.offset < b.offset)
    (hpassed : ∀ heading ∈ passed, ∀ found ∈ founds, heading.offset ≤ found.offset) :
    withClass ((passed.getLast?.map ClassHeading.name).getD unknownClass) ahead founds =
      founds.map fun found => (classAt (passed ++ ahead) found.offset, found) := by
  induction founds generalizing passed ahead with
  | nil => rfl
  | cons found founds ih =>
    obtain ⟨hlt, hfounds⟩ := List.pairwise_cons.1 hfounds
    -- The pass moves on over the headings not after this declaration: together with those it had
    -- passed before, they are all the headings not after it.
    let notAfter := fun heading : ClassHeading => decide (heading.offset ≤ found.offset)
    have hfilter : (passed ++ ahead).filter notAfter = passed ++ ahead.takeWhile notAfter := by
      rw [List.filter_append, filter_eq_takeWhile hahead, List.filter_eq_self.2]
      exact fun heading hheading =>
        decide_eq_true (hpassed heading hheading found List.mem_cons_self)
    have hclass : classAt (passed ++ ahead) found.offset =
        ((passed ++ ahead.takeWhile notAfter).getLast?.map ClassHeading.name).getD
          unknownClass := by
      rw [classAt, hfilter]
    have hhere : (((ahead.takeWhile notAfter).getLast?.map ClassHeading.name).getD
        ((passed.getLast?.map ClassHeading.name).getD unknownClass)) =
          classAt (passed ++ ahead) found.offset := by
      rw [hclass, List.getLast?_append]
      -- If it passes none, the class stays that of the text before.
      cases (ahead.takeWhile notAfter).getLast? with
      | none => rfl
      | some heading => rfl
    have hrest := ih (passed ++ ahead.takeWhile notAfter) (ahead.dropWhile notAfter)
      (hahead.sublist (List.dropWhile_sublist _)) hfounds ?_
    · rw [← hclass, List.append_assoc, List.takeWhile_append_dropWhile] at hrest
      rw [withClass, List.map_cons, ← hrest]
      simp only [notAfter] at hhere ⊢
      rw [hhere]
    · intro heading hheading later hlater
      rcases List.mem_append.1 hheading with hheading | hheading
      · exact hpassed heading hheading later (List.mem_cons_of_mem _ hlater)
      · have hle : notAfter heading = true := List.mem_takeWhile_imp hheading
        exact (of_decide_eq_true hle).trans (hlt later hlater).le

/-- The test that a declaration of the source text stands for. -/
def testOf (naming : TestNaming) (source : String) (found : Found Declaration) : IndexedTest where
  className := classAt (ClassHeading.scan naming source.toList) found.offset
  name := String.ofList found.value.name
  params := String.ofList found.value.params
  doc := String.ofList (Docstring.line found.rest)
  offset := found.offset
  line := (LineIndex.ofText source.toList).lineOf found.offset

section

variable (naming : TestNaming) (source : String) (found : Found Declaration)

@[simp] theorem testOf_offset : (testOf naming source found).offset = found.offset := rfl

@[simp] theorem testOf_name :
    (testOf naming source found).name = String.ofList found.value.name := rfl

@[simp] theorem testOf_params :
    (testOf naming source found).params = String.ofList found.value.params := rfl

end

/-- The tests of the index are the declarations of the source text, one by one. -/
theorem indexTests_eq_map (naming : TestNaming) (source : String) :
    indexTests naming source =
      (Declaration.scan naming source.toList).map (testOf naming source) := by
  have h := withClass_eq_map [] _ (ClassHeading.pairwise_scan naming source.toList)
    (Declaration.pairwise_scan naming source.toList) (fun _ h => absurd h List.not_mem_nil)
  rw [indexTests]
  simp only [List.nil_append, List.getLast?_nil, Option.map_none, Option.getD_none] at h
  rw [h, List.map_map]
  rfl

theorem mem_indexTests_iff {naming : TestNaming} {source : String} {test : IndexedTest} :
    test ∈ indexTests naming source ↔
      ∃ found ∈ Declaration.scan naming source.toList, testOf naming source found = test := by
  rw [indexTests_eq_map, List.mem_map]

theorem className_of_mem_indexTests {naming : TestNaming} {source : String} {test : IndexedTest}
    (h : test ∈ indexTests naming source) :
    test.className = classAt (ClassHeading.scan naming source.toList) test.offset := by
  obtain ⟨found, -, rfl⟩ := mem_indexTests_iff.1 h
  rfl

/-! ## Classes by name -/

/-- The name of a class begins as the names of classes do. -/
theorem ClassHeading.isName_of_mem_scan {naming : TestNaming} {text : List Char}
    {heading : ClassHeading} (h : heading ∈ ClassHeading.scan naming text) :
    IsName naming.classPrefix.toList heading.name.toList := by
  have hp := ClassHeading.recognises_pattern naming.classPrefix.toList
  obtain ⟨found, hfound, rfl⟩ := List.mem_map.1 h
  rw [String.toList_ofList]
  exact (Pattern.scans_scanLines hp text).valid_of_mem hfound

/-- With the usual names, no class is called as if there were none. -/
theorem ClassHeading.name_ne_unknownClass {text : List Char} {heading : ClassHeading}
    (h : heading ∈ ClassHeading.scan {} text) : heading.name ≠ unknownClass := by
  intro hname
  obtain ⟨word, -, -, hword⟩ := ClassHeading.isName_of_mem_scan h
  rw [hname] at hword
  exact absurd (List.head_eq_of_cons_eq hword) (by decide)

/-- If no class is called `unknownClass`, that is the class of the places before all headings. -/
theorem classAt_eq_unknownClass_iff {headings : List ClassHeading} {offset : Nat}
    (h : ∀ heading ∈ headings, heading.name ≠ unknownClass) :
    classAt headings offset = unknownClass ↔ ∀ heading ∈ headings, offset < heading.offset := by
  rw [classAt]
  cases hlast : (headings.filter fun heading => heading.offset ≤ offset).getLast? with
  | none =>
    rw [List.getLast?_eq_none_iff, List.filter_eq_nil_iff] at hlast
    refine iff_of_true rfl fun heading hheading => ?_
    have := hlast heading hheading
    rwa [decide_eq_true_eq, Nat.not_le] at this
  | some heading =>
    obtain ⟨hheading, hle⟩ := List.mem_filter.1 (List.mem_of_getLast? hlast)
    refine iff_of_false (h heading hheading) fun hall => ?_
    exact absurd (of_decide_eq_true hle) (Nat.not_le.2 (hall heading hheading))

/-- The class of a test is that of the last heading not after it. With the usual names, no class is
    called `Unknown`, so that a test is of that class if and only if it stands before all
    headings. -/
theorem className_eq_classAt (source : String) :
    (∀ naming : TestNaming, ∀ test ∈ indexTests naming source,
      test.className = classAt (ClassHeading.scan naming source.toList) test.offset) ∧
    ∀ test ∈ indexTests {} source, test.className = "Unknown" ↔
      ∀ heading ∈ ClassHeading.scan {} source.toList, test.offset < heading.offset := by
  refine ⟨fun naming test htest => className_of_mem_indexTests htest, fun test htest => ?_⟩
  rw [className_of_mem_indexTests htest]
  exact classAt_eq_unknownClass_iff fun heading hheading =>
    ClassHeading.name_ne_unknownClass hheading

/-- A test behind a heading, where another test stands before it. -/
theorem className_eq_classAt_behind_heading :
    (⟨"TestB", "test_b", "", "", 27, 3⟩ : IndexedTest) ∈
        indexTests {} "def test_a():\nclass TestB:\n  def test_b():\n" ∧
      "TestB" = classAt
        (ClassHeading.scan {} "def test_a():\nclass TestB:\n  def test_b():\n".toList) 27 ∧
      ("TestB" = "Unknown" ↔ ∀ heading ∈
        ClassHeading.scan {} "def test_a():\nclass TestB:\n  def test_b():\n".toList,
          27 < heading.offset) := by
  have htest : (⟨"TestB", "test_b", "", "", 27, 3⟩ : IndexedTest) ∈
      indexTests {} "def test_a():\nclass TestB:\n  def test_b():\n" := by
    rw [indexTests, String.toList_ofList]
    simp only [LineIndex.lineOf_ofText]
    decide
  exact ⟨htest, (className_eq_classAt _).1 {} _ htest, (className_eq_classAt _).2 _ htest⟩

end Migration
