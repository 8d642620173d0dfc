import Migration.Comparison
import Migration.Proofs.Text.Bytes
import Migration.Proofs.Text.Order

/-!
# What a comparison says

A comparison is told by the names that are marked: the tests without a mark are those whose name is
not among them (`missing_eq`), and the stale names are those among them that no test has
(`mem_stale_iff`), by their bytes in ascending order (`pairwise_stale`). Since a set of marks has
every name once, its size is the number of its names (`marked_eq_card`).

The numbers of a comparison add up, of which some count tests and some count names. Every test is
either matched or missing (`matched_add_length_missing`), and every name that is marked is either
stale or the name of a test; a name that several tests have is counted once
(`marked_eq_length_stale_add`). None of this depends on the order of the names in a set of marks
(`ofTests_eq_of_perm`).
-/

namespace Migration

open Text

namespace Marks

variable (marks : Marks)

theorem contains_eq_true_iff {name : String} : marks.contains name = true ↔ name ∈ marks.names :=
  List.contains_iff_mem

theorem mem_sorted_iff {name : String} : name ∈ marks.sorted ↔ name ∈ marks.names :=
  (List.mergeSort_perm marks.names ascending).mem_iff

/-- No two names are the same, so the sorted names are strictly ascending. -/
theorem pairwise_sorted : marks.sorted.Pairwise (· < ·) := pairwise_lt_mergeSort marks.nodup

end Marks

namespace Comparison

variable (tests : List IndexedTest) (marks : Marks)

/-- The tests without a mark are those whose name is not marked, in their order. -/
theorem missing_eq :
    (ofTests tests marks).missing =
      (tests.filter fun test => test.name ∉ marks.names).map MissingTest.ofTest := by
  rw [ofTests]
  simp only
  congr 1
  refine List.filter_congr fun test _ => ?_
  rw [Bool.eq_iff_iff, Bool.not_eq_true', ← Bool.not_eq_true, marks.contains_eq_true_iff,
    decide_eq_true_eq]

/-- A test is listed as missing if and only if its name is not marked. (Another test that is listed
    in the same words has the same name.) -/
theorem ofTest_mem_missing_iff {test : IndexedTest} (htest : test ∈ tests) :
    MissingTest.ofTest test ∈ (ofTests tests marks).missing ↔ test.name ∉ marks.names := by
  rw [missing_eq, List.mem_map]
  constructor
  · rintro ⟨other, hother, heq⟩
    have hname : other.name = test.name := congrArg MissingTest.name heq
    rw [← hname]
    exact of_decide_eq_true (List.mem_filter.1 hother).2
  · exact fun hname => ⟨test, List.mem_filter.2 ⟨htest, decide_eq_true hname⟩, rfl⟩

theorem mem_stale_iff {name : String} :
    name ∈ (ofTests tests marks).stale ↔ name ∈ marks.names ∧ ∀ test ∈ tests, test.name ≠ name := by
  simp only [ofTests, List.mem_filter, marks.mem_sorted_iff, Bool.not_eq_true', ← Bool.not_eq_true,
    List.contains_iff_mem, List.mem_map, not_exists, not_and, ne_eq]

/-- The stale names come by their bytes, in ascending order. -/
theorem pairwise_stale :
    (ofTests tests marks).stale.Pairwise fun a b => bytes a < bytes b := by
  refine List.Pairwise.filter _ ?_
  exact marks.pairwise_sorted.imp lt_iff_bytes_lt.1

/-- What is counted as marked are the different names. -/
theorem marked_eq_card {names : List String} (h : ∀ name, name ∈ marks.names ↔ name ∈ names) :
    (ofTests tests marks).marked = names.toFinset.card := by
  have hnames : marks.names.toFinset = names.toFinset := by
    ext name
    rw [List.mem_toFinset, List.mem_toFinset, h]
  rw [← hnames, List.toFinset_card_of_nodup marks.nodup]
  rfl

/-- If exactly the names of the tests are marked, nothing is missing or stale. -/
theorem eq_nil_of_names_marked
    (h : ∀ name, name ∈ marks.names ↔ name ∈ tests.map IndexedTest.name) :
    (ofTests tests marks).missing = [] ∧ (ofTests tests marks).stale = [] ∧
      (ofTests tests marks).matched = (ofTests tests marks).total := by
  have hmissing : (ofTests tests marks).missing = [] := by
    rw [missing_eq, List.map_eq_nil_iff, List.filter_eq_nil_iff]
    intro test htest hmem
    exact of_decide_eq_true hmem ((h test.name).2 (List.mem_map_of_mem htest))
  have hstale : (ofTests tests marks).stale = [] := by
    refine List.eq_nil_iff_forall_not_mem.2 fun name hname => ?_
    obtain ⟨hmarked, hother⟩ := (mem_stale_iff tests marks).1 hname
    obtain ⟨test, htest, heq⟩ := List.mem_map.1 ((h name).1 hmarked)
    exact hother test htest heq
  refine ⟨hmissing, hstale, ?_⟩
  have hmatched : (ofTests tests marks).matched =
      tests.length - (ofTests tests marks).missing.length := rfl
  rw [hmatched, hmissing]
  rfl

/-! ## The numbers -/

theorem length_filter_add_length_missing :
    (tests.filter fun test => test.name ∈ marks.names).length +
      (ofTests tests marks).missing.length = tests.length := by
  rw [missing_eq, List.length_map, List.length_eq_length_filter_add (l := tests) fun test =>
    test.name ∈ marks.names]
  simp only [decide_not]

/-- The tests that are matched are those whose name is marked. -/
theorem matched_eq :
    (ofTests tests marks).matched = (tests.filter fun test => test.name ∈ marks.names).length := by
  have hmatched : (ofTests tests marks).matched =
      tests.length - (ofTests tests marks).missing.length := rfl
  rw [hmatched, ← length_filter_add_length_missing tests marks, Nat.add_sub_cancel]

/-- Every test is either matched or missing. -/
theorem matched_add_length_missing :
    (ofTests tests marks).matched + (ofTests tests marks).missing.length =
      (ofTests tests marks).total := by
  rw [matched_eq, length_filter_add_length_missing]
  rfl

/-- The names of the tests that are matched, each once. -/
def matchedNames : Finset String :=
  ((tests.filter fun test => test.name ∈ marks.names).map IndexedTest.name).toFinset

theorem mem_matchedNames_iff {name : String} :
    name ∈ matchedNames tests marks ↔ name ∈ marks.names ∧ ∃ test ∈ tests, test.name = name := by
  simp only [matchedNames, List.mem_toFinset, List.mem_map, List.mem_filter, decide_eq_true_eq]
  constructor
  · rintro ⟨test, ⟨htest, hmarked⟩, rfl⟩
    exact ⟨hmarked, test, htest, rfl⟩
  · rintro ⟨hmarked, test, htest, rfl⟩
    exact ⟨test, ⟨htest, hmarked⟩, rfl⟩

/-- Every name that is marked is either stale or that of a test. -/
theorem marked_eq_length_stale_add :
    (ofTests tests marks).marked =
      (ofTests tests marks).stale.length + (matchedNames tests marks).card := by
  have hnodup : (ofTests tests marks).stale.Nodup := by
    refine (pairwise_stale tests marks).imp ?_
    rintro a _ hlt rfl
    exact List.lt_irrefl _ hlt
  have hunion : marks.names.toFinset =
      (ofTests tests marks).stale.toFinset ∪ matchedNames tests marks := by
    ext name
    rw [Finset.mem_union, List.mem_toFinset, List.mem_toFinset, mem_stale_iff, mem_matchedNames_iff,
      ← and_or_left]
    refine (and_iff_left ?_).symm
    by_cases h : ∃ test ∈ tests, test.name = name
    · exact .inr h
    · exact .inl fun test htest heq => h ⟨test, htest, heq⟩
  have hdisjoint : Disjoint (ofTests tests marks).stale.toFinset (matchedNames tests marks) := by
    refine Finset.disjoint_left.2 fun name hstale hmatched => ?_
    obtain ⟨_, test, htest, heq⟩ := (mem_matchedNames_iff tests marks).1 hmatched
    exact ((mem_stale_iff tests marks).1 (List.mem_toFinset.1 hstale)).2 test htest heq
  calc (ofTests tests marks).marked
    _ = marks.names.toFinset.card := marked_eq_card tests marks fun _ => Iff.rfl
    _ = (ofTests tests marks).stale.toFinset.card + (matchedNames tests marks).card := by
      rw [hunion, Finset.card_union_of_disjoint hdisjoint]
    _ = (ofTests tests marks).stale.length + (matchedNames tests marks).card := by
      rw [List.toFinset_card_of_nodup hnodup]

/-- A name that is matched is that of a test that is matched. -/
theorem card_matchedNames_le : (matchedNames tests marks).card ≤ (ofTests tests marks).matched := by
  rw [matched_eq, ← List.length_map IndexedTest.name]
  exact List.toFinset_card_le _

/-- If all tests have different names, there are as many matched names as matched tests. -/
theorem card_matchedNames_of_nodup (h : (tests.map IndexedTest.name).Nodup) :
    (matchedNames tests marks).card = (ofTests tests marks).matched := by
  rw [matched_eq, ← List.length_map IndexedTest.name]
  exact List.toFinset_card_of_nodup (h.sublist (List.filter_sublist.map IndexedTest.name))

/-! ## What a comparison depends on -/

/-- The order of the names in a set of marks does not matter. -/
theorem ofTests_eq_of_perm {marks marks' : Marks} (h : marks'.names.Perm marks.names) :
    ofTests tests marks' = ofTests tests marks := by
  have hcontains (name : String) : marks'.contains name = marks.contains name := by
    rw [Bool.eq_iff_iff, marks'.contains_eq_true_iff, marks.contains_eq_true_iff, h.mem_iff]
  have hsize : marks'.size = marks.size := h.length_eq
  have hsorted : marks'.sorted = marks.sorted := by
    refine marks'.pairwise_sorted.eq_of_mem_iff marks.pairwise_sorted fun name => ?_
    rw [marks'.mem_sorted_iff, marks.mem_sorted_iff, h.mem_iff]
  simp only [ofTests, hcontains, hsize, hsorted]

/-- Of a test, only the class, the name and the docstring are looked at. -/
theorem ofTests_congr {tests tests' : List IndexedTest}
    (h : tests'.map MissingTest.ofTest = tests.map MissingTest.ofTest) :
    ofTests tests' marks = ofTests tests marks := by
  have hlength : tests'.length = tests.length := by
    rw [← List.length_map MissingTest.ofTest, h, List.length_map]
  have hnames : tests'.map IndexedTest.name = tests.map IndexedTest.name := by
    have := congrArg (List.map MissingTest.name) h
    rwa [List.map_map, List.map_map] at this
  have hmissing (tests : List IndexedTest) :
      (tests.filter fun test => !marks.contains test.name).map MissingTest.ofTest =
        (tests.map MissingTest.ofTest).filter fun missing => !marks.contains missing.name := by
    rw [List.filter_map]
    rfl
  simp only [ofTests, hlength, hnames, hmissing, h]

/-- The accounts of a comparison. The tests without a mark are listed as they stand in the list of
    tests, and together with the matched ones they are all the tests. The stale names are the marked
    names that no test has, by their bytes in strictly ascending order; together with the different
    names of the matched tests they are all the marked names. The order of the marked names does not
    matter. -/
theorem ofTests_accounts (tests : List IndexedTest) (marks : Marks) :
    let comparison := ofTests tests marks
    let matched := tests.filter fun test => test.name ∈ marks.names
    comparison.total = tests.length ∧
    comparison.missing =
      (tests.filter fun test => test.name ∉ marks.names).map MissingTest.ofTest ∧
    comparison.matched = matched.length ∧
    comparison.matched + comparison.missing.length = comparison.total ∧
    comparison.stale.Pairwise (fun a b => bytes a < bytes b) ∧
    (∀ name, name ∈ comparison.stale ↔
      name ∈ marks.names ∧ ∀ test ∈ tests, test.name ≠ name) ∧
    comparison.marked =
      comparison.stale.length + (matched.map IndexedTest.name).toFinset.card ∧
    comparison.marked - comparison.stale.length ≤ comparison.matched ∧
    ∀ marks' : Marks, marks'.names.Perm marks.names → ofTests tests marks' = comparison := by
  intro comparison matched
  have hmarked := marked_eq_length_stale_add tests marks
  refine ⟨rfl, missing_eq tests marks, matched_eq tests marks,
    matched_add_length_missing tests marks, pairwise_stale tests marks,
    fun name => mem_stale_iff tests marks, hmarked, ?_, fun marks' => ofTests_eq_of_perm tests⟩
  rw [hmarked, Nat.add_sub_cancel_left]
  exact card_matchedNames_le tests marks

/-- Two tests of one name with one mark between them, and two marks that no test has. -/
theorem ofTests_accounts_of_shared_name :
    let tests : List IndexedTest := [{ className := "TestA", name := "test_same" },
      { className := "TestB", name := "test_new", doc := "New." },
      { className := "TestB", name := "test_same" }]
    let marks := Marks.ofNames ["test_z", "test_same", "test_a"]
    let marks' := Marks.ofNames ["test_a", "test_z", "test_same"]
    (ofTests tests marks).missing = [⟨"TestB", "test_new", "New."⟩] ∧
      (ofTests tests marks).matched = 2 ∧
      (ofTests tests marks).marked = (ofTests tests marks).stale.length + 1 ∧
      "test_z" ∈ (ofTests tests marks).stale ∧
      marks'.names.Perm marks.names ∧ ofTests tests marks' = ofTests tests marks := by
  intro tests marks marks'
  have hperm : marks'.names.Perm marks.names := by decide
  obtain ⟨_, hmissing, hmatched, _, _, hstale, hmarked, _, horder⟩ :=
    ofTests_accounts tests marks
  exact ⟨hmissing.trans (by decide), hmatched.trans (by decide), hmarked,
    (hstale "test_z").2 (by decide), hperm, horder marks' hperm⟩

end Comparison

end Migration
