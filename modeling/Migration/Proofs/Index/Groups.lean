import Migration.Proofs.Index.ClassAssociation
import Migration.Proofs.Text.Dictionary
import Migration.Proofs.Text.Lines

/-!
# Tests class by class

Tests are put into groups in one pass, each behind the others of its class, or in a new group behind
the other groups. The pass finds the group of a class by its number, which it has in a table, and
the number is always right (`ClassGroups.Holds`). So what comes out can be told for every class on
its own (`groupsOf`): the classes come in the order of their first tests, and each has its tests in
their order. One more test is all the difference that one step makes (`ClassGroups.Holds.add`), so
this holds of the whole pass (`byClass_eq_groupsOf`), whichever way the classes take turns. Nothing
is lost by it (`byClass_gathers`).

The tests of a source text need not be moved at all if no two of its classes have the same name.
The class of a test is then as good as the number of headings that are not after it
(`classAt_eq_iff`), and that number goes up along the index. So the groups, one behind the other,
are the index as it stands (`flatMap_byClass_indexTests`).
-/

namespace Migration

open Text

/-! ## Groups told class by class -/

/-- The classes of tests, in the order of their first tests. -/
def classesOf (tests : List IndexedTest) : List String :=
  (tests.map IndexedTest.className).eraseDups

/-- The tests of one class. -/
def testsOf (tests : List IndexedTest) (className : String) : List IndexedTest :=
  tests.filter fun test => test.className == className

/-- The tests class by class, told for every class on its own. -/
def groupsOf (tests : List IndexedTest) : List (String × List IndexedTest) :=
  (classesOf tests).map fun className => (className, testsOf tests className)

theorem mem_classesOf_iff {tests : List IndexedTest} {className : String} :
    className ∈ classesOf tests ↔ ∃ test ∈ tests, test.className = className := by
  rw [classesOf, List.mem_eraseDups, List.mem_map]

theorem testsOf_append (tests more : List IndexedTest) (className : String) :
    testsOf (tests ++ more) className = testsOf tests className ++ testsOf more className :=
  List.filter_append tests more

section Step

variable {test : IndexedTest}

theorem testsOf_singleton : testsOf [test] test.className = [test] := by
  simp [testsOf]

theorem testsOf_singleton_of_ne {className : String} (h : className ≠ test.className) :
    testsOf [test] className = [] := by
  simp [testsOf, h.symm]

/-! ## One more test -/

/-- The groups are those of the classes in their order, and the table has the number of each. -/
structure ClassGroups.Holds (found : ClassGroups) (classes : List String)
    (members : String → List IndexedTest) : Prop where
  nodup : classes.Nodup
  groups : found.groups = classes.map fun className => (className, members className)
  slots : ∀ className, found.slots.get? className =
    if className ∈ classes then some (classes.idxOf className) else none

theorem modify_idxOf {β : Type} {classes : List String} {className : String}
    (hclasses : classes.Nodup) (h : className ∈ classes) (f : String → β) (change : β → β) :
    (classes.map f).modify (classes.idxOf className) change =
      classes.map fun other => if other = className then change (f other) else f other := by
  induction classes with
  | nil => cases h
  | cons first classes ih =>
    obtain ⟨hfirst, hclasses⟩ := List.nodup_cons.1 hclasses
    by_cases heq : first = className
    · subst heq
      have hrest : ∀ other ∈ classes,
          f other = if other = first then change (f other) else f other :=
        fun other hother => (if_neg (ne_of_mem_of_not_mem hother hfirst)).symm
      rw [List.idxOf_cons_self, List.map_cons, List.modify_zero_cons, List.map_cons, if_pos rfl,
        List.map_congr_left hrest]
    · have hmem := (List.mem_cons.1 h).resolve_left (Ne.symm heq)
      rw [List.idxOf_cons_ne _ heq, List.map_cons, List.modify_succ_cons, ih hclasses hmem,
        List.map_cons, if_neg heq]

variable {found : ClassGroups} {classes : List String} {members : String → List IndexedTest}

/-- A group for a class is there already, or it is made at the end. -/
theorem ClassGroups.Holds.opened (h : found.Holds classes members) {className : String}
    (hnew : className ∉ classes → members className = []) :
    (found.opened className).Holds
      (if className ∈ classes then classes else classes ++ [className]) members := by
  unfold ClassGroups.opened
  rw [h.slots]
  by_cases hmem : className ∈ classes
  · simpa [hmem] using h
  simp only [hmem, if_false, Option.isSome_none, Bool.false_eq_true]
  refine ⟨List.nodup_append.2 ⟨h.nodup, List.nodup_singleton _, ?_⟩, ?_, fun other => ?_⟩
  · intro other hother last hlast
    rw [List.mem_singleton.1 hlast]
    exact ne_of_mem_of_not_mem hother hmem
  · rw [h.groups, List.map_append, List.map_singleton, hnew hmem]
  · rw [Dictionary.get?_insert, h.slots, h.groups, List.length_map]
    by_cases hother : other = className
    · subst hother
      simp [List.idxOf_append_of_notMem hmem]
    · by_cases hold : other ∈ classes
      · simp [hother, hold, List.idxOf_append_of_mem hold]
      · simp [hother, hold]

/-- A step of the pass: the test goes to the group of its class, and the others stay. -/
theorem ClassGroups.Holds.add (h : found.Holds classes members)
    (hnew : test.className ∉ classes → members test.className = []) :
    (found.add test).Holds
      (if test.className ∈ classes then classes else classes ++ [test.className])
      fun className => members className ++ testsOf [test] className := by
  have hopened := h.opened hnew
  generalize hall : (if test.className ∈ classes then classes else classes ++ [test.className]) =
    all at hopened ⊢
  have hmem : test.className ∈ all := by
    rw [← hall]
    split_ifs with hold
    · exact hold
    · exact List.mem_append_right _ (List.mem_singleton_self _)
  refine ⟨hopened.nodup, ?_, hopened.slots⟩
  rw [ClassGroups.add]
  dsimp only
  rw [hopened.slots, if_pos hmem, Option.getD_some, hopened.groups,
    modify_idxOf hopened.nodup hmem]
  refine List.map_congr_left fun className _ => ?_
  split_ifs with heq
  · rw [heq, testsOf_singleton]
  · rw [testsOf_singleton_of_ne heq, List.append_nil]

end Step

/-! ## The whole pass -/

theorem holds_foldl (tests : List IndexedTest) :
    (tests.foldl ClassGroups.add {}).Holds (classesOf tests) (testsOf tests) := by
  induction tests using List.reverseRecOn with
  | nil => exact ⟨.nil, rfl, fun _ => rfl⟩
  | append_singleton tests test ih =>
    -- If no test before had this class, then there is no test of it.
    have hnew (h : test.className ∉ classesOf tests) : testsOf tests test.className = [] :=
      List.filter_eq_nil_iff.2 fun other hother heq =>
        h (mem_classesOf_iff.2 ⟨other, hother, beq_iff_eq.1 heq⟩)
    have hclasses : classesOf (tests ++ [test]) =
        if test.className ∈ classesOf tests then classesOf tests
        else classesOf tests ++ [test.className] := by
      rw [classesOf, List.map_append, List.map_singleton, eraseDups_concat, ← classesOf]
      simp only [classesOf, List.mem_eraseDups]
    have hmembers : testsOf (tests ++ [test]) =
        fun className => testsOf tests className ++ testsOf [test] className :=
      funext fun className => testsOf_append tests [test] className
    rw [List.foldl_append, List.foldl_cons, List.foldl_nil, hclasses, hmembers]
    exact ih.add hnew

theorem byClass_eq_groupsOf (tests : List IndexedTest) : byClass tests = groupsOf tests :=
  (holds_foldl tests).groups

theorem map_fst_byClass (tests : List IndexedTest) :
    (byClass tests).map Prod.fst = classesOf tests := by
  rw [byClass_eq_groupsOf, groupsOf, List.map_map]
  exact List.map_id _

theorem flatMap_byClass (tests : List IndexedTest) :
    (byClass tests).flatMap Prod.snd = (classesOf tests).flatMap (testsOf tests) := by
  rw [byClass_eq_groupsOf, groupsOf, List.flatMap_map]

/-- The classes of the groups are different and come in the order in which they come up first. Every
    group has tests, those of its class in their order, and together the groups have all tests. -/
theorem byClass_gathers (tests : List IndexedTest) :
    let firstAt := fun className => (tests.map IndexedTest.className).idxOf className
    ((byClass tests).map Prod.fst).Nodup ∧
    (byClass tests).Pairwise (fun a b => firstAt a.1 < firstAt b.1) ∧
    (∀ group ∈ byClass tests,
      group.2 ≠ [] ∧ group.2 = tests.filter fun test => test.className = group.1) ∧
    ((byClass tests).flatMap Prod.snd).Perm tests := by
  intro firstAt
  refine ⟨?_, ?_, fun group hgroup => ?_, ?_⟩
  · rw [map_fst_byClass]
    exact nodup_eraseDups _
  · have horder := pairwise_idxOf_eraseDups (tests.map IndexedTest.className)
    rw [← classesOf, ← map_fst_byClass] at horder
    exact (List.pairwise_map (f := Prod.fst)).1 horder
  · rw [byClass_eq_groupsOf] at hgroup
    obtain ⟨className, hclass, rfl⟩ := List.mem_map.1 hgroup
    obtain ⟨test, htest, hname⟩ := mem_classesOf_iff.1 hclass
    have hmem : test ∈ testsOf tests className := List.mem_filter.2 ⟨htest, beq_iff_eq.2 hname⟩
    exact ⟨List.ne_nil_of_mem hmem, rfl⟩
  · rw [flatMap_byClass]
    refine flatMap_filter_perm IndexedTest.className (nodup_eraseDups _) fun test htest => ?_
    exact mem_classesOf_iff.2 ⟨test, htest, rfl⟩

/-- A class that comes up again behind another one. -/
theorem byClass_gathers_of_turns :
    let first : IndexedTest := { className := "TestB", name := "test_a" }
    let second : IndexedTest := { className := "TestA", name := "test_b" }
    let third : IndexedTest := { className := "TestB", name := "test_c" }
    ("TestB", [first, third]) ∈ byClass [first, second, third] ∧
      [first, third] = [first, second, third].filter (fun test => test.className = "TestB") ∧
      ((byClass [first, second, third]).flatMap Prod.snd).Perm [first, second, third] := by
  intro first second third
  have hgroup : ("TestB", [first, third]) ∈ byClass [first, second, third] := by decide
  obtain ⟨-, -, hmembers, hall⟩ := byClass_gathers [first, second, third]
  exact ⟨hgroup, (hmembers _ hgroup).2, hall⟩

/-! ## Classes that do not come up again -/

/-- The number of headings that are not after an offset. -/
def passedCount (headings : List ClassHeading) (offset : Nat) : Nat :=
  headings.countP fun heading => heading.offset ≤ offset

theorem passedCount_mono (headings : List ClassHeading) {a b : Nat} (h : a ≤ b) :
    passedCount headings a ≤ passedCount headings b := by
  refine List.countP_mono_left fun heading _ hle => ?_
  exact decide_eq_true ((of_decide_eq_true hle).trans h)

section Headings

variable {headings : List ClassHeading} (h : headings.Pairwise fun a b => a.offset < b.offset)

include h

/-- That number is the place of the class in the list of names, behind the one for no class. -/
theorem getElem?_passedCount (offset : Nat) :
    (unknownClass :: headings.map ClassHeading.name)[passedCount headings offset]? =
      some (classAt headings offset) := by
  rw [classAt, passedCount, List.countP_eq_length_filter, filter_eq_takeWhile h offset]
  obtain ⟨ahead, hahead⟩ := List.takeWhile_prefix (l := headings)
    fun heading => decide (heading.offset ≤ offset)
  generalize headings.takeWhile (fun heading => decide (heading.offset ≤ offset)) = passed
    at hahead ⊢
  subst hahead
  cases passed using List.reverseRecOn with
  | nil => rfl
  | append_singleton passed heading => simp

theorem classAt_eq_iff (hnames : (unknownClass :: headings.map ClassHeading.name).Nodup)
    (a b : Nat) :
    classAt headings a = classAt headings b ↔ passedCount headings a = passedCount headings b := by
  have hlt : passedCount headings a <
      (unknownClass :: headings.map ClassHeading.name).length := by
    rw [List.length_cons, List.length_map]
    exact Nat.lt_succ_of_le List.countP_le_length
  rw [← Option.some_inj, ← getElem?_passedCount h a, ← getElem?_passedCount h b]
  exact List.getElem?_inj hlt hnames

end Headings

section Source

variable {naming : TestNaming} {source : String}

theorem pairwise_indexTests :
    (indexTests naming source).Pairwise fun a b => a.offset < b.offset := by
  rw [indexTests_eq_map]
  exact List.pairwise_map.2 (Declaration.pairwise_scan naming source.toList)

/-- If classes have different names, also from the one for no class, then the groups are the index
    in pieces. -/
theorem flatMap_byClass_of_nodup
    (h : (unknownClass ::
      (ClassHeading.scan naming source.toList).map ClassHeading.name).Nodup) :
    (byClass (indexTests naming source)).flatMap Prod.snd = indexTests naming source := by
  rw [flatMap_byClass]
  refine flatMap_filter_eq_self IndexedTest.className
    (fun test => passedCount (ClassHeading.scan naming source.toList) test.offset)
    (pairwise_indexTests.imp fun hlt => passedCount_mono _ hlt.le) fun a ha b hb => ?_
  rw [className_of_mem_indexTests ha, className_of_mem_indexTests hb]
  exact classAt_eq_iff (ClassHeading.pairwise_scan naming source.toList) h a.offset b.offset

end Source

/-- With the usual names, and if no two classes have the same one, the groups of the index, one
    behind the other, are the index. -/
theorem flatMap_byClass_indexTests (source : String)
    (h : ((ClassHeading.scan {} source.toList).map ClassHeading.name).Nodup) :
    (byClass (indexTests {} source)).flatMap Prod.snd = indexTests {} source := by
  refine flatMap_byClass_of_nodup (List.nodup_cons.2 ⟨fun hmem => ?_, h⟩)
  obtain ⟨heading, hheading, hname⟩ := List.mem_map.1 hmem
  exact ClassHeading.name_ne_unknownClass hheading hname

/-- A test before all classes, a class without tests behind it, and a class with two. -/
theorem flatMap_byClass_indexTests_around_empty_class :
    let source := "def test_c():\nclass TestB:\nclass TestA:\n def test_b():\n def test_a():\n"
    ((ClassHeading.scan {} source.toList).map ClassHeading.name).Nodup ∧
      (byClass (indexTests {} source)).map (fun group =>
        (group.1, group.2.map IndexedTest.name)) =
          [("Unknown", ["test_c"]), ("TestA", ["test_b", "test_a"])] ∧
      (byClass (indexTests {} source)).flatMap Prod.snd = indexTests {} source := by
  intro source
  have hsource : source.toList = _ := String.toList_ofList
  have hnames : ((ClassHeading.scan {} source.toList).map ClassHeading.name).Nodup := by
    rw [hsource]
    decide
  have hgroups : (byClass (indexTests {} source)).map (fun group =>
      (group.1, group.2.map IndexedTest.name)) =
        [("Unknown", ["test_c"]), ("TestA", ["test_b", "test_a"])] := by
    rw [indexTests, hsource]
    simp only [LineIndex.lineOf_ofText]
    decide
  exact ⟨hnames, hgroups, flatMap_byClass_indexTests source hnames⟩

end Migration
