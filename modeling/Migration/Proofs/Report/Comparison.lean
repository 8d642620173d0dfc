import Migration.Proofs.Index.Docstring
import Migration.Proofs.Marks.Contract
import Migration.Proofs.Text.Join
import Migration.Proofs.Text.Lines
import Migration.Report.Render

/-!
# The report on a comparison, read back

The report on a comparison puts names and docstrings into lines as they are, without marks that tell
what is what. It can be read back all the same. If there is no line feed in them, the text of the
report tells its lines (`unlines_inj`). And then the first character of a line tells what it is: a
docstring starts with a blank, a name does not, and the empty line comes before the stale names
(`body_inj`). So reports that are the same are on comparisons with the same numbers, the same names
and docstrings that are missing, and the same stale names (`report_inj`).

What is asked of names and docstrings for this (`IsLegible`) holds of those that are found in source
texts (`isLegible_ofTexts`).
-/

namespace Migration

open Text

namespace Report

theorem toList_unlines (lines : List String) : (unlines lines).toList = ended "\n" lines := by
  rw [unlines, String.toList_join, List.flatMap_map]
  simp only [String.toList_append]
  rfl

/-- Lines without line feeds can be told from their text. -/
theorem unlines_inj {lines lines' : List String} (h : Separates "\n" lines)
    (h' : Separates "\n" lines') (heq : unlines lines = unlines lines') : lines = lines' := by
  have hended : ended "\n" lines = ended "\n" lines' := by
    rw [← toList_unlines, heq, toList_unlines]
  have hnext : lines <+: lines' := prefix_of_ended (by decide) h h' (by rw [hended])
  have hback : lines' <+: lines := prefix_of_ended (by decide) h' h (by rw [hended])
  exact hnext.eq_of_length (le_antisymm hnext.length_le hback.length_le)

end Report

open Report

/-- A missing test of which the lines can be told from other lines: its name starts with a character
    that is no blank, and neither its name nor its docstring goes over to another line. -/
structure MissingTest.IsLegible (test : MissingTest) : Prop where
  starts : ∃ c rest, test.name.toList = c :: rest ∧ c ≠ ' '
  name : '\n' ∉ test.name.toList
  doc : '\n' ∉ test.doc.toList

namespace Comparison

theorem bodyLines_cons (coloured : Bool) (test : MissingTest) (missing : List MissingTest)
    (stale : List String) :
    bodyLines coloured (test :: missing) stale =
      test.name :: (docLines test.doc ++ bodyLines coloured missing stale) := by
  rw [bodyLines, List.flatMap_cons, List.append_assoc, ← bodyLines, List.cons_append]

/-! ## Telling the parts apart -/

theorem toList_indented (doc : String) :
    ("    " ++ doc).toList = ' ' :: ' ' :: ' ' :: ' ' :: doc.toList := by
  rw [String.toList_append]
  rfl

/-- The first line is none with a docstring. -/
def Unindented (lines : List String) : Prop := ∀ doc more, lines ≠ ("    " ++ doc) :: more

/-- The first line behind the missing tests is empty, if there is one. -/
theorem eq_empty_of_staleLines {stale more : List String} {line : String}
    (h : staleLines false stale = line :: more) : line = "" := by
  rw [staleLines] at h
  split at h
  · cases h
  · exact (List.head_eq_of_cons_eq h).symm

theorem unindented_bodyLines {missing : List MissingTest} (h : ∀ test ∈ missing, test.IsLegible)
    (stale : List String) : Unindented (bodyLines false missing stale) := by
  intro doc more heq
  cases missing with
  | nil =>
    have hempty := congrArg String.toList (eq_empty_of_staleLines heq)
    rw [toList_indented] at hempty
    cases hempty
  | cons test missing =>
    obtain ⟨c, rest, hname, hc⟩ := (h test List.mem_cons_self).starts
    rw [bodyLines_cons] at heq
    have hline := congrArg String.toList (List.head_eq_of_cons_eq heq)
    rw [hname, toList_indented] at hline
    exact hc (List.head_eq_of_cons_eq hline)

/-- A docstring can be told from what comes next, and so can its absence. -/
theorem docLines_inj {doc doc' : String} {lines lines' : List String} (h : Unindented lines)
    (h' : Unindented lines') (heq : docLines doc ++ lines = docLines doc' ++ lines') :
    doc = doc' ∧ lines = lines' := by
  rw [docLines, docLines] at heq
  split_ifs at heq with hdoc hdoc' hdoc'
  · exact ⟨(String.isEmpty_iff.1 hdoc).trans (String.isEmpty_iff.1 hdoc').symm, heq⟩
  · exact absurd heq (h doc' lines')
  · exact absurd heq.symm (h' doc lines)
  · obtain ⟨hline, hlines⟩ := List.cons.inj heq
    have hlists := congrArg String.toList hline
    rw [toList_indented, toList_indented] at hlists
    simp only [List.cons.injEq, true_and] at hlists
    exact ⟨String.toList_inj.1 hlists, hlines⟩

theorem staleLines_inj {stale stale' : List String}
    (heq : staleLines false stale = staleLines false stale') : stale = stale' := by
  cases stale with
  | nil =>
    cases stale' with
    | nil => rfl
    | cons name' stale' => cases heq
  | cons name stale =>
    cases stale' with
    | nil => cases heq
    | cons name' stale' => exact List.append_cancel_left heq

theorem body_inj {missing missing' : List MissingTest} {stale stale' : List String}
    (h : ∀ test ∈ missing, test.IsLegible) (h' : ∀ test ∈ missing', test.IsLegible)
    (heq : bodyLines false missing stale = bodyLines false missing' stale') :
    missing.map (fun test => (test.name, test.doc)) =
      missing'.map (fun test => (test.name, test.doc)) ∧ stale = stale' := by
  have hnone {test : MissingTest} (hlegible : test.IsLegible) (stale more : List String) :
      staleLines false stale ≠ test.name :: more := by
    intro heq
    obtain ⟨c, rest, hname, _⟩ := hlegible.starts
    rw [eq_empty_of_staleLines heq] at hname
    cases hname
  -- The first line tells if there is a missing test, and its name.
  induction missing generalizing missing' with
  | nil =>
    cases missing' with
    | nil => exact ⟨rfl, staleLines_inj heq⟩
    | cons test' missing' =>
      rw [bodyLines_cons] at heq
      exact absurd heq (hnone (h' test' List.mem_cons_self) _ _)
  | cons test missing ih =>
    cases missing' with
    | nil =>
      rw [bodyLines_cons] at heq
      exact absurd heq.symm (hnone (h test List.mem_cons_self) _ _)
    | cons test' missing' =>
      obtain ⟨_, h⟩ := List.forall_mem_cons.1 h
      obtain ⟨_, h'⟩ := List.forall_mem_cons.1 h'
      rw [bodyLines_cons, bodyLines_cons] at heq
      obtain ⟨hname, hlines⟩ := List.cons.inj heq
      obtain ⟨hdoc, hlines⟩ :=
        docLines_inj (unindented_bodyLines h stale) (unindented_bodyLines h' stale') hlines
      obtain ⟨hmissing, hstale⟩ := ih h h' hlines
      rw [List.map_cons, List.map_cons, hname, hdoc, hmissing]
      exact ⟨rfl, hstale⟩

/-! ## Reading a report back -/

/-- A comparison of which the report can be read back. -/
structure IsLegible (comparison : Comparison) : Prop where
  missing : ∀ test ∈ comparison.missing, test.IsLegible
  stale : ∀ name ∈ comparison.stale, '\n' ∉ name.toList

theorem lineFeed_not_mem_count {label : String} (h : '\n' ∉ label.toList) (n : Nat) :
    '\n' ∉ (label ++ toString n).toList := by
  rw [String.toList_append, List.mem_append, not_or, Nat.toString_eq_ofList_toDigits,
    String.toList_ofList]
  refine ⟨h, fun hmem => ?_⟩
  exact absurd (Nat.isDigit_of_mem_toDigits (by decide) (by decide) hmem) (by decide)

theorem count_inj {label : String} {m n : Nat} (h : label ++ toString m = label ++ toString n) :
    m = n := by
  have hdigits := (String.append_right_inj label).1 h
  rw [Nat.toString_eq_ofList_toDigits, Nat.toString_eq_ofList_toDigits, String.ofList_inj]
    at hdigits
  have hvalues := congrArg (fun digits => Nat.ofDigitChars 10 digits 0) hdigits
  simpa only [Nat.ofDigitChars_ten_toDigits] using hvalues

/-- No line of a report goes over to another one. -/
theorem IsLegible.separates {comparison : Comparison} (h : comparison.IsLegible) :
    Separates "\n" (comparison.countLines false ++
      bodyLines false comparison.missing comparison.stale) := by
  have hcounts : ∀ line ∈ comparison.countLines false, '\n' ∉ line.toList := by
    simp only [countLines, List.forall_mem_cons]
    exact ⟨lineFeed_not_mem_count (by decide) _, lineFeed_not_mem_count (by decide) _,
      lineFeed_not_mem_count (by decide) _, by decide, by decide, nofun⟩
  have hmissing : ∀ line ∈ comparison.missing.flatMap fun test => test.name :: docLines test.doc,
      '\n' ∉ line.toList := by
    intro line hline
    obtain ⟨test, htest, hline⟩ := List.mem_flatMap.1 hline
    obtain ⟨_, hname, hdoc⟩ := h.missing test htest
    rcases List.mem_cons.1 hline with rfl | hline
    · exact hname
    · rw [docLines] at hline
      split_ifs at hline
      · cases hline
      · rw [List.mem_singleton.1 hline, toList_indented]
        simpa using hdoc
  have hstale : ∀ line ∈ staleLines false comparison.stale, '\n' ∉ line.toList := by
    rw [staleLines]
    split
    · exact nofun
    · exact List.forall_mem_append.2 ⟨by decide, h.stale⟩
  have hall : ∀ line ∈ comparison.countLines false ++
      bodyLines false comparison.missing comparison.stale, '\n' ∉ line.toList :=
    List.forall_mem_append.2 ⟨hcounts, List.forall_mem_append.2 ⟨hmissing, hstale⟩⟩
  intro line hline c hc
  obtain rfl : c = '\n' := by simpa using hc
  exact hall line hline

/-- A report can be read back. -/
theorem report_inj {comparison other : Comparison} (h : comparison.IsLegible)
    (h' : other.IsLegible) (heq : comparison.report false = other.report false) :
    comparison.total = other.total ∧ comparison.marked = other.marked ∧
      comparison.missing.map (fun test => (test.name, test.doc)) =
        other.missing.map (fun test => (test.name, test.doc)) ∧
      comparison.stale = other.stale := by
  rw [report, report] at heq
  obtain ⟨hcounts, hbody⟩ := List.append_inj (unlines_inj h.separates h'.separates heq) rfl
  simp only [countLines, List.cons.injEq] at hcounts
  obtain ⟨htotal, hmarked, _⟩ := hcounts
  exact ⟨count_inj htotal, count_inj hmarked, body_inj h.missing h'.missing hbody⟩

/-! ## Comparisons of source texts -/

/-- A name does not start with a space, unless its beginning does. -/
theorem exists_starts_of_isName {beginning name : List Char} (h : IsName beginning name)
    (hbeginning : beginning.head? ≠ some ' ') : ∃ c rest, name = c :: rest ∧ c ≠ ' ' := by
  obtain ⟨word, hne, hword, rfl⟩ := h
  cases beginning with
  | nil =>
    obtain ⟨c, rest, rfl⟩ := List.exists_cons_of_ne_nil hne
    refine ⟨c, rest, rfl, ?_⟩
    rintro rfl
    exact absurd (hword ' ' List.mem_cons_self) (by decide)
  | cons c beginning => exact ⟨c, beginning ++ word, rfl, fun heq => hbeginning (by rw [heq]; rfl)⟩

/-- The comparison of the tests in an origin text with the marks in a target text. -/
def ofTexts (naming : TestNaming) (origin target : String) : Comparison :=
  ofTests (indexTests naming origin) (Marks.scan naming.functionPrefix target)

/-- What is found in texts can be read back from the report on it. -/
theorem isLegible_ofTexts {naming : TestNaming}
    (hspace : naming.functionPrefix.toList.head? ≠ some ' ')
    (hfeed : '\n' ∉ naming.functionPrefix.toList) (origin target : String) :
    (ofTexts naming origin target).IsLegible := by
  constructor
  · intro missing hmissing
    rw [ofTexts, missing_eq] at hmissing
    obtain ⟨test, htest, rfl⟩ := List.mem_map.1 hmissing
    have hmem := (List.mem_filter.1 htest).1
    have hname := isName_of_mem_indexTests hmem
    refine ⟨exists_starts_of_isName hname hspace, hname.not_mem (by decide) hfeed, ?_⟩
    obtain ⟨found, _, rfl⟩ := mem_indexTests_iff.1 hmem
    have hdoc : (MissingTest.ofTest (testOf naming origin found)).doc =
        String.ofList (Docstring.line found.rest) := rfl
    rw [hdoc, String.toList_ofList]
    exact Docstring.lineFeed_not_mem_line found.rest
  · intro name hname
    have hmarked := ((mem_stale_iff _ _).1 hname).1
    exact (Marks.isName_of_mem_scan hmarked).not_mem (by decide) hfeed

/-- With the usual names, the report on an origin text and a target text tells the number of tests
    and of marked names, the names and docstrings of the missing tests in their order, and the stale
    names. -/
theorem report_unambiguous (origin target origin' target' : String)
    (h : (ofTexts {} origin target).report false = (ofTexts {} origin' target').report false) :
    (ofTexts {} origin target).total = (ofTexts {} origin' target').total ∧
      (ofTexts {} origin target).marked = (ofTexts {} origin' target').marked ∧
      (ofTexts {} origin target).missing.map (fun test => (test.name, test.doc)) =
        (ofTexts {} origin' target').missing.map (fun test => (test.name, test.doc)) ∧
      (ofTexts {} origin target).stale = (ofTexts {} origin' target').stale := by
  have hlegible (origin target : String) : (ofTexts {} origin target).IsLegible :=
    isLegible_ofTexts (by decide) (by decide) origin target
  exact report_inj (hlegible origin target) (hlegible origin' target') h

/-- Tests that differ in their classes and in what stands behind the first lines of their
    docstrings, and a mark that is stale for both. -/
theorem report_unambiguous_of_classes :
    let target := "// Original: def test_b("
    let comparison := ofTexts {} "def test_a():\n \"\"\"A.\"\"\"\n" target
    let other := ofTexts {} "class TestB:\n def test_a():\n  '''A.\n B.'''\n" target
    comparison = ⟨1, 1, 0, [⟨"Unknown", "test_a", "A."⟩], ["test_b"]⟩ ∧
      other = ⟨1, 1, 0, [⟨"TestB", "test_a", "A."⟩], ["test_b"]⟩ ∧
      comparison.report false = other.report false ∧
      comparison.total = other.total ∧ comparison.marked = other.marked ∧
      comparison.missing.map (fun test => (test.name, test.doc)) =
        other.missing.map (fun test => (test.name, test.doc)) ∧
      comparison.stale = other.stale := by
  intro target comparison other
  have hmarks : Marks.scan "test_" target = ⟨["test_b"], by decide⟩ := by
    rw [Marks.scan, String.toList_ofList]
    decide
  have hcomparison : comparison = ⟨1, 1, 0, [⟨"Unknown", "test_a", "A."⟩], ["test_b"]⟩ := by
    have htests : indexTests {} "def test_a():\n \"\"\"A.\"\"\"\n" =
        [⟨"Unknown", "test_a", "", "A.", 0, 1⟩] := by
      rw [indexTests, String.toList_ofList]
      simp only [LineIndex.lineOf_ofText]
      decide
    simp only [comparison, ofTexts, htests, hmarks, ofTests, Marks.sorted,
      List.mergeSort_singleton]
    decide
  have hother : other = ⟨1, 1, 0, [⟨"TestB", "test_a", "A."⟩], ["test_b"]⟩ := by
    have htests : indexTests {} "class TestB:\n def test_a():\n  '''A.\n B.'''\n" =
        [⟨"TestB", "test_a", "", "A.", 13, 2⟩] := by
      rw [indexTests, String.toList_ofList]
      simp only [LineIndex.lineOf_ofText]
      decide
    simp only [other, ofTexts, htests, hmarks, ofTests, Marks.sorted, List.mergeSort_singleton]
    decide
  have hreport : comparison.report false = other.report false := by
    rw [hcomparison, hother]
    rfl
  exact ⟨hcomparison, hother, hreport, report_unambiguous _ _ _ _ hreport⟩

end Comparison

end Migration
