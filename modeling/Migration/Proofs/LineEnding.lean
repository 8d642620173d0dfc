import Migration.Proofs.Index.Context
import Migration.Proofs.Marks.Contract
import Migration.Proofs.Text.LineEnding

/-!
# Line endings in sources and targets

A source text may be written with a carriage return before every line feed, and so may a target
text. The index does not tell the two forms apart, but for the places of its tests, which move by
one byte for every line, and for parameters that go over several lines, which are kept as they are
written (`indexTests_withCrlf`). It takes all parts of the index for that:

* docstrings: the end of the declaration's line and the blanks before the opening quote are read in
  both forms, and the carriage return at the end of the first line of a docstring is trimmed
  (`Docstring.line_crlf`);
* declarations: line feeds are in their parameters only (`Declaration.crlfInvariant_pattern`);
* headings and marks: they have no line feed (`crlfInvariant_enclosedName`).

So the comparison of an origin with a target is the same for all four ways to write the two
(`comparison_withCrlf`).
-/

namespace Migration

open Text

/-! ## Docstrings -/

namespace Docstring

/-- What follows the line is found behind its line feed, whatever comes before that. -/
theorem after?_lineFeed_crlf (text : List Char) :
    after? ['\n'] ((crlf text).dropWhile (· != '\n')) =
      (after? ['\n'] (text.dropWhile (· != '\n'))).map crlf := by
  induction text with
  | nil => rfl
  | cons c text ih =>
    by_cases hc : c = '\n'
    · subst hc
      rfl
    · have hkind : (c != '\n') = true := by rwa [bne_iff_ne]
      rw [crlf_cons_of_ne hc, List.dropWhile_cons, List.dropWhile_cons, if_pos hkind, if_pos hkind,
        ih]

theorem nextLine?_crlf {text : List Char} (h : '\r' ∉ text) :
    nextLine? (crlf text) = (nextLine? text).map crlf := by
  have hrest : '\r' ∉ text.dropWhile isIndent :=
    fun hmem => h ((List.dropWhile_sublist _).subset hmem)
  rw [nextLine?, nextLine?, dropWhile_crlf (by decide)]
  generalize text.dropWhile isIndent = rest at hrest
  cases rest with
  | nil => rfl
  | cons c rest =>
    by_cases hfeed : c = '\n'
    · subst hfeed
      rfl
    · rw [crlf_cons_of_ne hfeed]
      by_cases hcomment : c = '#'
      · subst hcomment
        exact after?_lineFeed_crlf rest
      · have hreturn : c ≠ '\r' := fun hc => hrest (hc ▸ List.mem_cons_self)
        split <;> simp_all

theorem dropKind_crlf (text : List Char) : dropKind (crlf text) = crlf (dropKind text) := by
  cases text with
  | nil => rfl
  | cons c text =>
    by_cases hc : c = '\n'
    · subst hc
      rfl
    · rw [crlf_cons_of_ne hc, dropKind, dropKind]
      split
      · rfl
      · rw [crlf_cons_of_ne hc]

theorem before?_crlf {mark : List Char} (hne : mark ≠ []) (hfeed : '\n' ∉ mark)
    (hreturn : '\r' ∉ mark) (text : List Char) :
    before? mark (crlf text) = (before? mark text).map crlf := by
  have hlast : mark.getLast? ≠ some '\r' := fun h => hreturn (List.mem_of_getLast? h)
  have hnone {c : Char} (hc : c ∉ mark) (rest : List Char) : after? mark (c :: rest) = none := by
    refine Option.eq_none_iff_forall_ne_some.2 fun behind h => hc ?_
    obtain ⟨d, word, rfl⟩ := List.exists_cons_of_ne_nil hne
    rw [(List.cons.inj (after?_eq_some_iff.1 h)).1]
    exact List.mem_cons_self
  induction text with
  | nil =>
    rw [crlf_nil, before?]
    split <;> rfl
  | cons c text ih =>
    by_cases hc : c = '\n'
    · subst hc
      rw [crlf_lineFeed_cons, before?, hnone hreturn, before?, hnone hfeed, before?, hnone hfeed,
        ih]
      cases before? mark text <;> rfl
    · have hafter := after?_crlf hfeed hlast (c :: text)
      rw [crlf_cons_of_ne hc] at hafter ⊢
      rw [before?, before?, hafter, ih, Option.isSome_map]
      split
      · rfl
      · cases before? mark text with
        | none => rfl
        | some body => exact congrArg some (crlf_cons_of_ne hc body).symm

theorem quoted?_crlf (text : List Char) : quoted? (crlf text) = (quoted? text).map crlf := by
  have hmark {mark : List Char} (hne : mark ≠ []) (hfeed : '\n' ∉ mark) (hreturn : '\r' ∉ mark) :
      (after? mark (crlf text)).bind (before? mark) =
        ((after? mark text).bind (before? mark)).map crlf := by
    rw [after?_crlf hfeed fun h => hreturn (List.mem_of_getLast? h), Option.bind_map,
      Option.map_bind]
    exact congrArg _ (funext (before?_crlf hne hfeed hreturn))
  rw [quoted?, quoted?, List.map_findSome?, delimiters]
  simp only [List.findSome?_cons, List.findSome?_nil, Function.comp_apply]
  rw [hmark (by decide) (by decide) (by decide), hmark (by decide) (by decide) (by decide)]

theorem body?_crlf {text : List Char} (h : '\r' ∉ text) :
    body? (crlf text) = (body? text).map crlf := by
  rw [body?, body?, nextLine?_crlf h, Option.bind_map, Option.map_bind]
  refine congrArg _ (funext fun rest => ?_)
  simp only [Function.comp_apply]
  rw [trimStart_crlf, dropKind_crlf, quoted?_crlf]

/-- The carriage return that ends the first line is trimmed. -/
theorem trim_takeWhile_crlf (text : List Char) :
    trim ((crlf text).takeWhile (· != '\n')) = trim (text.takeWhile (· != '\n')) := by
  have hends : (crlf text).takeWhile (· != '\n') = text.takeWhile (· != '\n') ∨
      (crlf text).takeWhile (· != '\n') = text.takeWhile (· != '\n') ++ ['\r'] := by
    induction text with
    | nil => exact .inl rfl
    | cons c text ih =>
      by_cases hc : c = '\n'
      · subst hc
        exact .inr rfl
      · have hkind : (c != '\n') = true := by rwa [bne_iff_ne]
        rw [crlf_cons_of_ne hc, List.takeWhile_cons, List.takeWhile_cons, if_pos hkind,
          if_pos hkind, List.cons_append, List.cons.injEq, List.cons.injEq]
        exact ih.imp (And.intro rfl) (And.intro rfl)
  rcases hends with h | h
  · rw [h]
  · rw [h, trim_concat (by decide)]

/-- The line that documents a declaration is the same in both forms of the text. -/
theorem line_crlf {text : List Char} (h : '\r' ∉ text) : line (crlf text) = line text := by
  rw [line, line, body?_crlf h]
  cases body? text with
  | none => rfl
  | some body =>
    simp only [Option.map_some, firstLine]
    rw [trim_crlf, trim_takeWhile_crlf]

end Docstring

/-! ## Names and declarations -/

theorem crlfInvariant_enclosedName {opening beginning : List Char} {closing : Char}
    (hopening : '\n' ∉ opening) (hbeginning : '\n' ∉ beginning)
    (hclosing : closing ∉ ['\n', '\r']) :
    (enclosedName opening beginning closing).CrlfInvariant (IsName beginning) id := by
  simp only [List.mem_cons, List.not_mem_nil, or_false, not_or] at hclosing
  obtain ⟨hfeed, hreturn⟩ := hclosing
  refine (oneLine_enclosedName hopening hbeginning hfeed).crlfInvariant fun name _ => ?_
  rw [enclosedName, List.getLast?_concat]
  exact fun h => hreturn (Option.some.inj h)

namespace Declaration

/-- The declaration as it is written with a carriage return before every line feed. -/
def crlf (d : Declaration) : Declaration := { d with params := Text.crlf d.params }

theorem crlfInvariant_pattern {beginning : List Char} (hbeginning : '\n' ∉ beginning) :
    (pattern beginning).CrlfInvariant (Proper beginning) crlf where
  valid_convert {d} hd :=
    { hd with params := by rw [crlf, mem_crlf_iff (by decide)]; exact hd.params }
  written_convert {d} hd := by
    change d.crlf.written = Text.crlf d.written
    rw [written_eq, written_eq, crlf_append, crlf_append,
      crlf_eq_self (hd.lineFeed_not_mem_opening hbeginning),
      crlf_eq_self hd.lineFeed_not_mem_closing]
    rfl
  exists_of_crlf {d text} hd hpre := by
    obtain ⟨rest, hrest⟩ := hpre
    change d.written ++ rest = _ at hrest
    rw [written_eq, List.append_assoc, List.append_assoc] at hrest
    -- The parts before and behind the parameters have no line feed, so they stand in the text too.
    obtain ⟨listed, rfl, hlisted⟩ := crlf_eq_append hrest.symm
      (hd.lineFeed_not_mem_opening hbeginning) (by rw [opening, List.getLast?_concat]; decide)
    obtain ⟨params, closed, hrun, rfl, hparams, _⟩ := exists_run (· != ')') listed
    have hrun' : run (· != ')') (d.params ++ (d.closing ++ rest)) =
        (d.params, d.closing ++ rest) := by
      refine run_eq_iff.2 ⟨rfl, fun c hc => ?_, by rintro c ⟨⟩; decide⟩
      rw [bne_iff_ne]
      rintro rfl
      exact hd.params hc
    rw [← hlisted, run_crlf (by decide) hrun, Prod.mk.injEq] at hrun'
    obtain ⟨closed', rfl, _⟩ := crlf_eq_append hrun'.2 hd.lineFeed_not_mem_closing
      (by rw [closing, ← List.cons_append, List.getLast?_concat]; decide)
    refine ⟨{ d with params }, { hd with params := fun hmem => ?_ }, closed', ?_⟩
    · simpa using hparams _ hmem
    · change written _ ++ closed' = _
      rw [written_eq, List.append_assoc, List.append_assoc]
      rfl
  head?_ne {d} hd := by
    have hhead : (d.written ++ []).head? ≠ some '\n' :=
      hd.head?_ne (by decide) []
    rwa [List.append_nil] at hhead

end Declaration

/-! ## The index -/

/-- The test as it is told in the longer form of its source text: its place moves by one byte for
    every line before, and its parameters are kept as they are written there. -/
def IndexedTest.crlf (test : IndexedTest) : IndexedTest :=
  { test with params := withCrlf test.params, offset := test.offset + test.line - 1 }

section

variable {naming : TestNaming} (hclass : '\n' ∉ naming.classPrefix.toList)

include hclass

/-- The same classes are found in both forms of a text. -/
theorem ClassHeading.map_name_scan_crlf (text : List Char) :
    (ClassHeading.scan naming (crlf text)).map ClassHeading.name =
      (ClassHeading.scan naming text).map ClassHeading.name := by
  rw [ClassHeading.scan, ClassHeading.scan, List.map_map, List.map_map]
  refine (Pattern.map_scanFrom_crlf (· == '\n')
    (ClassHeading.recognises_pattern naming.classPrefix.toList)
    (crlfInvariant_enclosedName (by decide) hclass (by decide)) text ?_).symm
  exact fun _ _ _ => rfl

theorem lastClass_crlf (text : List Char) :
    lastClass naming (crlf text) = lastClass naming text := by
  rw [lastClass, lastClass, ← List.getLast?_map, ← List.getLast?_map,
    ClassHeading.map_name_scan_crlf hclass]

theorem testAt_crlf {before rest : List Char} (hrest : '\r' ∉ rest) (d : Declaration) :
    testAt naming (crlf before) d.crlf (crlf rest) = (testAt naming before d rest).crlf := by
  simp only [testAt, IndexedTest.crlf, Declaration.crlf, withCrlf, lastClass_crlf hclass,
    Docstring.line_crlf hrest, byteLength_crlf, count_crlf, String.toList_ofList]
  rfl

theorem indexTests_withCrlf (hfunction : '\n' ∉ naming.functionPrefix.toList) {source : String}
    (hsource : '\r' ∉ source.toList) :
    indexTests naming (withCrlf source) = (indexTests naming source).map IndexedTest.crlf := by
  have hc := Declaration.crlfInvariant_pattern hfunction
  rw [indexTests_eq_map, indexTests_eq_map, List.map_map, toList_withCrlf]
  refine (Pattern.map_scanFrom_crlf (· == '\n') (Declaration.recognises_pattern _) hc source.toList
    fun before found hstands => ?_).symm
  have hrest : '\r' ∉ found.rest := by
    intro hmem
    rw [hstands.text_eq] at hsource
    exact hsource (List.mem_append_right _ (List.mem_append_right _ hmem))
  have hstands' := hstands.crlf hc
  rw [← toList_withCrlf] at hstands'
  rw [Function.comp_apply, testOf_eq_testAt hclass hstands, testOf_eq_testAt hclass hstands']
  exact (testAt_crlf hclass hrest found.value).symm

end

/-! ## Marks and the comparison -/

theorem Marks.scan_withCrlf {functionPrefix : String} (hfunction : '\n' ∉ functionPrefix.toList)
    (target : String) : scan functionPrefix (withCrlf target) = scan functionPrefix target := by
  have hopening : '\n' ∉ opening := by
    unfold opening
    rw [String.toList_ofList]
    decide
  rw [scan, scan, toList_withCrlf]
  refine congrArg ofNames (Pattern.map_scanFrom_crlf (fun _ => true)
    (Marks.recognises_pattern functionPrefix.toList)
    (crlfInvariant_enclosedName hopening hfunction (by decide)) target.toList ?_).symm
  exact fun _ _ _ => rfl

/-- Line endings do not matter. In the longer form of a source text the index has the same tests, of
    which each stands further back by one byte for every line before it, and the same names are
    marked in the longer form of a target text. So whichever form the origin and the target are
    written in, their comparison is the same. -/
theorem comparison_withCrlf (naming : TestNaming) (markPrefix : String)
    (hclass : '\n' ∉ naming.classPrefix.toList) (hfunction : '\n' ∉ naming.functionPrefix.toList)
    (hmark : '\n' ∉ markPrefix.toList) :
    (∀ source, '\r' ∉ source.toList → indexTests naming (withCrlf source) =
      (indexTests naming source).map fun test =>
        { test with params := withCrlf test.params, offset := test.offset + test.line - 1 }) ∧
    (∀ target, Marks.scan markPrefix (withCrlf target) = Marks.scan markPrefix target) ∧
    ∀ origin target, '\r' ∉ origin.toList →
      ∀ origin' ∈ [origin, withCrlf origin], ∀ target' ∈ [target, withCrlf target],
        Comparison.ofTests (indexTests naming origin') (Marks.scan markPrefix target') =
          Comparison.ofTests (indexTests naming origin) (Marks.scan markPrefix target) := by
  have hindex (source : String) (hsource : '\r' ∉ source.toList) :=
    indexTests_withCrlf hclass hfunction hsource
  refine ⟨hindex, Marks.scan_withCrlf hmark, fun origin target horigin => ?_⟩
  have hcomparison (marks : Marks) :
      Comparison.ofTests (indexTests naming (withCrlf origin)) marks =
        Comparison.ofTests (indexTests naming origin) marks := by
    refine Comparison.ofTests_congr marks ?_
    rw [hindex origin horigin, List.map_map]
    rfl
  intro origin' horigin' target' htarget'
  have hmarks : Marks.scan markPrefix target' = Marks.scan markPrefix target := by
    rcases List.mem_pair.1 htarget' with rfl | rfl
    · rfl
    · exact Marks.scan_withCrlf hmark target
  rw [hmarks]
  rcases List.mem_pair.1 horigin' with rfl | rfl
  · rfl
  · exact hcomparison _

/-- A source with a docstring behind a comment, of which the parameters go over two lines, and with
    a test that the target does not mark. -/
theorem comparison_withCrlf_of_documented :
    let source :=
      "class TestA:\n  def test_a(\n    x):  # why\n    '''\n    A.\n    '''\n  def test_b():\n"
    let target := "x\n// Original: def test_a(\n"
    indexTests {} source =
        [⟨"TestA", "test_a", "\n    x", "A.", 13, 2⟩, ⟨"TestA", "test_b", "", "", 65, 7⟩] ∧
      indexTests {} (withCrlf source) =
        [⟨"TestA", "test_a", "\r\n    x", "A.", 14, 2⟩, ⟨"TestA", "test_b", "", "", 71, 7⟩] ∧
      (Marks.scan "test_" (withCrlf target)).names = ["test_a"] ∧
      Comparison.ofTests (indexTests {} (withCrlf source)) (Marks.scan "test_" (withCrlf target)) =
        { total := 2, marked := 1, matched := 1, missing := [⟨"TestA", "test_b", ""⟩] } := by
  intro source target
  have hlist : source.toList = _ := String.toList_ofList
  have hsource : '\r' ∉ source.toList := by
    rw [hlist]
    decide
  have hindex : indexTests {} source =
      [⟨"TestA", "test_a", "\n    x", "A.", 13, 2⟩, ⟨"TestA", "test_b", "", "", 65, 7⟩] := by
    rw [indexTests, hlist]
    simp only [LineIndex.lineOf_ofText]
    decide
  have hmarks : Marks.scan "test_" target = ⟨["test_a"], List.nodup_singleton _⟩ := by
    decide
  obtain ⟨hcrlf, hscan, hcomparison⟩ :=
    comparison_withCrlf {} "test_" (by decide) (by decide) (by decide)
  refine ⟨hindex, ?_, ?_, ?_⟩
  · rw [hcrlf source hsource, hindex]
    decide
  · rw [hscan, hmarks]
  · rw [hcomparison source target hsource _ (List.mem_cons_of_mem _ List.mem_cons_self) _
      (List.mem_cons_of_mem _ List.mem_cons_self), hindex, hmarks, Comparison.ofTests,
      Marks.sorted, List.mergeSort_singleton]
    decide

end Migration
