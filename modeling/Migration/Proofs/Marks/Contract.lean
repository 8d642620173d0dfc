import Migration.Proofs.Comparison
import Migration.Proofs.Index.ClassAssociation
import Migration.Proofs.Text.Lines

/-!
# The contract of marks

What the two code bases agree on is a literal text: a test is marked if and only if the text
`// Original: def`, its name and an opening bracket stand somewhere in the target (`mark`,
`Occurs`). The scan for marks goes from left to right and never back into a mark, so it could pass
over a mark that starts inside of another. It does not if names hold no slash: the two slashes at
the start of a mark are then the only ones in it (`not_mark_inside`). Hence a scan finds all the
marks that stand in a text (`mem_names_scan_iff`).

The names in the index are of the form that the scan for marks asks for
(`isName_of_mem_indexTests`), so a test is listed as missing if and only if its mark does not stand
in the target (`marks_contract`).
-/

namespace Migration

open Text

/-- The text `part` stands somewhere in `text`. -/
def Text.Occurs (part text : String) : Prop := ∃ before after, text = before ++ part ++ after

/-- The mark of a test, as a text. -/
def Marks.mark (name : String) : String := "// Original: def " ++ name ++ "("

theorem Text.occurs_iff_toList {part text : String} :
    Occurs part text ↔ part.toList <:+: text.toList := by
  constructor
  · rintro ⟨before, after, rfl⟩
    exact ⟨before.toList, after.toList, by rw [String.toList_append, String.toList_append]⟩
  · rintro ⟨before, after, h⟩
    refine ⟨String.ofList before, String.ofList after, ?_⟩
    rw [← String.toList_inj, ← h]
    simp

namespace Marks

theorem recognises_pattern (beginning : List Char) :
    (pattern beginning).Recognises (IsName beginning) :=
  recognises_enclosedName _ _ (by decide)

/-! ## Marks and their slashes -/

/-- The part of a mark that stands behind its two slashes. -/
def body (name : List Char) : List Char := ' ' :: ("Original: def ".toList ++ name ++ ['('])

theorem opening_eq : opening = '/' :: '/' :: ' ' :: "Original: def ".toList := by
  unfold opening
  rw [String.toList_ofList, String.toList_ofList]

theorem opening_append (name : List Char) : opening ++ name ++ ['('] = '/' :: '/' :: body name := by
  rw [opening_eq]
  rfl

theorem written_eq (beginning name : List Char) :
    (pattern beginning).written name = '/' :: '/' :: body name :=
  opening_append name

theorem toList_mark (name : String) : (mark name).toList = '/' :: '/' :: body name.toList := by
  have hbracket : "(".toList = ['('] := by decide
  rw [← opening_append, ← hbracket]
  unfold mark opening
  rw [String.toList_append, String.toList_append]

theorem slash_not_mem_body {name : List Char} (h : '/' ∉ name) : '/' ∉ body name := by
  simp only [body, List.mem_cons, List.mem_append, not_or]
  exact ⟨by decide, ⟨by decide, h⟩, by decide⟩

/-- No mark starts inside of another. -/
theorem not_mark_inside {name inner tail rest more : List Char} (hname : '/' ∉ name)
    (hmark : '/' :: '/' :: body name = inner ++ tail) (hinner : inner ≠ []) (htail : tail ≠ []) :
    tail ++ rest ≠ '/' :: '/' :: more := by
  intro h
  obtain ⟨first, inner, rfl⟩ := List.exists_cons_of_ne_nil hinner
  obtain ⟨c, tail, rfl⟩ := List.exists_cons_of_ne_nil htail
  rw [List.cons_append, List.cons.injEq] at h hmark
  obtain ⟨rfl, htext⟩ := h
  obtain ⟨_, hmark⟩ := hmark
  cases inner with
  | nil =>
    -- It would start at the second slash, but a blank comes next.
    rw [List.nil_append, List.cons.injEq] at hmark
    obtain ⟨_, rfl⟩ := hmark
    rw [body, List.cons_append, List.cons.injEq] at htext
    exact absurd htext.1 (by decide)
  | cons second inner =>
    rw [List.cons_append, List.cons.injEq] at hmark
    refine slash_not_mem_body hname ?_
    rw [hmark.2]
    exact List.mem_append_right _ List.mem_cons_self

/-! ## Scans and occurrences -/

/-- The names that are marked are names that tests may have. -/
theorem isName_of_mem_scan {functionPrefix target name : String}
    (h : name ∈ (scan functionPrefix target).names) :
    IsName functionPrefix.toList name.toList := by
  have hp := recognises_pattern functionPrefix.toList
  obtain ⟨found, hfound, rfl⟩ := List.mem_map.1 (List.mem_eraseDups.1 h)
  rw [String.toList_ofList]
  exact (Pattern.scans_scan hp target.toList).valid_of_mem hfound

/-- A scan finds a name if and only if the mark of the name stands somewhere in the text. -/
theorem exists_mem_scan_iff {beginning target name : List Char} (hslash : '/' ∉ beginning) :
    (∃ found ∈ (pattern beginning).scan target, found.value = name) ↔
      IsName beginning name ∧ '/' :: '/' :: body name <:+: target := by
  have hp := recognises_pattern beginning
  have hscan := Pattern.scans_scan hp target
  rw [← written_eq beginning]
  constructor
  · rintro ⟨found, hfound, rfl⟩
    obtain ⟨before, _, hstands⟩ := hscan.stands hfound
    refine ⟨hstands.valid_value, before, found.rest, ?_⟩
    rw [List.append_assoc]
    exact hstands.text_eq.symm
  · rintro ⟨hname, before, rest, htarget⟩
    rw [List.append_assoc] at htarget
    have hadm := Pattern.admits_anywhere before
    rcases hscan.complete hp List.nil_prefix htarget.symm hadm hname with
      ⟨found, hfound, _, hvalue⟩ | ⟨found, hfound, front, inner, tail, rfl, hcovers⟩
    · exact ⟨found, hfound, hvalue⟩
    · -- The mark would start inside of one that is found.
      have hmark : '/' :: '/' :: body found.value = inner ++ tail :=
        (written_eq beginning _).symm.trans hcovers.written_eq
      have hslash' := hcovers.stands.valid_value.not_mem (by decide) hslash
      have htail := hcovers.tail_append htarget.symm
      rw [written_eq] at htail
      exact absurd htail (not_mark_inside hslash' hmark hcovers.inner_ne_nil hcovers.tail_ne_nil)

/-- The marked names are those whose mark stands somewhere in the target. -/
theorem mem_names_scan_iff {functionPrefix target name : String}
    (hslash : '/' ∉ functionPrefix.toList) :
    name ∈ (scan functionPrefix target).names ↔
      IsName functionPrefix.toList name.toList ∧ Occurs (mark name) target := by
  rw [occurs_iff_toList, toList_mark, ← exists_mem_scan_iff hslash]
  simp only [scan, ofNames, List.mem_eraseDups, List.mem_map]
  refine exists_congr fun found => and_congr_right fun _ => ?_
  rw [← String.toList_inj, String.toList_ofList]

end Marks

/-- The names in the index are names that tests may have. -/
theorem isName_of_mem_indexTests {naming : TestNaming} {source : String} {test : IndexedTest}
    (h : test ∈ indexTests naming source) :
    IsName naming.functionPrefix.toList test.name.toList := by
  have hp := Declaration.recognises_pattern naming.functionPrefix.toList
  obtain ⟨found, hfound, rfl⟩ := mem_indexTests_iff.1 h
  rw [testOf_name, String.toList_ofList]
  exact ((Pattern.scans_scanLines hp source.toList).valid_of_mem hfound).name

/-- The contract: the names that are marked are those whose mark stands somewhere in the target,
    and a test of the origin is missing if and only if its mark does not. -/
theorem marks_contract (naming : TestNaming) (origin target : String)
    (hslash : '/' ∉ naming.functionPrefix.toList) :
    (∀ name, name ∈ (Marks.scan naming.functionPrefix target).names ↔
      IsName naming.functionPrefix.toList name.toList ∧ Occurs (Marks.mark name) target) ∧
    ∀ test ∈ indexTests naming origin,
      MissingTest.ofTest test ∈ (Comparison.ofTests (indexTests naming origin)
          (Marks.scan naming.functionPrefix target)).missing ↔
        ¬Occurs (Marks.mark test.name) target := by
  refine ⟨fun name => Marks.mem_names_scan_iff hslash, fun test htest => ?_⟩
  rw [Comparison.ofTest_mem_missing_iff _ _ htest, Marks.mem_names_scan_iff hslash,
    and_iff_right (isName_of_mem_indexTests htest)]

/-- A target with a mark for one of two tests, and a mark that is cut off before it. -/
theorem marks_contract_of_two_tests :
    '/' ∉ "test_".toList ∧
    ("test_a" ∈ (Marks.scan "test_" "// Original: def // Original: def test_a(self)").names ↔
      IsName "test_".toList "test_a".toList ∧
        Occurs (Marks.mark "test_a") "// Original: def // Original: def test_a(self)") ∧
    (⟨"Unknown", "test_b", "", "", 14, 2⟩ : IndexedTest) ∈
      indexTests {} "def test_a():\ndef test_b():\n" ∧
    (⟨"Unknown", "test_b", ""⟩ ∈
      (Comparison.ofTests (indexTests {} "def test_a():\ndef test_b():\n")
        (Marks.scan "test_" "// Original: def // Original: def test_a(self)")).missing ↔
      ¬Occurs (Marks.mark "test_b") "// Original: def // Original: def test_a(self)") := by
  have hslash : '/' ∉ "test_".toList := by decide
  have htest : (⟨"Unknown", "test_b", "", "", 14, 2⟩ : IndexedTest) ∈
      indexTests {} "def test_a():\ndef test_b():\n" := by
    rw [indexTests, String.toList_ofList]
    simp only [LineIndex.lineOf_ofText]
    decide
  exact ⟨hslash, (marks_contract {} "" _ hslash).1 "test_a", htest,
    (marks_contract {} _ _ hslash).2 _ htest⟩

end Migration
