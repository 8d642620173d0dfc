import Migration.Proofs.Index.ClassAssociation
import Migration.Proofs.Text.Concatenation
import Migration.Proofs.Text.Lines

/-!
# A test and the text around it

Class headings are written on one line if names of classes have no line feed in their beginning.
They are then found line by line (`ClassHeading.scan_append`), and none of them stands where a
declaration does. So the class of a test is the last one that is found in the text before it
(`classAt_eq_lastClass`), and the number of its line is told by the line feeds in that text.

Hence what the index tells of a test depends on three things: the text before its declaration, the
declaration, and the text that follows it (`testAt`). The index of a source text is the list of its
declarations, each told in this way (`testOf_eq_testAt`).
-/

namespace Migration

open Text

/-! ## Headings line by line -/

theorem oneLine_enclosedName {opening beginning : List Char} {closing : Char}
    (hopening : '\n' ∉ opening) (hbeginning : '\n' ∉ beginning) (hclosing : closing ≠ '\n') :
    (enclosedName opening beginning closing).OneLine (IsName beginning) := by
  intro name hname
  simp only [enclosedName, List.mem_append, List.mem_singleton, not_or]
  exact ⟨⟨hopening, hname.not_mem (by decide) hbeginning⟩, hclosing.symm⟩

namespace ClassHeading

/-- The same heading in a text that has so many `bytes` more in front. -/
def shifted (bytes : Nat) (heading : ClassHeading) : ClassHeading :=
  { heading with offset := heading.offset + bytes }

variable {naming : TestNaming}

theorem oneLine_pattern {beginning : List Char} (h : '\n' ∉ beginning) :
    (pattern beginning).OneLine (IsName beginning) :=
  oneLine_enclosedName (by decide) h (by decide)

/-- A heading ends before the end of the text that it stands in. -/
theorem offset_lt_of_mem_scan {text : List Char} {heading : ClassHeading}
    (h : heading ∈ scan naming text) : heading.offset < byteLength text := by
  have hp := recognises_pattern naming.classPrefix.toList
  obtain ⟨found, hfound, rfl⟩ := List.mem_map.1 h
  obtain ⟨before, _, hstands⟩ := (Pattern.scans_scanLines hp text).stands hfound
  have hne := hp.written_ne_nil hstands.valid_value
  have htext : text = before ++ _ := hstands.text_eq
  rw [htext, hstands.offset_eq]
  exact byteLength_lt (List.append_ne_nil_of_left_ne_nil hne _)

/-- Where a declaration stands, there is no heading. -/
theorem offset_pos_of_mem_scan {beginning rest : List Char} {d : Declaration}
    (hd : d.Proper beginning) {heading : ClassHeading}
    (h : heading ∈ scan naming (d.written ++ rest)) : 0 < heading.offset := by
  have hp := recognises_pattern naming.classPrefix.toList
  obtain ⟨found, hfound, rfl⟩ := List.mem_map.1 h
  obtain ⟨before, _, hstands⟩ :=
    (Pattern.scans_scanLines hp (d.written ++ rest)).stands hfound
  have htext : d.written ++ rest = before ++ _ := hstands.text_eq
  change 0 < found.offset
  rw [hstands.offset_eq]
  refine byteLength_pos ?_
  rintro rfl
  -- A heading starts with a letter that no declaration starts with.
  exact hd.head?_ne (by decide) rest (congrArg List.head? htext)

section

variable (hclass : '\n' ∉ naming.classPrefix.toList)

include hclass

/-- The headings of two texts, if the second one starts a line. -/
theorem scan_append {first : List Char} (hfirst : Pattern.admits (· == '\n') first = true)
    (second : List Char) :
    scan naming (first ++ second) =
      scan naming first ++ (scan naming second).map (shifted (byteLength first)) := by
  have hp := recognises_pattern naming.classPrefix.toList
  rw [scan, (oneLine_pattern hclass).scanLines_append hp hfirst, List.map_append, List.map_map]
  simp only [scan, List.map_map]
  rfl

/-- A text that goes on keeps its headings. -/
theorem prefix_scan_append (text more : List Char) :
    scan naming text <+: scan naming (text ++ more) := by
  obtain ⟨others, hscan⟩ := Pattern.prefix_scanLines_append
    (recognises_pattern naming.classPrefix.toList) (oneLine_pattern hclass).cutSafe text more
  rw [scan, scan, ← hscan, List.map_append, List.map_map]
  exact List.prefix_append _ _

end

end ClassHeading

/-- The name of the last class whose heading stands in a text, or `unknownClass` without one. -/
def lastClass (naming : TestNaming) (text : List Char) : String :=
  ((ClassHeading.scan naming text).getLast?.map ClassHeading.name).getD unknownClass

/-- The test that is declared by `d`, between the texts `before` and `rest`. -/
def testAt (naming : TestNaming) (before : List Char) (d : Declaration) (rest : List Char) :
    IndexedTest where
  className := lastClass naming before
  name := String.ofList d.name
  params := String.ofList d.params
  doc := String.ofList (Docstring.line rest)
  offset := byteLength before
  line := before.count '\n' + 1

/-- The declaration `found` stands in the source text behind `before`. -/
abbrev Declaration.StandsIn (naming : TestNaming) (source before : List Char)
    (found : Found Declaration) : Prop :=
  (Declaration.pattern naming.functionPrefix.toList).Stands
    (Declaration.Proper naming.functionPrefix.toList) (· == '\n') source before found

variable {naming : TestNaming}

theorem Declaration.exists_standsIn {source : List Char} {found : Found Declaration}
    (h : found ∈ Declaration.scan naming source) :
    ∃ before, Declaration.StandsIn naming source before found := by
  have hp := Declaration.recognises_pattern naming.functionPrefix.toList
  obtain ⟨before, _, hstands⟩ := (Pattern.scans_scanLines hp source).stands h
  exact ⟨before, hstands⟩

/-! ## The text before a test -/

variable (hclass : '\n' ∉ naming.classPrefix.toList)

include hclass

/-- The last class of two texts, if the second one starts a line: that of the second one, or if it
    has none, that of the first one. -/
theorem lastClass_append {first : List Char} (hfirst : Pattern.admits (· == '\n') first = true)
    (second : List Char) :
    lastClass naming (first ++ second) =
      if ClassHeading.scan naming second = [] then lastClass naming first
      else lastClass naming second := by
  rw [lastClass, ClassHeading.scan_append hclass hfirst, List.getLast?_append, List.getLast?_map]
  split
  case isTrue h =>
    rw [h]
    rfl
  case isFalse h =>
    rw [lastClass, List.getLast?_eq_some_getLast h]
    rfl

/-- The headings not behind a declaration are those in the text before it. -/
theorem filter_headings_eq {before : List Char}
    (hbefore : Pattern.admits (· == '\n') before = true) {beginning : List Char} {d : Declaration}
    (hd : d.Proper beginning) (rest : List Char) :
    (ClassHeading.scan naming (before ++ (d.written ++ rest))).filter
        (fun heading => heading.offset ≤ byteLength before) =
      ClassHeading.scan naming before := by
  let notBehind := fun heading : ClassHeading => decide (heading.offset ≤ byteLength before)
  have hfirst : (ClassHeading.scan naming before).filter notBehind =
      ClassHeading.scan naming before := by
    refine List.filter_eq_self.2 fun heading hheading => ?_
    exact decide_eq_true (ClassHeading.offset_lt_of_mem_scan hheading).le
  have hsecond : ((ClassHeading.scan naming (d.written ++ rest)).map
      (ClassHeading.shifted (byteLength before))).filter notBehind = [] := by
    refine List.filter_eq_nil_iff.2 fun moved hmoved => ?_
    obtain ⟨heading, hheading, rfl⟩ := List.mem_map.1 hmoved
    have := ClassHeading.offset_pos_of_mem_scan hd hheading
    simp only [notBehind, ClassHeading.shifted, decide_eq_true_eq]
    omega
  rw [ClassHeading.scan_append hclass hbefore, List.filter_append, hfirst, hsecond, List.append_nil]

/-- The class of a declaration is the last one of the text before it. -/
theorem classAt_eq_lastClass {before : List Char}
    (hbefore : Pattern.admits (· == '\n') before = true) {beginning : List Char} {d : Declaration}
    (hd : d.Proper beginning) (rest : List Char) :
    classAt (ClassHeading.scan naming (before ++ (d.written ++ rest))) (byteLength before) =
      lastClass naming before := by
  rw [classAt, filter_headings_eq hclass hbefore hd, lastClass]

/-- What the index tells of a declaration is told by the text before it, the declaration and the
    text that follows it. -/
theorem testOf_eq_testAt {source : String} {before : List Char} {found : Found Declaration}
    (h : Declaration.StandsIn naming source.toList before found) :
    testOf naming source found = testAt naming before found.value found.rest := by
  have htext : source.toList = before ++ (found.value.written ++ found.rest) := h.text_eq
  rw [testOf, testAt, htext, h.offset_eq, LineIndex.lineOf_append,
    classAt_eq_lastClass hclass h.admitted h.valid_value]

end Migration
