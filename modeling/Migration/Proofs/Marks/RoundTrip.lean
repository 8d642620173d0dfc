import Migration.Proofs.Marks.Contract

/-!
# Marks written and read back

A target text is written by putting marks between pieces of text that hold no slash, in any order
and any number of times (`markedText`). The scan then reads back exactly the names that were
written: a mark that stands somewhere in the text starts at a slash, and the only slashes are those
of the marks that were written (`occurs_mark_markedText_iff`). So the comparison with an origin
tells which of its tests were marked (`comparison_markedText`), and with a mark for every test of
the index nothing is missing and nothing is stale.
-/

namespace Migration

open Text

namespace Marks

/-- The text `lead`, and behind it, for every name, its mark and the text that follows it. -/
def markedText (lead : String) : List (String × String) → String
  | [] => lead
  | (name, filler) :: parts => lead ++ mark name ++ markedText filler parts

/-! ## Where marks occur -/

/-- What starts with a slash does not start in a text without slashes. -/
theorem infix_append_of_slash_not_mem {lead word text : List Char} (hlead : '/' ∉ lead) :
    '/' :: word <:+: lead ++ text ↔ '/' :: word <:+: text := by
  induction lead with
  | nil => rw [List.nil_append]
  | cons c lead ih =>
    rw [List.mem_cons, not_or] at hlead
    have hstart : ¬ ('/' :: word <+: c :: (lead ++ text)) := by
      intro h
      exact hlead.1 (List.cons_prefix_cons.1 h).1
    rw [List.cons_append, List.infix_cons_iff, or_iff_right hstart, ih hlead.2]

/-- A mark that stands in a text starts with the mark at its front, or comes after it. -/
theorem infix_mark_append_iff {name other rest : List Char} (hother : '/' ∉ other) :
    '/' :: '/' :: body name <:+: '/' :: '/' :: body other ++ rest ↔
      '/' :: '/' :: body name <+: '/' :: '/' :: body other ++ rest ∨
        '/' :: '/' :: body name <:+: rest := by
  have hsecond : ¬ ('/' :: '/' :: body name <+: '/' :: (body other ++ rest)) := by
    intro h
    have hblank := (List.cons_prefix_cons.1 h).2
    exact absurd (List.cons_prefix_cons.1 hblank).1 (by decide)
  rw [List.cons_append, List.infix_cons_iff, List.cons_append, List.infix_cons_iff,
    or_iff_right hsecond, infix_append_of_slash_not_mem (slash_not_mem_body hother)]

/-- A mark is not the beginning of another. -/
theorem mark_prefix_iff {beginning name other rest : List Char} (hname : IsName beginning name)
    (hother : IsName beginning other) :
    '/' :: '/' :: body name <+: '/' :: '/' :: body other ++ rest ↔ name = other := by
  rw [← written_eq beginning, ← written_eq beginning]
  constructor
  · intro h
    exact (recognises_pattern beginning).unique hname hother h (List.prefix_append _ _)
  · rintro rfl
    exact List.prefix_append _ _

/-- In a text with marks, the marks that occur are those that were written. -/
theorem occurs_mark_markedText_iff {functionPrefix name lead : String}
    {parts : List (String × String)} (hslash : '/' ∉ functionPrefix.toList)
    (hname : IsName functionPrefix.toList name.toList) (hlead : '/' ∉ lead.toList)
    (hnames : ∀ part ∈ parts, IsName functionPrefix.toList part.1.toList)
    (hfillers : ∀ part ∈ parts, '/' ∉ part.2.toList) :
    Occurs (mark name) (markedText lead parts) ↔ name ∈ parts.map Prod.fst := by
  induction parts generalizing lead with
  | nil =>
    -- There is no slash at all.
    rw [occurs_iff_toList, markedText, toList_mark]
    refine iff_of_false (fun h => hlead ?_) List.not_mem_nil
    exact h.subset List.mem_cons_self
  | cons part parts ih =>
    obtain ⟨other, filler⟩ := part
    obtain ⟨hother, hnames⟩ := List.forall_mem_cons.1 hnames
    obtain ⟨hfiller, hfillers⟩ := List.forall_mem_cons.1 hfillers
    have hrest := ih hfiller hnames hfillers
    rw [occurs_iff_toList, toList_mark] at hrest ⊢
    -- The mark starts behind `lead`: it is the first one, or it comes after the first one.
    rw [markedText, String.toList_append, String.toList_append, List.append_assoc, toList_mark,
      infix_append_of_slash_not_mem hlead,
      infix_mark_append_iff (hother.not_mem (by decide) hslash), hrest,
      mark_prefix_iff hname hother, String.toList_inj, List.map_cons, List.mem_cons]

/-- The names that were written are read back, and no others. -/
theorem mem_names_scan_markedText_iff {functionPrefix lead : String}
    {parts : List (String × String)} (hslash : '/' ∉ functionPrefix.toList)
    (hlead : '/' ∉ lead.toList)
    (hnames : ∀ part ∈ parts, IsName functionPrefix.toList part.1.toList)
    (hfillers : ∀ part ∈ parts, '/' ∉ part.2.toList) (name : String) :
    name ∈ (scan functionPrefix (markedText lead parts)).names ↔ name ∈ parts.map Prod.fst := by
  rw [mem_names_scan_iff hslash]
  constructor
  · rintro ⟨hname, hoccurs⟩
    exact (occurs_mark_markedText_iff hslash hname hlead hnames hfillers).1 hoccurs
  · intro hmem
    obtain ⟨part, hpart, rfl⟩ := List.mem_map.1 hmem
    have hname := hnames part hpart
    exact ⟨hname, (occurs_mark_markedText_iff hslash hname hlead hnames hfillers).2 hmem⟩

end Marks

/-! ## The comparison -/

/-- Marks that were written are compared with the tests of the origin: the comparison counts their
    names, lists the tests that have none, in the order of the source, and the names that no test
    has, in the order of their bytes. With a mark for every test of the index, and no others,
    nothing is missing or stale, and all tests are matched. -/
theorem comparison_markedText (naming : TestNaming) (origin lead : String)
    (parts : List (String × String)) (hslash : '/' ∉ naming.functionPrefix.toList)
    (hlead : '/' ∉ lead.toList) (hfillers : ∀ part ∈ parts, '/' ∉ part.2.toList) :
    let tests := indexTests naming origin
    let names := parts.map Prod.fst
    let comparison :=
      Comparison.ofTests tests (Marks.scan naming.functionPrefix (Marks.markedText lead parts))
    ((∀ name ∈ names, IsName naming.functionPrefix.toList name.toList) →
      comparison.marked = names.toFinset.card ∧
      comparison.missing = (tests.filter fun test => test.name ∉ names).map MissingTest.ofTest ∧
      (∀ name, name ∈ comparison.stale ↔ name ∈ names ∧ ∀ test ∈ tests, test.name ≠ name) ∧
      comparison.stale.Pairwise fun a b => bytes a < bytes b) ∧
    ((∀ name, name ∈ names ↔ name ∈ tests.map IndexedTest.name) →
      comparison.missing = [] ∧ comparison.stale = [] ∧ comparison.matched = comparison.total) := by
  intro tests names comparison
  have hread (hnames : ∀ name ∈ names, IsName naming.functionPrefix.toList name.toList) :=
    Marks.mem_names_scan_markedText_iff hslash hlead
      (fun part hpart => hnames part.1 (List.mem_map_of_mem hpart)) hfillers
  constructor
  · intro hnames
    refine ⟨Comparison.marked_eq_card _ _ (hread hnames), ?_, fun name => ?_,
      Comparison.pairwise_stale _ _⟩
    · rw [Comparison.missing_eq]
      simp only [hread hnames]
      rfl
    · rw [Comparison.mem_stale_iff, hread hnames]
  · intro hall
    have hnames : ∀ name ∈ names, IsName naming.functionPrefix.toList name.toList := by
      intro name hname
      obtain ⟨test, htest, rfl⟩ := List.mem_map.1 ((hall name).1 hname)
      exact isName_of_mem_indexTests htest
    exact Comparison.eq_nil_of_names_marked _ _ fun name => (hread hnames name).trans (hall name)

/-- Marks in another order than the tests: first one that no test has and one that is written twice,
    then one for every test. -/
theorem comparison_markedText_of_two_tests :
    let tests := indexTests {} "def test_a():\ndef test_b():\n"
    let partly := Comparison.ofTests tests (Marks.scan "test_"
      (Marks.markedText "x" [("test_z", " "), ("test_b", ")\n"), ("test_b", "")]))
    let wholly := Comparison.ofTests tests (Marks.scan "test_"
      (Marks.markedText "" [("test_b", ""), ("test_a", "()")]))
    (partly.marked = 2 ∧ partly.missing = [⟨"Unknown", "test_a", ""⟩] ∧ "test_z" ∈ partly.stale) ∧
      wholly.missing = [] ∧ wholly.stale = [] ∧ wholly.matched = wholly.total := by
  intro tests partly wholly
  have hnames : tests.map IndexedTest.name = ["test_a", "test_b"] := by decide
  obtain ⟨hmarked, hmissing, hstale, _⟩ := (comparison_markedText {}
    "def test_a():\ndef test_b():\n" "x" [("test_z", " "), ("test_b", ")\n"), ("test_b", "")]
    (by decide) (by decide) (by decide)).1 (by decide)
  refine ⟨⟨hmarked, hmissing.trans (by decide), ?_⟩, ?_⟩
  · exact (hstale "test_z").2 (by decide)
  refine (comparison_markedText {} "def test_a():\ndef test_b():\n" "" [("test_b", ""),
    ("test_a", "()")] (by decide) (by decide) (by decide)).2 fun name => ?_
  change _ ↔ name ∈ tests.map IndexedTest.name
  rw [hnames]
  exact List.Perm.mem_iff (List.Perm.swap _ _ _)

end Migration
