import Migration.Proofs.Comparison
import Migration.Proofs.Text.Dictionary

/-!
# Names that tests share

A name is reported when it comes up for the second time, and never again. The pass over the names
has a table of how often each has come up so far, and the table is right (`getD_counts`). So a name
that is put at the end of the names is reported if and only if it stands exactly once among them
(`repeated_concat`), and from this everything else follows, name by name: which names are reported
(`mem_repeated_iff`) and in which order (`pairwise_secondAt`).

Names that are shared are what makes the numbers of a comparison count different things. If there
are none, then every mark that is not stale is that of one test (`repeatedNames_exact`).
-/

namespace Migration

/-! ## The pass over the names -/

theorem ofNames_concat (names : List String) (name : String) :
    NameCounts.ofNames (names ++ [name]) = (NameCounts.ofNames names).add name := by
  rw [NameCounts.ofNames, List.foldl_append, List.foldl_cons, List.foldl_nil, ← NameCounts.ofNames]

/-- The table has how often every name has come up. -/
theorem getD_counts (names : List String) (name : String) :
    ((NameCounts.ofNames names).counts.get? name).getD 0 = names.count name := by
  induction names using List.reverseRecOn with
  | nil => rfl
  | append_singleton names last ih =>
    rw [ofNames_concat, NameCounts.add]
    dsimp only
    rw [Dictionary.get?_insert, List.count_append, List.count_singleton]
    by_cases heq : name = last
    · subst heq
      simp [ih]
    · simp [heq, Ne.symm heq, ih]

/-- One more name at the end is reported if and only if it stands exactly once before. -/
theorem repeated_concat (names : List String) (name : String) :
    (NameCounts.ofNames (names ++ [name])).repeated =
      (NameCounts.ofNames names).repeated ++ if names.count name = 1 then [name] else [] := by
  rw [ofNames_concat, NameCounts.add]
  dsimp only
  rw [getD_counts]
  by_cases hone : names.count name = 1
  · rw [if_pos (congrArg (· + 1) hone), if_pos hone]
  · rw [if_neg (fun htwo => hone (Nat.succ.inj htwo)), if_neg hone, List.append_nil]

/-! ## Which names are reported, and where -/

theorem mem_repeated_iff {names : List String} {name : String} :
    name ∈ (NameCounts.ofNames names).repeated ↔ 2 ≤ names.count name := by
  induction names using List.reverseRecOn with
  | nil => simp [NameCounts.ofNames]
  | append_singleton names last ih =>
    rw [repeated_concat, List.mem_append, ih, List.count_append, List.count_singleton]
    by_cases heq : last = name
    · subst heq
      simp only [beq_self_eq_true, if_true]
      split_ifs with hone
      · simp [hone]
      · simp only [List.not_mem_nil, or_false]
        omega
    · have hlast : name ∉ if names.count last = 1 then [last] else [] := by
        split_ifs
        · simpa using Ne.symm heq
        · exact List.not_mem_nil
      simp [hlast, heq]

/-- The position at which a name comes up for the second time. -/
def secondAt (names : List String) (name : String) : Nat :=
  names.idxOf name + 1 + (names.drop (names.idxOf name + 1)).idxOf name

theorem exists_second {names : List String} {name : String} (h : 2 ≤ names.count name) :
    ∃ front middle rest, names = front ++ name :: (middle ++ name :: rest) ∧
      name ∉ front ∧ name ∉ middle := by
  have hmem : name ∈ names := List.count_pos_iff.1 (by omega)
  obtain ⟨front, behind, rfl, hfront⟩ := List.eq_append_cons_of_mem hmem
  rw [List.count_append, List.count_eq_zero.2 hfront, List.count_cons_self] at h
  obtain ⟨middle, rest, rfl, hmiddle⟩ :=
    List.eq_append_cons_of_mem (List.count_pos_iff.1 (by omega : 0 < behind.count name))
  exact ⟨front, middle, rest, rfl, hfront, hmiddle⟩

theorem secondAt_eq {front middle : List String} {name : String} (hfront : name ∉ front)
    (hmiddle : name ∉ middle) (rest : List String) :
    secondAt (front ++ name :: (middle ++ name :: rest)) name =
      front.length + 1 + middle.length := by
  have hfirst : (front ++ name :: (middle ++ name :: rest)).idxOf name = front.length := by
    rw [List.idxOf_append_of_notMem hfront, List.idxOf_cons_self, Nat.add_zero]
  have hsecond : (middle ++ name :: rest).idxOf name = middle.length := by
    rw [List.idxOf_append_of_notMem hmiddle, List.idxOf_cons_self, Nat.add_zero]
  have hdrop : (front ++ name :: (middle ++ name :: rest)).drop (front.length + 1) =
      middle ++ name :: rest := by
    simp
  rw [secondAt, hfirst, hdrop, hsecond]

/-- It does not matter what comes behind the second time. -/
theorem secondAt_append {names : List String} {name : String} (h : 2 ≤ names.count name)
    (more : List String) : secondAt (names ++ more) name = secondAt names name := by
  obtain ⟨front, middle, rest, rfl, hfront, hmiddle⟩ := exists_second h
  rw [secondAt_eq hfront hmiddle, List.append_assoc, List.cons_append, List.append_assoc,
    List.cons_append, secondAt_eq hfront hmiddle]

theorem secondAt_lt_length {names : List String} {name : String} (h : 2 ≤ names.count name) :
    secondAt names name < names.length := by
  obtain ⟨front, middle, rest, rfl, hfront, hmiddle⟩ := exists_second h
  rw [secondAt_eq hfront hmiddle]
  simp only [List.length_append, List.length_cons]
  omega

/-- Behind names that have it once, a name comes up for the second time. -/
theorem secondAt_concat {names : List String} {name : String} (h : names.count name = 1) :
    secondAt (names ++ [name]) name = names.length := by
  have hmem : name ∈ names := List.count_pos_iff.1 (by omega)
  obtain ⟨front, middle, rfl, hfront⟩ := List.eq_append_cons_of_mem hmem
  rw [List.count_append, List.count_eq_zero.2 hfront, List.count_cons_self] at h
  have hmiddle : name ∉ middle := List.count_eq_zero.1 (by omega)
  rw [List.append_assoc, List.cons_append, secondAt_eq hfront hmiddle, List.length_append,
    List.length_cons]
  omega

theorem pairwise_secondAt (names : List String) :
    (NameCounts.ofNames names).repeated.Pairwise fun a b =>
      secondAt names a < secondAt names b := by
  induction names using List.reverseRecOn with
  | nil => exact .nil
  | append_singleton names last ih =>
    have hbefore : (NameCounts.ofNames names).repeated.Pairwise fun a b =>
        secondAt (names ++ [last]) a < secondAt (names ++ [last]) b :=
      ih.imp_of_mem fun {a b} ha hb hlt => by
        rwa [secondAt_append (mem_repeated_iff.1 ha), secondAt_append (mem_repeated_iff.1 hb)]
    rw [repeated_concat]
    split_ifs with h
    · refine List.pairwise_append.2 ⟨hbefore, List.pairwise_singleton _ _, fun a ha b hb => ?_⟩
      rw [List.mem_singleton.1 hb, secondAt_append (mem_repeated_iff.1 ha), secondAt_concat h]
      exact secondAt_lt_length (mem_repeated_iff.1 ha)
    · rwa [List.append_nil]

/-! ## Names that are not shared -/

theorem repeatedNames_eq_nil_iff {tests : List IndexedTest} :
    repeatedNames tests = [] ↔ (tests.map IndexedTest.name).Nodup := by
  rw [List.eq_nil_iff_forall_not_mem, List.nodup_iff_count_le_one]
  refine forall_congr' fun name => ?_
  rw [repeatedNames, mem_repeated_iff]
  omega

/-- The names that are listed are those of two tests or more, each once and in the order in which
    they come up again. There are none if and only if all tests have different names, and then a
    comparison with any marks counts every mark either as that of a test or as stale. -/
theorem repeatedNames_exact (tests : List IndexedTest) :
    let names := tests.map IndexedTest.name
    (∀ name, name ∈ repeatedNames tests ↔ 2 ≤ names.count name) ∧
    (repeatedNames tests).Nodup ∧
    (repeatedNames tests).Pairwise (fun a b => secondAt names a < secondAt names b) ∧
    (repeatedNames tests = [] ↔ names.Nodup) ∧
    (repeatedNames tests = [] → ∀ marks : Marks,
      (Comparison.ofTests tests marks).matched + (Comparison.ofTests tests marks).stale.length =
        (Comparison.ofTests tests marks).marked) := by
  intro names
  have horder := pairwise_secondAt names
  refine ⟨fun name => mem_repeated_iff, ?_, horder, repeatedNames_eq_nil_iff, fun hnone marks => ?_⟩
  · refine horder.imp ?_
    rintro a _ hlt rfl
    exact Nat.lt_irrefl _ hlt
  · rw [Comparison.marked_eq_length_stale_add, Nat.add_comm,
      Comparison.card_matchedNames_of_nodup _ _ (repeatedNames_eq_nil_iff.1 hnone)]

/-- Two names that come up again, of which the one that is first comes up again last. -/
theorem repeatedNames_exact_of_crossed :
    let test (name : String) : IndexedTest := { name }
    let crossed := ["test_a", "test_b", "test_b", "test_c", "test_a", "test_b"].map test
    let apart := ["test_a", "test_b"].map test
    let marks := Marks.ofNames ["test_b", "test_c"]
    repeatedNames crossed = ["test_b", "test_a"] ∧
      ("test_b" ∈ repeatedNames crossed ↔ 2 ≤ (crossed.map IndexedTest.name).count "test_b") ∧
      repeatedNames apart = [] ∧
      (Comparison.ofTests apart marks).matched + (Comparison.ofTests apart marks).stale.length =
        (Comparison.ofTests apart marks).marked := by
  intro test crossed apart marks
  have hcrossed : repeatedNames crossed = ["test_b", "test_a"] := by decide
  have hapart : repeatedNames apart = [] := by decide
  obtain ⟨hmem, -⟩ := repeatedNames_exact crossed
  obtain ⟨-, -, -, -, hmarked⟩ := repeatedNames_exact apart
  exact ⟨hcrossed, hmem "test_b", hapart, hmarked hapart marks⟩

end Migration
