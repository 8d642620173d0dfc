import Mathlib.Data.List.Forall2
import Migration.Proofs.Survey.Coverage

/-!
# Two surveys

Surveys are taken again and again while the target grows, and the lists of files come in whatever
order they were found. So it matters what a survey does not depend on, and what a later one keeps.

* The order of the target's files does not show at all (`build_eq_of_target_perm`), and the order of
  the modules does not if no two have the same dotted name (`build_eq_of_origin_perm`). If two have,
  they stand in a group in the order of the origin.
* If every path of the target is still there later, the later survey has the same rows in the same
  places, and what was covered still is (`keptBy_of_target_subset`). A new path may come to stand
  in front of the one that a look-up met before, but then it lies in the namespace as well.
-/

namespace Migration

open Text

/-- The later row is that of the same module, and covered if this one is. -/
structure SurveyRow.KeptBy (r later : SurveyRow) : Prop where
  path_eq : later.path = r.path
  place_eq : later.place = r.place
  covered : r.covered = true → later.covered = true

/-- The later group has the same rows, of which those are covered that were and maybe others. -/
structure SurveyGroup.KeptBy (group later : SurveyGroup) : Prop where
  top_eq : later.top = group.top
  rows : List.Forall₂ SurveyRow.KeptBy group.rows later.rows

/-- The later survey has the same groups with the same rows, and covers what this one does. -/
structure Survey.KeptBy (survey later : Survey) : Prop where
  originCount_eq : later.originCount = survey.originCount
  groups : List.Forall₂ SurveyGroup.KeptBy survey.groups later.groups
  placeCount_eq : later.placeCount = survey.placeCount
  coveredCount_le : survey.coveredCount ≤ later.coveredCount

namespace Survey

variable (rules : NamespaceRules) {origin origin' target target' : List ModulePath}

/-! ## More files in the target -/

theorem isCovered_mono (h : ∀ path ∈ target, path ∈ target') {place : String}
    (hcovered : isCovered (written rules target) rules.separator place = true) :
    isCovered (written rules target') rules.separator place = true := by
  obtain ⟨path, hpath, hlies⟩ := (isCovered_written_iff rules target).1 hcovered
  exact (isCovered_written_iff rules target').2 ⟨path, h path hpath, hlies⟩

theorem keptBy_groupOf (h : ∀ path ∈ target, path ∈ target') (top : String) :
    (groupOf rules (written rules target) origin top).KeptBy
      (groupOf rules (written rules target') origin top) := by
  refine ⟨rfl, ?_⟩
  simp only [groupOf, List.forall₂_map_left_iff, List.forall₂_map_right_iff]
  exact List.forall₂_same.2 fun path _ => ⟨rfl, rfl, isCovered_mono rules h⟩

theorem keptBy_of_target_subset (h : ∀ path ∈ target, path ∈ target') :
    (build rules origin target).KeptBy (build rules origin target') := by
  constructor
  case originCount_eq => rfl
  case groups =>
    rw [groups_build, groups_build, List.forall₂_map_left_iff, List.forall₂_map_right_iff]
    exact List.forall₂_same.2 fun top _ => keptBy_groupOf rules h top
  case placeCount_eq => rw [build_eq, build_eq]
  case coveredCount_le =>
    rw [coveredCount_eq, coveredCount_eq, ← List.countP_eq_length_filter,
      ← List.countP_eq_length_filter]
    exact List.countP_mono_left fun place _ => isCovered_mono rules h

/-! ## The same files in another order -/

theorem build_eq_of_target_perm (h : target'.Perm target) :
    build rules origin target' = build rules origin target := by
  have hcovered : isCovered (written rules target') rules.separator =
      isCovered (written rules target) rules.separator := by
    funext place
    rw [Bool.eq_iff_iff]
    exact ⟨isCovered_mono rules fun path => h.mem_iff.1,
      isCovered_mono rules fun path => h.mem_iff.2⟩
  have hgroups : groupOf rules (written rules target') origin =
      groupOf rules (written rules target) origin := by
    funext top
    rw [groupOf, groupOf]
    congr 2
    funext path
    rw [row, row, hcovered]
  rw [build_eq, build_eq, hgroups, hcovered, h.length_eq]

theorem tops_eq_of_perm (h : origin'.Perm origin) : tops origin' = tops origin := by
  refine (pairwise_tops origin').eq_of_mem_iff (pairwise_tops origin) fun top => ?_
  simp only [mem_tops_iff, h.mem_iff]

theorem members_eq_of_perm (h : origin'.Perm origin) (hnames : (origin.map ModulePath.dotted).Nodup)
    (top : String) : members origin' top = members origin top :=
  mergeSort_key_eq_of_perm ModulePath.dotted (h.filter _)
    (hnames.sublist (List.filter_sublist.map _))

theorem places_perm (h : origin'.Perm origin) : (places rules origin').Perm (places rules origin) :=
  eraseDups_perm ((h.filter _).map _)

theorem build_eq_of_origin_perm (h : origin'.Perm origin)
    (hnames : (origin.map ModulePath.dotted).Nodup) :
    build rules origin' target = build rules origin target := by
  have hgroups : groupOf rules (written rules target) origin' =
      groupOf rules (written rules target) origin := by
    funext top
    rw [groupOf, groupOf, members_eq_of_perm h hnames]
  have hplaces := places_perm rules h
  rw [build_eq, build_eq, tops_eq_of_perm h, hgroups, h.length_eq, hplaces.length_eq,
    (hplaces.filter _).length_eq]

/-- What a survey shares with another: it does not depend on the order of the target's files, nor on
    that of the modules if their dotted names are different; and with more files in the target,
    everything is kept but that more may be covered. -/
theorem build_across_runs (rules : NamespaceRules) (origin target : List ModulePath) :
    (∀ target', target'.Perm target →
      build rules origin target' = build rules origin target) ∧
    (∀ origin', origin'.Perm origin → (origin.map ModulePath.dotted).Nodup →
      build rules origin' target = build rules origin target) ∧
    ∀ target', (∀ path ∈ target, path ∈ target') →
      (build rules origin target).KeptBy (build rules origin target') :=
  ⟨fun _ => build_eq_of_target_perm rules, fun _ => build_eq_of_origin_perm rules,
    fun _ => keptBy_of_target_subset rules⟩

/-- Two modules and two files, given the other way round; and the same with a file in front of the
    one that covers `Common.Misc`, and with one that covers `Utility.io`. -/
theorem build_across_runs_at_common :
    let origin : List ModulePath := [⟨["pykotor", "common", "misc"]⟩, ⟨["utility", "io"]⟩]
    let target : List ModulePath := [⟨["Common", "Misc", "Reader"]⟩, ⟨["Tools"]⟩]
    let more : List ModulePath := ⟨["Common", "Misc", "Colour"]⟩ :: ⟨["Utility", "io"]⟩ :: target
    target.reverse.Perm target ∧ build {} origin target.reverse = build {} origin target ∧
      origin.reverse.Perm origin ∧ (origin.map ModulePath.dotted).Nodup ∧
      build {} origin.reverse target = build {} origin target ∧
      (∀ path ∈ target, path ∈ more) ∧ (build {} origin target).KeptBy (build {} origin more) ∧
      (∃ r ∈ (build {} origin target).rows, r.place = "Common.Misc" ∧ r.covered = true) ∧
      (∃ r ∈ (build {} origin target).rows, r.place = "Utility.io" ∧ r.covered = false) ∧
      ∃ r ∈ (build {} origin more).rows, r.place = "Utility.io" ∧ r.covered = true := by
  intro origin target more
  obtain ⟨htarget, horigin, hmore⟩ := build_across_runs {} origin target
  have hnames : (origin.map ModulePath.dotted).Nodup := by decide
  have hsubset : ∀ path ∈ target, path ∈ more := fun path hpath =>
    List.mem_cons_of_mem _ (List.mem_cons_of_mem _ hpath)
  have hrow (path : ModulePath) (hpath : path ∈ origin) (files : List ModulePath) :=
    row_mem_rows {} origin files hpath
  have hmisc := hrow ⟨["pykotor", "common", "misc"]⟩ (by decide) target (by decide)
  have hio (files : List ModulePath) := hrow ⟨["utility", "io"]⟩ (by decide) files (by decide)
  refine ⟨target.reverse_perm, htarget _ target.reverse_perm, origin.reverse_perm, hnames,
    horigin _ origin.reverse_perm hnames, hsubset, hmore more hsubset,
    ⟨_, hmisc, by decide, ?_⟩, ⟨_, hio target, by decide, ?_⟩,
    ⟨_, hio more, by decide, ?_⟩⟩
  · rw [covered_iff {} origin target hmisc]
    decide
  · rw [← Bool.not_eq_true, covered_iff {} origin target (hio target)]
    decide
  · rw [covered_iff {} origin more (hio more)]
    decide

end Survey

end Migration
