import Migration.Proofs.Text.Bytes
import Migration.Proofs.Text.Dictionary
import Migration.Survey

/-!
# What a survey lists

A survey is told by two lists: the outermost segments of the modules of the origin, in ascending
order (`Survey.tops`), and for each of them the modules that it leads, by dotted name
(`Survey.members`). Both depend on the origin alone. The target comes in only when a module becomes
a row (`Survey.row`), through the paths of its files as they are written.

The pass over the origin keeps in its tables what these lists say of the modules that it has seen
(`Tables.Lists`). A step keeps this (`Tables.Lists.add`), though it does not look at the target if
it has met the namespace before, since what it remembers is what it would see there. So the survey
is what the lists say (`build_eq`), and from that the rest follows.

* No module is lost and none is listed twice: the rows of all groups are those of the modules that
  have a segment, in another order (`rows_build_perm`).
* A group has the modules that its outermost segment leads, sorted by dotted name. Two modules may
  have the same dotted name, since a segment may hold a dot; they stay in the order of the origin
  (`gathers_of_mem_groups`).
* The counts are those of the different namespaces among the rows, and of those among them that are
  covered (`placeCount_build`, `coveredCount_build`).
-/

namespace Migration

open Text

namespace ModulePath

theorem not_isEmpty_iff {path : ModulePath} : (!path.isEmpty) = true ↔ path.segments ≠ [] := by
  rw [isEmpty, Bool.not_eq_true', List.isEmpty_eq_false_iff]

theorem isEmpty_of_first? {path : ModulePath} (h : path.first? = none) : path.isEmpty = true := by
  rw [isEmpty, List.isEmpty_iff]
  exact List.head?_eq_none_iff.1 h

theorem not_isEmpty_of_first? {path : ModulePath} {top : String} (h : path.first? = some top) :
    (!path.isEmpty) = true := by
  rw [not_isEmpty_iff]
  intro hnil
  rw [first?, hnil] at h
  cases h

end ModulePath

/-- The group lists the modules of the origin that its outermost segment leads: each of them once,
    by dotted name, and those of the same dotted name in the order of the origin. -/
structure SurveyGroup.Gathers (group : SurveyGroup) (origin : List ModulePath) : Prop where
  rows_ne_nil : group.rows ≠ []
  first?_eq : ∀ row ∈ group.rows, row.path.first? = some group.top
  perm : (group.rows.map SurveyRow.path).Perm
    (origin.filter fun path => path.first? = some group.top)
  pairwise : group.rows.Pairwise fun a b => a.path.dotted ≤ b.path.dotted
  ties (name : String) : ((group.rows.map SurveyRow.path).filter fun path => path.dotted = name) =
    origin.filter fun path => path.first? = some group.top ∧ path.dotted = name

namespace Survey

/-- The rows of a survey, group by group. -/
def rows (survey : Survey) : List SurveyRow := survey.groups.flatMap SurveyGroup.rows

/-- The row of a module. -/
def row (rules : NamespaceRules) (paths : List String) (path : ModulePath) : SurveyRow where
  path
  place := rules.render path
  covered := isCovered paths rules.separator (rules.render path)

/-- The modules that have a row. -/
def listed (origin : List ModulePath) : List ModulePath := origin.filter fun path => !path.isEmpty

/-- The outermost segments, in ascending order. -/
def tops (modules : List ModulePath) : List String :=
  (modules.filterMap ModulePath.first?).eraseDups.mergeSort ascending

/-- The modules that the segment `top` leads, by dotted name. -/
def members (modules : List ModulePath) (top : String) : List ModulePath :=
  (modules.filter fun path => path.first? == some top).mergeSort fun a b =>
    ascending a.dotted b.dotted

/-! ## Outermost segments and what they lead -/

section Modules

variable (modules origin : List ModulePath)

theorem mem_listed_iff {path : ModulePath} :
    path ∈ listed origin ↔ path ∈ origin ∧ path.segments ≠ [] := by
  rw [listed, List.mem_filter, ModulePath.not_isEmpty_iff]

theorem mem_tops_iff {top : String} :
    top ∈ tops modules ↔ ∃ path ∈ modules, path.first? = some top := by
  rw [tops, List.mem_mergeSort, List.mem_eraseDups, List.mem_filterMap]

theorem pairwise_tops : (tops modules).Pairwise (· < ·) :=
  pairwise_lt_mergeSort (nodup_eraseDups _)

theorem mem_members_iff {top : String} {path : ModulePath} :
    path ∈ members modules top ↔ path ∈ modules ∧ path.first? = some top := by
  rw [members, List.mem_mergeSort, List.mem_filter, beq_iff_eq]

theorem members_perm (top : String) :
    (members modules top).Perm (modules.filter fun path => path.first? = some top) := by
  simp only [← beq_eq_decide]
  exact List.mergeSort_perm _ _

/-- A module without segments has no outermost segment, so it does not matter. -/
theorem members_listed (top : String) : members (listed origin) top = members origin top := by
  rw [members, members, listed, List.filter_filter]
  congr 1
  refine List.filter_congr fun path _ => ?_
  by_cases h : path.first? = some top
  · rw [ModulePath.not_isEmpty_of_first? h, Bool.and_true]
  · rw [beq_false_of_ne h, Bool.false_and]

/-- Every module with a segment is led by one outermost segment. -/
theorem flatMap_members_perm : ((tops origin).flatMap (members origin)).Perm (listed origin) := by
  have hnodup : ((tops origin).map some).Nodup :=
    ((pairwise_tops origin).imp ne_of_lt).map some fun _ _ hne heq => hne (Option.some.inj heq)
  have hmem : ∀ path ∈ listed origin, path.first? ∈ (tops origin).map some := by
    intro path hpath
    obtain ⟨horigin, hsegments⟩ := (mem_listed_iff origin).1 hpath
    have hfirst : path.first? = some (path.segments.head hsegments) :=
      List.head?_eq_some_head hsegments
    rw [hfirst]
    exact List.mem_map_of_mem ((mem_tops_iff origin).2 ⟨path, horigin, hfirst⟩)
  have hparts := flatMap_filter_perm ModulePath.first? hnodup hmem
  rw [List.flatMap_map] at hparts
  refine List.Perm.trans (List.Perm.flatMap_left _ fun top _ => ?_) hparts
  rw [← members_listed]
  exact List.mergeSort_perm _ _

end Modules

/-! ## Groups and rows -/

variable (rules : NamespaceRules) (origin target : List ModulePath)

/-- The group of the modules that the segment `top` leads. -/
def groupOf (paths : List String) (modules : List ModulePath) (top : String) : SurveyGroup where
  top
  rows := (members modules top).map (row rules paths)

/-- The different namespaces of the modules. -/
def places : List String := ((listed origin).map rules.render).eraseDups

theorem map_path_row (paths : List String) (modules : List ModulePath) :
    (modules.map (row rules paths)).map SurveyRow.path = modules := by
  rw [List.map_map]
  exact List.map_id _

theorem map_place_row (paths : List String) (modules : List ModulePath) :
    (modules.map (row rules paths)).map SurveyRow.place = modules.map rules.render := by
  rw [List.map_map]
  rfl

/-! ## The pass over the origin -/

section Pass

variable {paths : List String} {modules : List ModulePath} {tables : Tables}

/-- The tables hold the rows of the modules by outermost segment, and what is to be said of their
    namespaces. -/
structure Tables.Lists (rules : NamespaceRules) (paths : List String) (modules : List ModulePath)
    (tables : Tables) : Prop where
  byTop : ∀ top, tables.byTop.get? top =
    if top ∈ modules.filterMap ModulePath.first? then
      some ((modules.filter fun path => path.first? == some top).map (row rules paths))
    else none
  places : ∀ place, tables.places.get? place =
    if place ∈ (listed modules).map rules.render then
      some (isCovered paths rules.separator place)
    else none

variable {rules}

theorem Tables.lists_empty : Tables.Lists rules paths [] {} := ⟨fun _ => rfl, fun _ => rfl⟩

/-- What is remembered of a namespace is what the target has there. -/
theorem Tables.Lists.covered_eq (h : tables.Lists rules paths modules) (place : String) :
    (tables.places.get? place).getD (isCovered paths rules.separator place) =
      isCovered paths rules.separator place := by
  rw [h.places]
  split <;> rfl

theorem Tables.Lists.rows_eq (h : tables.Lists rules paths modules) (top : String) :
    (tables.byTop.get? top).getD [] =
      (modules.filter fun path => path.first? == some top).map (row rules paths) := by
  rw [h.byTop]
  split
  · rfl
  · -- No module has this segment, so there is none to make a row of.
    rename_i hnone
    have hempty : (modules.filter fun path => path.first? == some top) = [] :=
      List.filter_eq_nil_iff.2 fun path hpath hfirst =>
        hnone (List.mem_filterMap.2 ⟨path, hpath, beq_iff_eq.1 hfirst⟩)
    rw [hempty]
    rfl

/-- A step of the pass. -/
theorem Tables.Lists.add (h : tables.Lists rules paths modules) (path : ModulePath) :
    (tables.add rules paths path).Lists rules paths (modules ++ [path]) := by
  unfold Tables.add
  split
  case h_1 hfirst =>
    have hlisted : listed (modules ++ [path]) = listed modules := by
      rw [listed, List.filter_append, List.filter_cons_of_neg, List.filter_nil, List.append_nil,
        ← listed]
      simp [ModulePath.isEmpty_of_first? hfirst]
    refine ⟨fun top => ?_, fun place => ?_⟩
    · rw [h.byTop, List.filterMap_append, List.filter_append]
      simp [hfirst]
    · rw [h.places, hlisted]
  case h_2 top hfirst =>
    have hlisted : listed (modules ++ [path]) = listed modules ++ [path] := by
      rw [listed, List.filter_append, List.filter_cons_of_pos, List.filter_nil, ← listed]
      exact ModulePath.not_isEmpty_of_first? hfirst
    dsimp only
    refine ⟨fun other => ?_, fun place => ?_⟩
    · rw [Dictionary.get?_insert, h.rows_eq, h.covered_eq, h.byTop, List.filterMap_append,
        List.filter_append]
      by_cases hother : other = top
      · simp [hother, hfirst, row]
      · simp [hother, hfirst, Ne.symm hother]
    · rw [Dictionary.get?_insert, h.covered_eq, h.places, hlisted]
      by_cases hplace : place = rules.render path
      · simp [hplace]
      · simp [hplace]

theorem Tables.lists_foldl (rules : NamespaceRules) (paths : List String)
    (modules : List ModulePath) :
    (modules.foldl (Tables.add rules paths) {}).Lists rules paths modules := by
  induction modules using List.reverseRecOn with
  | nil => exact lists_empty
  | append_singleton modules path ih =>
    rw [List.foldl_append, List.foldl_cons, List.foldl_nil]
    exact ih.add path

/-- The rows by outermost segment, when the pass is over. -/
theorem Tables.Lists.entries_byTop (h : tables.Lists rules paths modules) :
    tables.byTop.entries = (tops modules).map fun top =>
      (top, (modules.filter fun path => path.first? == some top).map (row rules paths)) := by
  refine Dictionary.entries_eq (pairwise_tops modules) fun top => ?_
  simp only [h.byTop, mem_tops_iff, List.mem_filterMap]

/-- The namespaces, when the pass is over. -/
theorem Tables.Lists.entries_places (h : tables.Lists rules paths modules) :
    tables.places.entries = ((Survey.places rules modules).mergeSort ascending).map fun place =>
      (place, isCovered paths rules.separator place) := by
  refine Dictionary.entries_eq (pairwise_lt_mergeSort (nodup_eraseDups _)) fun place => ?_
  simp only [h.places, List.mem_mergeSort, Survey.places, List.mem_eraseDups]

end Pass

/-- What a survey is made of: of the groups, only what the rows say of coverage depends on the
    target. -/
theorem build_eq :
    build rules origin target =
      { originCount := origin.length
        targetCount := target.length
        groups := (tops origin).map (groupOf rules (written rules target) origin)
        placeCount := (places rules origin).length
        coveredCount := ((places rules origin).filter
          (isCovered (written rules target) rules.separator)).length } := by
  have hlists := Tables.lists_foldl rules (written rules target) origin
  have hperm := List.mergeSort_perm (places rules origin) ascending
  -- A row is sorted by the dotted name of its module, so the modules may be sorted instead.
  have hsort (part : List ModulePath) :
      (part.mergeSort fun a b => ascending a.dotted b.dotted).map
          (row rules (written rules target)) =
        (part.map (row rules (written rules target))).mergeSort fun a b =>
          ascending a.path.dotted b.path.dotted :=
    List.map_mergeSort fun _ _ _ _ => rfl
  rw [build, hlists.entries_byTop, hlists.entries_places]
  congr 1
  · rw [List.map_map]
    refine List.map_congr_left fun top _ => ?_
    rw [groupOf, members, hsort]
    rfl
  · rw [List.length_map, hperm.length_eq]
  · rw [List.filter_map, List.length_map]
    exact (hperm.filter _).length_eq

theorem groups_build :
    (build rules origin target).groups =
      (tops origin).map (groupOf rules (written rules target) origin) :=
  congrArg groups (build_eq rules origin target)

theorem coveredCount_eq :
    (build rules origin target).coveredCount =
      ((places rules origin).filter (isCovered (written rules target) rules.separator)).length :=
  congrArg coveredCount (build_eq rules origin target)

theorem rows_build :
    (build rules origin target).rows =
      ((tops origin).flatMap (members origin)).map (row rules (written rules target)) := by
  rw [rows, groups_build, List.flatMap_map, List.map_flatMap]
  rfl

/-- Every module with a segment has one row, and there are no other rows. -/
theorem rows_build_perm :
    (build rules origin target).rows.Perm
      ((listed origin).map (row rules (written rules target))) := by
  rw [rows_build]
  exact (flatMap_members_perm origin).map _

theorem row_mem_rows {path : ModulePath} (h : path ∈ origin) (hsegments : path.segments ≠ []) :
    row rules (written rules target) path ∈ (build rules origin target).rows := by
  rw [(rows_build_perm rules origin target).mem_iff]
  exact List.mem_map_of_mem ((mem_listed_iff origin).2 ⟨h, hsegments⟩)

/-- A row is that of a module with a segment, and says of its namespace what the written paths say
    of it. -/
theorem of_mem_rows {r : SurveyRow} (h : r ∈ (build rules origin target).rows) :
    r.path ∈ origin ∧ r.path.segments ≠ [] ∧ r = row rules (written rules target) r.path := by
  rw [(rows_build_perm rules origin target).mem_iff] at h
  obtain ⟨path, hpath, rfl⟩ := List.mem_map.1 h
  obtain ⟨horigin, hsegments⟩ := (mem_listed_iff origin).1 hpath
  exact ⟨horigin, hsegments, rfl⟩

/-! ## One group -/

theorem map_path_groupOf (paths : List String) (top : String) :
    (groupOf rules paths origin top).rows.map SurveyRow.path = members origin top :=
  map_path_row rules paths _

theorem gathers_of_mem_groups {group : SurveyGroup}
    (h : group ∈ (build rules origin target).groups) : group.Gathers origin := by
  rw [groups_build] at h
  obtain ⟨top, htop, rfl⟩ := List.mem_map.1 h
  constructor
  case rows_ne_nil =>
    obtain ⟨path, horigin, hfirst⟩ := (mem_tops_iff origin).1 htop
    have hpath : path ∈ members origin top := (mem_members_iff origin).2 ⟨horigin, hfirst⟩
    exact fun hnil => List.ne_nil_of_mem hpath (List.map_eq_nil_iff.1 hnil)
  case first?_eq =>
    intro r hr
    obtain ⟨path, hpath, rfl⟩ := List.mem_map.1 hr
    exact ((mem_members_iff origin).1 hpath).2
  case perm =>
    rw [map_path_groupOf]
    exact members_perm origin top
  case pairwise =>
    rw [groupOf, List.pairwise_map]
    exact pairwise_mergeSort_key ModulePath.dotted _
  case ties =>
    intro name
    rw [map_path_groupOf, members, filter_mergeSort_key, List.filter_filter]
    refine List.filter_congr fun path _ => ?_
    rw [Bool.decide_and, Bool.and_comm, beq_eq_decide]
    rfl

/-! ## Counts -/

theorem nodup_places : (places rules origin).Nodup := nodup_eraseDups _

theorem toFinset_places :
    (places rules origin).toFinset =
      ((build rules origin target).rows.map SurveyRow.place).toFinset := by
  have hperm := (rows_build_perm rules origin target).map SurveyRow.place
  rw [map_place_row] at hperm
  rw [places, toFinset_eraseDups, List.toFinset_eq_of_perm _ _ hperm]

/-- The number of namespaces is that of the different namespaces among the rows. -/
theorem placeCount_build :
    (build rules origin target).placeCount =
      ((build rules origin target).rows.map SurveyRow.place).toFinset.card := by
  rw [← toFinset_places rules origin target,
    List.toFinset_card_of_nodup (nodup_places rules origin), build_eq]

/-- The number of covered namespaces is that of the different namespaces among the rows that are
    covered. -/
theorem coveredCount_build :
    (build rules origin target).coveredCount =
      (((build rules origin target).rows.filter SurveyRow.covered).map
        SurveyRow.place).toFinset.card := by
  have hnodup : ((places rules origin).filter
      (isCovered (written rules target) rules.separator)).Nodup :=
    (nodup_places rules origin).filter _
  rw [coveredCount_eq, ← List.toFinset_card_of_nodup hnodup]
  congr 1
  ext name
  have hname : name ∈ places rules origin ↔
      ∃ r ∈ (build rules origin target).rows, r.place = name := by
    rw [← List.mem_toFinset, toFinset_places rules origin target, List.mem_toFinset, List.mem_map]
  simp only [List.mem_toFinset, List.mem_filter, List.mem_map, hname]
  constructor
  · rintro ⟨⟨r, hr, rfl⟩, hcovered⟩
    refine ⟨r, ⟨hr, ?_⟩, rfl⟩
    rw [(of_mem_rows rules origin target hr).2.2] at hcovered ⊢
    exact hcovered
  · rintro ⟨r, ⟨hr, hcovered⟩, rfl⟩
    refine ⟨⟨r, hr, rfl⟩, ?_⟩
    rw [(of_mem_rows rules origin target hr).2.2] at hcovered ⊢
    exact hcovered

/-- The accounts of a survey. Groups come by their outermost segments in strictly ascending order,
    and each gathers the modules that its segment leads. Over all groups, every module with a
    segment has one row, and the others have none. A row gives the namespace of its module, and rows
    with the same namespace agree on whether it is covered. Namespaces are counted once, however
    many rows they have. -/
theorem build_accounts (rules : NamespaceRules) (origin target : List ModulePath) :
    let survey := build rules origin target
    survey.originCount = origin.length ∧
    survey.targetCount = target.length ∧
    survey.groups.Pairwise (fun a b => bytes a.top < bytes b.top) ∧
    (∀ group ∈ survey.groups, group.Gathers origin) ∧
    (survey.rows.map SurveyRow.path).Perm (origin.filter fun path => !path.isEmpty) ∧
    (∀ r ∈ survey.rows, r.place = rules.render r.path) ∧
    (∀ r ∈ survey.rows, ∀ r' ∈ survey.rows, r.place = r'.place → r.covered = r'.covered) ∧
    survey.placeCount = (survey.rows.map SurveyRow.place).toFinset.card ∧
    survey.coveredCount =
      ((survey.rows.filter SurveyRow.covered).map SurveyRow.place).toFinset.card ∧
    survey.coveredCount ≤ survey.placeCount ∧
    survey.placeCount ≤ survey.rows.length ∧
    survey.rows.length ≤ survey.originCount := by
  intro survey
  have hrow {r : SurveyRow} (hr : r ∈ survey.rows) : r = row rules (written rules target) r.path :=
    (of_mem_rows rules origin target hr).2.2
  have hplaces : survey.placeCount = _ := placeCount_build rules origin target
  have hcovered : survey.coveredCount = _ := coveredCount_build rules origin target
  refine ⟨rfl, rfl, ?_, fun group => gathers_of_mem_groups rules origin target, ?_, ?_, ?_,
    hplaces, hcovered, ?_, ?_, ?_⟩
  · rw [groups_build, List.pairwise_map]
    exact (pairwise_tops origin).imp lt_iff_bytes_lt.1
  · have hperm := (rows_build_perm rules origin target).map SurveyRow.path
    rwa [map_path_row] at hperm
  · intro r hr
    exact congrArg SurveyRow.place (hrow hr)
  · intro r hr r' hr' hplace
    rw [hrow hr, hrow hr'] at hplace ⊢
    exact congrArg (isCovered (written rules target) rules.separator) hplace
  · rw [hplaces, hcovered]
    refine Finset.card_le_card fun name hname => ?_
    rw [List.mem_toFinset] at hname ⊢
    exact List.map_subset _ List.filter_sublist.subset hname
  · rw [hplaces, ← List.length_map SurveyRow.place]
    exact List.toFinset_card_le _
  · rw [(rows_build_perm rules origin target).length_eq, List.length_map]
    exact List.length_filter_le _ _

/-- Five modules, of which one has no segment and two have the same dotted name and hence the same
    namespace. The target has a file in it, so two rows are covered, but one namespace. -/
theorem build_accounts_of_shared_name :
    let origin : List ModulePath :=
      [⟨["a", "b.c"]⟩, ⟨[]⟩, ⟨["z"]⟩, ⟨["a", "b", "c"]⟩, ⟨["a", "a"]⟩]
    let survey := build {} origin [⟨["A", "B", "C", "X"]⟩]
    survey.originCount = 5 ∧ survey.rows.length = 4 ∧ survey.placeCount = 3 ∧
    survey.coveredCount = 1 ∧
    (∃ group ∈ survey.groups, group.top = "a" ∧ group.rows.length = 3 ∧
      ((group.rows.map SurveyRow.path).filter fun path => path.dotted = "a.b.c") =
        [⟨["a", "b.c"]⟩, ⟨["a", "b", "c"]⟩]) ∧
    (∃ r ∈ survey.rows, ∃ r' ∈ survey.rows, r.path = ⟨["a", "b.c"]⟩ ∧
      r'.path = ⟨["a", "b", "c"]⟩ ∧ r.place = r'.place ∧ r.covered = true ∧ r'.covered = true) ∧
    ∃ r ∈ survey.rows, r.path = ⟨["a", "a"]⟩ ∧ r.covered = false := by
  intro origin survey
  obtain ⟨horigin, _, _, hgroups, hrows, hplace, hcovered, hplaces, _⟩ :=
    build_accounts {} origin [⟨["A", "B", "C", "X"]⟩]
  have hwritten : written {} [⟨["A", "B", "C", "X"]⟩] = ["A.B.C.X"] := by
    rw [written, List.map_singleton, List.mergeSort_singleton]
    decide
  have hrow (path : ModulePath) (hpath : path ∈ origin.filter fun path => !path.isEmpty) :
      ∃ r ∈ survey.rows, r.path = path := List.mem_map.1 (hrows.mem_iff.2 hpath)
  have hsees (r : SurveyRow) (hr : r ∈ survey.rows) :
      r.covered = isCovered ["A.B.C.X"] "." (NamespaceRules.render {} r.path) := by
    rw [← hwritten]
    exact congrArg SurveyRow.covered (of_mem_rows {} origin _ hr).2.2
  have hlength : survey.rows.length = 4 := by
    rw [← List.length_map SurveyRow.path, hrows.length_eq]
    decide
  have hcount : survey.placeCount = 3 := by
    have hrender : survey.rows.map SurveyRow.place =
        (survey.rows.map SurveyRow.path).map (NamespaceRules.render {}) := by
      rw [List.map_map]
      exact List.map_congr_left hplace
    rw [hplaces, hrender, List.toFinset_eq_of_perm _ _ (hrows.map _)]
    decide
  have hone : survey.coveredCount = 1 := by
    rw [coveredCount_eq, hwritten]
    decide
  obtain ⟨r, hr, hpath⟩ := hrow ⟨["a", "b.c"]⟩ (by decide)
  obtain ⟨r', hr', hpath'⟩ := hrow ⟨["a", "b", "c"]⟩ (by decide)
  obtain ⟨other, hother, hotherPath⟩ := hrow ⟨["a", "a"]⟩ (by decide)
  have hsame : r.place = r'.place := by
    rw [hplace r hr, hplace r' hr', hpath, hpath']
    decide
  have hseen : r.covered = true := by
    rw [hsees r hr, hpath]
    decide
  have hunseen : other.covered = false := by
    rw [hsees other hother, hotherPath]
    decide
  obtain ⟨group, hgroup, hmem⟩ := List.mem_flatMap.1 hr
  have hgathers := hgroups group hgroup
  have htop : group.top = "a" := by
    have hfirst := hgathers.first?_eq r hmem
    rw [hpath] at hfirst
    exact (Option.some.inj hfirst).symm
  refine ⟨horigin, hlength, hcount, hone, ⟨group, hgroup, htop, ?_, ?_⟩,
    ⟨r, hr, r', hr', hpath, hpath', hsame, hseen, hcovered r hr r' hr' hsame ▸ hseen⟩,
    other, hother, hotherPath, hunseen⟩
  · rw [← List.length_map SurveyRow.path, hgathers.perm.length_eq, htop]
    decide
  · rw [hgathers.ties, htop]
    decide

end Survey

end Migration
