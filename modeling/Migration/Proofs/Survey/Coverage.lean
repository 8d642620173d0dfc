import Migration.Proofs.Module.Namespace
import Migration.Proofs.Survey.Rows
import Migration.Proofs.Text.Bytes
import Migration.Proofs.Text.Join

/-!
# Covered namespaces

A namespace is covered if the written path of one of the target's files *lies in* it
(`Survey.LiesIn`): it is the written namespace, or starts with that and a separator. The survey does
not go through all paths to see it. It keeps them in ascending order, asks whether the namespace is
among them, and looks at one more; this gives the same answer (`isCovered_iff`).

What is said so of written paths can be said of segments, if the separator keeps them apart: a
namespace is covered if and only if the path of some file starts with its segments.

Whatever the separator is, a path that lies in a namespace also lies in the namespaces around it
(`LiesIn.outer`). So if a module further inside a package is covered, then the package is, wherever
the namespace of the one lies inside that of the other.
-/

namespace Migration.Survey

open Text

/-- The written path is the written namespace, or goes on behind it with a separator. -/
def LiesIn (separator place path : String) : Prop :=
  path = place ∨ (place ++ separator).toList <+: path.toList

instance (separator place path : String) : Decidable (LiesIn separator place path) :=
  inferInstanceAs (Decidable (_ ∨ _))

/-- What lies in a namespace lies in the namespaces around it. -/
theorem LiesIn.outer {separator place more path : String}
    (h : LiesIn separator (place ++ separator ++ more) path) : LiesIn separator place path := by
  have hstart : (place ++ separator).toList <+: (place ++ separator ++ more).toList := by
    rw [String.toList_append (s := place ++ separator)]
    exact List.prefix_append _ _
  right
  rcases h with rfl | hpath
  · exact hstart
  · rw [String.toList_append (s := place ++ separator ++ more)] at hpath
    exact (hstart.trans (List.prefix_append _ _)).trans hpath

/-! ## Looking a namespace up -/

theorem isCovered_eq (paths : List String) (separator place : String) :
    isCovered paths separator place = (paths.contains place ||
      (paths.find? (ascending (place ++ separator))).any (startsWith (place ++ separator))) := by
  rw [isCovered]
  congr 1
  split
  case h_1 path hfirst => rw [hfirst, Option.any_some]
  case h_2 hnone => rw [hnone, Option.any_none]

/-- Two looks at the paths in ascending order are enough. -/
theorem isCovered_iff {paths : List String} (hsorted : paths.Pairwise (· ≤ ·))
    (separator place : String) :
    isCovered paths separator place = true ↔ ∃ path ∈ paths, LiesIn separator place path := by
  have hlook := exists_prefix_iff_find? hsorted (place ++ separator)
  rw [isCovered_eq, Bool.or_eq_true, List.contains_iff_mem, Option.any_eq_true]
  simp only [startsWith_iff, ← hlook]
  constructor
  · rintro (hplace | ⟨path, hpath, hstart⟩)
    · exact ⟨place, hplace, .inl rfl⟩
    · exact ⟨path, hpath, .inr hstart⟩
  · rintro ⟨path, hpath, rfl | hstart⟩
    · exact .inl hpath
    · exact .inr ⟨path, hpath, hstart⟩

/-- Two looks at a set of texts, kept in the order of their bytes, tell whether one of them is the
    namespace or starts with the namespace and a separator. -/
theorem isCovered_iff_exists_bytes (paths : Finset String) (separator place : String) :
    let ordered := paths.toList.mergeSort ascending
    (ordered.Pairwise fun a b => bytes a < bytes b) ∧ (∀ path, path ∈ ordered ↔ path ∈ paths) ∧
      (isCovered ordered separator place = true ↔
        ∃ path ∈ paths, path = place ∨ bytes (place ++ separator) <+: bytes path) := by
  intro ordered
  have hmem (path : String) : path ∈ ordered ↔ path ∈ paths :=
    List.mem_mergeSort.trans Finset.mem_toList
  have hsorted : ordered.Pairwise (· < ·) := pairwise_lt_mergeSort paths.nodup_toList
  refine ⟨hsorted.imp lt_iff_bytes_lt.1, hmem, ?_⟩
  rw [isCovered_iff (hsorted.imp le_of_lt)]
  simp only [LiesIn, bytes_prefix_iff, hmem]

variable (rules : NamespaceRules) (origin target : List ModulePath)

theorem pairwise_written : (written rules target).Pairwise (· ≤ ·) := pairwise_mergeSort_key id _

theorem isCovered_written_iff {place : String} :
    isCovered (written rules target) rules.separator place = true ↔
      ∃ path ∈ target,
        LiesIn rules.separator place (rules.separator.intercalate path.segments) := by
  rw [isCovered_iff (pairwise_written rules target)]
  simp only [written, List.mem_mergeSort, List.mem_map, exists_exists_and_eq_and]

theorem covered_iff {r : SurveyRow} (h : r ∈ (build rules origin target).rows) :
    r.covered = true ↔ ∃ path ∈ target,
      LiesIn rules.separator (rules.render r.path) (rules.separator.intercalate path.segments) := by
  rw [(of_mem_rows rules origin target h).2.2]
  exact isCovered_written_iff rules target

/-! ## Written paths and segments -/

/-- If the separator keeps the segments apart, then a row is covered if and only if the path of some
    file of the target starts with the segments of the row's namespace. -/
theorem covered_iff_prefix_segments (rules : NamespaceRules) (origin target : List ModulePath)
    (hseparator : rules.separator ≠ "") (htarget : ∀ path ∈ target, path.segments ≠ [])
    (hfiles : ∀ path ∈ target, Separates rules.separator path.segments)
    (hplaces : ∀ path ∈ origin, Separates rules.separator (rules.place path).segments) :
    ∀ r ∈ (build rules origin target).rows,
      (r.covered = true ↔
        ∃ path ∈ target, (rules.place r.path).segments <+: path.segments) := by
  intro r hr
  obtain ⟨horigin, hsegments, _⟩ := of_mem_rows rules origin target hr
  rw [covered_iff rules origin target hr]
  refine exists_congr fun path => and_congr_right fun hpath => ?_
  exact written_eq_or_prefix_iff hseparator (rules.place_ne_nil hsegments) (htarget path hpath)
    (hplaces r.path horigin) (hfiles path hpath)

/-- A separator of two characters, and a file whose last segment is empty: `Formats::GFF` is covered
    by `Formats::GFF::`, and `Utility::io` is not covered by `Utility::iox`. -/
theorem covered_iff_prefix_segments_at_formats :
    let rules : NamespaceRules := { separator := "::" }
    let origin : List ModulePath :=
      [⟨["pykotor", "resource", "formats", "gff"]⟩, ⟨["utility", "io"]⟩]
    let target : List ModulePath := [⟨["Formats", "GFF", ""]⟩, ⟨["Utility", "iox"]⟩]
    (∃ r ∈ (build rules origin target).rows, r.place = "Formats::GFF" ∧ r.covered = true) ∧
      ∃ r ∈ (build rules origin target).rows, r.place = "Utility::io" ∧ r.covered = false := by
  intro rules origin target
  have hiff := covered_iff_prefix_segments rules origin target (by decide)
    (by decide) (by decide) (by decide)
  have hgff := row_mem_rows rules origin target List.mem_cons_self (List.cons_ne_nil _ _)
  have hio := row_mem_rows rules origin target (List.mem_cons_of_mem _ List.mem_cons_self)
    (List.cons_ne_nil _ _)
  refine ⟨⟨_, hgff, by decide, (hiff _ hgff).2 (by decide)⟩,
    ⟨_, hio, by decide, ?_⟩⟩
  rw [← Bool.not_eq_true, hiff _ hio]
  decide

/-! ## Packages and what is inside them -/

/-- If a module further inside a package is covered, then so is the package. -/
theorem covered_of_covered_inside (rules : NamespaceRules) (origin target : List ModulePath)
    {r r' : SurveyRow} {inner : List String} (hr : r ∈ (build rules origin target).rows)
    (hr' : r' ∈ (build rules origin target).rows) (hsettled : rules.IsSettled r.path)
    (hinner : inner ≠ []) (hpath : r'.path = ⟨r.path.segments ++ inner⟩)
    (hcovered : r'.covered = true) : r.covered = true := by
  rw [covered_iff rules origin target hr', hpath, rules.render_append hsettled hinner] at hcovered
  obtain ⟨path, htarget, hlies⟩ := hcovered
  exact (covered_iff rules origin target hr).2 ⟨path, htarget, hlies.outer⟩

/-- The package `tools.model` of the library, with a module inside it; nothing is between the
    segments of a namespace. The package `resource` is not settled: it is not covered, though a
    format inside it is. -/
theorem covered_of_covered_inside_at_tools :
    let rules : NamespaceRules := { separator := "" }
    let origin : List ModulePath :=
      [⟨["pykotor", "tools", "model", "mdl"]⟩, ⟨["pykotor", "tools", "model"]⟩,
        ⟨["pykotor", "resource", "formats", "gff"]⟩, ⟨["pykotor", "resource"]⟩]
    let target : List ModulePath := [⟨["ToolsModelMdl", "Loader"]⟩, ⟨["Formats", "GFF"]⟩]
    let rows := (build rules origin target).rows
    (∃ r ∈ rows, ∃ r' ∈ rows, r.place = "ToolsModel" ∧ r'.place = "ToolsModelMdl" ∧
      rules.IsSettled r.path ∧ r'.path = ⟨r.path.segments ++ ["mdl"]⟩ ∧ r'.covered = true ∧
        r.covered = true) ∧
      ∃ r ∈ rows, ∃ r' ∈ rows, r.place = "Resource" ∧ r'.place = "FormatsGFF" ∧
        ¬rules.IsSettled r.path ∧ r'.path = ⟨r.path.segments ++ ["formats", "gff"]⟩ ∧
          r'.covered = true ∧ r.covered = false := by
  intro rules origin target rows
  have hrow (path : ModulePath) (hpath : path ∈ origin) (hsegments : path.segments ≠ []) :=
    row_mem_rows rules origin target hpath hsegments
  have hinside := hrow ⟨["pykotor", "tools", "model", "mdl"]⟩ (by decide) (by decide)
  have hpackage := hrow ⟨["pykotor", "tools", "model"]⟩ (by decide) (by decide)
  have hformat := hrow ⟨["pykotor", "resource", "formats", "gff"]⟩ (by decide) (by decide)
  have hresource := hrow ⟨["pykotor", "resource"]⟩ (by decide) (by decide)
  have hsettled : rules.IsSettled ⟨["pykotor", "tools", "model"]⟩ :=
    ⟨by decide, by decide, by decide⟩
  have hcovered := (covered_iff rules origin target hinside).2
    ⟨⟨["ToolsModelMdl", "Loader"]⟩, List.mem_cons_self, .inr (by decide)⟩
  have hfound := (covered_iff rules origin target hformat).2
    ⟨⟨["Formats", "GFF"]⟩, List.mem_cons_of_mem _ List.mem_cons_self, .inl (by decide)⟩
  refine ⟨⟨_, hpackage, _, hinside, by decide, by decide, hsettled, rfl, hcovered,
    covered_of_covered_inside rules origin target hpackage hinside hsettled
      (List.cons_ne_nil _ _) rfl hcovered⟩,
    ⟨_, hresource, _, hformat, by decide, by decide, fun h => ?_, rfl, hfound, ?_⟩⟩
  · exact h.ne_package (by decide)
  · rw [← Bool.not_eq_true, covered_iff rules origin target hresource]
    decide

end Migration.Survey
