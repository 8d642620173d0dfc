import Mathlib.Data.List.Nodup
import Migration.Proofs.FileSystem.Path

/-!
# The directories above a path

From a path one goes up to its parent, from there to the parent of that, and so on. Every step takes
one component away and never the root (`exists_components_of_parent?`), so there are as many steps
as components besides the root (`height`). What the paths on the way are written like is another
matter: they are told by their components (`map_components_ancestors`).

The root stands at the front of a path or nowhere (`components_of_isAbsolute`,
`root_not_mem_components`), which tells where the way ends.
-/

namespace Migration.Path

/-- The number of components of a path besides the root. -/
def height (path : Path) : Nat := path.components.countP (· != .root)

/-! ## The root -/

theorem root_not_mem_filterMap (parts : List Name) :
    .root ∉ parts.filterMap component? := by
  rw [List.mem_filterMap]
  rintro ⟨part, -, hroot⟩
  exact component?_ne_root part hroot

theorem components_of_isAbsolute {path : Path} (h : path.isAbsolute = true) :
    ∃ rest, path.components = .root :: rest ∧ .root ∉ rest := by
  obtain ⟨behind, hbytes⟩ := List.head?_eq_some_iff.1 (beq_iff_eq.1 h)
  have hparts : path.bytes.splitOn slash = [] :: behind.splitOn slash := by
    rw [hbytes]
    exact List.splitOn_append_cons_self [] behind
  refine ⟨(behind.splitOn slash).filterMap component?, ?_, root_not_mem_filterMap _⟩
  rw [components_of_splitOn hparts, if_pos ⟨rfl, List.splitOn_ne_nil slash behind⟩]

theorem root_not_mem_components {path : Path} (h : path.isAbsolute = false) :
    .root ∉ path.components := by
  obtain ⟨first, rest, hparts⟩ :=
    List.exists_cons_of_ne_nil (List.splitOn_ne_nil slash path.bytes)
  have hfront : ¬(first = [] ∧ rest ≠ []) := by
    -- An empty part with others behind it is a slash at the front.
    rintro ⟨rfl, hrest⟩
    have hbytes : [slash].intercalate (path.bytes.splitOn slash) = path.bytes :=
      List.intercalate_splitOn slash
    obtain ⟨next, more, rfl⟩ := List.exists_cons_of_ne_nil hrest
    rw [hparts, List.intercalate_cons_cons] at hbytes
    rw [isAbsolute, ← hbytes] at h
    cases h
  rw [components_of_splitOn hparts, if_neg hfront]
  split_ifs
  · rw [List.mem_cons, not_or]
    exact ⟨by decide, root_not_mem_filterMap _⟩
  · exact root_not_mem_filterMap _

/-! ## The way up -/

theorem height_of_parent? {path parent : Path} (h : path.parent? = some parent) :
    path.height = parent.height + 1 := by
  obtain ⟨last, hlast, hcomponents⟩ := exists_components_of_parent? h
  rw [height, hcomponents, List.countP_append, List.countP_singleton, if_pos (bne_iff_ne.2 hlast)]
  rfl

theorem height_of_parent?_eq_none {path : Path} (h : path.parent? = none) : path.height = 0 := by
  rcases parent?_eq_none_iff.1 h with hnil | hroot
  · rw [height, hnil]
    rfl
  · rw [height, hroot]
    rfl

/-- One directory for every number of components that can be taken away, up to so many directories
    as are asked for. -/
theorem map_components_ancestors (path : Path) (depth : Nat) :
    (path.ancestors depth).map components =
      (List.range (min depth (path.height + 1))).map path.components.rdrop := by
  induction depth generalizing path with
  | zero => rw [Nat.zero_min]; rfl
  | succ depth ih =>
    rw [ancestors, List.map_cons, Nat.succ_min_succ, List.range_succ_eq_map, List.map_cons,
      List.map_map, List.rdrop_zero]
    congr 1
    split
    case h_1 parent hparent =>
      -- Taking `k` components from the parent is taking `k + 1` from the path.
      obtain ⟨last, -, hcomponents⟩ := exists_components_of_parent? hparent
      rw [ih, height_of_parent? hparent, hcomponents]
      exact List.map_congr_left fun k _ => (List.rdrop_concat_succ _ k last).symm
    case h_2 hparent => rw [height_of_parent?_eq_none hparent, Nat.min_zero]; rfl

theorem length_ancestors (path : Path) (depth : Nat) :
    (path.ancestors depth).length = min depth (path.height + 1) := by
  have hlength := congrArg List.length (map_components_ancestors path depth)
  rwa [List.length_map, List.length_map, List.length_range] at hlength

theorem length_ancestors_le (path : Path) (depth : Nat) :
    (path.ancestors depth).length ≤ depth :=
  (path.length_ancestors depth).trans_le (Nat.min_le_left _ _)

/-- No two directories on the way have the same components. -/
theorem nodup_components_ancestors (path : Path) (depth : Nat) :
    ((path.ancestors depth).map components).Nodup := by
  rw [map_components_ancestors]
  refine List.nodup_range.map_on fun k hk l hl hkl => ?_
  have hheight : path.height ≤ path.components.length := List.countP_le_length
  have hlength := congrArg List.length hkl
  rw [List.rdrop, List.rdrop, List.length_take, List.length_take] at hlength
  rw [List.mem_range] at hk hl
  omega

/-- Without its components besides the root, a path is the root or empty. -/
theorem rdrop_height (path : Path) :
    path.components.rdrop path.height = if path.isAbsolute then [.root] else [] := by
  have hcount {components : List Component} (h : .root ∉ components) :
      components.countP (· != .root) = components.length :=
    List.countP_eq_length.2 fun c hc => bne_iff_ne.2 (ne_of_mem_of_not_mem hc h)
  split
  case isTrue h =>
    obtain ⟨rest, hcomponents, hrest⟩ := components_of_isAbsolute h
    rw [height, hcomponents, List.countP_cons_of_neg (by decide), hcount hrest,
      List.rdrop, List.length_cons, Nat.add_sub_cancel_left, List.take_one]
    rfl
  case isFalse h =>
    rw [height, hcount (root_not_mem_components (Bool.eq_false_iff.2 h)), List.rdrop, Nat.sub_self,
      List.take_zero]

theorem components_of_getElem?_ancestors {path dir : Path} {depth k : Nat}
    (h : (path.ancestors depth)[k]? = some dir) : dir.components = path.components.rdrop k := by
  obtain ⟨hlt, -⟩ := List.getElem?_eq_some_iff.1 h
  rw [length_ancestors] at hlt
  have hk := congrArg (·[k]?) (map_components_ancestors path depth)
  rw [List.getElem?_map, List.getElem?_map, h, List.getElem?_range hlt] at hk
  exact Option.some.inj hk

/-- The last directory of a way that is not cut off. -/
theorem getLast?_ancestors {path : Path} {depth : Nat} (h : path.height < depth) :
    ∃ last, (path.ancestors depth).getLast? = some last ∧
      last.components = path.components.rdrop path.height := by
  have hlength : (path.ancestors depth).length = path.height + 1 := by
    rw [length_ancestors, Nat.min_eq_right h]
  have hlast : (path.ancestors depth).getLast? = (path.ancestors depth)[path.height]? := by
    rw [List.getLast?_eq_getElem?, hlength, Nat.add_sub_cancel]
  have hlt : path.height < (path.ancestors depth).length := hlength ▸ Nat.lt_succ_self _
  have hget := List.getElem?_eq_getElem hlt
  exact ⟨_, hlast.trans hget, components_of_getElem?_ancestors hget⟩

/-- The way up has one directory more than the path has components besides the root, unless fewer
    are asked for. So many directories up, so many components are missing at the end, and therefore
    no directory comes twice. If enough are asked for, the last one is the root or the empty path.
    -/
theorem ancestors_chain (start : Path) (depth : Nat) :
    (start.ancestors depth).length = min depth (start.height + 1) ∧
      (∀ k dir, (start.ancestors depth)[k]? = some dir →
        dir.components = start.components.rdrop k) ∧
      (start.height < depth → ∃ last, (start.ancestors depth).getLast? = some last ∧
        if start.isAbsolute then last.components = [.root] else last = ⟨[]⟩) ∧
      ((start.ancestors depth).map components).Nodup := by
  refine ⟨length_ancestors start depth, fun k dir => components_of_getElem?_ancestors,
    fun hdepth => ?_, nodup_components_ancestors start depth⟩
  obtain ⟨last, hlast, hcomponents⟩ := getLast?_ancestors hdepth
  refine ⟨last, hlast, ?_⟩
  rw [rdrop_height] at hcomponents
  split_ifs at hcomponents ⊢
  · exact hcomponents
  · rw [← components_eq_nil_iff.1 hcomponents]

/-- Spare slashes and dots are no directories, and two dots are one. -/
theorem ancestors_chain_of_spare_slashes :
    let start := ofText "//a/./../b/"
    start.ancestors 100 = [ofText "//a/./../b/", ofText "//a/./..", ofText "//a", ofText "/"] ∧
      4 = min 100 (start.height + 1) ∧
      (ofText "//a/./..").components = start.components.rdrop 1 ∧
      start.height < 100 ∧ start.isAbsolute = true ∧ (ofText "/").components = [.root] := by
  intro start
  have hdirs : start.ancestors 100 =
      [ofText "//a/./../b/", ofText "//a/./..", ofText "//a", ofText "/"] := by decide
  have hheight : start.height < 100 := by decide
  have habsolute : start.isAbsolute = true := by decide
  obtain ⟨hlength, hcomponents, hend, -⟩ := ancestors_chain start 100
  obtain ⟨last, hlast, hroot⟩ := hend hheight
  rw [hdirs] at hlength hcomponents hlast
  obtain rfl : ofText "/" = last := Option.some.inj hlast
  rw [if_pos habsolute] at hroot
  exact ⟨hdirs, hlength, hcomponents 1 _ rfl, hheight, habsolute, hroot⟩

end Migration.Path
