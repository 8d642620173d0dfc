import Mathlib.Data.List.DropRight
import Mathlib.Data.List.Infix
import Migration.FileSystem.Path
import Migration.Proofs.Text.Join

/-!
# Components of file paths

A path is a list of bytes, but what it says is in its components, and the operations on paths can be
told by them:

* only the empty path has no components (`components_eq_nil_iff`);
* the parent of a path lacks its last component (`components_of_parent?`), and all paths have a
  parent but the empty one and the root (`parent?_eq_none_iff`);
* a name joined to a path is one more component (`components_join`), so that the parent of the two
  together has the components of the path (`exists_parent?_join`), though it may be written in
  another way.

A parent is made by taking the path apart, dropping parts and putting it together again. What comes
out is taken apart in the same way as before, since the path had that form already (`IsSplit`).
-/

namespace Migration.Path

/-! ## Fronts and parts -/

/-- How a path is split, told by its parts between slashes. -/
theorem split_eq {path : Path} {first : Name} {rest : List Name}
    (h : path.bytes.splitOn slash = first :: rest) :
    path.split =
      if first = [] ∧ rest ≠ [] then (.root, rest)
      else if first = [dot] then (.current, rest)
      else (.bare, first :: rest) := by
  unfold split
  rw [h]

/-- A path whose only part is empty is empty. -/
theorem bytes_eq_of_splitOn {path : Path} (h : path.bytes.splitOn slash = [[]]) :
    path.bytes = [] := by
  have hbytes : [slash].intercalate (path.bytes.splitOn slash) = path.bytes :=
    List.intercalate_splitOn slash
  rw [h] at hbytes
  exact hbytes.symm

/-- A front and parts that a path can be split into: no part holds a slash and, without a front, the
    first part says something. -/
structure IsSplit (front : Front) (parts : List Name) : Prop where
  bare : front = .bare → ∀ part ∈ parts.head?, isVoid part = false
  noSlash : ∀ part ∈ parts, slash ∉ part

theorem isVoid_iff {part : Name} : isVoid part = true ↔ part = [] ∨ part = [dot] := by
  rw [isVoid, Bool.or_eq_true, beq_iff_eq, beq_iff_eq]

theorem isSplit_split {path : Path} (h : path.bytes ≠ []) :
    IsSplit path.split.1 path.split.2 := by
  obtain ⟨first, rest, hparts⟩ :=
    List.exists_cons_of_ne_nil (List.splitOn_ne_nil slash path.bytes)
  have hslash := Text.not_mem_of_splitOn slash path.bytes
  rw [hparts] at hslash
  rw [split_eq hparts]
  split_ifs with habs hdot
  · exact ⟨nofun, fun part hpart => hslash part (List.mem_cons_of_mem _ hpart)⟩
  · exact ⟨nofun, fun part hpart => hslash part (List.mem_cons_of_mem _ hpart)⟩
  · refine ⟨fun _ part hpart => ?_, hslash⟩
    obtain rfl : first = part := by simpa using hpart
    rw [← Bool.not_eq_true, isVoid_iff]
    rintro (rfl | rfl)
    · obtain rfl : rest = [] := by simpa using habs
      exact h (bytes_eq_of_splitOn hparts)
    · exact hdot rfl

theorem IsSplit.fewer {front : Front} {parts fewer : List Name}
    (h : IsSplit front parts) (hfewer : fewer <+: parts) : IsSplit front fewer where
  bare hfront part hpart := by
    refine h.bare hfront part ?_
    cases fewer with
    | nil => cases hpart
    | cons first fewer =>
      obtain ⟨more, rfl⟩ := hfewer
      exact hpart
  noSlash part hpart := h.noSlash part (hfewer.subset hpart)

/-! ## Trimming -/

theorem trimVoid_eq_rdropWhile (parts : List Name) :
    trimVoid parts = parts.rdropWhile isVoid :=
  rfl

theorem trimVoid_isPrefix (parts : List Name) : trimVoid parts <+: parts :=
  List.rdropWhile_prefix isVoid parts

theorem component?_eq_none_iff {part : Name} :
    component? part = none ↔ isVoid part = true := by
  unfold component?
  split_ifs with hvoid
  · simp [hvoid]
  · simp [hvoid]
  · simp [hvoid]

theorem component?_ne_root (part : Name) : component? part ≠ some .root := by
  unfold component?
  split_ifs <;> simp

/-- Parts at the back that say nothing have no components. -/
theorem filterMap_trimVoid (parts : List Name) :
    (trimVoid parts).filterMap component? = parts.filterMap component? := by
  rw [trimVoid_eq_rdropWhile]
  induction parts using List.reverseRecOn with
  | nil => rfl
  | append_singleton parts part ih =>
    cases hvoid : isVoid part with
    | true =>
      rw [List.rdropWhile_concat_pos _ _ _ hvoid, ih, List.filterMap_append,
        List.filterMap_cons_none (component?_eq_none_iff.2 hvoid), List.filterMap_nil,
        List.append_nil]
    | false => rw [List.rdropWhile_concat_neg _ _ _ (by simp [hvoid])]

/-- What is left by trimming ends with a part that says something. -/
theorem component?_getLast_trimVoid {parts : List Name} (h : trimVoid parts ≠ []) :
    ∃ c, component? ((trimVoid parts).getLast h) = some c := by
  rw [← Option.ne_none_iff_exists', Ne, component?_eq_none_iff]
  exact List.rdropWhile_last_not isVoid parts h

/-! ## Putting parts together -/

/-- A slash between every two parts is a slash before every part but the first. -/
theorem intercalate_cons_eq (front : Name) (parts : List Name) :
    [slash].intercalate (front :: parts) = front ++ parts.flatMap (slash :: ·) := by
  induction parts generalizing front with
  | nil => simp
  | cons part parts ih =>
    rw [List.intercalate_cons_cons, ih, List.flatMap_cons]
    simp

/-- The components of a path, told by its parts between slashes. -/
theorem components_of_splitOn {path : Path} {first : Name} {rest : List Name}
    (h : path.bytes.splitOn slash = first :: rest) :
    path.components =
      if first = [] ∧ rest ≠ [] then .root :: rest.filterMap component?
      else if first = [dot] then .current :: rest.filterMap component?
      else (first :: rest).filterMap component? := by
  rw [components, split_eq h]
  split_ifs <;> rfl

/-- A path that is put together from a front and parts has their components. -/
theorem components_unsplit {front : Front} {parts : List Name} (h : IsSplit front parts) :
    (unsplit front parts).components = front.components ++ parts.filterMap component? := by
  obtain ⟨hbare, hslash⟩ := h
  cases front with
  | root =>
    -- Behind the slash, no parts are written as one part that says nothing.
    have hsplit : (unsplit .root parts).bytes.splitOn slash =
        [] :: ([slash].intercalate parts).splitOn slash :=
      List.splitOn_append_cons_self [] _
    rw [components_of_splitOn hsplit, if_pos ⟨rfl, List.splitOn_ne_nil _ _⟩]
    cases parts with
    | nil => rfl
    | cons part parts =>
      rw [List.splitOn_intercalate _ hslash (List.cons_ne_nil _ _)]
      rfl
  | current =>
    have hbytes : (unsplit .current parts).bytes = [slash].intercalate ([dot] :: parts) :=
      (intercalate_cons_eq [dot] parts).symm
    have hsplit := List.splitOn_intercalate slash
      (List.forall_mem_cons.2 ⟨by decide, hslash⟩ : ∀ part ∈ [dot] :: parts, slash ∉ part)
      (List.cons_ne_nil _ _)
    rw [← hbytes] at hsplit
    rw [components_of_splitOn hsplit, if_neg (by simp), if_pos rfl]
    rfl
  | bare =>
    cases parts with
    | nil => rfl
    | cons part parts =>
      have hpart : isVoid part = false := hbare rfl part rfl
      have hsplit : (unsplit .bare (part :: parts)).bytes.splitOn slash = part :: parts :=
        List.splitOn_intercalate slash hslash (List.cons_ne_nil _ _)
      rw [components_of_splitOn hsplit, if_neg, if_neg]
      · rfl
      · rintro rfl
        cases hpart
      · rintro ⟨rfl, -⟩
        cases hpart

/-! ## Parents -/

theorem isSplit_trimVoid (path : Path) : IsSplit path.split.1 (trimVoid path.split.2) := by
  by_cases h : path.bytes = []
  · obtain rfl : path = ⟨[]⟩ := by rw [← h]
    exact ⟨nofun, nofun⟩
  · exact (isSplit_split h).fewer (trimVoid_isPrefix _)

theorem components_eq_trimVoid (path : Path) :
    path.components =
      path.split.1.components ++ (trimVoid path.split.2).filterMap component? := by
  rw [components, filterMap_trimVoid]

theorem parent?_eq (path : Path) :
    path.parent? =
      if trimVoid path.split.2 = [] then if path.split.1 = .current then some ⟨[]⟩ else none
      else some (unsplit path.split.1 (trimVoid (trimVoid path.split.2).dropLast)) := by
  unfold parent?
  obtain ⟨front, parts⟩ := path.split
  dsimp only
  split
  case h_1 hnil => rw [if_pos hnil]
  case h_2 hne => rw [if_neg hne]

/-- A path has one component more than its parent, and that one is not the root. -/
theorem exists_components_of_parent? {path parent : Path} (h : path.parent? = some parent) :
    ∃ last, last ≠ .root ∧ path.components = parent.components ++ [last] := by
  have hsplit := isSplit_trimVoid path
  rw [components_eq_trimVoid path]
  rw [parent?_eq] at h
  split_ifs at h with htrim hdot
  · obtain rfl := Option.some.inj h
    rw [htrim, hdot]
    exact ⟨.current, by decide, rfl⟩
  · obtain rfl := Option.some.inj h
    obtain ⟨c, hc⟩ := component?_getLast_trimVoid htrim
    have hfewer : trimVoid (trimVoid path.split.2).dropLast <+: trimVoid path.split.2 :=
      (trimVoid_isPrefix _).trans (List.dropLast_prefix _)
    refine ⟨c, fun hroot => component?_ne_root _ (hroot ▸ hc), ?_⟩
    rw [components_unsplit (hsplit.fewer hfewer),
      filterMap_trimVoid (trimVoid path.split.2).dropLast]
    conv_lhs => rw [← List.dropLast_append_getLast htrim, List.filterMap_append,
      List.filterMap_cons_some hc, List.filterMap_nil, ← List.append_assoc]

/-- The parent of a path has the components of the path but for the last one. -/
theorem components_of_parent? {path parent : Path} (h : path.parent? = some parent) :
    parent.components = path.components.dropLast := by
  obtain ⟨last, -, hlast⟩ := exists_components_of_parent? h
  rw [hlast, List.dropLast_concat]

theorem parent?_eq_none_iff {path : Path} :
    path.parent? = none ↔ path.components = [] ∨ path.components = [.root] := by
  rw [components_eq_trimVoid path, parent?_eq]
  split_ifs with htrim hdot
  · simp [htrim, hdot, Front.components]
  · rw [htrim, List.filterMap_nil, List.append_nil]
    cases hfront : path.split.1 with
    | root => simp [Front.components]
    | current => exact absurd hfront hdot
    | bare => simp [Front.components]
  · -- The last part has a component, and that is not the root.
    obtain ⟨c, hc⟩ := component?_getLast_trimVoid htrim
    have hmem : c ∈ (trimVoid path.split.2).filterMap component? :=
      List.mem_filterMap.2 ⟨_, List.getLast_mem htrim, hc⟩
    refine iff_of_false nofun ?_
    rintro (hnil | hroot)
    · exact List.ne_nil_of_mem hmem (List.append_eq_nil_iff.1 hnil).2
    · have hc' := List.mem_append_right (path.split.1.components) hmem
      rw [hroot, List.mem_singleton] at hc'
      exact component?_ne_root _ (hc' ▸ hc)

/-- Only the empty path has no components. -/
theorem components_eq_nil_iff {path : Path} : path.components = [] ↔ path.bytes = [] := by
  constructor
  · intro hnil
    obtain ⟨first, rest, hparts⟩ :=
      List.exists_cons_of_ne_nil (List.splitOn_ne_nil slash path.bytes)
    have hcomponents := components_of_splitOn hparts
    rw [hnil] at hcomponents
    split_ifs at hcomponents with habs hdot
    have hfirst := List.filterMap_eq_nil_iff.1 hcomponents.symm first List.mem_cons_self
    rcases isVoid_iff.1 (component?_eq_none_iff.1 hfirst) with rfl | rfl
    · obtain rfl : rest = [] := by simpa using habs
      exact bytes_eq_of_splitOn hparts
    · exact absurd rfl hdot
  · intro hbytes
    obtain rfl : path = ⟨[]⟩ := by rw [← hbytes]
    rfl

/-! ## Joining a name -/

section Join

variable (path : Path) {name : Name}

theorem isAbsolute_eq_false (hslash : slash ∉ name) : isAbsolute ⟨name⟩ = false := by
  rw [isAbsolute, ← Bool.not_eq_true, beq_iff_eq]
  exact fun hhead => hslash (List.mem_of_head? hhead)

/-- The parts of a path with a name behind it: those of the path, but for an empty one behind a
    slash at its end, and the name. -/
theorem exists_splitOn_join (hbytes : path.bytes ≠ []) (hslash : slash ∉ name) :
    ∃ first rest more, path.bytes.splitOn slash = first :: rest ∧
      (path.join ⟨name⟩).bytes.splitOn slash = first :: (more ++ [name]) ∧
      more.filterMap component? = rest.filterMap component? := by
  have hname := List.splitOn_eq_singleton hslash
  have hempty : path.bytes.isEmpty = false := by simpa using hbytes
  rw [join, isAbsolute_eq_false hslash, hempty, Bool.or_false, if_neg Bool.false_ne_true]
  split_ifs with hlast
  · obtain ⟨before, hbefore⟩ := List.getLast?_eq_some_iff.1 hlast
    obtain ⟨first, more, hparts⟩ := List.exists_cons_of_ne_nil (List.splitOn_ne_nil slash before)
    refine ⟨first, more ++ [[]], more, ?_, ?_, ?_⟩
    · rw [hbefore, List.splitOn_append_cons_self, hparts, List.splitOn_nil, List.cons_append]
    · rw [hbefore, List.append_assoc, List.singleton_append, List.splitOn_append_cons_self, hparts,
        hname, List.cons_append]
    · rw [List.filterMap_append]
      exact (List.append_nil _).symm
  · obtain ⟨first, rest, hparts⟩ :=
      List.exists_cons_of_ne_nil (List.splitOn_ne_nil slash path.bytes)
    refine ⟨first, rest, rest, hparts, ?_, rfl⟩
    rw [List.splitOn_append_cons_self, hparts, hname, List.cons_append]

/-- A name adds one component to a path. -/
theorem components_join (hslash : slash ∉ name)
    (hname : component? name = some (.name name)) :
    (path.join ⟨name⟩).components = path.components ++ [.name name] := by
  by_cases hbytes : path.bytes = []
  · have hjoin : path.join ⟨name⟩ = ⟨name⟩ := by simp [join, hbytes]
    have hdot : name ≠ [dot] := by
      rintro rfl
      cases hname
    rw [hjoin, components_eq_nil_iff.2 hbytes,
      components_of_splitOn (List.splitOn_eq_singleton hslash), if_neg (by simp), if_neg hdot,
      List.filterMap_cons_some hname]
    rfl
  · obtain ⟨first, rest, more, hpath, hjoin, hmore⟩ := exists_splitOn_join path hbytes hslash
    have hbehind : (more ++ [name]).filterMap component? =
        rest.filterMap component? ++ [.name name] := by
      rw [List.filterMap_append, hmore, List.filterMap_cons_some hname, List.filterMap_nil]
    have hrest (hfirst : first = []) : rest ≠ [] := by
      rintro rfl
      exact hbytes (bytes_eq_of_splitOn (hfirst ▸ hpath))
    rw [components_of_splitOn hpath, components_of_splitOn hjoin, hbehind]
    by_cases hfirst : first = []
    · rw [if_pos ⟨hfirst, by simp⟩, if_pos ⟨hfirst, hrest hfirst⟩, List.cons_append]
    · have hnot {others : List Name} : ¬(first = [] ∧ others ≠ []) := fun h => hfirst h.1
      rw [if_neg hnot, if_neg hnot]
      split_ifs
      · rfl
      · rw [← List.singleton_append, List.filterMap_append, hbehind, ← List.append_assoc,
          ← List.filterMap_append, List.singleton_append]

/-- The parent of a path with a name behind it has the components of the path. -/
theorem exists_parent?_join (hslash : slash ∉ name)
    (hname : component? name = some (.name name)) :
    ∃ parent, (path.join ⟨name⟩).parent? = some parent ∧ parent.components = path.components := by
  have hjoin := components_join path hslash hname
  have hsome : (path.join ⟨name⟩).parent? ≠ none := by
    rw [Ne, parent?_eq_none_iff, hjoin]
    rintro (hnil | hroot)
    · exact List.append_ne_nil_of_right_ne_nil _ (List.cons_ne_nil _ _) hnil
    · have hmem := List.mem_append_right path.components
        (List.mem_singleton_self (Component.name name))
      rw [hroot] at hmem
      cases List.mem_singleton.1 hmem
  obtain ⟨parent, hparent⟩ := Option.ne_none_iff_exists'.1 hsome
  refine ⟨parent, hparent, ?_⟩
  rw [components_of_parent? hparent, hjoin, List.dropLast_concat]

end Join

end Migration.Path
