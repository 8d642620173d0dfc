import Migration.Discovery.SourceFile
import Migration.Proofs.FileSystem.Walk
import Migration.Proofs.Text.Lossy

/-!
# Paths that are made of names

A source file is found by the names that lead to it from the root of the search. Its relative path
is these names with slashes between them (`SourceFile.relativePath`). They are names, at least one
(`AreNames`), and that is all that is needed to read them back:

* they are the components of the path (`components_relativePath`), so the path is shown as its
  components are, with slashes between them (`shown_relativePath`);
* behind another path, they are followed after the parts of that one (`wayParts_join`);
* paths come in the order of their names (`before_relativePath`).

A file name with an extension is a stem, a dot and the extension, which has no dot
(`splitExtension_append`, `exists_of_splitExtension`). Names that start with dots are no exception,
as long as the stem is not empty. It makes no difference whether a name is cut at its last dot or
what is shown of it, so the module in a file has the same names as they are shown, but for the
extension of the last (`module_ofNames`).
-/

namespace Migration

open Text

/-! ## Components in order -/

/-- The order of components: the root, the working directory, the directory above, then names by
    their bytes. -/
def Component.Before : Component → Component → Prop
  | .name a, .name b => a < b
  | a, b => a.ctorIdx < b.ctorIdx

/-- The order of paths, component by component. -/
def Path.Before (a b : Path) : Prop := List.Lex Component.Before a.components b.components

/-- A name is read as one. -/
theorem component?_of_isName {name : Name} (h : isName name = true) :
    Path.component? name = some (.name name) := by
  obtain ⟨hempty, hdot, hdots, -⟩ := isName_eq_true_iff.1 h
  have hvoid : ¬Path.isVoid name = true := by
    rw [Path.isVoid_iff]
    rintro (heq | heq)
    · exact hempty heq
    · exact hdot heq
  rw [Path.component?, if_neg hvoid, if_neg hdots]

theorem isAbsolute_of_name_prefix {path : Path} {name : Name} (h : isName name = true)
    (hpath : name <+: path.bytes) : path.isAbsolute = false := by
  obtain ⟨rest, hpath⟩ := hpath
  obtain ⟨hempty, -, -, hslash, -⟩ := isName_eq_true_iff.1 h
  obtain ⟨byte, more, rfl⟩ := List.exists_cons_of_ne_nil hempty
  rw [List.mem_cons, not_or] at hslash
  rw [Path.isAbsolute, ← hpath]
  simpa using Ne.symm hslash.1

/-- Names that lead from a directory to what lies below it. -/
structure AreNames (names : List Name) : Prop where
  ne_nil : names ≠ []
  isName : ∀ name ∈ names, isName name

namespace SourceFile

/-! ## Names and their path -/

section Names

variable {names : List Name} (hnames : AreNames names)

include hnames

theorem zero_not_mem_relativePath : 0 ∉ (relativePath names).bytes := by
  have hzero : ∀ name ∈ names, 0 ∉ name := fun name hname =>
    zero_not_mem_of_isName (hnames.isName name hname)
  obtain ⟨first, rest, rfl⟩ := List.exists_cons_of_ne_nil hnames.ne_nil
  rw [List.forall_mem_cons] at hzero
  rw [relativePath, Path.intercalate_cons_eq, List.mem_append, List.mem_flatMap]
  rintro (hmem | ⟨name, hname, hmem⟩)
  · exact hzero.1 hmem
  · exact hzero.2 name hname ((List.mem_cons.1 hmem).resolve_left (by decide))

theorem splitOn_relativePath : (relativePath names).bytes.splitOn slash = names :=
  List.splitOn_intercalate slash
    (fun name hname => slash_not_mem_of_isName (hnames.isName name hname)) hnames.ne_nil

theorem components_relativePath : (relativePath names).components = names.map Component.name := by
  have hall : names.filterMap Path.component? = names.map Component.name := by
    rw [← List.filterMap_eq_map]
    refine List.filterMap_congr fun name hname => ?_
    exact component?_of_isName (hnames.isName name hname)
  have hsplit := splitOn_relativePath hnames
  obtain ⟨first, rest, rfl⟩ := List.exists_cons_of_ne_nil hnames.ne_nil
  have hfirst := component?_of_isName (hnames.isName first List.mem_cons_self)
  rw [Path.components_of_splitOn hsplit, if_neg, if_neg, hall]
  · rintro rfl
    cases hfirst
  · rintro ⟨rfl, -⟩
    cases hfirst

theorem names_relativePath : (relativePath names).names = names := by
  rw [Path.names, components_relativePath hnames, List.filterMap_map]
  exact List.filterMap_some

theorem slashed_relativePath :
    (relativePath names).slashed = "/".intercalate (names.map lossy) := by
  rw [Path.slashed, components_relativePath hnames, List.map_map]
  rfl

omit hnames in
theorem lossy_append_slash (a b : List UInt8) :
    lossy (a ++ slash :: b) = lossy a ++ "/" ++ lossy b :=
  lossy_append_cons (by decide) a b

/-- A relative path is shown as its components are, with slashes between them. -/
theorem shown_relativePath : (relativePath names).shown = (relativePath names).slashed := by
  rw [slashed_relativePath hnames, Path.shown, relativePath]
  have hne := hnames.ne_nil
  clear hnames
  induction names with
  | nil => exact absurd rfl hne
  | cons name names ih =>
    cases names with
    | nil => simp
    | cons next names =>
      rw [List.intercalate_cons_cons, List.map_cons, List.map_cons, String.intercalate_cons_cons,
        ← List.map_cons, ← ih (List.cons_ne_nil _ _), List.append_assoc, List.singleton_append,
        lossy_append_slash]

theorem isAbsolute_relativePath : (relativePath names).isAbsolute = false := by
  obtain ⟨first, rest, rfl⟩ := List.exists_cons_of_ne_nil hnames.ne_nil
  refine isAbsolute_of_name_prefix (hnames.isName first List.mem_cons_self) ?_
  rw [relativePath, Path.intercalate_cons_eq]
  exact List.prefix_append _ _

end Names

/-- Lists of names and their paths come in the same order. -/
theorem before_relativePath {a b : List Name} (ha : AreNames a) (hb : AreNames b) (h : a < b) :
    (relativePath a).Before (relativePath b) := by
  rw [Path.Before, components_relativePath ha, components_relativePath hb]
  clear ha hb
  induction h with
  | nil => exact .nil
  | rel hlt => exact .rel hlt
  | cons _ ih => exact .cons ih

theorem inOrder_iff {a b : List Name} : inOrder a b = true ↔ a = b ∨ a < b := by
  induction a generalizing b with
  | nil => cases b <;> simp [inOrder]
  | cons x a ih =>
    cases b with
    | nil => simp [inOrder]
    | cons y b =>
      rw [inOrder, Bool.or_eq_true, decide_eq_true_iff, Bool.and_eq_true, beq_iff_eq, ih,
        List.cons_lt_cons_iff, List.cons.injEq]
      constructor
      · rintro (hlt | ⟨rfl, rfl | hlt⟩)
        · exact .inr (.inl hlt)
        · exact .inl ⟨rfl, rfl⟩
        · exact .inr (.inr ⟨rfl, hlt⟩)
      · rintro (⟨rfl, rfl⟩ | hlt | ⟨rfl, hlt⟩)
        · exact .inr ⟨rfl, .inl rfl⟩
        · exact .inl hlt
        · exact .inr ⟨rfl, .inr hlt⟩

theorem inOrder_trans (a b c : List Name) (hab : inOrder a b = true) (hbc : inOrder b c = true) :
    inOrder a c = true := by
  rw [inOrder_iff] at hab hbc ⊢
  rcases hab with rfl | hab
  · exact hbc
  rcases hbc with rfl | hbc
  · exact .inr hab
  · exact .inr (List.lt_trans hab hbc)

theorem inOrder_total (a b : List Name) : (inOrder a b || inOrder b a) = true := by
  rw [Bool.or_eq_true, inOrder_iff, inOrder_iff]
  by_cases hab : a < b
  · exact .inl (.inr hab)
  by_cases hba : b < a
  · exact .inr (.inr hba)
  · exact .inl (.inl (Std.Trichotomous.trichotomous a b hab hba))

theorem pairwise_mergeSort_inOrder {l : List (List Name)} (h : l.Nodup) :
    (l.mergeSort inOrder).Pairwise (· < ·) := by
  have hsorted := List.pairwise_mergeSort inOrder_trans inOrder_total l
  have hne : (l.mergeSort inOrder).Nodup := (List.mergeSort_perm l inOrder).nodup_iff.2 h
  exact hsorted.imp₂ (fun _ _ hab hne => (inOrder_iff.1 hab).resolve_left hne) hne

end SourceFile

/-! ## Names behind a path -/

/-- The parts that are followed are those that are not empty, and maybe an empty one at the end. -/
theorem wayParts_eq (path : Path) :
    path.wayParts = path.namedParts ∨ path.wayParts = path.namedParts ++ [[]] := by
  unfold Path.wayParts
  split
  · exact .inr rfl
  · exact .inl rfl

section Join

open SourceFile

variable {path : Path} {names : List Name}

theorem pathBelow_eq (hbytes : path.bytes ≠ []) (hnames : AreNames names) :
    pathBelow path names =
      if path.bytes.getLast? = some slash then ⟨path.bytes ++ (relativePath names).bytes⟩
      else ⟨path.bytes ++ slash :: (relativePath names).bytes⟩ := by
  have hempty : path.bytes.isEmpty = false := by simpa using hbytes
  rw [pathBelow, if_neg hnames.ne_nil, Path.join, isAbsolute_relativePath hnames, hempty,
    Bool.or_false, if_neg Bool.false_ne_true]

theorem relativePath_append {more : List Name} (hnames : names ≠ []) :
    (relativePath (names ++ more)).bytes =
      (relativePath names).bytes ++ more.flatMap (slash :: ·) := by
  obtain ⟨first, rest, rfl⟩ := List.exists_cons_of_ne_nil hnames
  rw [relativePath, relativePath, List.cons_append, Path.intercalate_cons_eq,
    Path.intercalate_cons_eq, List.flatMap_append, List.append_assoc]

/-- Between a path and the names behind it there is a slash, be it the last one of the path. -/
theorem exists_bytes_pathBelow (hbytes : path.bytes ≠ []) :
    ∃ before, (path.bytes = before ∨ path.bytes = before ++ [slash]) ∧ ∀ {names}, AreNames names →
      (pathBelow path names).bytes = before ++ slash :: (relativePath names).bytes := by
  by_cases hlast : path.bytes.getLast? = some slash
  · obtain ⟨before, hbefore⟩ := List.getLast?_eq_some_iff.1 hlast
    refine ⟨before, .inr hbefore, fun hnames => ?_⟩
    rw [pathBelow_eq hbytes hnames, if_pos hlast, hbefore, List.append_assoc,
      List.singleton_append]
  · refine ⟨path.bytes, .inl rfl, fun hnames => ?_⟩
    rw [pathBelow_eq hbytes hnames, if_neg hlast]

variable (hbytes : path.bytes ≠ []) (hnames : AreNames names)

include hbytes hnames

theorem isAbsolute_pathBelow : (pathBelow path names).isAbsolute = path.isAbsolute := by
  obtain ⟨before, hpath, hjoin⟩ := exists_bytes_pathBelow hbytes
  specialize hjoin hnames
  rw [Path.isAbsolute, hjoin, Path.isAbsolute]
  rcases before with - | ⟨byte, before⟩
  · rcases hpath with hpath | hpath
    · exact absurd hpath hbytes
    · rw [hpath]
      rfl
  · rcases hpath with hpath | hpath <;> rw [hpath] <;> rfl

theorem getLast?_pathBelow : (pathBelow path names).bytes.getLast? ≠ some slash := by
  obtain ⟨before, -, hjoin⟩ := exists_bytes_pathBelow hbytes
  specialize hjoin hnames
  obtain ⟨init, last, rfl⟩ := (List.eq_nil_or_concat' names).resolve_left hnames.ne_nil
  obtain ⟨hempty, -, -, hslash, -⟩ := isName_eq_true_iff.1
    (hnames.isName last (List.mem_append_right _ (List.mem_singleton_self last)))
  have hlast : ∃ front, (pathBelow path (init ++ [last])).bytes = front ++ last := by
    by_cases hinit : init = []
    · subst hinit
      exact ⟨before ++ [slash], by rw [hjoin]; simp [relativePath]⟩
    · refine ⟨before ++ slash :: (relativePath init).bytes ++ [slash], ?_⟩
      rw [hjoin, relativePath_append hinit]
      simp
  obtain ⟨front, hfront⟩ := hlast
  rw [hfront, List.getLast?_append_of_ne_nil _ hempty]
  exact fun hend => hslash (List.mem_of_getLast? hend)

/-- Names joined to a path are followed behind its parts. -/
theorem wayParts_pathBelow : (pathBelow path names).wayParts = path.namedParts ++ names := by
  obtain ⟨before, hpath, hjoin⟩ := exists_bytes_pathBelow hbytes
  specialize hjoin hnames
  have hkept : names.filter (fun part => !part.isEmpty) = names :=
    List.filter_eq_self.2 fun name hname => by
      simpa using ne_nil_of_isName (hnames.isName name hname)
  have hfront : path.namedParts = (before.splitOn slash).filter fun part => !part.isEmpty := by
    rcases hpath with hpath | hpath
    · rw [Path.namedParts, hpath]
    · rw [Path.namedParts, hpath, List.splitOn_append_cons_self]
      simp
  have hnamed : (pathBelow path names).namedParts = path.namedParts ++ names := by
    rw [Path.namedParts, hjoin, List.splitOn_append_cons_self, splitOn_relativePath hnames,
      List.filter_append, hkept, hfront]
  rw [Path.wayParts, hnamed, if_neg]
  simp [getLast?_pathBelow hbytes hnames]

/-- The path of what lies below a directory is longer than that of the directory. -/
theorem length_lt_pathBelow : path.bytes.length < (pathBelow path names).bytes.length := by
  obtain ⟨before, hpath, hjoin⟩ := exists_bytes_pathBelow hbytes
  specialize hjoin hnames
  have hrest : (relativePath names).bytes ≠ [] := by
    intro hnil
    have hsplit := splitOn_relativePath hnames
    rw [hnil, List.splitOn_nil] at hsplit
    have hempty := hnames.isName [] (hsplit ▸ List.mem_singleton_self [])
    exact absurd hempty (by decide)
  have hpos := List.length_pos_iff.2 hrest
  rw [hjoin]
  rcases hpath with hpath | hpath <;> rw [hpath]
  · simp
  · simpa using hpos

/-- The paths of the directories on the way are not longer. -/
theorem length_pathBelow_take_le (depth : Nat) :
    (pathBelow path (names.take depth)).bytes.length ≤ (pathBelow path names).bytes.length := by
  by_cases hnil : names.take depth = []
  · rw [hnil]
    exact (length_lt_pathBelow hbytes hnames).le
  obtain ⟨before, -, hjoin⟩ := exists_bytes_pathBelow hbytes
  have htake : AreNames (names.take depth) :=
    ⟨hnil, fun name hname => hnames.isName name (List.mem_of_mem_take hname)⟩
  have hrelative := @relativePath_append _ (names.drop depth) hnil
  rw [List.take_append_drop] at hrelative
  rw [hjoin htake, hjoin hnames, hrelative]
  simp

omit hbytes in
theorem isFollowed_pathBelow (hpath : path.IsFollowed)
    (hsize : (pathBelow path names).bytes.length < FileSystem.maxPathSize) :
    (pathBelow path names).IsFollowed := by
  obtain ⟨before, hbefore, hjoin⟩ := exists_bytes_pathBelow hpath.bytes_ne
  specialize hjoin hnames
  refine ⟨fun hmem => ?_, fun hempty => ?_, hsize⟩
  · rw [hjoin, List.mem_append, List.mem_cons] at hmem
    rcases hmem with hmem | hslash | hmem
    · refine hpath.zero_not_mem ?_
      rcases hbefore with hbefore | hbefore
      · rwa [hbefore]
      · rw [hbefore]
        exact List.mem_append_left _ hmem
    · exact absurd hslash (by decide)
    · exact zero_not_mem_relativePath hnames hmem
  · rw [hempty] at hjoin
    simp at hjoin

end Join

/-! ## Extensions -/

section Extension

variable {α : Type} [DecidableEq α] {mark : α} {name extension : List α}

theorem splitExtension_append {stem : List α} (hstem : stem ≠ []) (hmark : mark ∉ extension) :
    splitExtension mark (stem ++ mark :: extension) = (stem, some extension) := by
  have hword : ∀ c ∈ extension.reverse, (c != mark) = true := fun c hc =>
    bne_iff_ne.2 (ne_of_mem_of_not_mem (List.mem_reverse.1 hc) hmark)
  have hbackwards : (stem ++ mark :: extension).reverse =
      extension.reverse ++ mark :: stem.reverse := by
    simp
  rw [splitExtension, hbackwards, List.dropWhile_append_of_pos hword,
    List.takeWhile_append_of_pos hword]
  simp [hstem]

theorem exists_of_splitExtension (h : (splitExtension mark name).2 = some extension) :
    ∃ stem, stem ≠ [] ∧ mark ∉ extension ∧ name = stem ++ mark :: extension := by
  -- Read backwards, the name is a run without dots, a dot and the stem.
  have hname : name.reverse.takeWhile (· != mark) ++ name.reverse.dropWhile (· != mark) =
      name.reverse := List.takeWhile_append_dropWhile
  have hword : mark ∉ name.reverse.takeWhile (· != mark) := fun hmem => by
    simpa using List.mem_takeWhile_imp hmem
  have hrest := List.head?_dropWhile_not (· != mark) name.reverse
  unfold splitExtension at h
  dsimp only at h
  generalize name.reverse.takeWhile (· != mark) = word at h hname hword
  generalize name.reverse.dropWhile (· != mark) = rest at h hname hrest
  split_ifs at h with hempty
  obtain rfl := Option.some.inj h
  rcases rest with - | ⟨c, stem⟩
  · exact absurd rfl hempty
  obtain rfl : c = mark := by simpa using hrest
  refine ⟨stem.reverse, by simpa using hempty, by simpa using hword, ?_⟩
  rw [← List.reverse_inj, ← hname]
  simp

end Extension

namespace SourceFile

section Module

variable {names init : List Name} {stem ending : Name}

theorem lossy_append_dot (a b : List UInt8) :
    lossy (a ++ dot :: b) = lossy a ++ "." ++ lossy b :=
  lossy_append_cons (by decide) a b

theorem hasExtension_iff {extension : String} :
    hasExtension extension names = true ↔
      ∃ stem ending, stem ≠ [] ∧ dot ∉ ending ∧ lossy ending = extension ∧
        names.getLast? = some (stem ++ dot :: ending) := by
  unfold hasExtension
  split
  case h_1 name hlast =>
    rw [beq_iff_eq, Option.map_eq_some_iff, hlast]
    simp only [Option.some_inj]
    constructor
    · rintro ⟨ending, hending, hlossy⟩
      obtain ⟨stem, hstem, hdot, hname⟩ := exists_of_splitExtension hending
      exact ⟨stem, ending, hstem, hdot, hlossy, hname⟩
    · rintro ⟨stem, ending, hstem, hdot, hlossy, rfl⟩
      exact ⟨ending, by rw [splitExtension_append hstem hdot], hlossy⟩
  case h_2 hnone => simp [hnone]

/-- The module in a file is called by the names that lead to it, without the extension. -/
theorem module_ofNames {root : Path} (hstem : stem ≠ []) (hdot : dot ∉ ending)
    (hnames : AreNames (init ++ [stem ++ dot :: ending])) :
    (ofNames root (init ++ [stem ++ dot :: ending])).module =
      ⟨init.map lossy ++ [lossy stem]⟩ := by
  have hshown : (lossy (stem ++ dot :: ending)).toList =
      (lossy stem).toList ++ '.' :: (lossy ending).toList := by
    rw [lossy_append_dot]
    simp
  have hne : (lossy stem).toList ≠ [] := by
    rw [lossy, String.toList_ofList]
    exact lossyFrom_ne_nil (.inr hstem)
  have hlossy : '.' ∉ (lossy ending).toList := by
    intro hmem
    rw [lossy, String.toList_ofList] at hmem
    obtain ⟨byte, hbyte, hcode⟩ := mem_of_mem_lossyFrom hmem (by decide)
    obtain rfl : byte = dot := UInt8.toNat_inj.1 hcode
    exact hdot hbyte
  rw [ofNames]
  unfold ModulePath.ofRelative
  dsimp only
  rw [names_relativePath hnames, List.map_append, List.map_singleton, List.getLast?_concat,
    List.dropLast_concat]
  dsimp only
  rw [hshown, splitExtension_append hne hlossy, String.ofList_toList]

/-- What the last name ends with is what the whole path ends with. -/
theorem intercalate_concat_append (init : List String) (stem ending : String) :
    "/".intercalate (init ++ [stem ++ ending]) = "/".intercalate (init ++ [stem]) ++ ending := by
  by_cases hinit : init = []
  · simp [hinit]
  · rw [String.intercalate_append_of_ne_nil hinit (by simp),
      String.intercalate_append_of_ne_nil hinit (by simp)]
    simp [String.append_assoc]

end Module

end SourceFile

end Migration
