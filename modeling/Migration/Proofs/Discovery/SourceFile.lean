import Mathlib.Data.List.Pairwise
import Migration.Proofs.FileSystem.Below
import Migration.Proofs.Text.Join

/-!
# The source files below a root

The source files of a tree are told here one by one (`SourceFile.IsSource`): the directories on the
way can be listed and searched, the names lead to a file or to a link by which a file is reached,
the last name has the extension, and no pattern matches. The search finds these files and no others,
each once and in the order of their paths (`discover_exact`). It is a filter on everything below the
root, so more patterns only take files out, and texts that are no patterns do nothing.

Directories are listed and files are looked at by their whole path. A file whose path is too long
for that is passed over, though it is there. So is one in a directory that cannot be searched, and
so is everything below a root that is a dash. And a name counts as it is shown, so bytes that are no
text may pass for an extension (`discover_inexact`).

What is shown of the path of a source file can be read off its module and the extension
(`discover_lossless`). So files of one search have the same module if and only if their paths are
shown alike, which those of different files are not if they are texts. Names that are no texts may
be shown alike, and then two files have one module (`discover_merges_modules`).
-/

namespace Migration

open Text (bytes)

/-- The bytes of the path are those of a text. -/
def Path.IsText (path : Path) : Prop := ∃ text, path = .ofText text

namespace SourceFile

/-! ## Patterns -/

/-- A text is a pattern that matches a path. -/
def Matches (pattern path : String) : Prop :=
  ∃ glob, Glob.parse pattern = .ok glob ∧ glob.accepts path = true

theorem toOption_parse_eq_some_iff {pattern : String} {glob : Glob} :
    (Glob.parse pattern).toOption = some glob ↔ Glob.parse pattern = .ok glob := by
  cases Glob.parse pattern <;> simp [Except.toOption]

instance (pattern path : String) : Decidable (Matches pattern path) :=
  decidable_of_iff ((Glob.parse pattern).toOption.any (·.accepts path) = true) <| by
    simp only [Option.any_eq_true, toOption_parse_eq_some_iff, Matches]

theorem any_globs_iff {ignore : List String} {path : String} :
    ((globs ignore).any fun glob => glob.accepts path) = true ↔
      ∃ pattern ∈ ignore, Matches pattern path := by
  simp only [globs, List.any_eq_true, List.mem_filterMap, toOption_parse_eq_some_iff, Matches]
  constructor
  · rintro ⟨glob, ⟨pattern, hmem, hparse⟩, haccepts⟩
    exact ⟨pattern, hmem, glob, hparse, haccepts⟩
  · rintro ⟨pattern, hmem, glob, hparse, haccepts⟩
    exact ⟨glob, ⟨pattern, hmem, hparse⟩, haccepts⟩

theorem not_any_globs_eq (ignore : List String) (path : String) :
    (!(globs ignore).any fun glob => glob.accepts path) =
      decide (∀ pattern ∈ ignore, ¬Matches pattern path) := by
  rw [Bool.eq_iff_iff, Bool.not_eq_true', ← Bool.not_eq_true, any_globs_iff, decide_eq_true_iff]
  simp only [not_exists, not_and]

theorem globs_append (ignore more : List String) :
    globs (ignore ++ more) = globs ignore ++ globs more :=
  List.filterMap_append

/-- Texts that are no patterns have no effect. -/
theorem globs_filter_isOk (ignore : List String) :
    globs (ignore.filter fun text => (Glob.parse text).isOk) = globs ignore := by
  rw [globs, List.filterMap_filter]
  refine List.filterMap_congr fun text _ => ?_
  cases Glob.parse text <;> rfl

/-! ## What is looked at -/

section Candidates

variable {fs : FileSystem} {workDir : Location} {root : Path} {base : Location}
  {names : List Name}

theorem pairwise_candidates (fs : FileSystem) (workDir : Location) (root : Path)
    (base : Location) : (candidates fs workDir root base).Pairwise (· < ·) := by
  unfold candidates
  split
  · exact .nil
  · exact pairwise_mergeSort_inOrder ((FileSystem.nodup_namesBelow fs base).filter _)

theorem mem_candidates_iff :
    names ∈ candidates fs workDir root base ↔ isStandardInput root = false ∧
      isEntered fs workDir root names = true ∧ ∃ entry, fs.Below base names entry := by
  unfold candidates
  split
  case isTrue hinput => simp [hinput]
  case isFalse hinput =>
    rw [List.mem_mergeSort, List.mem_filter, FileSystem.mem_namesBelow_iff, and_comm,
      and_iff_right (Bool.eq_false_iff.2 hinput)]

theorem areNames_of_mem_candidates (h : names ∈ candidates fs workDir root base) :
    AreNames names := by
  obtain ⟨-, -, entry, hentry⟩ := mem_candidates_iff.1 h
  exact hentry.areNames

end Candidates

/-! ## What is found -/

/-- Names below a root that leads to `base` lead to a source file. -/
structure IsSource (fs : FileSystem) (workDir : Location) (root : Path) (base : Location)
    (extension : String) (ignore : List String) (names : List Name) : Prop where
  /-- The system does not refuse to list the directories on the way or to search in them. -/
  entered : ∀ depth < names.length, (fs.rightsAt (base ++ names.take depth)).read = none ∧
    (fs.rightsAt (base ++ names.take depth)).search = none
  /-- The path is not too long. -/
  short : (pathBelow root names).bytes.length < 4096
  /-- A walk by these names comes to a file or to a link by which a file is reached. -/
  found : (∃ content rights, fs.Below base names (.file content rights)) ∨
    (∃ path, fs.Below base names (.link path)) ∧ ∃ place content rights,
      fs.Reaches workDir (pathBelow root names) place (.file content rights)
  /-- What stands behind the last dot of the last name is shown as the extension. -/
  named : ∃ stem ending, stem ≠ [] ∧ dot ∉ ending ∧
    Text.lossy ending = bareExtension extension ∧ names.getLast? = some (stem ++ dot :: ending)
  /-- No pattern matches the path as it is shown. -/
  unmatched : ∀ pattern ∈ ignore, ¬Matches pattern (relativePath names).slashed

section Found

variable {fs : FileSystem} {workDir : Location} {root : Path} {base : Location} {rights : Rights}
  {extension : String} {ignore : List String} {names : List Name}

theorem discover_eq (h : fs.Reaches workDir root base (.directory rights)) :
    discover fs workDir root extension ignore =
      .ok ((sourceNames fs workDir root base extension ignore).map (ofNames root)) := by
  unfold discover
  rw [FileSystem.directory?_eq_some_iff.2 ⟨rights, h⟩]

theorem discover_eq_error (h : ∀ base rights, ¬fs.Reaches workDir root base (.directory rights)) :
    discover fs workDir root extension ignore = .error (.missing root) := by
  have hnone : fs.directory? workDir root = none := by
    refine Option.eq_none_iff_forall_ne_some.2 fun base hbase => ?_
    obtain ⟨rights, hreaches⟩ := FileSystem.directory?_eq_some_iff.1 hbase
    exact h base rights hreaches
  unfold discover
  rw [hnone]

theorem exists_base_of_discover {files : List SourceFile}
    (h : discover fs workDir root extension ignore = .ok files) :
    ∃ base, files = (sourceNames fs workDir root base extension ignore).map (ofNames root) := by
  unfold discover at h
  split at h
  · cases h
  case h_2 base _ => exact ⟨base, (Except.ok.inj h).symm⟩

/-- What the search comes to and finds to be a file, by the rights on the way and its kind. -/
theorem isEntered_and_isFile_iff {entry : Entry}
    (h : fs.Reaches workDir root base (.directory rights)) (hentry : fs.Below base names entry) :
    isEntered fs workDir root names = true ∧ fs.isFile workDir (pathBelow root names) = true ↔
      (∀ depth < names.length, (fs.rightsAt (base ++ names.take depth)).read = none ∧
        (fs.rightsAt (base ++ names.take depth)).search = none) ∧
      (pathBelow root names).bytes.length < 4096 ∧
      ((∃ content rights, entry = .file content rights) ∨ (∃ path, entry = .link path) ∧
        ∃ place content rights,
          fs.Reaches workDir (pathBelow root names) place (.file content rights)) := by
  rw [FileSystem.isFile_pathBelow_iff h hentry]
  constructor
  · rintro ⟨hentered, hsearch, hsize, hkind⟩
    have hread := (FileSystem.isEntered_iff h hentry hsearch hsize).1 hentered
    exact ⟨fun depth hdepth => ⟨hread depth hdepth, hsearch depth hdepth⟩, hsize, hkind⟩
  · rintro ⟨hrights, hsize, hkind⟩
    have hsearch : fs.IsSearched base names := fun depth hdepth => (hrights depth hdepth).2
    have hentered := (FileSystem.isEntered_iff h hentry hsearch hsize).2 fun depth hdepth =>
      (hrights depth hdepth).1
    exact ⟨hentered, hsearch, hsize, hkind⟩

theorem mem_sourceNames_iff (h : fs.Reaches workDir root base (.directory rights)) :
    names ∈ sourceNames fs workDir root base extension ignore ↔
      isStandardInput root = false ∧ IsSource fs workDir root base extension ignore names := by
  rw [sourceNames, List.mem_filter, mem_candidates_iff, Bool.and_eq_true, Bool.and_eq_true,
    hasExtension_iff, not_any_globs_eq, decide_eq_true_iff]
  constructor
  · rintro ⟨⟨hinput, hentered, entry, hentry⟩, ⟨hnamed, hfile⟩, hunmatched⟩
    obtain ⟨hrights, hsize, hkind⟩ := (isEntered_and_isFile_iff h hentry).1 ⟨hentered, hfile⟩
    refine ⟨hinput, hrights, hsize, hkind.imp ?_ ?_, hnamed, hunmatched⟩
    · rintro ⟨content, own, rfl⟩
      exact ⟨content, own, hentry⟩
    · rintro ⟨⟨path, rfl⟩, hreaches⟩
      exact ⟨⟨path, hentry⟩, hreaches⟩
  · rintro ⟨hinput, hrights, hsize, hfound, hnamed, hunmatched⟩
    rcases hfound with ⟨content, own, hentry⟩ | ⟨⟨path, hentry⟩, hreaches⟩
    · obtain ⟨hentered, hfile⟩ := (isEntered_and_isFile_iff h hentry).2
        ⟨hrights, hsize, .inl ⟨content, own, rfl⟩⟩
      exact ⟨⟨hinput, hentered, _, hentry⟩, ⟨hnamed, hfile⟩, hunmatched⟩
    · obtain ⟨hentered, hfile⟩ := (isEntered_and_isFile_iff h hentry).2
        ⟨hrights, hsize, .inr ⟨⟨path, rfl⟩, hreaches⟩⟩
      exact ⟨⟨hinput, hentered, _, hentry⟩, ⟨hnamed, hfile⟩, hunmatched⟩

theorem areNames_of_mem_sourceNames
    (h : names ∈ sourceNames fs workDir root base extension ignore) : AreNames names :=
  areNames_of_mem_candidates (List.mem_filter.1 h).1

theorem pairwise_sourceNames :
    (sourceNames fs workDir root base extension ignore).Pairwise (· < ·) :=
  (pairwise_candidates fs workDir root base).sublist List.filter_sublist

theorem pairwise_before :
    ((sourceNames fs workDir root base extension ignore).map (ofNames root)).Pairwise
      fun a b => a.relative.Before b.relative :=
  List.pairwise_map.2 (pairwise_sourceNames.imp_of_mem fun ha hb hlt =>
    before_relativePath (areNames_of_mem_sourceNames ha) (areNames_of_mem_sourceNames hb) hlt)

theorem sourceNames_of_isStandardInput (h : isStandardInput root = true) :
    sourceNames fs workDir root base extension ignore = [] := by
  rw [sourceNames, candidates, if_pos h, List.filter_nil]

/-- More patterns take out the files that they match. -/
theorem map_sourceNames_append (more : List String) :
    (sourceNames fs workDir root base extension (ignore ++ more)).map (ofNames root) =
      ((sourceNames fs workDir root base extension ignore).map (ofNames root)).filter fun file =>
        ∀ pattern ∈ more, ¬Matches pattern file.relative.slashed := by
  rw [List.filter_map, sourceNames, sourceNames, List.filter_filter]
  refine congrArg _ (List.filter_congr fun names _ => ?_)
  have hslashed : (ofNames root names).relative.slashed = (relativePath names).slashed := rfl
  rw [globs_append, List.any_append, Bool.not_or, Function.comp_apply, hslashed,
    ← not_any_globs_eq more, ← Bool.and_assoc, Bool.and_comm]

/-- Nothing is found where nothing can be a source file. -/
theorem discover_eq_nil (h : fs.Reaches workDir root base (.directory rights))
    (hnone : ∀ names, ¬IsSource fs workDir root base extension ignore names) :
    discover fs workDir root extension ignore = .ok [] := by
  have hnil : sourceNames fs workDir root base extension ignore = [] :=
    List.eq_nil_iff_forall_not_mem.2 fun names hmem =>
      hnone names ((mem_sourceNames_iff h).1 hmem).2
  rw [discover_eq h, hnil, List.map_nil]

theorem IsSource.areNames (h : IsSource fs workDir root base extension ignore names) :
    AreNames names := by
  rcases h.found with ⟨content, own, hentry⟩ | ⟨⟨path, hentry⟩, -⟩ <;> exact hentry.areNames

/-- If the path of the root is as long as a path can be, then nothing is found. -/
theorem discover_of_long_root (h : fs.Reaches workDir root base (.directory rights))
    (hsize : 4095 ≤ root.bytes.length) : discover fs workDir root extension ignore = .ok [] := by
  refine discover_eq_nil h fun names hsource => ?_
  have hlong := length_lt_pathBelow h.followed.bytes_ne hsource.areNames
  exact absurd (hsize.trans_lt (hlong.trans_le (Nat.le_of_lt_succ hsource.short))) (lt_irrefl _)

/-- If the directory of the root cannot be searched, then nothing is found. -/
theorem discover_of_unsearched_root (h : fs.Reaches workDir root base (.directory rights))
    (hsearch : rights.search ≠ none) : discover fs workDir root extension ignore = .ok [] := by
  refine discover_eq_nil h fun names hsource => ?_
  have hpos := List.length_pos_iff.2 hsource.areNames.ne_nil
  have hopen := (hsource.entered 0 hpos).2
  rw [List.take_zero, List.append_nil, FileSystem.rightsAt_of_get? h.entry] at hopen
  exact hsearch hopen

/-- A file in the directory of the root is found. -/
theorem mem_map_sourceNames {name : Name} {content : ByteArray} {own : Rights}
    (h : fs.Reaches workDir root base (.directory rights)) (hread : rights.read = none)
    (hsearch : rights.search = none) (hinput : isStandardInput root = false)
    (hentry : fs.get? (base ++ [name]) = some (.file content own))
    (hsize : (pathBelow root [name]).bytes.length < 4096)
    (hname : hasExtension (bareExtension extension) [name] = true)
    (hunmatched : ∀ pattern ∈ ignore, ¬Matches pattern (relativePath [name]).slashed) :
    ofNames root [name] ∈
      (sourceNames fs workDir root base extension ignore).map (ofNames root) := by
  refine List.mem_map_of_mem ((mem_sourceNames_iff h).2 ⟨hinput, ?_⟩)
  refine ⟨fun depth hdepth => ?_, hsize, .inl ⟨content, own, .child hentry⟩,
    hasExtension_iff.1 hname, hunmatched⟩
  obtain rfl : depth = 0 := by simpa using hdepth
  rw [List.take_zero, List.append_nil, FileSystem.rightsAt_of_get? h.entry]
  exact ⟨hread, hsearch⟩

end Found

/-- The search fails if the root does not lead to a directory. Otherwise it finds the source files
    below that directory, each with the names that lead to it and in the order of the paths, or
    none if the root stands for the standard input. Texts that are no patterns have no effect, and
    more patterns take out the files that they match. -/
theorem discover_exact (fs : FileSystem) (workDir : Location) (root : Path) (extension : String)
    (ignore : List String) :
    ((∀ base rights, ¬fs.Reaches workDir root base (.directory rights)) →
      discover fs workDir root extension ignore = .error (.missing root)) ∧
    ∀ base rights, fs.Reaches workDir root base (.directory rights) →
      ∃ files, discover fs workDir root extension ignore = .ok files ∧
        (isStandardInput root = false → ∀ file, file ∈ files ↔
          ∃ names, IsSource fs workDir root base extension ignore names ∧
            file = ofNames root names ∧ file.relative.components = names.map Component.name) ∧
        (isStandardInput root = true → files = []) ∧
        files.Pairwise (fun a b => a.relative.Before b.relative) ∧
        discover fs workDir root extension (ignore.filter fun text => (Glob.parse text).isOk) =
          .ok files ∧
        ∀ more, discover fs workDir root extension (ignore ++ more) =
          .ok (files.filter fun file =>
            ∀ pattern ∈ more, ¬Matches pattern file.relative.slashed) := by
  refine ⟨discover_eq_error, fun base rights hbase => ?_⟩
  refine ⟨_, discover_eq hbase, fun hinput file => ?_, fun hinput => ?_, pairwise_before, ?_,
    fun more => ?_⟩
  · rw [List.mem_map]
    constructor
    · rintro ⟨names, hnames, rfl⟩
      have hcomponents := components_relativePath (areNames_of_mem_sourceNames hnames)
      exact ⟨names, ((mem_sourceNames_iff hbase).1 hnames).2, rfl, hcomponents⟩
    · rintro ⟨names, hnames, rfl, -⟩
      exact ⟨names, (mem_sourceNames_iff hbase).2 ⟨hinput, hnames⟩, rfl⟩
  · rw [sourceNames_of_isStandardInput hinput, List.map_nil]
  · rw [discover_eq hbase, sourceNames, globs_filter_isOk]
    rfl
  · rw [discover_eq hbase, map_sourceNames_append]

/-- The root is a link, and so is the file. -/
theorem discover_exact_through_links :
    let fs : FileSystem :=
      { entries := [([bytes "src"], .directory {}),
          ([bytes "src", bytes "a.py"], .link (.ofText "../main")),
          ([bytes "main"], .file .empty {}), ([bytes "here"], .link (.ofText "src"))]
        distinct := by decide
        rooted := by decide
        named := by decide }
    let root := Path.ofText "here/"
    fs.Reaches [] root [bytes "src"] (.directory {}) ∧
      ∃ files, discover fs [] root ".py" ["["] = .ok files ∧
        ofNames root [bytes "a.py"] ∈ files ∧
        discover fs [] root ".py" ["[", "b*"] = .ok (files.filter fun file =>
          ∀ pattern ∈ ["b*"], ¬Matches pattern file.relative.slashed) := by
  intro fs root
  have hopen : fs.IsOpen [] := ⟨rfl, rfl⟩
  have hsrc : fs.IsOpen [bytes "src"] := ⟨rfl, rfl⟩
  have hway {rest : List Name} {links : Nat} {target : Target}
      (hrest : fs.Leads links [bytes "src"] rest target) :
      fs.Leads (links + 1) [] (bytes "here" :: rest) target :=
    .follow hopen (by decide) rfl (.enter hopen (by decide) rfl (by simp) hrest)
  have hroot : fs.Reaches [] root [bytes "src"] (.directory {}) := by
    have hleads : fs.Leads 1 [] [bytes "here", []] (.present [bytes "src"]) :=
      hway (.ended rfl .arrived)
    exact .of_parts ⟨by decide, by decide, by decide⟩ (by decide) (by decide) hleads (by decide) rfl
  have hfile : fs.Reaches [] (pathBelow root [bytes "a.py"]) [bytes "main"] (.file .empty {}) := by
    have hleads : fs.Leads 2 [] [bytes "here", bytes "a.py"] (.present [bytes "main"]) :=
      hway (.follow hsrc (by decide) rfl
        (.up hsrc (.enter hopen (by decide) rfl (by simp) .arrived)))
    exact .of_parts ⟨by decide, by decide, by decide⟩ (by decide) (by decide) hleads (by decide) rfl
  have hlink : fs.Below [bytes "src"] [bytes "a.py"] (.link (.ofText "../main")) := .child rfl
  obtain ⟨files, hfiles, hmem, -, -, -, hmore⟩ :=
    (discover_exact fs [] root ".py" ["["]).2 _ _ hroot
  refine ⟨hroot, files, hfiles, (hmem (by decide) _).2 ⟨[bytes "a.py"], ?_, rfl, ?_⟩, hmore ["b*"]⟩
  · refine ⟨by decide, by decide, .inr ⟨⟨_, hlink⟩, [bytes "main"], .empty, {}, hfile⟩, ?_, ?_⟩
    · exact hasExtension_iff.1 (by decide)
    · decide
  · decide

/-- Three files that are not found: the path of the first is too long, though that of the root is
    not; the second is in a directory in which nothing can be searched, though it can be listed; the
    root of the third is a dash. And one that is found for an extension that it does not have. -/
theorem discover_inexact :
    let fs : FileSystem :=
      { entries := [([bytes "d"], .directory {}), ([bytes "d", bytes "a.py"], .file .empty {}),
          ([bytes "c"], .directory { search := some .denied }),
          ([bytes "c", bytes "a.py"], .file .empty {}),
          ([bytes "-"], .directory {}), ([bytes "-", bytes "a.py"], .file .empty {}),
          ([bytes "e"], .directory {}), ([bytes "e", [0x61, dot, 0xFF]], .file .empty {})]
        distinct := by decide
        rooted := by decide
        named := by decide }
    let long := FileSystem.withSlashes (bytes "d") 4094
    (fs.Reaches [] long [bytes "d"] (.directory {}) ∧
      fs.Below [bytes "d"] [bytes "a.py"] (.file .empty {}) ∧
      discover fs [] long "py" [] = .ok []) ∧
    (fs.Reaches [] (.ofText "c") [bytes "c"] (.directory { search := some .denied }) ∧
      fs.Below [bytes "c"] [bytes "a.py"] (.file .empty {}) ∧
      discover fs [] (.ofText "c") "py" [] = .ok []) ∧
    (fs.Reaches [] (.ofText "-") [bytes "-"] (.directory {}) ∧
      fs.Below [bytes "-"] [bytes "a.py"] (.file .empty {}) ∧
      discover fs [] (.ofText "-") "py" [] = .ok []) ∧
    ∃ files, discover fs [] (.ofText "e") "\uFFFD" [] = .ok files ∧
      ofNames (.ofText "e") [[0x61, dot, 0xFF]] ∈ files ∧ [0xFF] ≠ bytes "\uFFFD" := by
  intro fs long
  have hlong : fs.Reaches [] long [bytes "d"] (.directory {}) :=
    FileSystem.reaches_withSlashes (by decide) rfl rfl (by decide)
  have hsize : long.bytes.length = 4095 := FileSystem.length_withSlashes
  have hclosed : fs.Reaches [] (.ofText "c") [bytes "c"] (.directory { search := some .denied }) :=
    FileSystem.reaches_name rfl (by simp) rfl
  have hdash : fs.Reaches [] (.ofText "-") [bytes "-"] (.directory {}) :=
    FileSystem.reaches_name rfl (by simp) rfl
  have he : fs.Reaches [] (.ofText "e") [bytes "e"] (.directory {}) :=
    FileSystem.reaches_name rfl (by simp) rfl
  refine ⟨⟨hlong, .child rfl, discover_of_long_root hlong hsize.ge⟩,
    ⟨hclosed, .child rfl, discover_of_unsearched_root hclosed (by simp)⟩,
    ⟨hdash, .child rfl, ?_⟩, _, discover_eq he, ?_, by decide⟩
  · rw [discover_eq hdash, sourceNames_of_isStandardInput (by decide), List.map_nil]
  · exact mem_map_sourceNames he rfl rfl (by decide) rfl (by decide) (by decide) (by decide)

/-! ## Modules -/

section Modules

variable {fs : FileSystem} {workDir : Location} {root : Path} {base : Location}
  {extension : String} {ignore : List String} {names other : List Name}

/-- The segments of a module, with the extension behind them, are the names of its file as they are
    shown. -/
theorem module_of_mem_sourceNames
    (h : names ∈ sourceNames fs workDir root base extension ignore) :
    (ofNames root names).module.segments.length = names.length ∧
      (relativePath names).slashed =
        "/".intercalate (ofNames root names).module.segments ++ "." ++ bareExtension extension := by
  have hnames := areNames_of_mem_sourceNames h
  rw [sourceNames, List.mem_filter, Bool.and_eq_true, Bool.and_eq_true, hasExtension_iff] at h
  obtain ⟨-, ⟨⟨stem, ending, hstem, hdot, hshown, hlast⟩, -⟩, -⟩ := h
  obtain ⟨init, rfl⟩ := List.getLast?_eq_some_iff.1 hlast
  rw [slashed_relativePath hnames, module_ofNames hstem hdot hnames]
  refine ⟨by simp, ?_⟩
  rw [List.map_append, List.map_singleton, lossy_append_dot, hshown, String.append_assoc,
    intercalate_concat_append, String.append_assoc]

/-- The slashes in what is shown of a path are those between the names. -/
theorem separates_map_lossy (hnames : AreNames names) :
    Text.Separates "/" (names.map Text.lossy) := by
  rintro segment hsegment c hc hmem
  obtain ⟨name, hname, rfl⟩ := List.mem_map.1 hsegment
  obtain rfl : c = '/' := by simpa using hc
  rw [Text.lossy, String.toList_ofList] at hmem
  obtain ⟨byte, hbyte, hcode⟩ := Text.mem_of_mem_lossyFrom hmem (by decide)
  obtain rfl : byte = slash := UInt8.toNat_inj.1 hcode
  exact slash_not_mem_of_isName (hnames.isName name hname) hbyte

theorem map_lossy_eq_of_slashed_eq (hnames : AreNames names) (hother : AreNames other)
    (h : (relativePath names).slashed = (relativePath other).slashed) :
    names.map Text.lossy = other.map Text.lossy := by
  rw [slashed_relativePath hnames, slashed_relativePath hother] at h
  have hne : names.map Text.lossy ≠ [] := by simpa using hnames.ne_nil
  have hne' : other.map Text.lossy ≠ [] := by simpa using hother.ne_nil
  have hseparates := separates_map_lossy hnames
  have hseparates' := separates_map_lossy hother
  -- Each of the two lists starts with the other, since they are written alike.
  have hprefix := (Text.written_eq_or_prefix_iff (by decide) hne hne' hseparates hseparates').1
    (.inl h.symm)
  have hprefix' := (Text.written_eq_or_prefix_iff (by decide) hne' hne hseparates' hseparates).1
    (.inl h)
  exact hprefix.eq_of_length_le hprefix'.length_le

/-- Files have the same module if and only if their paths are shown alike. -/
theorem module_eq_iff (h : names ∈ sourceNames fs workDir root base extension ignore)
    (hother : other ∈ sourceNames fs workDir root base extension ignore) :
    (ofNames root names).module = (ofNames root other).module ↔
      (relativePath names).slashed = (relativePath other).slashed := by
  constructor
  · intro hmodule
    rw [(module_of_mem_sourceNames h).2, (module_of_mem_sourceNames hother).2, hmodule]
  · intro hslashed
    have hnames := areNames_of_mem_sourceNames h
    have hnames' := areNames_of_mem_sourceNames hother
    have hshown := map_lossy_eq_of_slashed_eq hnames hnames' hslashed
    simp only [ofNames, ModulePath.ofRelative, names_relativePath hnames,
      names_relativePath hnames', hshown]

/-- Paths that are texts are shown as they are. -/
theorem eq_of_slashed_eq (hnames : AreNames names) (hother : AreNames other)
    (htext : (relativePath names).IsText) (htext' : (relativePath other).IsText)
    (h : (relativePath names).slashed = (relativePath other).slashed) : names = other := by
  obtain ⟨text, heq⟩ := htext
  obtain ⟨text', heq'⟩ := htext'
  have hshown : ∀ text : String, (Path.ofText text).shown = text := Text.lossy_bytes
  rw [← shown_relativePath hnames, ← shown_relativePath hother, heq, heq', hshown, hshown] at h
  rw [← names_relativePath hnames, heq, h, ← heq', names_relativePath hother]

end Modules

/-- The path of a source file is shown as the segments of its module and the extension: as many
    segments as the path has components. Different files have the same module if and only if their
    paths are shown alike, so not if these are texts. -/
theorem discover_lossless {fs : FileSystem} {workDir : Location} {root : Path} {extension : String}
    {ignore : List String} {files : List SourceFile}
    (h : discover fs workDir root extension ignore = .ok files) :
    (∀ file ∈ files,
      file.relative.slashed =
          "/".intercalate file.module.segments ++ "." ++ bareExtension extension ∧
        file.module.segments.length = file.relative.components.length ∧
        1 ≤ file.module.segments.length) ∧
      files.Pairwise fun a b =>
        (a.module = b.module ↔ a.relative.slashed = b.relative.slashed) ∧
          (a.relative.IsText → b.relative.IsText → a.module ≠ b.module) := by
  obtain ⟨base, rfl⟩ := exists_base_of_discover h
  constructor
  · intro file hfile
    obtain ⟨names, hmem, rfl⟩ := List.mem_map.1 hfile
    have hnames := areNames_of_mem_sourceNames hmem
    obtain ⟨hlength, hslashed⟩ := module_of_mem_sourceNames hmem
    have hcomponents : (ofNames root names).relative.components = names.map Component.name :=
      components_relativePath hnames
    refine ⟨hslashed, ?_, ?_⟩
    · rw [hlength, hcomponents, List.length_map]
    · rw [hlength]
      exact List.length_pos_iff.2 hnames.ne_nil
  · refine List.pairwise_map.2 (pairwise_sourceNames.imp_of_mem fun ha hb hlt => ?_)
    refine ⟨module_eq_iff ha hb, fun htext htext' hmodule => ?_⟩
    have heq := eq_of_slashed_eq (areNames_of_mem_sourceNames ha) (areNames_of_mem_sourceNames hb)
      htext htext' ((module_eq_iff ha hb).1 hmodule)
    rw [heq] at hlt
    exact List.lt_irrefl _ hlt

/-- The name of a file is its extension behind two dots, the first of which is its module; that of
    another one has a dot in its module. Their paths are texts, so their modules are different. -/
theorem discover_lossless_at_dots :
    let fs : FileSystem :=
      { entries := [([bytes "src"], .directory {}), ([bytes "src", bytes "..py"], .file .empty {}),
          ([bytes "src", bytes "b.c.py"], .file .empty {})]
        distinct := by decide
        rooted := by decide
        named := by decide }
    let root := Path.ofText "src"
    let file := ofNames root [bytes "..py"]
    let other := ofNames root [bytes "b.c.py"]
    ∃ files, discover fs [] root "py" [] = .ok files ∧ file ∈ files ∧ other ∈ files ∧
      file.module.segments = ["."] ∧
      file.relative.slashed = "/".intercalate ["."] ++ "." ++ bareExtension "py" ∧
      file.relative.components.length = 1 ∧
      other.relative.slashed = "/".intercalate ["b.c"] ++ "." ++ bareExtension "py" ∧
      file.relative.IsText ∧ other.relative.IsText ∧ file.module ≠ other.module := by
  intro fs root file other
  have hroot : fs.Reaches [] root [bytes "src"] (.directory {}) :=
    FileSystem.reaches_name rfl (by simp) rfl
  have hfile : file ∈ (sourceNames fs [] root [bytes "src"] "py" []).map (ofNames root) :=
    mem_map_sourceNames hroot rfl rfl (by decide) rfl (by decide) (by decide) (by decide)
  have hother : other ∈ (sourceNames fs [] root [bytes "src"] "py" []).map (ofNames root) :=
    mem_map_sourceNames hroot rfl rfl (by decide) rfl (by decide) (by decide) (by decide)
  have hfiles : discover fs [] root "py" [] = .ok _ := discover_eq hroot
  have hsegments : file.module.segments = ["."] := by decide
  have hsegments' : other.module.segments = ["b.c"] := by decide
  have htext : file.relative.IsText := ⟨"..py", by decide⟩
  have htext' : other.relative.IsText := ⟨"b.c.py", by decide⟩
  obtain ⟨hlossless, hpairwise⟩ := discover_lossless hfiles
  obtain ⟨hslashed, hlength, -⟩ := hlossless file hfile
  obtain ⟨hslashed', -⟩ := hlossless other hother
  rw [hsegments] at hslashed hlength
  rw [hsegments'] at hslashed'
  have hsymm : Std.Symm fun a b : SourceFile =>
      a.relative.IsText → b.relative.IsText → a.module ≠ b.module :=
    ⟨fun a b hab hb ha => (hab ha hb).symm⟩
  have hmodules := (hpairwise.imp And.right).forall hfile hother (by decide)
  exact ⟨_, hfiles, hfile, hother, hsegments, hslashed, hlength.symm, hslashed', htext, htext',
    hmodules htext htext'⟩

/-- Two files with names that are no texts but are shown alike. They are both found, and they have
    the same module. -/
theorem discover_merges_modules :
    let a : Name := [0xFF, dot, 0x70, 0x79]
    let b : Name := [0xFE, dot, 0x70, 0x79]
    let fs : FileSystem :=
      { entries := [([bytes "src"], .directory {}), ([bytes "src", a], .file .empty {}),
          ([bytes "src", b], .file .empty {})]
        distinct := by decide
        rooted := by decide
        named := by decide }
    let root := Path.ofText "src"
    ∃ files, discover fs [] root "py" [] = .ok files ∧ ofNames root [a] ∈ files ∧
      ofNames root [b] ∈ files ∧ (ofNames root [a]).relative ≠ (ofNames root [b]).relative ∧
      (ofNames root [a]).module.segments = ["\uFFFD"] ∧
      (ofNames root [b]).module.segments = ["\uFFFD"] := by
  intro a b fs root
  have hroot : fs.Reaches [] root [bytes "src"] (.directory {}) :=
    FileSystem.reaches_name rfl (by simp) rfl
  refine ⟨_, discover_eq hroot, ?_, ?_, by decide, by decide, by decide⟩
  · exact mem_map_sourceNames hroot rfl rfl (by decide) rfl (by decide) (by decide) (by decide)
  · exact mem_map_sourceNames hroot rfl rfl (by decide) rfl (by decide) (by decide) (by decide)

end SourceFile

end Migration
