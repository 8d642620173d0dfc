import Migration.Proofs.FileSystem.Ancestors
import Migration.Settings.Load

/-!
# Which settings are found

Settings come from a file that the user names (`LoadedSettings.ofFile`) or from a search in a
directory and those above it (`LoadedSettings.inDirectory`). The two treat a file that cannot be
used in different ways, the one fails and the other goes on, but they agree on what a file gives:

* `usable?` is what both read from a file; the one fails where it is nothing, and the other passes
  the file over;
* so the search comes to the settings that the user would get by naming the first usable file on the
  way up, and to the defaults if there is none. It tells the directory as it went through it, while
  the file that is named tells it by its own path, with the same components (`baseOf_join`);
* no file behind that one is looked at, and nothing is looked at but the texts of the files
  (`search_congr`).

Either way the settings need no further fixing (`Settings.IsNormal`).
-/

namespace Migration

/-! ## Values that need no fixing -/

namespace Settings

/-- No value of the settings has to be replaced. -/
structure IsNormal (settings : Settings) : Prop where
  normalize_eq : settings.normalize = settings
  groupLimit_pos : 1 ≤ settings.groupLimit
  separator_ne : settings.rules.separator ≠ ""

theorem normalize_eq (settings : Settings) :
    settings.normalize =
      { settings with
        groupLimit := if settings.groupLimit = 0 then 10 else settings.groupLimit
        rules := { settings.rules with
          separator :=
            if settings.rules.separator = "" then "." else settings.rules.separator } } := by
  unfold normalize fixes
  split_ifs <;> rfl

theorem isNormal_iff {settings : Settings} :
    settings.IsNormal ↔ 1 ≤ settings.groupLimit ∧ settings.rules.separator ≠ "" := by
  refine ⟨fun h => ⟨h.groupLimit_pos, h.separator_ne⟩, fun h => ⟨?_, h.1, h.2⟩⟩
  rw [normalize_eq, if_neg (Nat.one_le_iff_ne_zero.1 h.1), if_neg h.2]

theorem isNormal_normalize (settings : Settings) : settings.normalize.IsNormal := by
  rw [isNormal_iff, normalize_eq]
  constructor
  · dsimp only
    split_ifs with hlimit
    · decide
    · exact Nat.one_le_iff_ne_zero.2 hlimit
  · dsimp only
    split_ifs with hseparator
    · decide
    · exact hseparator

theorem isNormal_default : ({} : Settings).IsNormal := isNormal_iff.2 (by decide)

end Settings

namespace LoadedSettings

open Text (bytes)

/-! ## What a file gives -/

/-- The settings in a file, if it can be read and understood, with the remarks on them. -/
def usable? (fs : FileSystem) (workDir : Location) (path : Path) :
    Option (Settings × List Remark) :=
  match fs.readText workDir path with
  | .ok text => read? text
  | .error _ => none

section

variable {fs : FileSystem} {workDir : Location}

theorem isNormal_of_usable? {path : Path} {settings : Settings} {remarks : List Remark}
    (h : usable? fs workDir path = some (settings, remarks)) : settings.IsNormal := by
  unfold usable? at h
  split at h
  · obtain ⟨given, -, hgiven⟩ := Option.map_eq_some_iff.1 h
    obtain ⟨rfl, -⟩ := Prod.mk.inj hgiven
    exact given.isNormal_normalize
  · cases h

theorem fst_consider (path : Path) :
    (consider fs workDir path).1 = (usable? fs workDir path).map Prod.fst := by
  unfold consider usable?
  cases hread : fs.readText workDir path with
  | error error => cases error <;> rfl
  | ok text =>
    cases hset : read? text with
    | none => simp [hset]
    | some found => simp [hset]

theorem ofFile_of_usable? {path : Path} {settings : Settings} {remarks : List Remark}
    (h : usable? fs workDir path = some (settings, remarks)) :
    ofFile fs workDir path = .ok (⟨settings, baseOf path, some path⟩, remarks) := by
  unfold usable? at h
  split at h
  case h_1 text hread =>
    unfold ofFile FileSystem.readSource
    simp only [hread, Except.mapError, h]
  case h_2 => cases h

theorem ofFile_of_not_usable? {path : Path} (h : usable? fs workDir path = none) :
    ∃ fault, ofFile fs workDir path = .error fault := by
  unfold usable? at h
  unfold ofFile FileSystem.readSource
  split at h
  case h_1 text hread =>
    simp only [hread, Except.mapError, h]
    exact ⟨_, rfl⟩
  case h_2 error hread =>
    simp only [hread, Except.mapError]
    exact ⟨_, rfl⟩

theorem usable?_of_ofFile {path : Path} {loaded : LoadedSettings} {remarks : List Remark}
    (h : ofFile fs workDir path = .ok (loaded, remarks)) :
    usable? fs workDir path = some (loaded.settings, remarks) ∧ loaded.baseDir = baseOf path ∧
      loaded.source = some path := by
  cases hfound : usable? fs workDir path with
  | none =>
    obtain ⟨fault, hfault⟩ := ofFile_of_not_usable? hfound
    rw [hfault] at h
    cases h
  | some found =>
    rw [ofFile_of_usable? hfound] at h
    obtain ⟨rfl, rfl⟩ := Prod.mk.inj (Except.ok.inj h)
    exact ⟨rfl, rfl, rfl⟩

theorem usable?_of_fault {path : Path} {fault : Fault} (h : ofFile fs workDir path = .error fault) :
    usable? fs workDir path = none := by
  cases hfound : usable? fs workDir path with
  | none => rfl
  | some found =>
    rw [ofFile_of_usable? hfound] at h
    cases h

/-- Relative paths start in the directory of the file, which is written as a dot if its path is
    empty. -/
theorem baseOf_join (dir : Path) :
    if dir.bytes = [] then baseOf (dir.join fileName) = .ofText "."
    else (baseOf (dir.join fileName)).components = dir.components := by
  obtain ⟨parent, hparent, hcomponents⟩ :=
    dir.exists_parent?_join (by decide : slash ∉ fileName.bytes) (by decide)
  have hempty : parent.bytes = [] ↔ dir.bytes = [] := by
    rw [← Path.components_eq_nil_iff, hcomponents, Path.components_eq_nil_iff]
  have hbase : baseOf (dir.join fileName) =
      if parent.bytes.isEmpty then .ofText "." else parent := by
    rw [baseOf]
    simp only [hparent]
  rw [hbase]
  split_ifs with hdir hnil hnil
  · rfl
  · exact absurd (hempty.2 hdir) (by simpa using hnil)
  · exact absurd (hempty.1 (by simpa using hnil)) hdir
  · exact hcomponents

/-! ## The search -/

theorem consider_of_usable? {path : Path} {settings : Settings} {remarks : List Remark}
    (h : usable? fs workDir path = some (settings, remarks)) :
    consider fs workDir path = (some settings, remarks) := by
  unfold usable? at h
  split at h
  case h_1 text hread =>
    unfold consider
    simp only [hread, h]
  case h_2 => cases h

theorem search_cons_of_usable? {dir : Path} {settings : Settings} {remarks : List Remark}
    (h : usable? fs workDir (dir.join fileName) = some (settings, remarks)) (dirs : List Path) :
    search fs workDir (dir :: dirs) =
      (some ⟨settings, dir, some (dir.join fileName)⟩, remarks) := by
  rw [search, consider_of_usable? h]

theorem search_cons_of_not_usable? {dir : Path}
    (h : usable? fs workDir (dir.join fileName) = none) (dirs : List Path) :
    search fs workDir (dir :: dirs) =
      ((search fs workDir dirs).1,
        (consider fs workDir (dir.join fileName)).2 ++ (search fs workDir dirs).2) := by
  have hnone : (consider fs workDir (dir.join fileName)).1 = none := by
    rw [fst_consider, h, Option.map_none]
  rw [search]
  split
  case h_1 settings remarks hconsider =>
    rw [hconsider] at hnone
    cases hnone
  case h_2 remarks hconsider => rw [hconsider]

/-- The search gives the first directory whose file is usable. -/
theorem fst_search (dirs : List Path) :
    (search fs workDir dirs).1 = dirs.findSome? fun dir =>
      (usable? fs workDir (dir.join fileName)).map fun found =>
        ⟨found.1, dir, some (dir.join fileName)⟩ := by
  induction dirs with
  | nil => rfl
  | cons dir dirs ih =>
    rw [List.findSome?_cons]
    cases hfound : usable? fs workDir (dir.join fileName) with
    | none => rw [search_cons_of_not_usable? hfound, ih, Option.map_none]
    | some found => rw [search_cons_of_usable? hfound, Option.map_some]

theorem fst_search_eq_some {dirs : List Path} {i : Nat} {dir : Path} {settings : Settings}
    {remarks : List Remark} (hdir : dirs[i]? = some dir)
    (hbefore : ∀ other ∈ dirs.take i, usable? fs workDir (other.join fileName) = none)
    (hfound : usable? fs workDir (dir.join fileName) = some (settings, remarks)) :
    (search fs workDir dirs).1 = some ⟨settings, dir, some (dir.join fileName)⟩ := by
  obtain ⟨hi, rfl⟩ := List.getElem?_eq_some_iff.1 hdir
  rw [fst_search, List.findSome?_eq_some_iff]
  refine ⟨dirs.take i, dirs[i], dirs.drop (i + 1), ?_, ?_, fun other hother => ?_⟩
  · rw [← List.drop_eq_getElem_cons hi, List.take_append_drop]
  · rw [hfound, Option.map_some]
  · rw [hbefore other hother, Option.map_none]

theorem fst_search_eq_none {dirs : List Path}
    (h : ∀ dir ∈ dirs, usable? fs workDir (dir.join fileName) = none) :
    (search fs workDir dirs).1 = none := by
  rw [fst_search, List.findSome?_eq_none_iff]
  intro dir hdir
  rw [h dir hdir, Option.map_none]

theorem isNormal_of_search {dirs : List Path} {loaded : LoadedSettings}
    (h : (search fs workDir dirs).1 = some loaded) : loaded.settings.IsNormal := by
  rw [fst_search] at h
  obtain ⟨dir, -, hloaded⟩ := List.exists_of_findSome?_eq_some h
  obtain ⟨found, hfound, rfl⟩ := Option.map_eq_some_iff.1 hloaded
  exact isNormal_of_usable? hfound

/-- The search looks at no file behind one that is usable, and of the others only at their text. -/
theorem search_congr {fs' : FileSystem} {workDir' : Location} {seen rest : List Path}
    (hend : rest = [] ∨ ∃ dir ∈ seen, (usable? fs workDir (dir.join fileName)).isSome)
    (hread : ∀ dir ∈ seen,
      fs'.readText workDir' (dir.join fileName) = fs.readText workDir (dir.join fileName)) :
    search fs' workDir' (seen ++ rest) = search fs workDir (seen ++ rest) := by
  induction seen with
  | nil =>
    rcases hend with rfl | ⟨dir, hdir, -⟩
    · rfl
    · cases hdir
  | cons dir seen ih =>
    have hdir := hread dir List.mem_cons_self
    have husable : usable? fs' workDir' (dir.join fileName) =
        usable? fs workDir (dir.join fileName) := by
      rw [usable?, usable?, hdir]
    have hconsider : consider fs' workDir' (dir.join fileName) =
        consider fs workDir (dir.join fileName) := by
      rw [consider, consider, hdir]
    rw [List.cons_append]
    cases hfound : usable? fs workDir (dir.join fileName) with
    | some found =>
      rw [search_cons_of_usable? hfound, search_cons_of_usable? (husable.trans hfound)]
    | none =>
      have hrest : rest = [] ∨ ∃ dir ∈ seen, (usable? fs workDir (dir.join fileName)).isSome := by
        refine hend.imp_right ?_
        rintro ⟨other, hother, hsome⟩
        rcases List.mem_cons.1 hother with rfl | hother
        · rw [hfound] at hsome
          cases hsome
        · exact ⟨other, hother, hsome⟩
      rw [search_cons_of_not_usable? hfound, search_cons_of_not_usable? (husable.trans hfound),
        hconsider, ih hrest fun other hother => hread other (List.mem_cons_of_mem _ hother)]

end

theorem inDirectory_eq (fs : FileSystem) (workDir : Location) (start : Path) :
    inDirectory fs workDir start =
      ((search fs workDir (start.ancestors 10)).1.getD (defaults start),
        (search fs workDir (start.ancestors 10)).2) :=
  rfl

/-- A search gives what the first usable file on the way up gives when it is named, with the
    directory where it was found, and the defaults if there is no such file. What it gives depends
    on the texts of the files up to that one alone, of which there are at most ten, and needs no
    fixing. -/
theorem inDirectory_agrees_ofFile (fs : FileSystem) (workDir : Location) (start : Path) :
    let dirs := start.ancestors 10
    let load (dir : Path) := ofFile fs workDir (dir.join fileName)
    let found := inDirectory fs workDir start
    (∀ i dir loaded remarks, dirs[i]? = some dir →
      (∀ other ∈ dirs.take i, ∃ fault, load other = .error fault) →
      load dir = .ok (loaded, remarks) →
        found.1 = { loaded with baseDir := dir } ∧ loaded.source = some (dir.join fileName) ∧
          if dir.bytes = [] then loaded.baseDir = .ofText "."
          else loaded.baseDir.components = dir.components) ∧
    ((∀ dir ∈ dirs, ∃ fault, load dir = .error fault) → found.1 = ⟨{}, start, none⟩) ∧
    dirs.length ≤ 10 ∧
    (∀ n fs' workDir',
      (dirs.length ≤ n ∨ ∃ dir ∈ dirs.take n, ∃ result, load dir = .ok result) →
      (∀ dir ∈ dirs.take n, fs'.readText workDir' (dir.join fileName) =
        fs.readText workDir (dir.join fileName)) →
        inDirectory fs' workDir' start = found) ∧
    found.1.settings.IsNormal ∧
    ∀ path loaded remarks, ofFile fs workDir path = .ok (loaded, remarks) →
      loaded.settings.IsNormal := by
  intro dirs load found
  have hfound : found = ((search fs workDir dirs).1.getD (defaults start),
      (search fs workDir dirs).2) := inDirectory_eq fs workDir start
  have hfails {dir : Path} (h : ∃ fault, load dir = .error fault) :
      usable? fs workDir (dir.join fileName) = none := by
    obtain ⟨fault, hfault⟩ := h
    exact usable?_of_fault hfault
  refine ⟨?_, ?_, start.length_ancestors_le 10, ?_, ?_, ?_⟩
  · intro i dir loaded remarks hdir hbefore hload
    obtain ⟨husable, hbase, hsource⟩ := usable?_of_ofFile hload
    have hfirst := fst_search_eq_some hdir (fun other hother => hfails (hbefore other hother))
      husable
    refine ⟨?_, hsource, ?_⟩
    · rw [hfound, hfirst, hsource, Option.getD_some]
    · rw [hbase]
      exact baseOf_join dir
  · intro hnone
    rw [hfound, fst_search_eq_none fun dir hdir => hfails (hnone dir hdir)]
    rfl
  · intro n fs' workDir' hend hread
    have hsearch : search fs' workDir' dirs = search fs workDir dirs := by
      rw [← List.take_append_drop n dirs]
      refine search_congr (hend.imp List.drop_eq_nil_iff.2 ?_) hread
      rintro ⟨dir, hdir, ⟨loaded, remarks⟩, hload⟩
      exact ⟨dir, hdir, by rw [(usable?_of_ofFile hload).1]; rfl⟩
    rw [inDirectory_eq, hfound]
    exact congrArg (fun found => (found.1.getD (defaults start), found.2)) hsearch
  · rw [hfound]
    cases hsome : (search fs workDir dirs).1 with
    | none => exact Settings.isNormal_default
    | some loaded => exact isNormal_of_search hsome
  · intro path loaded remarks hload
    exact isNormal_of_usable? (usable?_of_ofFile hload).1

/-- The file in the directory `a` is no text of settings, so that the one above it counts. -/
theorem inDirectory_agrees_ofFile_above_broken_file :
    let fs : FileSystem :=
      { entries := [([bytes "a"], .directory {}),
          ([bytes "a", bytes ".porttrack.toml"], .file "[".toUTF8 {}),
          ([bytes ".porttrack.toml"], .file "[report]\ngroup_limit = 0\n".toUTF8 {})]
        distinct := by decide
        rooted := by decide
        named := by decide }
    (∃ fault, ofFile fs [] (.ofText "a/./.porttrack.toml") = .error fault) ∧
      ∃ loaded remarks, ofFile fs [] (.ofText ".porttrack.toml") = .ok (loaded, remarks) ∧
        loaded.baseDir = .ofText "." ∧
        (inDirectory fs [] (.ofText "a/.")).1 = { loaded with baseDir := .ofText "" } := by
  intro fs
  have hbroken : usable? fs [] (.ofText "a/./.porttrack.toml") = none := by decide +kernel
  have hfound : usable? fs [] (.ofText ".porttrack.toml") =
      some ({}, [.warning "report.group_limit must be at least 1, using 10"]) := by
    decide +kernel
  have hfault := ofFile_of_not_usable? hbroken
  have hload := ofFile_of_usable? hfound
  have hdirs : (Path.ofText "a/.").ancestors 10 = [.ofText "a/.", .ofText ""] := by decide
  obtain ⟨hsame, hsource, hbase⟩ :=
    (inDirectory_agrees_ofFile fs [] (.ofText "a/.")).1 1 (.ofText "") _ _
      (by rw [hdirs]; rfl) (by
        rw [hdirs]
        intro other hother
        obtain rfl := List.mem_singleton.1 hother
        exact hfault) hload
  exact ⟨hfault, _, _, hload, hbase, hsame⟩

end LoadedSettings

end Migration
