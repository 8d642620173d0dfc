import Migration.Command.Run
import Migration.Proofs.Command.Template
import Migration.Proofs.Text.Bytes

/-!
# What a run leaves behind

A run that does not succeed has no output (`Ending.IsQuiet`), and an inquiry leaves the files as
they were in any case. What remains is the command that writes the file of settings. It writes the
template to the place that the file's name leads to, through links if need be, if the system opens
that for writing and nothing is replaced that should not be (`Admits`). Nothing else changes. The
settings in that directory are the defaults from then on, since the template spells them out and the
search starts there.

This holds as far as the disk plays along. If the storage takes only a part of the template, then
the run fails, but that part is in the file. What is written to a device is nowhere. And a file is
written by its name, which is short, but the search goes by its path from the root and has to read
it: deep inside of the tree that path can be too long, and the system may refuse to read what it let
one write. Then the settings of a directory above count (`init_not_atomic`).
-/

namespace Migration

open FileSystem LoadedSettings
open Text (bytes)

/-! ## How runs end -/

/-- A run ends with one of three codes, and it has no output unless it succeeds. -/
structure Ending.IsQuiet (ending : Ending) : Prop where
  exitCode : ending.exitCode = 0 ∨ ending.exitCode = 1 ∨ ending.exitCode = 2
  output : ending.exitCode ≠ 0 → ending.output = ""

namespace Ending

variable {fs : FileSystem}

theorem isQuiet_of_exitCode {ending : Ending} (h : ending.exitCode = 0) : ending.IsQuiet :=
  ⟨.inl h, fun hne => absurd h hne⟩

theorem isQuiet_failed (notes : List String) (failure : Failure) :
    (failed fs notes failure).IsQuiet :=
  ⟨.inr (.inl rfl), fun _ => rfl⟩

theorem isQuiet_declined (declined : Declined) : (Ending.declined fs declined).IsQuiet := by
  cases declined with
  | help => exact isQuiet_of_exitCode rfl
  | version => exact isQuiet_of_exitCode rfl
  | _ => exact ⟨.inr (.inr rfl), fun _ => rfl⟩

theorem files_declined (declined : Declined) : (Ending.declined fs declined).files = fs := by
  cases declined <;> rfl

end Ending

namespace Invocation

variable {fs : FileSystem} {storage : Storage} {workDir : Location} {coloured : Bool}
  {invocation : Invocation}

/-- An inquiry changes nothing. -/
theorem run_inquire {inquiry : Inquiry} (hcommand : invocation.command = .inquire inquiry) :
    (invocation.run fs storage workDir coloured).IsQuiet ∧
      (invocation.run fs storage workDir coloured).files = fs := by
  rw [run, hcommand]
  dsimp only
  unfold inquire
  split
  case h_1 fault _ => exact ⟨Ending.isQuiet_failed [] _, rfl⟩
  case h_2 loaded remarks _ =>
    dsimp only
    split
    case h_1 failure _ => exact ⟨Ending.isQuiet_failed _ failure, rfl⟩
    case h_2 report _ => exact ⟨Ending.isQuiet_of_exitCode rfl, rfl⟩

/-- The run leaves what writing the template leaves, and fails if that does. -/
theorem run_init {force : Bool} (hcommand : invocation.command = .init force) :
    (invocation.run fs storage workDir coloured).IsQuiet ∧
      (invocation.run fs storage workDir coloured).files =
        (fs.writeTemplate storage workDir fileName force).1 ∧
      (invocation.run fs storage workDir coloured).exitCode =
        if (fs.writeTemplate storage workDir fileName force).2 = none then 0 else 1 := by
  rw [run, hcommand]
  dsimp only
  rcases fs.writeTemplate storage workDir fileName force with ⟨files, - | failure⟩
  · exact ⟨Ending.isQuiet_of_exitCode rfl, rfl, rfl⟩
  · exact ⟨Ending.isQuiet_failed [] failure, rfl, rfl⟩

end Invocation

/-! ## The file of settings -/

section FileName

variable {fs : FileSystem} {workDir : Location} {target : Target}

theorem isName_fileName : isName fileName.bytes = true := by decide

theorem join_fileName {place : Location} (hplace : ∀ name ∈ place, isName name) :
    (Location.path place).join fileName = Location.path (place ++ [fileName.bytes]) :=
  Location.join_path hplace isName_fileName

theorem find_fileName_iff : fs.find false workDir fileName = .ok target ↔
    fs.Leads maxLinks workDir [fileName.bytes] target := by
  have hfollowed : fileName.IsFollowed := ⟨by decide, by decide, by decide⟩
  have hparts : fileName.wayParts = [fileName.bytes] := by decide
  have hrelative : fileName.isAbsolute = false := by decide
  rw [find_eq_ok_iff, hparts, hrelative, if_neg Bool.false_ne_true, and_iff_right hfollowed]

/-- The file of settings of a directory is found by its path from the root, if that is not too long
    and the system does not refuse to go along it and to read the file. -/
theorem usable?_of_leads {place : Location} {text : String} {rights : Rights}
    (hleads : fs.Leads maxLinks workDir [fileName.bytes] (.present place))
    (hfile : fs.get? place = some (.file text.toUTF8 rights)) (hread : rights.read = none)
    (hsearch : fs.IsSearched [] workDir)
    (hsize : ((Location.path workDir).join fileName).bytes.length < 4096)
    (elsewhere : Location) :
    usable? fs elsewhere ((Location.path workDir).join fileName) = read? text := by
  have hplace := isName_of_hasDirectory hleads.hasDirectory
  rw [join_fileName hplace] at hsize ⊢
  have hfind : fs.find false elsewhere _ = .ok (.present place) :=
    Location.find_path hsize isName_fileName hsearch hleads
  rw [usable?, readText_of_find hfind hfile hread]

/-- A template in the file of settings of a directory gives the defaults there, whatever the
    directories above it have. -/
theorem inDirectory_of_template {place : Location} {rights : Rights}
    (hleads : fs.Leads maxLinks workDir [fileName.bytes] (.present place))
    (hfile : fs.get? place = some (.file template.toUTF8 rights)) (hread : rights.read = none)
    (hsearch : fs.IsSearched [] workDir)
    (hsize : ((Location.path workDir).join fileName).bytes.length < 4096)
    (elsewhere : Location) :
    inDirectory fs elsewhere (Location.path workDir) =
      (⟨{}, Location.path workDir, some ((Location.path workDir).join fileName)⟩, []) := by
  have husable := usable?_of_leads hleads hfile hread hsearch hsize elsewhere
  rw [read?_template] at husable
  rw [inDirectory_eq, Path.ancestors, search_cons_of_usable? husable]
  rfl

end FileName

/-! ## Writing the file of settings -/

/-- The name of the file of settings leads to what the system opens for writing, and nothing is
    there or it may be replaced. -/
structure Admits (fs : FileSystem) (storage : Storage) (workDir : Location) (force : Bool)
    (target : Target) : Prop where
  leads : fs.Leads maxLinks workDir [fileName.bytes] target
  writable : fs.IsWritable storage target
  free : force = true ∨ ∃ place, target = .vacant place

namespace Invocation

variable {fs : FileSystem} {storage : Storage} {workDir : Location} {coloured force : Bool}
  {invocation : Invocation}

/-- What the storage takes of the template is received where the name leads, and the run fails if
    that is not all. -/
theorem run_init_of_admits {target : Target} (hcommand : invocation.command = .init force)
    (h : Admits fs storage workDir force target) :
    Receives fs (invocation.run fs storage workDir coloured).files storage target
        (storage.take template.toUTF8).1 ∧
      (invocation.run fs storage workDir coloured).exitCode =
        if (storage.take template.toUTF8).2 = none then 0 else 1 := by
  obtain ⟨-, hfiles, hcode⟩ := @run_init fs storage workDir coloured _ _ hcommand
  obtain ⟨hreceives, hcomplete⟩ :=
    writeTemplate_of_isWritable (find_fileName_iff.2 h.leads) h.writable h.free
  rw [hfiles, hcode]
  exact ⟨hreceives, by simp only [hcomplete]⟩

theorem run_init_of_not_admits (hcommand : invocation.command = .init force)
    (h : ∀ target, ¬Admits fs storage workDir force target) :
    (invocation.run fs storage workDir coloured).exitCode = 1 ∧
      (invocation.run fs storage workDir coloured).files = fs := by
  obtain ⟨-, hfiles, hcode⟩ := @run_init fs storage workDir coloured _ _ hcommand
  obtain ⟨failure, hwrite⟩ : ∃ failure,
      fs.writeTemplate storage workDir fileName force = (fs, some failure) :=
    writeTemplate_of_not_isWritable fun target hfind hwritable hfree =>
      h target ⟨find_fileName_iff.1 hfind, hwritable, hfree⟩
  rw [hfiles, hcode, hwrite]
  exact ⟨rfl, rfl⟩

/-- The file of settings is written if it can be opened and the storage takes all of it. -/
theorem exitCode_run_init (hcommand : invocation.command = .init force) :
    (invocation.run fs storage workDir coloured).exitCode = 0 ↔
      ∃ target, Admits fs storage workDir force target ∧
        (storage.take template.toUTF8).2 = none := by
  by_cases hadmits : ∃ target, Admits fs storage workDir force target
  · obtain ⟨target, htarget⟩ := hadmits
    rw [(run_init_of_admits hcommand htarget).2]
    constructor
    · intro hcode
      split_ifs at hcode with hnone
      exact ⟨target, htarget, hnone⟩
    · rintro ⟨-, -, hnone⟩
      exact if_pos hnone
  · rw [(run_init_of_not_admits hcommand (not_exists.1 hadmits)).1]
    exact iff_of_false Nat.one_ne_zero fun ⟨target, htarget, _⟩ => hadmits ⟨target, htarget⟩

/-- If anything has changed, then it is the file that the name leads to, and it has what the storage
    took of the template. -/
theorem written_of_run_init (hcommand : invocation.command = .init force)
    (h : (invocation.run fs storage workDir coloured).files ≠ fs) :
    ∃ target, Admits fs storage workDir force target ∧
      Written fs (invocation.run fs storage workDir coloured).files target.place
        (storage.take template.toUTF8).1 (fs.rightsFor storage target) := by
  by_cases hadmits : ∃ target, Admits fs storage workDir force target
  · obtain ⟨target, htarget⟩ := hadmits
    rcases (run_init_of_admits hcommand htarget).1 with ⟨-, hsame⟩ | hwritten
    · exact absurd hsame h
    · exact ⟨target, htarget, hwritten⟩
  · exact absurd (run_init_of_not_admits hcommand (not_exists.1 hadmits)).2 h

end Invocation

section Run

variable {fs : FileSystem} {storage : Storage} {workDir : Location} {coloured : Bool}
  {environment : Option String} {arguments : List String}

theorem run_of_parse {invocation : Invocation}
    (hparse : Arguments.parse environment arguments = .ok invocation) :
    run fs storage workDir coloured environment arguments =
      invocation.run fs storage workDir coloured := by
  rw [run, hparse]

theorem isQuiet_run : (run fs storage workDir coloured environment arguments).IsQuiet := by
  unfold run
  split
  case h_1 declined _ => exact Ending.isQuiet_declined declined
  case h_2 invocation _ =>
    cases hcommand : invocation.command with
    | inquire inquiry => exact (Invocation.run_inquire hcommand).1
    | init force => exact (Invocation.run_init hcommand).1

/-- Only a command to write a file of settings changes anything. -/
theorem init_of_files_run (h : (run fs storage workDir coloured environment arguments).files ≠ fs) :
    ∃ invocation force, Arguments.parse environment arguments = .ok invocation ∧
      invocation.command = .init force := by
  cases hparse : Arguments.parse environment arguments with
  | error declined =>
    rw [run, hparse] at h
    exact absurd (Ending.files_declined declined) h
  | ok invocation =>
    cases hcommand : invocation.command with
    | inquire inquiry =>
      rw [run_of_parse hparse] at h
      exact absurd (Invocation.run_inquire hcommand).2 h
    | init force => exact ⟨invocation, force, rfl, hcommand⟩

end Run

/-! ## Paths that are too long -/

section Long

variable {fs : FileSystem} {workDir place : Location} {name : Name} {settings : Settings}
  {remarks : List Remark}

theorem usable?_of_long {path : Path} (h : 4096 ≤ path.bytes.length) :
    usable? fs workDir path = none := by
  unfold usable? readText readBytes
  cases hfind : fs.find false workDir path with
  | error error => rfl
  | ok target => exact absurd (isFollowed_of_find hfind).size_lt (not_lt.2 h)

/-- If the path of the file of settings is too long, then the settings of the directory above count.
    -/
theorem inDirectory_of_long (hworkDir : workDir = place ++ [name])
    (hnames : ∀ other ∈ workDir, isName other)
    (hlong : 4096 ≤ ((Location.path workDir).join fileName).bytes.length)
    {elsewhere : Location}
    (husable : usable? fs elsewhere ((Location.path place).join fileName) =
      some (settings, remarks)) :
    (inDirectory fs elsewhere (Location.path workDir)).1 =
      ⟨settings, Location.path place, some ((Location.path place).join fileName)⟩ := by
  subst hworkDir
  rw [inDirectory_eq, Path.ancestors, search_cons_of_not_usable? (usable?_of_long hlong),
    Location.parent?_path hnames]
  dsimp only
  rw [Path.ancestors, search_cons_of_usable? husable]
  rfl

/-- The file of settings is written where its path is too long, but the settings of the directory
    above still count. -/
theorem Invocation.run_init_of_long {invocation : Invocation} {force coloured : Bool}
    {text : String} (hcommand : invocation.command = .init force)
    (hworkDir : workDir = place ++ [name])
    (hdir : fs.hasDirectory workDir = true) (hrights : ∀ other, fs.rightsAt other = {})
    (hfree : fs.get? (workDir ++ [fileName.bytes]) = none)
    (habove : fs.get? (place ++ [fileName.bytes]) = some (.file text.toUTF8 {}))
    (htext : read? text = some (settings, remarks))
    (hlong : 4096 ≤ ((Location.path workDir).join fileName).bytes.length)
    (hshort : ((Location.path place).join fileName).bytes.length < 4096) :
    (invocation.run fs {} workDir coloured).exitCode = 0 ∧
      (inDirectory (invocation.run fs {} workDir coloured).files workDir
        (Location.path workDir)).1.settings = settings := by
  have hopen {other : Location} (hother : fs.hasDirectory other = true) : fs.IsOpen other :=
    ⟨hother, by rw [hrights]⟩
  have hadmits : Admits fs {} workDir force (.vacant (workDir ++ [fileName.bytes])) :=
    ⟨.vacant (hopen hdir) isName_fileName hfree, ⟨rfl, by rw [hrights]⟩, .inr ⟨_, rfl⟩⟩
  obtain ⟨hreceives, hcode⟩ := @run_init_of_admits _ _ _ coloured _ _ _ hcommand hadmits
  refine ⟨hcode, ?_⟩
  obtain ⟨⟨output, own, hspecial⟩, -⟩ | hwritten := hreceives
  · cases hfree.symm.trans hspecial
  -- The file above is another one, so it is as it was.
  have hother : place ++ [fileName.bytes] ≠ workDir ++ [fileName.bytes] := by
    rw [hworkDir]
    simp
  have hkept := (hwritten.get?_other _ hother).trans habove
  have hparent : fs.hasDirectory place = true := hasDirectory_of_append (hworkDir ▸ hdir)
  have hsearch := hwritten.isSearched hparent fun depth _ => by rw [hrights]
  have hleads : (invocation.run fs {} workDir coloured).files.Leads maxLinks place
      [fileName.bytes] (.present (place ++ [fileName.bytes])) :=
    .enter (hwritten.isOpen (hopen hparent)) isName_fileName hkept nofun .arrived
  have husable := usable?_of_leads hleads hkept rfl hsearch hshort workDir
  rw [htext] at husable
  rw [inDirectory_of_long hworkDir (isName_of_hasDirectory hdir) hlong husable]

/-- There is a file system that has a directory and a file of settings in the directory above. -/
theorem FileSystem.exists_settings_above (hnames : ∀ other ∈ place ++ [name], isName other)
    (hname : name ≠ fileName.bytes) (text : String) :
    ∃ fs : FileSystem, fs.hasDirectory (place ++ [name]) = true ∧
      (∀ other, fs.rightsAt other = {}) ∧
      fs.get? (place ++ [name] ++ [fileName.bytes]) = none ∧
      fs.get? (place ++ [fileName.bytes]) = some (.file text.toUTF8 {}) := by
  obtain ⟨tree, hdir, hrights, hnone⟩ := exists_directories hnames
  have hparent : tree.hasDirectory place = true := hasDirectory_of_append hdir
  have hfree : tree.get? (place ++ [fileName.bytes]) = none := by
    refine hnone _ fun hstart => hname ?_
    have heq := hstart.eq_of_length (by simp)
    simpa using heq.symm
  have hfile : ∀ other ∈ place ++ [fileName.bytes], isName other :=
    List.forall_mem_append.2
      ⟨(List.forall_mem_append.1 hnames).1, List.forall_mem_singleton.2 isName_fileName⟩
  obtain ⟨fs, hfs⟩ : ∃ fs, Written tree fs (place ++ [fileName.bytes]) text.toUTF8 {} :=
    ⟨_, written_put? hfile (by rwa [List.dropLast_concat]) (.inl hfree)⟩
  refine ⟨fs, hfs.hasDirectory hdir, fun other => ?_, ?_, hfs.get?_self⟩
  · by_cases hself : other = place ++ [fileName.bytes]
    · rw [hself, rightsAt_of_get? hfs.get?_self]
      rfl
    · rw [rightsAt, hfs.get?_other other hself]
      exact hrights other
  · rw [hfs.get?_other _ (by simp), hnone]
    intro hstart
    simpa using hstart.length_le

/-- Sixteen directories inside of each other, with names of 255 bytes: a file of settings can be
    made in the innermost one, but its path is too long, and the settings above count. -/
theorem init_overruled_at_long_path :
    let workDir : Location := List.replicate 16 (List.replicate 255 0x64)
    ∃ fs ending, run fs {} workDir false none ["init"] = ending ∧ ending.exitCode = 0 ∧
      (inDirectory ending.files workDir (Location.path workDir)).1.settings =
        { groupLimit := 3 } := by
  have hsize : (List.replicate 255 0x64 : Name).length = 255 := List.length_replicate
  have hchars : ∀ byte ∈ (List.replicate 255 0x64 : Name), byte = 0x64 := fun byte =>
    List.eq_of_mem_replicate
  generalize (List.replicate 255 0x64 : Name) = name at hsize hchars ⊢
  have hother {other : Name} (hlength : other.length ≠ 255) : name ≠ other := by
    rintro rfl
    exact hlength hsize
  have hname : isName name = true := isName_eq_true_iff.2
    ⟨hother (by decide), hother (by decide), hother (by decide),
      fun hslash => absurd (hchars _ hslash) (by decide),
      fun hzero => absurd (hchars _ hzero) (by decide), hsize.le⟩
  have hnames (count : Nat) : ∀ other ∈ List.replicate count name, isName other := by
    intro other hmem
    rwa [List.eq_of_mem_replicate hmem]
  have hpath (count : Nat) :
      (Location.path (List.replicate (count + 1) name)).bytes.length = (count + 1) * 256 := by
    induction count with
    | zero => simp [Location.path, hsize]
    | succ count ih =>
      rw [List.replicate_succ', Location.length_path_append (by simp), ih, hsize]
      omega
  have hfile (count : Nat) : ((Location.path (List.replicate (count + 1) name)).join
      fileName).bytes.length = (count + 1) * 256 + 16 := by
    have hfileName : fileName.bytes.length = 15 := by decide
    rw [join_fileName (hnames (count + 1)), Location.length_path_append (by simp), hpath count,
      hfileName]
  have hparse : Arguments.parse none ["init"] = .ok ⟨none, 0, false, .init false⟩ := by
    decide +kernel
  have htext : read? "[report]\ngroup_limit = 3\n" = some ({ groupLimit := 3 }, []) := by
    decide +kernel
  have hworkDir : List.replicate 16 name = List.replicate 15 name ++ [name] :=
    List.replicate_succ'
  obtain ⟨fs, hdir, hrights, hfree, habove⟩ := exists_settings_above (hworkDir ▸ hnames 16)
    (hother (by decide)) "[report]\ngroup_limit = 3\n"
  rw [← hworkDir] at hdir hfree
  refine ⟨fs, _, run_of_parse hparse,
    Invocation.run_init_of_long rfl hworkDir hdir hrights hfree habove htext ?_ ?_⟩
  · rw [hfile 15]
    decide
  · rw [hfile 14]
    decide

end Long

/-! ## What a run leaves -/

/-- A storage that is full takes nothing of the template. -/
theorem take_template_of_full (rights : Rights) (refusal : Option OpenError) (error : OpenError) :
    Storage.take ⟨rights, refusal, some (0, error)⟩ template.toUTF8 = (.empty, some error) := by
  have hne : template ≠ "" := by
    rw [ne_eq, ← String.toList_eq_nil_iff, toList_template]
    simp [templateLines]
  have hsize : 0 < template.toUTF8.size :=
    Nat.pos_of_ne_zero fun hzero => hne (String.utf8ByteSize_eq_zero_iff.1 hzero)
  have hnothing : template.toUTF8.extract 0 0 = .empty := by simp
  simp only [Storage.take, if_pos hsize, hnothing]

end Migration
