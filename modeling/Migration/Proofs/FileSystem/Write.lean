import Migration.Proofs.FileSystem.Walk

/-!
# Writing a file

A file is written over an older one, or where a directory has no entry of that name. Nothing else
changes (`Written`), and in particular no link does, nor what the system refuses to do with a
directory. So what led to the place before leads to the file that has been written
(`Written.leads`), and the text that was written is what is read there, if it can be read at all.

A path is written to where it leads, if the system opens that for writing (`IsWritable`). What the
storage has taken is then in the file; a device takes it without a trace (`Receives`). If the system
does not open it, then nothing changes (`writeBytes_of_not_isWritable`).
-/

namespace Migration

/-- The place of a target. -/
def Target.place : Target → Location
  | present place | vacant place => place

/-- What is taken without a complaint is all that is written. -/
theorem Storage.fst_take {storage : Storage} {content : ByteArray}
    (h : (storage.take content).2 = none) : (storage.take content).1 = content := by
  unfold take at h ⊢
  split at h
  case h_1 size error _ =>
    split_ifs at h with hsize
    rw [if_neg hsize]
  case h_2 => rfl

namespace FileSystem

/-- The system opens a target for writing: an entry that is no directory, or a new file. -/
def IsWritable (fs : FileSystem) (storage : Storage) : Target → Prop
  | .present place => storage.refusal = none ∧ ∃ entry, fs.get? place = some entry ∧
      entry.isDirectory = false ∧ entry.rights.write = none
  | .vacant place => storage.refusal = none ∧ (fs.rightsAt place.dropLast).write = none

/-- A file has been written at a place, over an older one with its rights or where there was
    nothing, and nothing else has changed. -/
structure Written (fs after : FileSystem) (place : Location) (content : ByteArray)
    (rights : Rights) : Prop where
  get?_self : after.get? place = some (.file content rights)
  get?_other : ∀ other, other ≠ place → after.get? other = fs.get? other
  before : fs.get? place = none ∨ ∃ old, fs.get? place = some (.file old rights)

/-- The rights of the file that is written at a target: those that it has, or those of a new one. -/
def rightsFor (fs : FileSystem) (storage : Storage) : Target → Rights
  | .present place => fs.rightsAt place
  | .vacant _ => storage.fresh

/-- What a write to a target leaves: a file with the content, or nothing if it goes to a device. -/
def Receives (fs after : FileSystem) (storage : Storage) (target : Target) (content : ByteArray) :
    Prop :=
  (∃ output rights, fs.get? target.place = some (.special output rights)) ∧ after = fs ∨
    Written fs after target.place content (fs.rightsFor storage target)

/-! ## What has been written -/

namespace Written

variable {fs after : FileSystem} {place other : Location} {content : ByteArray} {rights : Rights}
  (h : Written fs after place content rights)

include h

theorem get?_before {entry : Entry} (hentry : fs.get? place = some entry) :
    ∃ old, entry = .file old rights := by
  rcases h.before with hnone | ⟨old, hold⟩
  · rw [hnone] at hentry
    cases hentry
  · rw [hold] at hentry
    exact ⟨old, (Option.some.inj hentry).symm⟩

/-- Directories are as they were. -/
theorem get?_directory (hdir : fs.hasDirectory other = true) :
    after.get? other = fs.get? other := by
  refine h.get?_other other ?_
  rintro rfl
  obtain ⟨own, hentry⟩ := hasDirectory_iff.1 hdir
  obtain ⟨old, hold⟩ := h.get?_before hentry
  cases hold

theorem hasDirectory (hdir : fs.hasDirectory other = true) : after.hasDirectory other = true := by
  rwa [FileSystem.hasDirectory, h.get?_directory hdir]

theorem rightsAt (hdir : fs.hasDirectory other = true) :
    after.rightsAt other = fs.rightsAt other := by
  rw [FileSystem.rightsAt, h.get?_directory hdir, FileSystem.rightsAt]

theorem isOpen (hopen : fs.IsOpen other) : after.IsOpen other where
  hasDirectory := h.hasDirectory hopen.hasDirectory
  search := by rw [h.rightsAt hopen.hasDirectory, hopen.search]

theorem isSearched {names : List Name} (hdir : fs.hasDirectory names = true)
    (hsearch : fs.IsSearched [] names) : after.IsSearched [] names := by
  intro depth hdepth
  have htake : fs.hasDirectory (names.take depth) = true :=
    hasDirectory_of_append (by rwa [List.take_append_drop])
  rw [List.nil_append, h.rightsAt htake]
  exact hsearch depth hdepth

/-- What led to the place leads to the file that has been written. -/
theorem leads {links : Nat} {here : Location} {parts : List Name} {target : Target}
    (hleads : fs.Leads links here parts target) (htarget : target.place = place) :
    after.Leads links here parts (.present place) := by
  induction hleads with
  | arrived =>
    rw [← htarget]
    exact .arrived
  | ended hdir _ ih => exact .ended (h.hasDirectory hdir) (ih htarget)
  | stay hopen _ ih => exact .stay (h.isOpen hopen) (ih htarget)
  | up hopen _ ih => exact .up (h.isOpen hopen) (ih htarget)
  | vacant hopen hname _ =>
    obtain rfl : _ = place := htarget
    exact .enter (h.isOpen hopen) hname h.get?_self nofun .arrived
  | @follow _ here name path _ _ hopen hname hlink _ ih =>
    -- What is written over is no link.
    have hother : here ++ [name] ≠ place := by
      rintro rfl
      obtain ⟨old, hold⟩ := h.get?_before hlink
      cases hold
    exact .follow (h.isOpen hopen) hname ((h.get?_other _ hother).trans hlink) (ih htarget)
  | @enter _ here name entry _ _ hopen hname hentry hkind _ ih =>
    by_cases hself : here ++ [name] = place
    · have hfile : after.get? (here ++ [name]) = some (.file content rights) := hself ▸ h.get?_self
      exact .enter (h.isOpen hopen) hname hfile nofun (ih htarget)
    · exact .enter (h.isOpen hopen) hname ((h.get?_other _ hself).trans hentry) hkind
        (ih htarget)

end Written

/-! ## Writing -/

section Writing

variable {fs after : FileSystem} {storage : Storage} {workDir place : Location} {path : Path}
  {content : ByteArray} {rights : Rights} {target : Target}

theorem get?_put {entry : Entry} (hne : place ≠ []) (hnamed : ∀ name ∈ place, isName name)
    (hparent : fs.hasDirectory place.dropLast = true)
    (hkeep : fs.hasDirectory place = true → entry.isDirectory = true) (other : Location) :
    (fs.put place entry hne hnamed hparent hkeep).get? other =
      if other = place then some entry else fs.get? other :=
  entryAt_replaced hne other

/-- There is a file system with nothing but the directories on the way to a place, which can all be
    searched. -/
theorem exists_directories (hplace : ∀ name ∈ place, isName name) :
    ∃ fs : FileSystem, fs.hasDirectory place = true ∧ (∀ other, fs.rightsAt other = {}) ∧
      ∀ other, ¬other <+: place → fs.get? other = none := by
  induction place using List.reverseRecOn with
  | nil =>
    refine ⟨.empty, rfl, fun other => ?_, fun other hother => ?_⟩
    · by_cases hne : other = [] <;> simp [rightsAt, get?, entryAt, empty, hne, Entry.rights]
    · have hne : other ≠ [] := fun hnil => hother (hnil ▸ List.nil_prefix)
      simp [get?, entryAt, empty, hne]
  | append_singleton place name ih =>
    obtain ⟨hnames, -⟩ := List.forall_mem_append.1 hplace
    obtain ⟨fs, hdir, hrights, hnone⟩ := ih hnames
    have hne : place ++ [name] ≠ [] := List.append_ne_nil_of_right_ne_nil _ (List.cons_ne_nil _ _)
    have hparent : fs.hasDirectory (place ++ [name]).dropLast = true := by
      rwa [List.dropLast_concat]
    have hkind : Entry.isDirectory (.directory {}) = true := rfl
    have hget := get?_put hne hplace hparent fun _ => hkind
    refine ⟨fs.put (place ++ [name]) (.directory {}) hne hplace hparent fun _ => hkind, ?_, ?_, ?_⟩
    · rw [hasDirectory_iff, hget, if_pos rfl]
      exact ⟨{}, rfl⟩
    · intro other
      rw [rightsAt, hget]
      split
      · rfl
      · exact hrights other
    · intro other hother
      have hdiffers : other ≠ place ++ [name] := fun heq => hother (heq ▸ List.prefix_refl _)
      rw [hget, if_neg hdiffers]
      exact hnone other fun hstart => hother (hstart.trans (List.prefix_append _ _))

theorem written_put? (hnamed : ∀ name ∈ place, isName name)
    (hparent : fs.hasDirectory place.dropLast = true)
    (hbefore : fs.get? place = none ∨ ∃ old, fs.get? place = some (.file old rights)) :
    Written fs ((fs.put? place (.file content rights)).getD fs) place content rights := by
  have hkeep : ¬fs.hasDirectory place = true := by
    rw [hasDirectory_iff]
    rintro ⟨own, hdir⟩
    rcases hbefore with hnone | ⟨old, hold⟩
    · cases hnone.symm.trans hdir
    · cases hold.symm.trans hdir
  have hne : place ≠ [] := by
    rintro rfl
    exact hkeep rfl
  rw [put?, dif_pos ⟨hne, hnamed, hparent, fun hdir => absurd hdir hkeep⟩, Option.getD_some]
  refine ⟨?_, fun other hother => ?_, hbefore⟩
  · rw [get?_put, if_pos rfl]
  · rw [get?_put, if_neg hother]

theorem writeRefusal?_eq_none_iff (hend : fs.IsEnd target) :
    fs.writeRefusal? storage target = none ↔ fs.IsWritable storage target := by
  cases target with
  | present place =>
    obtain ⟨entry, hentry, -⟩ := hend
    have hdir : fs.hasDirectory place = entry.isDirectory := by rw [hasDirectory, hentry]; rfl
    rw [writeRefusal?, hdir, rightsAt_of_get? hentry, IsWritable, hentry]
    by_cases hkind : entry.isDirectory = true <;> simp [hkind, and_comm]
  | vacant place => simp [writeRefusal?, IsWritable, and_comm]

/-- What is written to a target is received there. -/
theorem receives_withContent (hend : fs.IsEnd target) (h : fs.IsWritable storage target) :
    Receives fs (fs.withContent storage content target) storage target content := by
  cases target with
  | vacant place =>
    obtain ⟨hnone, hparent, hnamed⟩ := hend
    exact .inr (written_put? hnamed hparent (.inl hnone))
  | present place =>
    obtain ⟨entry, hentry, hkind⟩ := hend
    obtain ⟨-, other, hother, hdir, -⟩ := h
    obtain rfl := Option.some.inj (hentry.symm.trans hother)
    cases entry with
    | directory => cases hdir
    | link path => exact absurd rfl (hkind path)
    | special output own =>
      refine .inl ⟨⟨output, own, hentry⟩, ?_⟩
      rw [withContent, hentry]
    | file old own =>
      refine .inr ?_
      rw [withContent, hentry, rightsFor, rightsAt_of_get? hentry]
      exact written_put? (isName_of_get? hentry) (hasDirectory_dropLast hentry) (.inr ⟨old, hentry⟩)

/-- What is open for writing is found when a file is to be made. -/
theorem find_making_of_isWritable (hfind : fs.find false workDir path = .ok target)
    (h : fs.IsWritable storage target) : fs.find true workDir path = .ok target := by
  rw [find_eq (isFollowed_of_find hfind)]
  refine (leads_of_find hfind).goThrough_eq fun _ place hplace => ?_
  subst hplace
  obtain ⟨-, entry, hentry, hdir, -⟩ := h
  rw [hasDirectory, hentry]
  exact hdir

/-- A path is written to where it leads, if the system opens that for writing. -/
theorem writeBytes_of_isWritable (hfind : fs.find false workDir path = .ok target)
    (h : fs.IsWritable storage target) :
    fs.writeBytes storage workDir path content =
      (fs.withContent storage (storage.take content).1 target, (storage.take content).2) := by
  unfold writeBytes
  rw [find_making_of_isWritable hfind h]
  dsimp only
  rw [(writeRefusal?_eq_none_iff (isEnd_of_find hfind)).2 h]

/-- Otherwise nothing changes. -/
theorem writeBytes_of_not_isWritable
    (h : ∀ target, fs.find false workDir path = .ok target → ¬fs.IsWritable storage target) :
    ∃ error, fs.writeBytes storage workDir path content = (fs, some error) := by
  unfold writeBytes
  cases hmaking : fs.find true workDir path with
  | error error => exact ⟨error, rfl⟩
  | ok target =>
    have hfind := find_of_making hmaking
    cases hrefusal : fs.writeRefusal? storage target with
    | some refusal => exact ⟨refusal, by dsimp only; rw [hrefusal]⟩
    | none =>
      exact absurd ((writeRefusal?_eq_none_iff (isEnd_of_find hfind)).1 hrefusal) (h target hfind)

theorem exists?_iff :
    fs.exists? workDir path = true ↔
      ∃ place, fs.find false workDir path = .ok (.present place) := by
  unfold exists? open?
  split
  case h_1 place hfind =>
    obtain ⟨entry, hentry, -⟩ := isEnd_of_find hfind
    simp [hfind, hentry]
  case h_2 hnot =>
    refine iff_of_false (by simp) ?_
    rintro ⟨place, hfind⟩
    exact hnot place hfind

/-- The text of a file that can be read is read wherever a path leads to it. -/
theorem readText_of_find {text : String} (hfind : fs.find false workDir path = .ok (.present place))
    (hfile : fs.get? place = some (.file text.toUTF8 rights)) (hread : rights.read = none) :
    fs.readText workDir path = .ok text := by
  have htext : String.fromUTF8? text.toUTF8 = some text := dif_pos text.isValidUTF8
  have hrights : (fs.rightsAt place).read = none := by rw [rightsAt_of_get? hfile]; exact hread
  unfold readText readBytes
  simp only [hfind, hrights, hfile, htext]

end Writing

end FileSystem

end Migration
