import Mathlib.Data.List.Infix
import Migration.FileSystem.Access
import Migration.Proofs.FileSystem.Path

/-!
# Ways through the tree

A path is followed by a function that goes along its parts and calls itself for every link on the
way. Here the same is told as a relation, with one rule for every kind of step: the parts *lead*
from a place to a target, through at most so many links (`FileSystem.Leads`). But for a slash at the
end, every step starts in a directory that can be searched (`FileSystem.IsOpen`).

What is found is what the parts of a path lead to (`find_eq_ok_iff`); if a file is to be made, it is
found as well, unless it is a directory (`Leads.goThrough_eq`). The rules say where a way can end
(`Leads.isEnd`): links are never the end of it, and a place that has no entry yet could have one.

A directory can be reached by its names from any directory above it, if those between them can be
searched (`Leads.behind_names`). So the path that spells its names from the root (`Location.path`)
is followed to it, if it is not too long (`Location.find_path`).
-/

namespace Migration

theorem isName_eq_true_iff {name : Name} :
    isName name = true ↔ name ≠ [] ∧ name ≠ [dot] ∧ name ≠ [dot, dot] ∧ slash ∉ name ∧
      0 ∉ name ∧ name.length ≤ maxNameSize := by
  simp [isName, and_assoc]

theorem ne_nil_of_isName {name : Name} (h : isName name = true) : name ≠ [] :=
  (isName_eq_true_iff.1 h).1

theorem slash_not_mem_of_isName {name : Name} (h : isName name = true) : slash ∉ name :=
  (isName_eq_true_iff.1 h).2.2.2.1

theorem zero_not_mem_of_isName {name : Name} (h : isName name = true) : 0 ∉ name :=
  (isName_eq_true_iff.1 h).2.2.2.2.1

/-- A path that is followed: it is not empty, has no zero character and is not too long. -/
structure Path.IsFollowed (path : Path) : Prop where
  zero_not_mem : 0 ∉ path.bytes
  bytes_ne : path.bytes ≠ []
  size_lt : path.bytes.length < FileSystem.maxPathSize

theorem Entry.isDirectory_iff {entry : Entry} :
    entry.isDirectory = true ↔ ∃ rights, entry = .directory rights := by
  cases entry <;> simp [isDirectory]

namespace FileSystem

/-! ## The tree -/

section Tree

variable {fs : FileSystem} {place : Location} {entry : Entry}

theorem mem_entries_of_get? (h : fs.get? place = some entry) (hne : place ≠ []) :
    (place, entry) ∈ fs.entries := by
  rw [get?, entryAt, if_neg hne] at h
  obtain ⟨before, behind, hentries, -⟩ := List.lookup_eq_some_iff.1 h
  rw [hentries]
  exact List.mem_append_right _ List.mem_cons_self

theorem isName_of_get? (h : fs.get? place = some entry) : ∀ name ∈ place, isName name := by
  by_cases hne : place = []
  · rw [hne]
    nofun
  · exact fs.named _ (mem_entries_of_get? h hne)

theorem isName_of_get?_concat {name : Name} (h : fs.get? (place ++ [name]) = some entry) :
    isName name = true :=
  isName_of_get? h name (List.mem_append_right _ (List.mem_singleton_self name))

theorem hasDirectory_iff :
    fs.hasDirectory place = true ↔ ∃ rights, fs.get? place = some (.directory rights) := by
  rw [hasDirectory, Option.any_eq_true]
  simp only [Entry.isDirectory_iff]
  constructor
  · rintro ⟨entry, hentry, rights, rfl⟩
    exact ⟨rights, hentry⟩
  · rintro ⟨rights, hentry⟩
    exact ⟨_, hentry, rights, rfl⟩

theorem isName_of_hasDirectory (h : fs.hasDirectory place = true) :
    ∀ name ∈ place, isName name := by
  obtain ⟨rights, hentry⟩ := hasDirectory_iff.1 h
  exact isName_of_get? hentry

theorem hasDirectory_nil : fs.hasDirectory [] = true := rfl

theorem rightsAt_of_get? (h : fs.get? place = some entry) : fs.rightsAt place = entry.rights := by
  rw [rightsAt, h]
  rfl

/-- What an entry lies in is a directory. -/
theorem hasDirectory_dropLast (h : fs.get? place = some entry) :
    fs.hasDirectory place.dropLast = true := by
  by_cases hne : place = []
  · rw [hne]
    exact hasDirectory_nil
  · exact (fs.rooted _ (mem_entries_of_get? h hne)).2

theorem hasDirectory_of_append {base : Location} {names : List Name}
    (h : fs.hasDirectory (base ++ names) = true) : fs.hasDirectory base = true := by
  induction names using List.reverseRecOn with
  | nil => rwa [List.append_nil] at h
  | append_singleton names name ih =>
    obtain ⟨rights, hentry⟩ := hasDirectory_iff.1 h
    have hbefore := hasDirectory_dropLast hentry
    rw [← List.append_assoc, List.dropLast_concat] at hbefore
    exact ih hbefore

/-- Names can be looked up in the directory at a place. -/
structure IsOpen (fs : FileSystem) (place : Location) : Prop where
  hasDirectory : fs.hasDirectory place = true
  search : (fs.rightsAt place).search = none

/-- The directories on the way by names from `base` can be searched. What the names lead to is not
    among them. -/
def IsSearched (fs : FileSystem) (base : Location) (names : List Name) : Prop :=
  ∀ depth < names.length, (fs.rightsAt (base ++ names.take depth)).search = none

instance (fs : FileSystem) (base : Location) (names : List Name) :
    Decidable (fs.IsSearched base names) :=
  inferInstanceAs
    (Decidable (∀ depth < names.length, (fs.rightsAt (base ++ names.take depth)).search = none))

theorem isSearched_concat {base : Location} {names : List Name} {name : Name} :
    fs.IsSearched base (names ++ [name]) ↔
      fs.IsSearched base names ∧ (fs.rightsAt (base ++ names)).search = none := by
  unfold IsSearched
  rw [List.length_append, List.length_singleton, Nat.forall_lt_succ_right, List.take_left]
  refine and_congr_left fun _ => forall₂_congr fun depth hdepth => ?_
  rw [List.take_append_of_le_length (Nat.le_of_lt hdepth)]

theorem isSearched_cons {base : Location} {names : List Name} {name : Name} :
    fs.IsSearched base (name :: names) ↔
      (fs.rightsAt base).search = none ∧ fs.IsSearched (base ++ [name]) names := by
  unfold IsSearched
  rw [List.length_cons, Nat.forall_lt_succ_left, List.take_zero, List.append_nil]
  refine and_congr_right fun _ => forall₂_congr fun depth _ => ?_
  rw [List.take_succ_cons, List.append_assoc, List.singleton_append]

end Tree

/-! ## Ways -/

/-- The parts lead from a place to a target, through at most so many links. -/
inductive Leads (fs : FileSystem) : Nat → Location → List Name → Target → Prop
  | arrived {links : Nat} {here : Location} : Leads fs links here [] (.present here)
  | ended {links : Nat} {here : Location} {rest : List Name} {target : Target}
      (hdir : fs.hasDirectory here = true) (hrest : Leads fs links here rest target) :
      Leads fs links here ([] :: rest) target
  | stay {links : Nat} {here : Location} {rest : List Name} {target : Target}
      (hopen : fs.IsOpen here) (hrest : Leads fs links here rest target) :
      Leads fs links here ([dot] :: rest) target
  | up {links : Nat} {here : Location} {rest : List Name} {target : Target}
      (hopen : fs.IsOpen here) (hrest : Leads fs links here.dropLast rest target) :
      Leads fs links here ([dot, dot] :: rest) target
  | vacant {links : Nat} {here : Location} {name : Name}
      (hopen : fs.IsOpen here) (hname : isName name = true)
      (hnone : fs.get? (here ++ [name]) = none) :
      Leads fs links here [name] (.vacant (here ++ [name]))
  | follow {links : Nat} {here : Location} {name : Name} {path : Path} {rest : List Name}
      {target : Target} (hopen : fs.IsOpen here) (hname : isName name = true)
      (hlink : fs.get? (here ++ [name]) = some (.link path))
      (hrest : Leads fs links (if path.isAbsolute then [] else here) (path.wayParts ++ rest)
        target) : Leads fs (links + 1) here (name :: rest) target
  | enter {links : Nat} {here : Location} {name : Name} {entry : Entry} {rest : List Name}
      {target : Target} (hopen : fs.IsOpen here) (hname : isName name = true)
      (hentry : fs.get? (here ++ [name]) = some entry) (hkind : ∀ path, entry ≠ .link path)
      (hrest : Leads fs links (here ++ [name]) rest target) :
      Leads fs links here (name :: rest) target

/-! ## One part of a path -/

theorem slash_not_mem_wayParts (path : Path) : ∀ part ∈ path.wayParts, slash ∉ part := by
  have hnamed : ∀ part ∈ path.namedParts, slash ∉ part := fun part hpart =>
    Text.not_mem_of_splitOn slash _ _ (List.mem_filter.1 hpart).1
  unfold Path.wayParts
  split
  · exact List.forall_mem_append.2 ⟨hnamed, List.forall_mem_singleton.2 List.not_mem_nil⟩
  · exact hnamed

/-- A path that does not start at the root has a part to follow. -/
theorem wayParts_ne_nil {path : Path} (hbytes : path.bytes ≠ [])
    (hrelative : ¬path.isAbsolute = true) : path.wayParts ≠ [] := by
  -- If the first part were empty, then the path would be, or there would be a slash at its front.
  have hfirst : ∃ part ∈ path.bytes.splitOn slash, part ≠ [] := by
    obtain ⟨first, rest, hsplit⟩ :=
      List.exists_cons_of_ne_nil (List.splitOn_ne_nil slash path.bytes)
    have hjoined : [slash].intercalate (path.bytes.splitOn slash) = path.bytes :=
      List.intercalate_splitOn slash
    rw [hsplit, Path.intercalate_cons_eq] at hjoined
    refine ⟨first, hsplit ▸ List.mem_cons_self, ?_⟩
    rintro rfl
    cases rest with
    | nil => exact hbytes hjoined.symm
    | cons next rest =>
      refine hrelative ?_
      rw [Path.isAbsolute, ← hjoined]
      rfl
  obtain ⟨part, hpart, hne⟩ := hfirst
  have hnamed : part ∈ path.namedParts := List.mem_filter.2 ⟨hpart, by simpa using hne⟩
  unfold Path.wayParts
  split
  · exact List.append_ne_nil_of_right_ne_nil _ (List.cons_ne_nil _ _)
  · exact List.ne_nil_of_mem hnamed

section Leads

variable {fs : FileSystem} {making : Bool} {links : Nat} {here : Location} {parts : List Name}
  {target : Target}

section Step

variable {next : Location → List Name → Except OpenError Target} {part name : Name}
  {rest : List Name}

/-- What a part of a path is, if the way goes on from it. -/
theorem of_goAlong (hslash : slash ∉ part)
    (h : fs.goAlong making next here (part :: rest) = .ok target) :
    fs.hasDirectory here = true ∧ (part = [] ∨ fs.IsOpen here ∧
      (part = [dot] ∨ part = [dot, dot] ∨
        isName part = true ∧ (making && rest = [[]]) = false)) := by
  rw [goAlong] at h
  by_cases hdir : fs.hasDirectory here = true
  case neg =>
    rw [if_pos (by simpa using hdir)] at h
    cases h
  rw [hdir, if_neg (by simp)] at h
  refine ⟨hdir, or_iff_not_imp_left.2 fun hempty => ?_⟩
  rw [if_neg hempty] at h
  split at h
  case h_1 => cases h
  case h_2 hsearch =>
    refine ⟨⟨hdir, hsearch⟩, ?_⟩
    split_ifs at h with hdot hdots hmaking hlong hzero <;> simp_all [isName_eq_true_iff]

theorem goAlong_ended (hdir : fs.hasDirectory here = true) :
    fs.goAlong making next here ([] :: rest) = fs.goAlong making next here rest := by
  rw [goAlong, hdir]
  simp

theorem goAlong_stay (hopen : fs.IsOpen here) :
    fs.goAlong making next here ([dot] :: rest) = fs.goAlong making next here rest := by
  rw [goAlong, hopen.hasDirectory, hopen.search]
  simp

theorem goAlong_up (hopen : fs.IsOpen here) :
    fs.goAlong making next here ([dot, dot] :: rest) =
      fs.goAlong making next here.dropLast rest := by
  rw [goAlong, hopen.hasDirectory, hopen.search]
  simp

theorem goAlong_name (hopen : fs.IsOpen here) (hname : isName name = true)
    (hmaking : (making && rest = [[]]) = false) :
    fs.goAlong making next here (name :: rest) =
      match fs.get? (here ++ [name]) with
      | none => if rest.isEmpty then .ok (.vacant (here ++ [name])) else .error .notFound
      | some (.link path) => next (if path.isAbsolute then [] else here) (path.wayParts ++ rest)
      | some _ => fs.goAlong making next (here ++ [name]) rest := by
  obtain ⟨hempty, hdot, hdots, -, hzero, hsize⟩ := isName_eq_true_iff.1 hname
  rcases hentry : fs.get? (here ++ [name]) with - | (rights | ⟨content, rights⟩ | path |
      ⟨output, rights⟩) <;>
    rw [goAlong, hopen.hasDirectory, hopen.search, if_neg (by simp), if_neg hempty] <;>
    dsimp only <;>
    rw [if_neg hdot, if_neg hdots, hmaking, if_neg Bool.false_ne_true, if_neg (not_lt.2 hsize),
      if_neg (by simpa using hzero), hentry]

end Step

/-! ## What is found is a way -/

/-- The parts that a path is followed along lead to what is found, if they do so behind links. -/
theorem leads_of_goAlong {next : Location → List Name → Except OpenError Target}
    (hnext : ∀ {here parts target}, (∀ part ∈ parts, slash ∉ part) →
      next here parts = .ok target → ∃ fewer, links = fewer + 1 ∧ fs.Leads fewer here parts target)
    (hparts : ∀ part ∈ parts, slash ∉ part)
    (h : fs.goAlong making next here parts = .ok target) : fs.Leads links here parts target := by
  induction parts generalizing here with
  | nil =>
    obtain rfl := Except.ok.inj h
    exact .arrived
  | cons part rest ih =>
    obtain ⟨hslash, hrest⟩ := List.forall_mem_cons.1 hparts
    obtain ⟨hdir, rfl | ⟨hopen, rfl | rfl | ⟨hname, hmaking⟩⟩⟩ := of_goAlong hslash h
    · rw [goAlong_ended hdir] at h
      exact .ended hdir (ih hrest h)
    · rw [goAlong_stay hopen] at h
      exact .stay hopen (ih hrest h)
    · rw [goAlong_up hopen] at h
      exact .up hopen (ih hrest h)
    rw [goAlong_name hopen hname hmaking] at h
    split at h
    case h_1 hnone =>
      split_ifs at h with hempty
      obtain rfl := List.isEmpty_iff.1 hempty
      obtain rfl := Except.ok.inj h
      exact .vacant hopen hname hnone
    case h_2 path hlink =>
      obtain ⟨fewer, rfl, hleads⟩ := hnext
        (List.forall_mem_append.2 ⟨slash_not_mem_wayParts path, hrest⟩) h
      exact .follow hopen hname hlink hleads
    case h_3 entry hkind hentry => exact .enter hopen hname hentry hkind (ih hrest h)

theorem leads_of_goThrough (hparts : ∀ part ∈ parts, slash ∉ part)
    (h : fs.goThrough making links here parts = .ok target) : fs.Leads links here parts target := by
  induction links generalizing here parts target with
  | zero =>
    refine leads_of_goAlong (fun _ hnone => ?_) hparts h
    cases hnone
  | succ links ih => exact leads_of_goAlong (fun hother hon => ⟨links, rfl, ih hother hon⟩) hparts h

/-! ## Where a way ends -/

/-- There is an entry at the place, and it is no link. -/
def IsSolid (fs : FileSystem) (place : Location) : Prop :=
  ∃ entry, fs.get? place = some entry ∧ ∀ path, entry ≠ .link path

theorem isSolid_of_hasDirectory {place : Location} (h : fs.hasDirectory place = true) :
    fs.IsSolid place := by
  obtain ⟨rights, hentry⟩ := hasDirectory_iff.1 h
  exact ⟨_, hentry, nofun⟩

/-- A target that a way can end at: an entry that is no link, or a name that is still free in a
    directory. -/
def IsEnd (fs : FileSystem) : Target → Prop
  | .present place => fs.IsSolid place
  | .vacant place => fs.get? place = none ∧ fs.hasDirectory place.dropLast = true ∧
      ∀ name ∈ place, isName name

theorem Leads.isEnd (h : fs.Leads links here parts target) (hhere : fs.IsSolid here) :
    fs.IsEnd target := by
  induction h with
  | arrived => exact hhere
  | ended _ _ ih => exact ih hhere
  | stay _ _ ih => exact ih hhere
  | up hopen _ ih =>
    obtain ⟨rights, hentry⟩ := hasDirectory_iff.1 hopen.hasDirectory
    exact ih (isSolid_of_hasDirectory (hasDirectory_dropLast hentry))
  | vacant hopen hname hnone =>
    refine ⟨hnone, by rw [List.dropLast_concat]; exact hopen.hasDirectory, ?_⟩
    exact List.forall_mem_append.2
      ⟨isName_of_hasDirectory hopen.hasDirectory, List.forall_mem_singleton.2 hname⟩
  | follow hopen _ _ _ ih =>
    refine ih (isSolid_of_hasDirectory ?_)
    split
    · exact hasDirectory_nil
    · exact hopen.hasDirectory
  | enter _ _ hentry hkind _ ih => exact ih ⟨_, hentry, hkind⟩

theorem Leads.hasDirectory {part : Name} (h : fs.Leads links here (part :: parts) target) :
    fs.hasDirectory here = true := by
  cases h with
  | ended hdir _ => exact hdir
  | stay hopen _ | up hopen _ | vacant hopen _ _ | follow hopen _ _ _ | enter hopen _ _ _ _ =>
    exact hopen.hasDirectory

/-- What a way leads to from a directory, it also leads to from one further up, by the names between
    the two. -/
theorem Leads.behind_names {base : Location} {names : List Name}
    (hdir : fs.hasDirectory (base ++ names) = true) (hsearch : fs.IsSearched base names)
    (h : fs.Leads links (base ++ names) parts target) :
    fs.Leads links base (names ++ parts) target := by
  induction names using List.reverseRecOn generalizing parts with
  | nil => rwa [List.append_nil] at h
  | append_singleton before name ih =>
    obtain ⟨hsearch, hlast⟩ := isSearched_concat.1 hsearch
    rw [← List.append_assoc] at hdir h
    obtain ⟨rights, hentry⟩ := hasDirectory_iff.1 hdir
    have hbefore := hasDirectory_dropLast hentry
    rw [List.dropLast_concat] at hbefore
    have hname := isName_of_get?_concat hentry
    rw [List.append_assoc]
    exact ih hbefore hsearch (.enter ⟨hbefore, hlast⟩ hname hentry nofun h)

theorem getLast?_of_cons {name : Name} {rest : List Name} (hname : name ≠ [])
    (h : (name :: rest).getLast? = some []) : rest.getLast? = some [] := by
  cases rest with
  | nil => exact absurd (Option.some.inj h) hname
  | cons next rest => exact h

/-- A way with a slash at its end leads to a directory. -/
theorem Leads.of_slash (h : fs.Leads links here parts target) (hslash : parts.getLast? = some []) :
    ∃ place, target = .present place ∧ fs.hasDirectory place = true := by
  induction h with
  | arrived => cases hslash
  | @ended _ here rest _ hdir hrest ih =>
    cases rest with
    | nil =>
      cases hrest
      exact ⟨here, rfl, hdir⟩
    | cons next rest => exact ih hslash
  | stay _ _ ih => exact ih (getLast?_of_cons (by decide) hslash)
  | up _ _ ih => exact ih (getLast?_of_cons (by decide) hslash)
  | vacant _ hname _ => exact absurd (Option.some.inj hslash) (ne_nil_of_isName hname)
  | follow _ hname _ _ ih =>
    have hrest := getLast?_of_cons (ne_nil_of_isName hname) hslash
    exact ih (by rw [List.getLast?_append, hrest, Option.some_or])
  | enter _ hname _ _ _ ih => exact ih (getLast?_of_cons (ne_nil_of_isName hname) hslash)

/-! ## Ways are found -/

/-- What `goThrough` does at a link. -/
def onward (fs : FileSystem) (making : Bool) :
    Nat → Location → List Name → Except OpenError Target
  | 0 => fun _ _ => .error .tooManyLinks
  | links + 1 => fs.goThrough making links

theorem goThrough_eq_goAlong :
    fs.goThrough making links = fs.goAlong making (fs.onward making links) := by
  cases links <;> rfl

theorem Leads.passes_check {name : Name} {rest : List Name}
    (h : fs.Leads links here (name :: rest) target)
    (hmaking : making = true → ∀ place, target = .present place → fs.hasDirectory place = false) :
    (making && rest = [[]]) = false := by
  rw [Bool.and_eq_false_iff, decide_eq_false_iff_not, ← Bool.not_eq_true, ← not_and_or]
  rintro ⟨htrue, rfl⟩
  obtain ⟨place, hplace, hdir⟩ := h.of_slash rfl
  rw [hmaking htrue place hplace] at hdir
  cases hdir

/-- A way that leads to a target is found; if a file is to be made, then only if it does not lead to
    a directory. -/
theorem Leads.goThrough_eq (h : fs.Leads links here parts target)
    (hmaking : making = true → ∀ place, target = .present place → fs.hasDirectory place = false) :
    fs.goThrough making links here parts = .ok target := by
  induction h with
  | arrived =>
    rw [goThrough_eq_goAlong]
    rfl
  | ended hdir _ ih =>
    rw [goThrough_eq_goAlong, goAlong_ended hdir, ← goThrough_eq_goAlong, ih hmaking]
  | stay hopen _ ih =>
    rw [goThrough_eq_goAlong, goAlong_stay hopen, ← goThrough_eq_goAlong, ih hmaking]
  | up hopen _ ih => rw [goThrough_eq_goAlong, goAlong_up hopen, ← goThrough_eq_goAlong, ih hmaking]
  | @vacant links _ _ hopen hname hnone =>
    have hcheck := (.vacant hopen hname hnone : fs.Leads links _ _ _).passes_check hmaking
    rw [goThrough_eq_goAlong, goAlong_name hopen hname hcheck, hnone]
    rfl
  | follow hopen hname hlink hrest ih =>
    have hcheck := (Leads.follow hopen hname hlink hrest).passes_check hmaking
    rw [goThrough_eq_goAlong, goAlong_name hopen hname hcheck, hlink]
    exact ih hmaking
  | @enter _ _ _ entry _ _ hopen hname hentry hkind hrest ih =>
    have hcheck := (Leads.enter hopen hname hentry hkind hrest).passes_check hmaking
    rw [goThrough_eq_goAlong, goAlong_name hopen hname hcheck, hentry]
    cases entry with
    | link path => exact absurd rfl (hkind path)
    | directory | file | special => rw [← goThrough_eq_goAlong, ih hmaking]

theorem Leads.unique {other : Target} (h : fs.Leads links here parts target)
    (hother : fs.Leads links here parts other) : other = target := by
  have hfound : fs.goThrough false links here parts = .ok target := h.goThrough_eq nofun
  have hfound' : fs.goThrough false links here parts = .ok other := hother.goThrough_eq nofun
  rw [hfound'] at hfound
  exact Except.ok.inj hfound

end Leads

/-! ## Finding a path -/

section Find

variable {fs : FileSystem} {making : Bool} {workDir : Location} {path : Path} {target : Target}

theorem find_eq (h : path.IsFollowed) :
    fs.find making workDir path = fs.goThrough making maxLinks
      (if path.isAbsolute then [] else workDir) path.wayParts := by
  rw [find, if_neg (by simpa using h.zero_not_mem), if_neg (by simpa using h.bytes_ne),
    if_neg (not_le.2 h.size_lt)]

theorem isFollowed_of_find (h : fs.find making workDir path = .ok target) : path.IsFollowed := by
  unfold find at h
  split at h
  · cases h
  rename_i hzero
  split at h
  · cases h
  rename_i hempty
  split at h
  · cases h
  rename_i hsize
  exact ⟨by simpa using hzero, by simpa using hempty, not_le.1 hsize⟩

theorem leads_of_find (h : fs.find making workDir path = .ok target) :
    fs.Leads maxLinks (if path.isAbsolute then [] else workDir) path.wayParts target := by
  rw [find_eq (isFollowed_of_find h)] at h
  exact leads_of_goThrough (slash_not_mem_wayParts path) h

/-- What is found is what the parts of the path lead to. -/
theorem find_eq_ok_iff : fs.find false workDir path = .ok target ↔ path.IsFollowed ∧
    fs.Leads maxLinks (if path.isAbsolute then [] else workDir) path.wayParts target := by
  refine ⟨fun h => ⟨isFollowed_of_find h, leads_of_find h⟩, fun ⟨hpath, hleads⟩ => ?_⟩
  rw [find_eq hpath]
  exact hleads.goThrough_eq nofun

theorem isEnd_of_find (h : fs.find making workDir path = .ok target) : fs.IsEnd target := by
  have hleads := leads_of_find h
  refine hleads.isEnd (isSolid_of_hasDirectory ?_)
  split_ifs at hleads ⊢ with habsolute
  · exact hasDirectory_nil
  · obtain ⟨part, rest, hparts⟩ := List.exists_cons_of_ne_nil
      (wayParts_ne_nil (isFollowed_of_find h).bytes_ne habsolute)
    rw [hparts] at hleads
    exact hleads.hasDirectory

theorem find_of_making (h : fs.find making workDir path = .ok target) :
    fs.find false workDir path = .ok target :=
  find_eq_ok_iff.2 ⟨isFollowed_of_find h, leads_of_find h⟩

end Find

end FileSystem

namespace Location

/-! ## The path of a place -/

variable {place : Location} {name : Name}

theorem bytes_path (hne : place ≠ []) :
    (path place).bytes = [slash].intercalate ([] :: place) := by
  obtain ⟨first, rest, rfl⟩ := List.exists_cons_of_ne_nil hne
  rw [path, Path.intercalate_cons_eq, Path.intercalate_cons_eq]
  rfl

theorem bytes_path_append (hne : place ≠ []) :
    (path (place ++ [name])).bytes = (path place).bytes ++ slash :: name := by
  have happend : place ++ [name] ≠ [] := List.append_ne_nil_of_left_ne_nil hne _
  rw [bytes_path hne, bytes_path happend, Path.intercalate_cons_eq, Path.intercalate_cons_eq,
    List.flatMap_append, List.flatMap_singleton, List.append_assoc]

theorem length_path_append (hne : place ≠ []) :
    (path (place ++ [name])).bytes.length = (path place).bytes.length + name.length + 1 := by
  rw [bytes_path_append hne, List.length_append, List.length_cons, Nat.add_assoc]

theorem getLast?_path (hplace : ∀ name ∈ place, isName name) (hne : place ≠ []) :
    (path place).bytes.getLast? ≠ some slash := by
  obtain ⟨before, last, rfl⟩ := (List.eq_nil_or_concat' place).resolve_left hne
  obtain ⟨hempty, -, -, hslash, -⟩ :=
    isName_eq_true_iff.1 (hplace last (List.mem_append_right _ (List.mem_singleton_self last)))
  have hbytes : (path (before ++ [last])).bytes =
      before.flatMap (slash :: ·) ++ [slash] ++ last := by
    rw [bytes_path hne, Path.intercalate_cons_eq]
    simp
  rw [hbytes, List.getLast?_append_of_ne_nil _ hempty]
  exact fun hlast => hslash (List.mem_of_getLast? hlast)

/-- Joining a name to the path of a place gives the path of what has this name there. -/
theorem join_path (hplace : ∀ name ∈ place, isName name) (hname : isName name = true) :
    (path place).join ⟨name⟩ = path (place ++ [name]) := by
  have hrelative := Path.isAbsolute_eq_false (slash_not_mem_of_isName hname)
  have hbytes : (path place).bytes.isEmpty = false := rfl
  rw [Path.join, hrelative, hbytes, if_neg (by simp)]
  by_cases hne : place = []
  · have hroot : (path []).bytes.getLast? = some slash := by decide
    rw [hne, if_pos hroot]
    simp [path]
  · rw [if_neg (getLast?_path hplace hne), ← bytes_path_append hne]

theorem splitOn_path (hplace : ∀ name ∈ place, isName name) (hne : place ≠ []) :
    (path place).bytes.splitOn slash = [] :: place := by
  rw [bytes_path hne, List.splitOn_intercalate slash _ (List.cons_ne_nil _ _)]
  refine List.forall_mem_cons.2 ⟨List.not_mem_nil, fun name hname => ?_⟩
  exact slash_not_mem_of_isName (hplace name hname)

theorem wayParts_path (hplace : ∀ name ∈ place, isName name) : (path place).wayParts = place := by
  by_cases hne : place = []
  · rw [hne]
    decide
  have hnamed : (path place).namedParts = place := by
    rw [Path.namedParts, splitOn_path hplace hne, List.filter_cons_of_neg (by simp),
      List.filter_eq_self]
    intro name hname
    simpa using ne_nil_of_isName (hplace name hname)
  rw [Path.wayParts, hnamed, if_neg]
  simp [getLast?_path hplace hne]

theorem trimVoid_eq_self (hplace : ∀ name ∈ place, isName name) : Path.trimVoid place = place := by
  rw [Path.trimVoid_eq_rdropWhile, List.rdropWhile_eq_self_iff]
  intro hne hvoid
  obtain ⟨hempty, hdot, -⟩ := isName_eq_true_iff.1 (hplace _ (List.getLast_mem hne))
  rcases Path.isVoid_iff.1 hvoid with hvoid | hvoid
  · exact hempty hvoid
  · exact hdot hvoid

/-- What a place lies in has the parent of its path. -/
theorem parent?_path (hplace : ∀ other ∈ place ++ [name], isName other) :
    (path (place ++ [name])).parent? = some (path place) := by
  have hne : place ++ [name] ≠ [] := List.append_ne_nil_of_right_ne_nil _ (List.cons_ne_nil _ _)
  have hsplit : (path (place ++ [name])).split = (.root, place ++ [name]) := by
    rw [Path.split_eq (splitOn_path hplace hne), if_pos ⟨rfl, hne⟩]
  rw [Path.parent?_eq, hsplit]
  dsimp only
  have hinit : ∀ other ∈ place, isName other := fun other hother =>
    hplace other (List.mem_append_left _ hother)
  rw [trimVoid_eq_self hplace, if_neg hne, List.dropLast_concat, trimVoid_eq_self hinit]
  rfl

theorem isAbsolute_path (place : Location) : (path place).isAbsolute = true := rfl

theorem isFollowed_path (hplace : ∀ name ∈ place, isName name)
    (hsize : (path place).bytes.length < FileSystem.maxPathSize) : (path place).IsFollowed := by
  refine ⟨fun hzero => ?_, List.cons_ne_nil _ _, hsize⟩
  by_cases hne : place = []
  · rw [hne] at hzero
    exact absurd hzero (by decide)
  · rw [bytes_path hne, Path.intercalate_cons_eq, List.nil_append, List.mem_flatMap] at hzero
    obtain ⟨name, hname, hzero⟩ := hzero
    refine zero_not_mem_of_isName (hplace name hname) ?_
    exact (List.mem_cons.1 hzero).resolve_left (by decide)

/-- The path of a place is followed through what it lies in. -/
theorem find_path {fs : FileSystem} {workDir : Location} {target : Target}
    (hsize : (path (place ++ [name])).bytes.length < FileSystem.maxPathSize)
    (hname : isName name = true) (hsearch : fs.IsSearched [] place)
    (h : fs.Leads FileSystem.maxLinks place [name] target) :
    fs.find false workDir (path (place ++ [name])) = .ok target := by
  have hdir := h.hasDirectory
  have hplace : ∀ other ∈ place ++ [name], isName other :=
    List.forall_mem_append.2
      ⟨FileSystem.isName_of_hasDirectory hdir, List.forall_mem_singleton.2 hname⟩
  rw [FileSystem.find_eq_ok_iff, isAbsolute_path, if_pos rfl, wayParts_path hplace]
  exact ⟨isFollowed_path hplace hsize, FileSystem.Leads.behind_names hdir hsearch h⟩

end Location

end Migration
