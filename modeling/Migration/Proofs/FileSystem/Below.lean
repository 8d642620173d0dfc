import Mathlib.Data.List.Nodup
import Migration.Proofs.Discovery.Names

/-!
# What lies below a directory

A walk starts in a directory and goes into the directories that it finds there, but not through
links (`FileSystem.Below`). The names of everything that it comes to are read off the list of all
entries (`SourceFile.namesBelow`); that is the same, and nothing is listed twice
(`mem_namesBelow_iff`, `nodup_namesBelow`).

What the walk comes to is then opened by its path, the path of the directory with the names behind
it. Ways can be put together (`Leads.append`), so such a path is followed to where the walk has
been, whatever links lead to the directory (`Reaches.below`), if the directories on the way can be
searched and the path is not too long. And ways can be cut (`Leads.of_append`), so if the path is
followed at all, then these directories can be searched (`Reaches.isSearched`). Only if the walk has
come to a link does the path lead elsewhere. So it opens a file if the walk has come to one, or if
the walk has come to a link that leads to one (`isFile_pathBelow_iff`).

A directory is listed by its path as well, so what is said of files holds of the directories that
lead to them (`isEntered_iff`).

Slashes behind the name of a directory change nothing but the length of the path
(`reaches_withSlashes`).
-/

namespace Migration.FileSystem

open SourceFile (relativePath namesBelow pathBelow isEntered)

/-! ## Walks -/

/-- What a walk through the directories below a place comes to, with the names on the way. Links are
    not entered. -/
inductive Below (fs : FileSystem) (base : Location) : List Name → Entry → Prop
  | child {name : Name} {entry : Entry} (hentry : fs.get? (base ++ [name]) = some entry) :
      Below fs base [name] entry
  | inner {names : List Name} {name : Name} {rights : Rights} {entry : Entry}
      (hdir : Below fs base names (.directory rights))
      (hentry : fs.get? (base ++ (names ++ [name])) = some entry) :
      Below fs base (names ++ [name]) entry

section Below

variable {fs : FileSystem} {base : Location} {names : List Name} {entry : Entry}

/-- Everything below a place is come to. -/
theorem below_iff :
    fs.Below base names entry ↔ names ≠ [] ∧ fs.get? (base ++ names) = some entry := by
  constructor
  · rintro (hentry | ⟨-, hentry⟩)
    · exact ⟨by simp, hentry⟩
    · exact ⟨by simp, hentry⟩
  · rintro ⟨hne, hentry⟩
    -- By induction on the names from the back: what an entry lies in is a directory.
    induction names using List.reverseRecOn generalizing entry with
    | nil => exact absurd rfl hne
    | append_singleton names name ih =>
      by_cases hnames : names = []
      · subst hnames
        exact .child hentry
      · have hdir := hasDirectory_dropLast hentry
        rw [← List.append_assoc, List.dropLast_concat, hasDirectory_iff] at hdir
        obtain ⟨rights, hdir⟩ := hdir
        exact .inner (ih hnames hdir) hentry

/-- The names on the way to an entry lead to directories. -/
theorem Below.take (h : fs.Below base names entry) {depth : Nat} (hdepth : depth < names.length) :
    ∃ rights, fs.get? (base ++ names.take depth) = some (.directory rights) := by
  have hdir := hasDirectory_dropLast (below_iff.1 h).2
  have hrest : names.drop depth ≠ [] := by simpa using hdepth
  rw [← List.take_append_drop depth names, ← List.append_assoc,
    List.dropLast_append_of_ne_nil hrest] at hdir
  exact hasDirectory_iff.1 (hasDirectory_of_append hdir)

theorem Below.areNames (h : fs.Below base names entry) : AreNames names where
  ne_nil := (below_iff.1 h).1
  isName name hname := isName_of_get? (below_iff.1 h).2 name (List.mem_append_right base hname)

/-- The names that lead from one place to another, if it lies below. -/
theorem drop_eq_some_iff {place : Location} :
    (if base.isPrefixOf place && place != base then some (place.drop base.length) else none) =
        some names ↔ names ≠ [] ∧ place = base ++ names := by
  constructor
  · intro h
    split_ifs at h with hlies
    rw [Bool.and_eq_true, List.isPrefixOf_iff_prefix, bne_iff_ne] at hlies
    obtain ⟨⟨rest, rfl⟩, hne⟩ := hlies
    rw [List.drop_left, Option.some_inj] at h
    subst h
    exact ⟨by simpa using hne, rfl⟩
  · rintro ⟨hne, rfl⟩
    rw [if_pos, List.drop_left]
    simp [hne]

theorem mem_entries_iff {place : Location} (hne : place ≠ []) :
    place ∈ fs.entries.map Prod.fst ↔ ∃ entry, fs.get? place = some entry := by
  rw [← Option.isSome_iff_exists, get?, entryAt, if_neg hne, List.lookup_isSome_iff, List.mem_map]
  simp only [beq_iff_eq, eq_comm (a := place)]

theorem namesBelow_eq (fs : FileSystem) (base : Location) :
    namesBelow fs base = (fs.entries.map Prod.fst).filterMap fun place =>
      if base.isPrefixOf place && place != base then some (place.drop base.length) else none := by
  rw [List.filterMap_map]
  rfl

theorem mem_namesBelow_iff :
    names ∈ namesBelow fs base ↔ ∃ entry, fs.Below base names entry := by
  rw [namesBelow_eq, List.mem_filterMap]
  simp only [drop_eq_some_iff, below_iff]
  constructor
  · rintro ⟨place, hplace, hne, rfl⟩
    obtain ⟨entry, hentry⟩ := (mem_entries_iff (by simp [hne])).1 hplace
    exact ⟨entry, hne, hentry⟩
  · rintro ⟨entry, hne, hentry⟩
    exact ⟨base ++ names, (mem_entries_iff (by simp [hne])).2 ⟨entry, hentry⟩, hne, rfl⟩

theorem nodup_namesBelow (fs : FileSystem) (base : Location) : (namesBelow fs base).Nodup := by
  rw [namesBelow_eq]
  refine List.Nodup.filterMap (fun place other names hplace hother => ?_) fs.distinct
  rw [(drop_eq_some_iff.1 hplace).2, (drop_eq_some_iff.1 hother).2]

end Below

/-! ## Ways one behind the other -/

section Ways

variable {fs : FileSystem} {links more : Nat} {here mid : Location} {parts rest : List Name}
  {target : Target}

theorem Leads.mono (h : fs.Leads links here parts target) (hle : links ≤ more) :
    fs.Leads more here parts target := by
  induction h generalizing more with
  | arrived => exact .arrived
  | ended hdir _ ih => exact .ended hdir (ih hle)
  | stay hopen _ ih => exact .stay hopen (ih hle)
  | up hopen _ ih => exact .up hopen (ih hle)
  | vacant hopen hname hnone => exact .vacant hopen hname hnone
  | follow hopen hname hlink _ ih =>
    obtain ⟨fewer, rfl⟩ := Nat.exists_eq_add_one_of_ne_zero (Nat.ne_zero_of_lt hle)
    exact .follow hopen hname hlink (ih (Nat.le_of_succ_le_succ hle))
  | enter hopen hname hentry hkind _ ih => exact .enter hopen hname hentry hkind (ih hle)

/-- A way goes on from where another one ends, and the links of both are counted. -/
theorem Leads.append (h : fs.Leads links here parts (.present mid))
    (hrest : fs.Leads more mid rest target) :
    fs.Leads (links + more) here (parts ++ rest) target := by
  generalize hmid : Target.present mid = middle at h
  induction h with
  | arrived =>
    obtain rfl := Target.present.inj hmid
    exact hrest.mono (Nat.le_add_left _ _)
  | ended hdir _ ih => exact .ended hdir (ih hmid)
  | stay hopen _ ih => exact .stay hopen (ih hmid)
  | up hopen _ ih => exact .up hopen (ih hmid)
  | vacant => cases hmid
  | follow hopen hname hlink _ ih =>
    have hway := ih hmid
    rw [List.append_assoc] at hway
    rw [Nat.add_right_comm]
    exact .follow hopen hname hlink hway
  | enter hopen hname hentry hkind _ ih => exact .enter hopen hname hentry hkind (ih hmid)

/-- What the rules say of a way whose first part is a name. -/
theorem Leads.of_name {name : Name} (hname : isName name = true)
    (h : fs.Leads links here (name :: rest) target) :
    fs.IsOpen here ∧ (rest = [] ∧ fs.get? (here ++ [name]) = none ∨
      (∃ fewer path, links = fewer + 1 ∧ fs.get? (here ++ [name]) = some (.link path) ∧
        fs.Leads fewer (if path.isAbsolute then [] else here) (path.wayParts ++ rest) target) ∨
      ∃ entry, fs.get? (here ++ [name]) = some entry ∧ (∀ path, entry ≠ .link path) ∧
        fs.Leads links (here ++ [name]) rest target) := by
  cases h with
  | ended | stay | up => exact absurd hname (by decide)
  | vacant hopen _ hnone => exact ⟨hopen, .inl ⟨rfl, hnone⟩⟩
  | follow hopen _ hlink hrest => exact ⟨hopen, .inr (.inl ⟨_, _, rfl, hlink, hrest⟩)⟩
  | enter hopen _ hentry hkind hrest => exact ⟨hopen, .inr (.inr ⟨_, hentry, hkind, hrest⟩)⟩

theorem Leads.of_empty (h : fs.Leads links here ([] :: rest) target) :
    fs.Leads links here rest target := by
  cases h with
  | ended _ hrest => exact hrest
  | vacant _ hname | follow _ hname | enter _ hname => exact absurd hname (by decide)

theorem Leads.of_dot (h : fs.Leads links here ([dot] :: rest) target) :
    fs.Leads links here rest target := by
  cases h with
  | stay _ hrest => exact hrest
  | vacant _ hname | follow _ hname | enter _ hname => exact absurd hname (by decide)

theorem Leads.of_dots (h : fs.Leads links here ([dot, dot] :: rest) target) :
    fs.Leads links here.dropLast rest target := by
  cases h with
  | up _ hrest => exact hrest
  | vacant _ hname | follow _ hname | enter _ hname => exact absurd hname (by decide)

/-- If the first parts of a way lead somewhere, the others go on from there. -/
theorem Leads.of_append (hall : fs.Leads more here (parts ++ rest) target)
    (h : fs.Leads links here parts (.present mid)) : fs.Leads more mid rest target := by
  generalize hmid : Target.present mid = middle at h
  induction h generalizing more with
  | arrived =>
    obtain rfl := Target.present.inj hmid
    exact hall
  | ended _ _ ih => exact ih hall.of_empty hmid
  | stay _ _ ih => exact ih hall.of_dot hmid
  | up _ _ ih => exact ih hall.of_dots hmid
  | vacant => cases hmid
  | follow _ hname hlink _ ih =>
    obtain ⟨-, ⟨-, hnone⟩ | ⟨fewer, path, rfl, hlink', hway⟩ | ⟨entry, hentry, hkind, -⟩⟩ :=
      Leads.of_name hname hall
    · rw [hlink] at hnone
      cases hnone
    · obtain rfl := Entry.link.inj (Option.some.inj (hlink.symm.trans hlink'))
      exact (ih (by rwa [List.append_assoc]) hmid).mono (Nat.le_succ _)
    · exact absurd (Option.some.inj (hentry.symm.trans hlink)) (hkind _)
  | enter _ hname hentry hkind _ ih =>
    obtain ⟨-, ⟨-, hnone⟩ | ⟨-, path, -, hlink, -⟩ | ⟨-, -, -, hway⟩⟩ := Leads.of_name hname hall
    · rw [hentry] at hnone
      cases hnone
    · exact absurd (Option.some.inj (hentry.symm.trans hlink)) (hkind path)
    · exact ih hway hmid

theorem exists_cons_of_concat {name : Name} (hname : name ≠ [])
    (h : parts ++ [[]] = name :: rest) :
    ∃ others, parts = name :: others ∧ others ++ [[]] = rest := by
  rcases parts with - | ⟨first, others⟩
  · exact absurd (List.cons.inj h).1.symm hname
  · obtain ⟨rfl, hrest⟩ := List.cons.inj h
    exact ⟨others, rfl, hrest⟩

/-- What a way leads to with a slash at its end, it also leads to without. -/
theorem Leads.without_slash (h : fs.Leads links here (parts ++ [[]]) target) :
    fs.Leads links here parts target := by
  generalize hparts : parts ++ [[]] = all at h
  induction h generalizing parts with
  | arrived => simp at hparts
  | ended hdir hrest ih =>
    rcases parts with - | ⟨first, others⟩
    · obtain ⟨-, rfl⟩ := List.cons.inj hparts
      exact hrest
    · obtain ⟨rfl, hothers⟩ := List.cons.inj hparts
      exact .ended hdir (ih hothers)
  | stay hopen _ ih =>
    obtain ⟨others, rfl, hothers⟩ := exists_cons_of_concat (by decide) hparts
    exact .stay hopen (ih hothers)
  | up hopen _ ih =>
    obtain ⟨others, rfl, hothers⟩ := exists_cons_of_concat (by decide) hparts
    exact .up hopen (ih hothers)
  | vacant _ hname _ =>
    obtain ⟨others, -, hothers⟩ := exists_cons_of_concat (ne_nil_of_isName hname) hparts
    simp at hothers
  | follow hopen hname hlink _ ih =>
    obtain ⟨others, rfl, rfl⟩ := exists_cons_of_concat (ne_nil_of_isName hname) hparts
    exact .follow hopen hname hlink (ih (List.append_assoc _ _ _))
  | enter hopen hname hentry hkind _ ih =>
    obtain ⟨others, rfl, hothers⟩ := exists_cons_of_concat (ne_nil_of_isName hname) hparts
    exact .enter hopen hname hentry hkind (ih hothers)

theorem leads_name {name : Name} {entry : Entry} (hentry : fs.get? (here ++ [name]) = some entry)
    (hkind : ∀ path, entry ≠ .link path) (hsearch : (fs.rightsAt here).search = none) :
    fs.Leads 0 here [name] (.present (here ++ [name])) := by
  have hdir := hasDirectory_dropLast hentry
  rw [List.dropLast_concat] at hdir
  have hname := isName_of_get?_concat hentry
  exact .enter ⟨hdir, hsearch⟩ hname hentry hkind .arrived

/-- The names of a walk lead to where it has come, without a link. -/
theorem Below.leads {base : Location} {names : List Name} {entry : Entry}
    (h : fs.Below base names entry) (hkind : ∀ path, entry ≠ .link path)
    (hsearch : fs.IsSearched base names) : fs.Leads 0 base names (.present (base ++ names)) := by
  induction h with
  | @child name _ hentry =>
    obtain ⟨-, hlast⟩ := (@isSearched_concat fs base [] name).1 hsearch
    rw [List.append_nil] at hlast
    exact leads_name hentry hkind hlast
  | inner _ hentry ih =>
    obtain ⟨hsearch, hlast⟩ := isSearched_concat.1 hsearch
    rw [← List.append_assoc] at hentry ⊢
    exact (ih nofun hsearch).append (leads_name hentry hkind hlast)

/-- A way by the names of a walk goes through directories that can be searched. -/
theorem Leads.isSearched {base : Location} {names : List Name} {entry : Entry}
    (hall : fs.Leads links base names target) (h : fs.Below base names entry) :
    fs.IsSearched base names := by
  -- By induction on the names from the front, since that is how the way goes.
  induction names generalizing base with
  | nil => nofun
  | cons name names ih =>
    obtain ⟨-, hentry⟩ := below_iff.1 h
    have hname := h.areNames.isName name List.mem_cons_self
    obtain ⟨hopen, hon⟩ := Leads.of_name hname hall
    refine isSearched_cons.2 ⟨hopen.search, ?_⟩
    by_cases hnames : names = []
    · subst hnames
      nofun
    have hdepth : 1 < (name :: names).length :=
      Nat.succ_lt_succ (List.length_pos_iff.2 hnames)
    obtain ⟨rights, hdir⟩ := h.take hdepth
    rcases hon with ⟨hnil, -⟩ | ⟨-, path, -, hlink, -⟩ | ⟨-, -, -, hway⟩
    · exact absurd hnil hnames
    · cases hdir.symm.trans hlink
    · exact ih hway (below_iff.2 ⟨hnames, by rwa [List.append_assoc]⟩)

end Ways

/-! ## What a path opens -/

/-- A path leads to a place and what is there, links followed. -/
structure Reaches (fs : FileSystem) (workDir : Location) (path : Path) (place : Location)
    (entry : Entry) : Prop where
  followed : path.IsFollowed
  leads : fs.Leads maxLinks (if path.isAbsolute then [] else workDir) path.wayParts
    (.present place)
  entry : fs.get? place = some entry

section Reaches

variable {fs : FileSystem} {workDir place base : Location} {path root : Path} {entry : Entry}
  {rights : Rights} {names : List Name}

theorem Reaches.of_parts {links : Nat} {parts : List Name} (hfollowed : path.IsFollowed)
    (hrelative : path.isAbsolute = false) (hparts : path.wayParts = parts)
    (hleads : fs.Leads links workDir parts (.present place)) (hle : links ≤ maxLinks)
    (hentry : fs.get? place = some entry) : fs.Reaches workDir path place entry := by
  refine ⟨hfollowed, ?_, hentry⟩
  rw [hrelative, hparts, if_neg Bool.false_ne_true]
  exact hleads.mono hle

theorem reaches_name {here : Location} {name : Name}
    (hentry : fs.get? (here ++ [name]) = some entry) (hkind : ∀ path, entry ≠ .link path)
    (hsearch : (fs.rightsAt here).search = none) :
    fs.Reaches here ⟨name⟩ (here ++ [name]) entry := by
  have hname := isName_of_get?_concat hentry
  obtain ⟨hempty, -, -, hslash, hzero, hsize⟩ := isName_eq_true_iff.1 hname
  have hparts : (⟨name⟩ : Path).wayParts = [name] := by
    have hlast : name.getLast? ≠ some slash := fun hlast => hslash (List.mem_of_getLast? hlast)
    simp [Path.wayParts, Path.namedParts, List.splitOn_eq_singleton hslash, hempty, hlast]
  exact .of_parts ⟨hzero, hempty, hsize.trans_lt (by decide)⟩ (Path.isAbsolute_eq_false hslash)
    hparts (leads_name hentry hkind hsearch) (Nat.zero_le _) hentry

theorem open?_eq_some_iff :
    fs.open? workDir path = some (place, entry) ↔ fs.Reaches workDir path place entry := by
  unfold open?
  constructor
  · intro h
    split at h
    case h_1 place hfind =>
      obtain ⟨other, hentry, heq⟩ := Option.map_eq_some_iff.1 h
      obtain ⟨rfl, rfl⟩ := Prod.mk.inj heq
      obtain ⟨hfollowed, hleads⟩ := find_eq_ok_iff.1 hfind
      exact ⟨hfollowed, hleads, hentry⟩
    case h_2 => cases h
  · rintro ⟨hfollowed, hleads, hentry⟩
    rw [find_eq_ok_iff.2 ⟨hfollowed, hleads⟩]
    simp [hentry]

theorem directory?_eq_some_iff :
    fs.directory? workDir path = some place ↔
      ∃ rights, fs.Reaches workDir path place (.directory rights) := by
  simp only [← open?_eq_some_iff]
  unfold directory?
  split
  case h_1 other rights hopen => simp [hopen]
  case h_2 hnot =>
    refine iff_of_false nofun ?_
    rintro ⟨rights, hopen⟩
    exact hnot place rights hopen

theorem isFile_iff :
    fs.isFile workDir path = true ↔
      ∃ place content rights, fs.Reaches workDir path place (.file content rights) := by
  simp only [← open?_eq_some_iff]
  unfold isFile
  split
  case h_1 other content rights hopen => simp [hopen]
  case h_2 hnot =>
    refine iff_of_false Bool.false_ne_true ?_
    rintro ⟨place, content, rights, hopen⟩
    exact hnot place content rights hopen

theorem listRefusal?_eq_none_iff :
    fs.listRefusal? workDir path = none ↔
      ∃ place rights, fs.Reaches workDir path place (.directory rights) ∧ rights.read = none := by
  unfold listRefusal?
  constructor
  · intro h
    split at h
    case h_1 => cases h
    case h_2 => cases h
    case h_3 place hfind =>
      split_ifs at h with hdir
      obtain ⟨rights, hentry⟩ := hasDirectory_iff.1 hdir
      obtain ⟨hfollowed, hleads⟩ := find_eq_ok_iff.1 hfind
      refine ⟨place, rights, ⟨hfollowed, hleads, hentry⟩, ?_⟩
      rwa [rightsAt_of_get? hentry] at h
  · rintro ⟨place, rights, ⟨hfollowed, hleads, hentry⟩, hread⟩
    rw [find_eq_ok_iff.2 ⟨hfollowed, hleads⟩]
    dsimp only
    rw [if_pos (hasDirectory_iff.2 ⟨rights, hentry⟩), rightsAt_of_get? hentry]
    exact hread

theorem Reaches.entry_unique {other : Location} {found : Entry}
    (h : fs.Reaches workDir path place entry) (hother : fs.Reaches workDir path other found) :
    found = entry := by
  have hopen := open?_eq_some_iff.2 h
  rw [open?_eq_some_iff.2 hother, Option.some_inj] at hopen
  exact congrArg Prod.snd hopen

/-! ## Opening what lies below -/

section Root

variable (hroot : fs.Reaches workDir root base (.directory rights))

include hroot

/-- The path of the directory may end with a slash; the longer path has none there. -/
theorem Reaches.leads_namedParts :
    fs.Leads maxLinks (if root.isAbsolute then [] else workDir) root.namedParts
      (.present base) := by
  have hway := hroot.leads
  rcases wayParts_eq root with heq | heq
  · rwa [heq] at hway
  · rw [heq] at hway
    exact hway.without_slash

/-- What a walk comes to is reached by the names behind the path of the directory, unless it is a
    link. -/
theorem Reaches.below (h : fs.Below base names entry) (hkind : ∀ path, entry ≠ .link path)
    (hsearch : fs.IsSearched base names) (hsize : (pathBelow root names).bytes.length < 4096) :
    fs.Reaches workDir (pathBelow root names) (base ++ names) entry := by
  have hnames := h.areNames
  have hbytes := hroot.followed.bytes_ne
  refine ⟨isFollowed_pathBelow hnames hroot.followed hsize, ?_, (below_iff.1 h).2⟩
  rw [isAbsolute_pathBelow hbytes hnames, wayParts_pathBelow hbytes hnames]
  exact hroot.leads_namedParts.append (h.leads hkind hsearch)

/-- If the path of what a walk comes to is followed, then its names are. -/
theorem Reaches.isSearched {found : Entry} (h : fs.Below base names entry)
    (hreaches : fs.Reaches workDir (pathBelow root names) place found) :
    fs.IsSearched base names := by
  have hnames := h.areNames
  have hbytes := hroot.followed.bytes_ne
  have hway := hreaches.leads
  rw [isAbsolute_pathBelow hbytes hnames, wayParts_pathBelow hbytes hnames] at hway
  exact (hway.of_append hroot.leads_namedParts).isSearched h

theorem isFile_pathBelow_iff (h : fs.Below base names entry) :
    fs.isFile workDir (pathBelow root names) = true ↔
      fs.IsSearched base names ∧ (pathBelow root names).bytes.length < 4096 ∧
        ((∃ content rights, entry = .file content rights) ∨ (∃ path, entry = .link path) ∧
          ∃ place content rights,
            fs.Reaches workDir (pathBelow root names) place (.file content rights)) := by
  rw [isFile_iff]
  constructor
  · rintro ⟨place, content, own, hreaches⟩
    have hsize := hreaches.followed.size_lt
    have hsearch := hroot.isSearched h hreaches
    refine ⟨hsearch, hsize, ?_⟩
    cases entry with
    | directory | special => cases hreaches.entry_unique (hroot.below h nofun hsearch hsize)
    | file other own => exact .inl ⟨other, own, rfl⟩
    | link path => exact .inr ⟨⟨path, rfl⟩, place, content, own, hreaches⟩
  · rintro ⟨hsearch, hsize, ⟨content, own, rfl⟩ | ⟨-, hlink⟩⟩
    · exact ⟨_, content, own, hroot.below h nofun hsearch hsize⟩
    · exact hlink

/-- A directory on the way is listed if the system does not refuse to read it. -/
theorem listRefusal?_pathBelow_take_iff (h : fs.Below base names entry)
    (hsearch : fs.IsSearched base names) (hsize : (pathBelow root names).bytes.length < 4096)
    {depth : Nat} (hdepth : depth < names.length) :
    fs.listRefusal? workDir (pathBelow root (names.take depth)) = none ↔
      (fs.rightsAt (base ++ names.take depth)).read = none := by
  obtain ⟨own, hdir⟩ := h.take hdepth
  have hreaches : ∃ place,
      fs.Reaches workDir (pathBelow root (names.take depth)) place (.directory own) := by
    by_cases hnil : names.take depth = []
    · rw [hnil, List.append_nil, hroot.entry] at hdir
      rw [← Option.some.inj hdir, hnil]
      exact ⟨base, hroot⟩
    · refine ⟨_, hroot.below (below_iff.2 ⟨hnil, hdir⟩) nofun (fun other hother => ?_) ?_⟩
      · rw [List.length_take, Nat.lt_min] at hother
        rw [List.take_take, Nat.min_eq_left hother.1.le]
        exact hsearch other hother.2
      · exact (length_pathBelow_take_le hroot.followed.bytes_ne h.areNames depth).trans_lt hsize
  obtain ⟨place, hreaches⟩ := hreaches
  rw [listRefusal?_eq_none_iff, rightsAt_of_get? hdir]
  constructor
  · rintro ⟨other, found, hother, hread⟩
    obtain rfl := Entry.directory.inj (hreaches.entry_unique hother)
    exact hread
  · intro hread
    exact ⟨place, own, hreaches, hread⟩

theorem isEntered_iff (h : fs.Below base names entry) (hsearch : fs.IsSearched base names)
    (hsize : (pathBelow root names).bytes.length < 4096) :
    isEntered fs workDir root names = true ↔
      ∀ depth < names.length, (fs.rightsAt (base ++ names.take depth)).read = none := by
  rw [isEntered, List.all_eq_true]
  simp only [List.mem_range, Option.isNone_iff_eq_none]
  exact forall₂_congr fun depth hdepth =>
    listRefusal?_pathBelow_take_iff hroot h hsearch hsize hdepth

end Root

end Reaches

/-! ## Slashes at the end -/

/-- A name with so many slashes behind it. -/
def withSlashes (name : Name) (count : Nat) : Path := ⟨name ++ List.replicate count slash⟩

section Slashes

variable {name : Name} {count : Nat}

theorem length_withSlashes : (withSlashes name count).bytes.length = name.length + count := by
  rw [withSlashes, List.length_append, List.length_replicate]

theorem splitOn_withSlashes (hslash : slash ∉ name) :
    (withSlashes name count).bytes.splitOn slash = name :: List.replicate count [] := by
  rw [withSlashes]
  induction count with
  | zero =>
    rw [List.replicate_zero, List.append_nil, List.splitOn_eq_singleton hslash, List.replicate_zero]
  | succ count ih =>
    rw [List.replicate_succ', ← List.append_assoc, List.splitOn_append_cons_self, ih,
      List.splitOn_nil, List.replicate_succ', List.cons_append]

theorem wayParts_withSlashes (h : isName name = true) (hcount : count ≠ 0) :
    (withSlashes name count).wayParts = [name, []] := by
  obtain ⟨hempty, -, -, hslash, -⟩ := isName_eq_true_iff.1 h
  have hnamed : (withSlashes name count).namedParts = [name] := by
    rw [Path.namedParts, splitOn_withSlashes hslash]
    simp [hempty]
  have hlast : (withSlashes name count).bytes.getLast? = some slash := by
    obtain ⟨fewer, rfl⟩ := Nat.exists_eq_add_one_of_ne_zero hcount
    rw [withSlashes, List.replicate_succ', ← List.append_assoc, List.getLast?_concat]
  rw [Path.wayParts, hnamed, hlast]
  rfl

/-- Slashes behind the name of a directory change nothing, while the path does not get too long. -/
theorem reaches_withSlashes {fs : FileSystem} {here : Location} {rights : Rights}
    (hcount : count ≠ 0) (hdir : fs.get? (here ++ [name]) = some (.directory rights))
    (hsearch : (fs.rightsAt here).search = none) (hsize : name.length + count < 4096) :
    fs.Reaches here (withSlashes name count) (here ++ [name]) (.directory rights) := by
  have hname := isName_of_get?_concat hdir
  obtain ⟨hempty, -, -, -, hzero, -⟩ := isName_eq_true_iff.1 hname
  have hended : fs.Leads 0 (here ++ [name]) [[]] (.present (here ++ [name])) :=
    .ended (hasDirectory_iff.2 ⟨rights, hdir⟩) .arrived
  have hleads := (leads_name hdir nofun hsearch).append hended
  refine .of_parts ⟨?_, ?_, ?_⟩ ?_ (wayParts_withSlashes hname hcount) hleads (Nat.zero_le _) hdir
  · rw [withSlashes, List.mem_append, List.mem_replicate]
    rintro (hmem | ⟨-, heq⟩)
    · exact hzero hmem
    · exact absurd heq (by decide)
  · exact List.append_ne_nil_of_left_ne_nil hempty _
  · rwa [length_withSlashes]
  · exact isAbsolute_of_name_prefix hname ⟨_, rfl⟩

end Slashes

end Migration.FileSystem
