import Migration.FileSystem.Path

/-!
# The tree of files

A file system is a value: a finite list of entries, each at the names that lead to it from the root.
An entry is a directory, a file with its bytes, a link, which holds a path, or what is none of them:
a device, a pipe or a socket, of which nothing is known but what is read from it. The list is a
tree: no place has two entries, and what an entry lies in is a directory. The names are such that a
path can spell them. All this is part of the type, so every file system that can be written down is
one that could exist.

The system may refuse to read an entry, to write to it or to search in it, and then it has a reason,
mostly that the user has no permission. An entry comes with these reasons.

The root is a directory that is always there and has no entry of its own.
-/

namespace Migration

/-- Why the system does not do what it is asked to do with a file. -/
inductive OpenError where
  | notFound
  | notDirectory
  | isDirectory
  | nameTooLong
  | tooManyLinks
  | zeroCharacter
  | notText
  | denied
  /-- Any other reason, as the system tells it. -/
  | other (text : String)
deriving DecidableEq, Repr

/-- The text of the reason. -/
def OpenError.message : OpenError → String
  | notFound => "No such file or directory (os error 2)"
  | notDirectory => "Not a directory (os error 20)"
  | isDirectory => "Is a directory (os error 21)"
  | nameTooLong => "File name too long (os error 36)"
  | tooManyLinks => "Too many levels of symbolic links (os error 40)"
  | zeroCharacter => "file name contained an unexpected NUL byte"
  | notText => "stream did not contain valid UTF-8"
  | denied => "Permission denied (os error 13)"
  | other text => text

/-- Why an entry is not read, why it is not written to, and why nothing is searched in it, where
    that is so. A directory is read when it is listed, and written to when a file is made in it. -/
structure Rights where
  read : Option OpenError := none
  write : Option OpenError := none
  search : Option OpenError := none
deriving DecidableEq, Repr

/-- A place in the tree: the names from the root. -/
abbrev Location := List Name

/-- What is at a place. -/
inductive Entry where
  | directory (rights : Rights)
  | file (content : ByteArray) (rights : Rights)
  | link (target : Path)
  /-- A device, a pipe or a socket. What is written to it is not kept. -/
  | special (output : ByteArray) (rights : Rights)

namespace Entry

/-- Whether the entry is a directory. -/
def isDirectory : Entry → Bool
  | directory _ => true
  | _ => false

/-- What the system refuses to do with the entry. Links are never refused. -/
def rights : Entry → Rights
  | directory rights | file _ rights | special _ rights => rights
  | link _ => {}

end Entry

/-- What a list of entries has at a place, where `root` are the rights at the root. -/
def entryAt (root : Rights) (entries : List (Location × Entry)) (place : Location) :
    Option Entry :=
  if place = [] then some (.directory root) else entries.lookup place

/-- A tree of files. -/
structure FileSystem where
  /-- The rights at the root. -/
  root : Rights := {}
  entries : List (Location × Entry)
  /-- No place has two entries. -/
  distinct : (entries.map Prod.fst).Nodup
  /-- No entry is at the root, and every entry lies in a directory. -/
  rooted : ∀ e ∈ entries, e.1 ≠ [] ∧ (entryAt root entries e.1.dropLast).any Entry.isDirectory
  /-- Places are spelled in names. -/
  named : ∀ e ∈ entries, ∀ name ∈ e.1, isName name

namespace FileSystem

/-- What is at a place. -/
def get? (fs : FileSystem) (place : Location) : Option Entry := entryAt fs.root fs.entries place

/-- Whether a place is a directory. -/
def hasDirectory (fs : FileSystem) (place : Location) : Bool :=
  (fs.get? place).any Entry.isDirectory

/-- What the system refuses to do at a place. -/
def rightsAt (fs : FileSystem) (place : Location) : Rights :=
  ((fs.get? place).map Entry.rights).getD {}

/-- The file system that has nothing but the root. -/
def empty : FileSystem := ⟨{}, [], by simp, by simp, by simp⟩

theorem lookup_filter (keep : Location → Bool) (entries : List (Location × Entry))
    (place : Location) :
    (entries.filter fun e => keep e.1).lookup place =
      if keep place then entries.lookup place else none := by
  induction entries with
  | nil => simp
  | cons e entries ih =>
    obtain ⟨key, entry⟩ := e
    by_cases hp : place = key
    · subst hp
      cases hk : keep place
      · simpa [hk] using ih
      · simp [hk]
    · have hne : (place == key) = false := beq_eq_false_iff_ne.2 hp
      cases hk : keep key
      · rw [List.filter_cons_of_neg (by simp [hk]), ih, List.lookup_cons, hne]
      · rw [List.filter_cons_of_pos (by simp [hk]), List.lookup_cons, List.lookup_cons, hne, ih]

/-- The entries with what is at one place replaced. -/
def replaced (entries : List (Location × Entry)) (place : Location) (entry : Entry) :
    List (Location × Entry) :=
  (place, entry) :: entries.filter fun e => e.1 != place

theorem entryAt_replaced {root : Rights} {entries : List (Location × Entry)} {place : Location}
    {entry : Entry} (h : place ≠ []) (other : Location) :
    entryAt root (replaced entries place entry) other =
      if other = place then some entry else entryAt root entries other := by
  unfold entryAt replaced
  by_cases ho : other = []
  · simp [ho, Ne.symm h]
  · by_cases hp : other = place
    · simp [hp, h]
    · have hne : (other == place) = false := by simpa using hp
      rw [if_neg ho, if_neg ho, if_neg hp, List.lookup_cons, hne]
      simpa [hp] using lookup_filter (fun q => q != place) entries other

/-- The file system with an entry put at a place. The place lies in a directory, and a directory is
    only replaced by a directory. -/
def put (fs : FileSystem) (place : Location) (entry : Entry) (h : place ≠ [])
    (hnamed : ∀ name ∈ place, isName name)
    (hparent : fs.hasDirectory place.dropLast = true)
    (hkeep : fs.hasDirectory place = true → entry.isDirectory = true) : FileSystem where
  root := fs.root
  entries := replaced fs.entries place entry
  distinct := by
    unfold replaced
    rw [List.map_cons, List.nodup_cons]
    constructor
    · simp
    · exact (List.filter_sublist.map _).nodup fs.distinct
  rooted := by
    intro e he
    have hshorter : ∀ q : Location, q ≠ [] → q.dropLast ≠ q := by
      intro q hq hd
      have := congrArg List.length hd
      have := List.length_pos_iff.2 hq
      simp only [List.length_dropLast] at *
      omega
    rcases List.mem_cons.1 he with rfl | he
    · refine ⟨h, ?_⟩
      rw [entryAt_replaced h, if_neg (hshorter place h)]
      exact hparent
    · obtain ⟨hne, hdir⟩ := fs.rooted e (List.mem_filter.1 he).1
      refine ⟨hne, ?_⟩
      rw [entryAt_replaced h]
      split
      · rename_i heq
        rw [heq] at hdir
        exact hkeep hdir
      · exact hdir
  named := by
    intro e he
    rcases List.mem_cons.1 he with rfl | he
    · exact hnamed
    · exact fs.named e (List.mem_filter.1 he).1

/-- The file system without what is at a place and below it. -/
def remove (fs : FileSystem) (place : Location) : FileSystem where
  root := fs.root
  entries := fs.entries.filter fun e => !place.isPrefixOf e.1
  distinct := (List.filter_sublist.map _).nodup fs.distinct
  rooted := by
    intro e he
    obtain ⟨hmem, hkeep⟩ := List.mem_filter.1 he
    obtain ⟨hne, hdir⟩ := fs.rooted e hmem
    refine ⟨hne, ?_⟩
    unfold entryAt at hdir ⊢
    split
    · rfl
    · rename_i hd
      rw [if_neg hd] at hdir
      have hout : (!place.isPrefixOf e.1.dropLast) = true := by
        cases hp : place.isPrefixOf e.1.dropLast with
        | false => rfl
        | true =>
          have : place <+: e.1 :=
            (List.isPrefixOf_iff_prefix.1 hp).trans (List.dropLast_prefix e.1)
          simp [List.isPrefixOf_iff_prefix.2 this] at hkeep
      rw [lookup_filter (fun q => !place.isPrefixOf q)]
      simp only [hout, if_true]
      exact hdir
  named e he := fs.named e (List.mem_filter.1 he).1

/-- The file system with other rights at the root. -/
def withRoot (fs : FileSystem) (rights : Rights) : FileSystem where
  root := rights
  entries := fs.entries
  distinct := fs.distinct
  rooted := by
    intro e he
    obtain ⟨hne, hdir⟩ := fs.rooted e he
    refine ⟨hne, ?_⟩
    unfold entryAt at hdir ⊢
    split
    · rfl
    · rename_i hd
      rwa [if_neg hd] at hdir
  named := fs.named

/-- The file system with an entry put at a place, if the place can take it. -/
def put? (fs : FileSystem) (place : Location) (entry : Entry) : Option FileSystem :=
  if h : place ≠ [] ∧ (∀ name ∈ place, isName name) ∧ fs.hasDirectory place.dropLast = true ∧
      (fs.hasDirectory place = true → entry.isDirectory = true) then
    some (fs.put place entry h.1 h.2.1 h.2.2.1 h.2.2.2)
  else none

end FileSystem

end Migration
