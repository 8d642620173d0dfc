import Migration.FileSystem.Tree

/-!
# Opening files

A path is followed from the root or from the working directory, one part at a time. Every part but
the last has to lead to a directory in which the system does not refuse to search, and links are
followed on the way, at most 40 of them. A slash at the end of a path asks for a directory. The end
of the way is a place that has an entry, or one that could have one, since it lies in a directory.

A name of more than 255 bytes, a path of 4096 bytes or more and a path with a zero character are
refused.

To look at an entry, whether it is there and of what kind, it is enough to find it. To read it or to
write to it, the system has to open it as well. A file that is opened for writing is emptied, or
made, before anything is written; the storage may then take the bytes or only the first of them
(`Storage`).
-/

namespace Migration

/-- Where a path leads: to a place that has an entry, or to one in a directory that has none. -/
inductive Target where
  | present (place : Location)
  | vacant (place : Location)
deriving DecidableEq, Repr

/-- The path of a place from the root. -/
def Location.path (place : Location) : Path := ⟨slash :: [slash].intercalate place⟩

/-- The parts of a path between slashes that are not empty. -/
def Path.namedParts (path : Path) : List Name :=
  (path.bytes.splitOn slash).filter fun part => !part.isEmpty

/-- The parts of a path that are followed, in order. A slash at the end leaves an empty part there.
    -/
def Path.wayParts (path : Path) : List Name :=
  if !path.namedParts.isEmpty && path.bytes.getLast? == some slash then path.namedParts ++ [[]]
  else path.namedParts

namespace FileSystem

/-- Goes along the parts of a path from `here`; `follow` goes on from the directory of a link along
    the parts of its path. A file that is to be made cannot be asked for with a slash at the end. -/
def goAlong (fs : FileSystem) (making : Bool)
    (follow : Location → List Name → Except OpenError Target) :
    Location → List Name → Except OpenError Target
  | here, [] => .ok (.present here)
  | here, part :: rest =>
    if !fs.hasDirectory here then .error .notDirectory
    else if part = [] then fs.goAlong making follow here rest
    else
      match (fs.rightsAt here).search with
      | some refusal => .error refusal
      | none =>
        if part = [dot] then fs.goAlong making follow here rest
        else if part = [dot, dot] then fs.goAlong making follow here.dropLast rest
        else if making && rest = [[]] then .error .isDirectory
        else if maxNameSize < part.length then .error .nameTooLong
        else if part.contains 0 then .error .zeroCharacter
        else
          match fs.get? (here ++ [part]) with
          | none => if rest.isEmpty then .ok (.vacant (here ++ [part])) else .error .notFound
          | some (.link target) =>
            follow (if target.isAbsolute then [] else here) (target.wayParts ++ rest)
          | some _ => fs.goAlong making follow (here ++ [part]) rest

/-- Goes along the parts of a path, through at most `links` links. -/
def goThrough (fs : FileSystem) (making : Bool) :
    (links : Nat) → Location → List Name → Except OpenError Target
  | 0 => fs.goAlong making fun _ _ => .error .tooManyLinks
  | links + 1 => fs.goAlong making (fs.goThrough making links)

/-- How many links are followed. -/
def maxLinks : Nat := 40

/-- The number of bytes that no path may have. -/
def maxPathSize : Nat := 4096

/-- Where a path leads. -/
def find (fs : FileSystem) (making : Bool) (workDir : Location) (path : Path) :
    Except OpenError Target :=
  if path.bytes.contains 0 then .error .zeroCharacter
  else if path.bytes.isEmpty then .error .notFound
  else if maxPathSize ≤ path.bytes.length then .error .nameTooLong
  else fs.goThrough making maxLinks (if path.isAbsolute then [] else workDir) path.wayParts

/-! ## Looking -/

/-- What a path leads to. -/
def open? (fs : FileSystem) (workDir : Location) (path : Path) : Option (Location × Entry) :=
  match fs.find false workDir path with
  | .ok (.present place) => (fs.get? place).map fun entry => (place, entry)
  | _ => none

/-- Whether a path leads to anything. -/
def exists? (fs : FileSystem) (workDir : Location) (path : Path) : Bool :=
  (fs.open? workDir path).isSome

/-- The directory that a path leads to. -/
def directory? (fs : FileSystem) (workDir : Location) (path : Path) : Option Location :=
  match fs.open? workDir path with
  | some (place, .directory _) => some place
  | _ => none

/-- Whether a path leads to a file. -/
def isFile (fs : FileSystem) (workDir : Location) (path : Path) : Bool :=
  match fs.open? workDir path with
  | some (_, .file _ _) => true
  | _ => false

/-! ## Reading -/

/-- The bytes that are read from what a path leads to. -/
def readBytes (fs : FileSystem) (workDir : Location) (path : Path) : Except OpenError ByteArray :=
  match fs.find false workDir path with
  | .error error => .error error
  | .ok (.vacant _) => .error .notFound
  | .ok (.present place) =>
    match (fs.rightsAt place).read with
    | some refusal => .error refusal
    | none =>
      match fs.get? place with
      | some (.file content _) | some (.special content _) => .ok content
      | some (.directory _) => .error .isDirectory
      | _ => .error .notFound

/-- The text of a file. -/
def readText (fs : FileSystem) (workDir : Location) (path : Path) : Except OpenError String :=
  match fs.readBytes workDir path with
  | .error error => .error error
  | .ok content =>
    match String.fromUTF8? content with
    | some text => .ok text
    | none => .error .notText

/-- Why the directory that a path leads to is not listed, if it is not. -/
def listRefusal? (fs : FileSystem) (workDir : Location) (path : Path) : Option OpenError :=
  match fs.find false workDir path with
  | .error error => some error
  | .ok (.vacant _) => some .notFound
  | .ok (.present place) =>
    if fs.hasDirectory place then (fs.rightsAt place).read else some .notDirectory

end FileSystem

/-! ## Writing -/

/-- How the storage of a file system takes what is written. -/
structure Storage where
  /-- The rights of a file that is made. -/
  fresh : Rights := {}
  /-- Why no file is opened for writing, if so. -/
  refusal : Option OpenError := none
  /-- After how many bytes a write breaks off, and why, if it does. -/
  limit : Option (Nat × OpenError) := none
deriving DecidableEq, Repr

/-- What the storage takes of what is written, and why that is not all. -/
def Storage.take (storage : Storage) (content : ByteArray) : ByteArray × Option OpenError :=
  match storage.limit with
  | some (size, error) =>
    if size < content.size then (content.extract 0 size, some error) else (content, none)
  | none => (content, none)

namespace FileSystem

variable (fs : FileSystem) (storage : Storage)

/-- Why what a path leads to is not opened for writing, if it is not. -/
def writeRefusal? : Target → Option OpenError
  | .present place =>
    if fs.hasDirectory place then some .isDirectory
    else (fs.rightsAt place).write <|> storage.refusal
  | .vacant place => (fs.rightsAt place.dropLast).write <|> storage.refusal

/-- The file system with the content of the file that a path leads to. A file that is not there is
    made; what is no file keeps nothing. -/
def withContent (content : ByteArray) : Target → FileSystem
  | .present place =>
    match fs.get? place with
    | some (.file _ rights) => (fs.put? place (.file content rights)).getD fs
    | _ => fs
  | .vacant place => (fs.put? place (.file content storage.fresh)).getD fs

variable (workDir : Location) (path : Path)

/-- The file system after bytes have been written to a path, and why they were not all written, if
    so. -/
def writeBytes (content : ByteArray) : FileSystem × Option OpenError :=
  match fs.find true workDir path with
  | .error error => (fs, some error)
  | .ok target =>
    match fs.writeRefusal? storage target with
    | some refusal => (fs, some refusal)
    | none => (fs.withContent storage (storage.take content).1 target, (storage.take content).2)

/-- The file system after a text has been written to a path, and why it was not all written, if so.
    -/
def writeText (text : String) : FileSystem × Option OpenError :=
  fs.writeBytes storage workDir path text.toUTF8

/-- The file system with an entry at a path that leads to none yet. -/
def make (entry : Entry) : FileSystem :=
  match fs.find false workDir path with
  | .ok (.vacant place) => (fs.put? place entry).getD fs
  | _ => fs

/-- The file system with a directory at a path, and directories on the way to it. -/
def makeDirectories : FileSystem :=
  (path.ancestors path.bytes.length.succ).reverse.foldl
    (fun fs directory => fs.make workDir directory (.directory {})) fs

end FileSystem

end Migration
