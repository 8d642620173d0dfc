import Migration.Discovery.Glob
import Migration.Fault
import Migration.Module.Namespace

/-!
# Source files

The source files of a tree are the files below its root that have a given extension and match none
of the patterns to ignore. Links to files count as files; directories are only entered where they
are, not through links, except for the root itself. A pattern that cannot be read has no effect.

Directories are listed and files are looked at by their whole paths. A directory that the system
refuses to list is passed over with what is below it, and a file that its path does not lead to is
not found. So it goes where a path is too long or leads through too many links, or where the system
refuses to search on the way. A root that is a single dash stands for the standard input, in which
there are no files.

Names are bytes, but extensions, patterns and modules are texts. They go by what the names are shown
as, so that names that are no texts may be taken for one another there.

The files are listed in the order of their paths, name by name, so that what is in a directory stays
together.
-/

namespace Migration

/-- A source file. -/
structure SourceFile where
  /-- Its path, beginning with that of the root. -/
  path : Path
  /-- Its path from the root on. -/
  relative : Path
  /-- The module in it. -/
  module : ModulePath
deriving DecidableEq, Repr

/-- The segments that a path gives: the names on it as they are shown, the last one without its
    extension. -/
def ModulePath.ofRelative (path : Path) : ModulePath :=
  let names := path.names.map Text.lossy
  match names.getLast? with
  | some last => ⟨names.dropLast ++ [String.ofList (splitExtension '.' last.toList).1]⟩
  | none => ⟨[]⟩

namespace SourceFile

/-- An extension as it is given may start with dots. -/
def bareExtension (extension : String) : String :=
  String.ofList (extension.toList.dropWhile (· == '.'))

/-- The path with given names. -/
def relativePath (names : List Name) : Path := ⟨[slash].intercalate names⟩

/-- The path by which what has given names below a root is opened. -/
def pathBelow (root : Path) (names : List Name) : Path :=
  if names = [] then root else root.join (relativePath names)

/-- The file with given names below a root. -/
def ofNames (root : Path) (names : List Name) : SourceFile where
  path := pathBelow root names
  relative := relativePath names
  module := ModulePath.ofRelative (relativePath names)

/-- Whether the last of the names has an extension. -/
def hasExtension (extension : String) (names : List Name) : Bool :=
  match names.getLast? with
  | some name => (splitExtension dot name).2.map Text.lossy == some extension
  | none => false

/-- The patterns among the given texts. -/
def globs (ignore : List String) : List Glob :=
  ignore.filterMap fun text => (Glob.parse text).toOption

/-- The texts that are no patterns, with the reason. -/
def badPatterns (ignore : List String) : List (String × GlobError) :=
  ignore.filterMap fun text =>
    match Glob.parse text with
    | .ok _ => none
    | .error error => some (text, error)

/-- Whether names do not come after other names, compared name by name. -/
def inOrder : List Name → List Name → Bool
  | [], _ => true
  | _ :: _, [] => false
  | a :: as, b :: bs => decide (a < b) || (a == b && inOrder as bs)

/-- The names, below a directory, of everything in it and under it. -/
def namesBelow (fs : FileSystem) (base : Location) : List (List Name) :=
  fs.entries.filterMap fun entry =>
    if base.isPrefixOf entry.1 && entry.1 != base then some (entry.1.drop base.length) else none

/-- Whether a root stands for the standard input. -/
def isStandardInput (root : Path) : Bool := root.components = [.name (Text.bytes "-")]

section Search

variable (fs : FileSystem) (workDir : Location) (root : Path)

/-- Whether every directory on the way from the root to given names is listed. -/
def isEntered (names : List Name) : Bool :=
  (List.range names.length).all fun depth =>
    (fs.listRefusal? workDir (pathBelow root (names.take depth))).isNone

/-- The names, below a root that leads to `base`, of everything that the search comes to. -/
def candidates (base : Location) : List (List Name) :=
  if isStandardInput root then []
  else ((namesBelow fs base).filter (isEntered fs workDir root)).mergeSort inOrder

/-- The names of the source files below a root that leads to `base`. -/
def sourceNames (base : Location) (extension : String) (ignore : List String) :
    List (List Name) :=
  (candidates fs workDir root base).filter fun names =>
    hasExtension (bareExtension extension) names && fs.isFile workDir (pathBelow root names) &&
      !(globs ignore).any fun glob => glob.accepts (relativePath names).slashed

/-- The source files below a root. -/
def discover (extension : String) (ignore : List String) : Except Fault (List SourceFile) :=
  match fs.directory? workDir root with
  | none => .error (.missing root)
  | some base => .ok ((sourceNames fs workDir root base extension ignore).map (ofNames root))

/-- The directories that the search comes to, the root among them, but that are not listed, with the
    reasons. -/
def closedDirectories : List (Path × OpenError) :=
  match fs.directory? workDir root with
  | none => []
  | some base =>
    if isStandardInput root then []
    else
      ([] :: candidates fs workDir root base).filterMap fun names =>
        if fs.hasDirectory (base ++ names) then
          (fs.listRefusal? workDir (pathBelow root names)).map fun refusal =>
            (pathBelow root names, refusal)
        else none

end Search

end SourceFile

end Migration
