import Migration.Text.Bytes

/-!
# File paths

A path is a list of bytes, kept as it was given; mostly it is the UTF-8 form of a text, but it need
not be. Its *components* are the parts between slashes. Empty parts and single dots say nothing and
are dropped, except for a slash at the front, which stands for the root of the file system, and a
dot at the front, which stands for the working directory. Two dots stand for the directory above and
are kept, since that depends on links.
-/

namespace Migration

/-- The byte between the parts of a path. -/
def slash : UInt8 := 0x2F

/-- The byte before the extension of a name. -/
def dot : UInt8 := 0x2E

/-- A part of a path between slashes, or the name of what is in a directory. -/
abbrev Name := List UInt8

/-- The number of bytes that a name may have. -/
def maxNameSize : Nat := 255

/-- Whether a part of a path is a name: it is not too long and is not read in a special way. -/
def isName (part : Name) : Bool :=
  part != [] && part != [dot] && part != [dot, dot] && !part.contains slash &&
    !part.contains 0 && decide (part.length ≤ maxNameSize)

/-- A path, as it was given. -/
structure Path where
  bytes : List UInt8
deriving DecidableEq, Repr

/-- A part of a path that says something. -/
inductive Component where
  | root
  | current
  | parent
  | name (name : Name)
deriving DecidableEq, Repr

/-- A component as it is shown. -/
def Component.shown : Component → String
  | root => "/"
  | current => "."
  | parent => ".."
  | name bytes => Text.lossy bytes

namespace Path

/-- The path that a text gives. -/
def ofText (text : String) : Path := ⟨Text.bytes text⟩

/-- A path as it is shown. -/
def shown (path : Path) : String := Text.lossy path.bytes

/-- Whether a part between slashes says nothing. -/
def isVoid (part : Name) : Bool := part == [] || part == [dot]

/-- The component that a part behind the front of a path stands for. -/
def component? (part : Name) : Option Component :=
  if isVoid part then none
  else if part = [dot, dot] then some .parent
  else some (.name part)

/-- Whether the path starts at the root. -/
def isAbsolute (path : Path) : Bool := path.bytes.head? == some slash

/-- How a path starts: at the root, with a dot, or with any other part. -/
inductive Front where
  | root
  | current
  | bare
deriving DecidableEq, Repr

/-- The components that the front of a path stands for. -/
def Front.components : Front → List Component
  | root => [.root]
  | current => [.current]
  | bare => []

/-- The front of a path, and the parts between slashes behind it. -/
def split (path : Path) : Front × List Name :=
  match path.bytes.splitOn slash with
  | [] => (.bare, [])
  | first :: rest =>
    if first = [] ∧ rest ≠ [] then (.root, rest)
    else if first = [dot] then (.current, rest)
    else (.bare, first :: rest)

/-- The path of a front and the parts behind it. -/
def unsplit : Front → List Name → Path
  | .root, parts => ⟨slash :: [slash].intercalate parts⟩
  | .current, parts => ⟨dot :: parts.flatMap (slash :: ·)⟩
  | .bare, parts => ⟨[slash].intercalate parts⟩

/-- The components of a path. -/
def components (path : Path) : List Component :=
  path.split.1.components ++ path.split.2.filterMap component?

/-- The parts without those at the back that say nothing. -/
def trimVoid (parts : List Name) : List Name := (parts.reverse.dropWhile isVoid).reverse

/-- The path without its last component; the root and the empty path have none. -/
def parent? (path : Path) : Option Path :=
  let (front, parts) := path.split
  match trimVoid parts with
  | [] => if front = .current then some ⟨[]⟩ else none
  | parts => some (unsplit front (trimVoid parts.dropLast))

/-- The path `next`, taken relative to `path` unless it is absolute. -/
def join (path next : Path) : Path :=
  if next.isAbsolute || path.bytes.isEmpty then next
  else if path.bytes.getLast? = some slash then ⟨path.bytes ++ next.bytes⟩
  else ⟨path.bytes ++ slash :: next.bytes⟩

/-- The path and the directories above it, at most `depth` in all. -/
def ancestors (path : Path) : (depth : Nat) → List Path
  | 0 => []
  | depth + 1 =>
    path :: match path.parent? with
      | some parent => parent.ancestors depth
      | none => []

/-- The components of a path as they are shown, with slashes between them. -/
def slashed (path : Path) : String := "/".intercalate (path.components.map Component.shown)

/-- The names among the components. -/
def names (path : Path) : List Name :=
  path.components.filterMap fun
    | .name name => some name
    | _ => none

end Path

/-- A name cut at its last dot, into its stem and its extension; `dot` is what a dot is written as.
    A name without a dot, or with its only dot at the front, is all stem. -/
def splitExtension {α : Type} [DecidableEq α] (dot : α) (name : List α) :
    List α × Option (List α) :=
  let backwards := name.reverse
  let stem := (backwards.dropWhile (· != dot)).drop 1
  if stem.isEmpty then (name, none)
  else (stem.reverse, some (backwards.takeWhile (· != dot)).reverse)

end Migration
