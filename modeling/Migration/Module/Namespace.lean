import Migration.Text.Case

/-!
# Modules of the origin and namespaces of the target

A module of the origin is named by the segments of its path, outermost first:
`resource.formats.gff` has three. The segments are kept as they are, also if one is empty or holds a
dot; only a name that is read from its dotted form is cut at the dots.

Every module of the origin has a place in the target, its *namespace*. The rules that give it are
tried in this order:

1. If the library's own name leads the path and something follows it, the name is dropped and the
   library rules decide on what follows.
2. If the alias of the utility package leads the path and something follows it, the alias becomes
   the utility namespace and what follows stays as it is.
3. Otherwise the library rules decide on the whole path.

The *library rules* see whether the path goes through the package of file formats. If it does, the
two segments of that package become the formats namespace, the name of the format is put into upper
case and what follows stays as it is. If it does not, every segment is put into title case.
-/

namespace Migration

/-! ## Modules -/

/-- The segments that name a module of the origin, outermost first. -/
structure ModulePath where
  segments : List String
deriving DecidableEq, Repr

namespace ModulePath

/-- The path of a dotted name: its parts between dots, empty ones left out. -/
def ofDotted (name : String) : ModulePath :=
  ⟨((name.toList.splitOn '.').filter fun part => !part.isEmpty).map String.ofList⟩

/-- The dotted name of a path. -/
def dotted (path : ModulePath) : String := ".".intercalate path.segments

/-- The outermost segment. -/
def first? (path : ModulePath) : Option String := path.segments.head?

/-- The number of segments. -/
def length (path : ModulePath) : Nat := path.segments.length

/-- Whether the path has no segment. -/
def isEmpty (path : ModulePath) : Bool := path.segments.isEmpty

end ModulePath

/-! ## Namespaces -/

/-- A place in the target: the segments of a namespace, outermost first. -/
structure Namespace where
  segments : List String
deriving DecidableEq, Repr

/-- The segments with `separator` between them. -/
def Namespace.render (place : Namespace) (separator : String) : String :=
  separator.intercalate place.segments

/-- The names that the mapping from modules to namespaces looks for and puts in. -/
structure NamespaceRules where
  /-- The name of the library, dropped at the front of a path. -/
  rootAlias : String := "pykotor"
  /-- The first segment of the modules that go to the utility namespace. -/
  utilityAlias : String := "utility"
  utilityNamespace : String := "Utility"
  /-- The two segments that a format's name follows. -/
  formatsPair : String × String := ("resource", "formats")
  formatsNamespace : String := "Formats"
  /-- What stands between the segments of a namespace when it is written. -/
  separator : String := "."
deriving DecidableEq, Repr

namespace NamespaceRules

/-- What follows the segment `name` at the front of a path, if that is not nothing. -/
def afterAlias? (name : String) : List String → Option (List String)
  | first :: next :: rest => if first = name then some (next :: rest) else none
  | _ => none

/-- The library rules: a path through the package of formats, or title case throughout. -/
def placeInLibrary (rules : NamespaceRules) : List String → Namespace
  | first :: second :: format :: rest =>
    if (first, second) = rules.formatsPair then
      ⟨rules.formatsNamespace :: Text.upperCase format :: rest⟩
    else ⟨(first :: second :: format :: rest).map Text.titleCase⟩
  | segments => ⟨segments.map Text.titleCase⟩

/-- The namespace of a module. -/
def place (rules : NamespaceRules) (path : ModulePath) : Namespace :=
  match afterAlias? rules.rootAlias path.segments with
  | some rest => rules.placeInLibrary rest
  | none =>
    match afterAlias? rules.utilityAlias path.segments with
    | some rest => ⟨rules.utilityNamespace :: rest⟩
    | none => rules.placeInLibrary path.segments

/-- The namespace of a module, written with the separator of the rules. -/
def render (rules : NamespaceRules) (path : ModulePath) : String :=
  (rules.place path).render rules.separator

end NamespaceRules

end Migration
