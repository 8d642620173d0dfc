import Migration.Module.Namespace
import Migration.Text.Dictionary

/-!
# The survey of modules

The survey lists the modules of the origin with the namespaces that they map to, and tells for each
whether the target has files there. Modules are grouped by their outermost segment.

A namespace is *covered* if a file of the target lies at it or beneath it. File paths and namespaces
are compared as they are written with the separator. The written paths are kept in order: if any of
them lies beneath a namespace, then so does the first one that is not before the namespace with a
separator at its end, so one look is enough.

The survey is made in one pass over the modules of the origin. It fills two tables: the rows by
outermost segment, and what is known of the namespaces so far, so that none is looked up twice.
-/

namespace Migration

open Text

/-- A module and where it goes. -/
structure SurveyRow where
  path : ModulePath
  place : String
  covered : Bool
deriving DecidableEq, Repr

/-- The modules that share an outermost segment. -/
structure SurveyGroup where
  top : String
  rows : List SurveyRow
deriving DecidableEq, Repr

/-- The modules of the origin and what the target has of them. -/
structure Survey where
  originCount : Nat
  targetCount : Nat
  /-- Groups in ascending order of their outermost segment, rows in that of their dotted name. -/
  groups : List SurveyGroup
  /-- The number of different namespaces. -/
  placeCount : Nat
  /-- The number of those that are covered. -/
  coveredCount : Nat
deriving DecidableEq, Repr

namespace Survey

/-- Whether one of the written paths, given in ascending order, lies at a namespace or beneath it.
    -/
def isCovered (written : List String) (separator place : String) : Bool :=
  written.contains place ||
    match written.find? fun path => ascending (place ++ separator) path with
    | some path => startsWith (place ++ separator) path
    | none => false

/-- The paths of the target's files as they are written, in ascending order. -/
def written (rules : NamespaceRules) (target : List ModulePath) : List String :=
  (target.map fun path => rules.separator.intercalate path.segments).mergeSort ascending

/-- What a pass over the modules of the origin has found. -/
structure Tables where
  /-- The rows by outermost segment, in the order of the origin. -/
  byTop : Dictionary (List SurveyRow) := .empty
  /-- Whether a namespace is covered. -/
  places : Dictionary Bool := .empty

/-- A step of the pass. A module without segments has no row. -/
def Tables.add (rules : NamespaceRules) (written : List String) (tables : Tables)
    (path : ModulePath) : Tables :=
  match path.first? with
  | none => tables
  | some top =>
    let place := rules.render path
    let covered := (tables.places.get? place).getD (isCovered written rules.separator place)
    let rows := (tables.byTop.get? top).getD []
    { byTop := tables.byTop.insert top (rows ++ [{ path, place, covered }])
      places := tables.places.insert place covered }

/-- The survey of the modules of the origin, given those of the target's files. -/
def build (rules : NamespaceRules) (origin target : List ModulePath) : Survey :=
  let tables := origin.foldl (Tables.add rules (written rules target)) {}
  { originCount := origin.length
    targetCount := target.length
    groups := tables.byTop.entries.map fun entry =>
      { top := entry.1
        rows := entry.2.mergeSort fun a b => ascending a.path.dotted b.path.dotted }
    placeCount := tables.places.entries.length
    coveredCount := (tables.places.entries.filter Prod.snd).length }

end Survey

end Migration
