import Migration.Settings.Basic
import Migration.Toml.Document

/-!
# Settings from a document

The document of the settings has a table for each kind of setting, and a key for each setting. What
is not given keeps its default. Keys and tables of other names are passed over.

A table may also be given as an array of its values, in the order in which they are listed here;
what is missing at its end keeps its default and what is too much is passed over. A date in the
place of a table gives nothing.
-/

namespace Migration.Settings

open Toml

/-- The values of the named fields in a table or in an array of values. Nothing is given back if the
    value cannot stand for fields, or if a number of another key is out of any range. -/
def fields? (names : List String) : Value → Option (List (Option Value))
  | .table _ entries =>
    if Value.fitsEntries (entries.filter fun entry => !names.contains entry.1) then
      some (names.map fun name => entries.lookup name)
    else none
  | .array _ items => some (names.zipIdx.map fun (_, position) => items[position]?)
  | .moment => some (names.map fun _ => none)
  | _ => none

/-- The value of a field, or its default if it is not given. -/
def field? {α : Type} (decode? : Value → Option α) (default : α) : Option Value → Option α
  | some value => decode? value
  | none => some default

/-- A text. -/
def text? : Value → Option String
  | .string text => some text
  | _ => none

/-- A path. -/
def path? (value : Value) : Option Path := (text? value).map .ofText

/-- A list of texts. -/
def texts? : Value → Option (List String)
  | .array _ items => items.mapM text?
  | _ => none

/-- Two texts; more of them are passed over. -/
def pair? : Value → Option (String × String)
  | .array _ (first :: second :: _) => do return (← text? first, ← text? second)
  | _ => none

/-- A count of at most 64 bits. -/
def count? : Value → Option Nat
  | .integer n => if 0 ≤ n && n.toNat < Nat.pow 2 64 then some n.toNat else none
  | _ => none

/-- The locations, from the table `paths`. -/
def locations? (value : Value) : Option Locations := do
  let default : Locations := {}
  match ← fields? ["origin_root", "origin_extension", "target_root", "target_extension",
      "origin_tests", "target_tests"] value with
  | [originRoot, originExtension, targetRoot, targetExtension, originTests, targetTests] =>
    return {
      originRoot := ← field? path? default.originRoot originRoot
      originExtension := ← field? text? default.originExtension originExtension
      targetRoot := ← field? path? default.targetRoot targetRoot
      targetExtension := ← field? text? default.targetExtension targetExtension
      originTests := ← field? path? default.originTests originTests
      targetTests := ← field? path? default.targetTests targetTests }
  | _ => none

/-- The rules of namespaces, from the table `mapping`. -/
def rules? (value : Value) : Option NamespaceRules := do
  let default : NamespaceRules := {}
  match ← fields? ["root_prefix", "utility_prefix", "utility_namespace", "formats_pair",
      "formats_namespace", "separator"] value with
  | [rootAlias, utilityAlias, utilityNamespace, formatsPair, formatsNamespace, separator] =>
    return {
      rootAlias := ← field? text? default.rootAlias rootAlias
      utilityAlias := ← field? text? default.utilityAlias utilityAlias
      utilityNamespace := ← field? text? default.utilityNamespace utilityNamespace
      formatsPair := ← field? pair? default.formatsPair formatsPair
      formatsNamespace := ← field? text? default.formatsNamespace formatsNamespace
      separator := ← field? text? default.separator separator }
  | _ => none

/-- How tests are named, from the table `indexer`. -/
def naming? (value : Value) : Option TestNaming := do
  let default : TestNaming := {}
  match ← fields? ["class_prefix", "function_prefix"] value with
  | [classPrefix, functionPrefix] =>
    return {
      classPrefix := ← field? text? default.classPrefix classPrefix
      functionPrefix := ← field? text? default.functionPrefix functionPrefix }
  | _ => none

/-- The one setting of a table that holds no other. -/
def single? {α : Type} (name : String) (decode? : Value → Option α) (default : α) (value : Value) :
    Option α := do
  match ← fields? [name] value with
  | [given] => field? decode? default given
  | _ => none

/-- The settings of a document. -/
def ofTable? (table : Table) : Option Settings := do
  let default : Settings := {}
  match ← fields? ["paths", "mapping", "indexer", "discovery", "report"] table.toValue with
  | [paths, mapping, indexer, discovery, report] =>
    return {
      locations := ← field? locations? default.locations paths
      rules := ← field? rules? default.rules mapping
      naming := ← field? naming? default.naming indexer
      ignore := ← field? (single? "ignore" texts? default.ignore) default.ignore discovery
      groupLimit := ← field? (single? "group_limit" count? default.groupLimit) default.groupLimit
        report }
  | _ => none

/-- The settings that a text gives, before values that cannot be used are replaced. -/
def parse? (text : String) : Option Settings := (Toml.parse? text).bind ofTable?

end Migration.Settings
