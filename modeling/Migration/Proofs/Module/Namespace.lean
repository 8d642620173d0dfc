import Migration.Module.Namespace
import Migration.Proofs.Text.TitleCase

/-!
# Namespaces of modules further inside

Which rule places a module is told by its first segments, so the modules of a package are placed by
the rule that places the package, and their namespaces lie inside its namespace: with more segments
at its end, a path has the namespace that it had, followed by what becomes of these segments
(`place_append`).

The package of file formats is where this fails. A path that stops short of a format's name is put
into title case, and a path that goes on is not: `resource.formats` becomes `Resource.Formats`, but
`resource.formats.gff` becomes `Formats.GFF`. The same holds of `resource` alone. A path `IsSettled`
if it has at least two segments and does not stop there.

Which rule it is can be read off the front of such a path (`isUtility_iff`, `isFormat_iff`): further
segments stay as they are behind the alias of the utility package or the two segments of the package
of formats, and are put into title case everywhere else. With a separator that has no letters, it
does not matter there if title case is put in before or after the segments are written as one text
(`render_eq_titleCase`).
-/

namespace Migration.NamespaceRules

variable (rules : NamespaceRules)

/-- The segments that are left when the library's own name has been dropped from the front, if it
    stands there. -/
def libraryPart (path : ModulePath) : List String :=
  (afterAlias? rules.rootAlias path.segments).getD path.segments

/-- The path has at least two segments and, without the library's own name, is not one of the two
    beginnings of a path to a format. -/
structure IsSettled (path : ModulePath) : Prop where
  two_le_length : 2 ≤ path.length
  ne_package : rules.libraryPart path ≠ [rules.formatsPair.1]
  ne_pair : rules.libraryPart path ≠ [rules.formatsPair.1, rules.formatsPair.2]

/-- Whether the path goes to the utility namespace. -/
def isUtility (path : ModulePath) : Bool :=
  (afterAlias? rules.rootAlias path.segments).isNone &&
    (afterAlias? rules.utilityAlias path.segments).isSome

/-- Whether the segments name a format. -/
def isFormat : List String → Bool
  | first :: second :: _ :: _ => (first, second) = rules.formatsPair
  | _ => false

/-- What becomes of further segments at the end of a path. -/
def placeInside (path : ModulePath) (inner : List String) : List String :=
  if rules.isUtility path || rules.isFormat (rules.libraryPart path) then inner
  else inner.map Text.titleCase

theorem length_placeInside (path : ModulePath) (inner : List String) :
    (rules.placeInside path inner).length = inner.length := by
  rw [placeInside]
  split
  · rfl
  · exact List.length_map _

/-! ## The library rules -/

theorem placeInLibrary_of_isFormat {first second format : String} {rest : List String}
    (h : rules.isFormat (first :: second :: format :: rest) = true) :
    rules.placeInLibrary (first :: second :: format :: rest) =
      ⟨rules.formatsNamespace :: Text.upperCase format :: rest⟩ := by
  rw [placeInLibrary, if_pos (of_decide_eq_true h)]

theorem placeInLibrary_of_not_isFormat {segments : List String}
    (h : rules.isFormat segments = false) :
    rules.placeInLibrary segments = ⟨segments.map Text.titleCase⟩ := by
  unfold placeInLibrary
  split
  · rw [if_neg (of_decide_eq_false h)]
  · rfl

/-- Further segments do not make a path one to a format, unless it is the beginning of one. -/
theorem isFormat_append {segments : List String} (hne : segments ≠ [])
    (hpackage : segments ≠ [rules.formatsPair.1])
    (hpair : segments ≠ [rules.formatsPair.1, rules.formatsPair.2]) (inner : List String) :
    rules.isFormat (segments ++ inner) = rules.isFormat segments := by
  match segments with
  | [] => exact absurd rfl hne
  | [first] =>
    have hfirst : first ≠ rules.formatsPair.1 := fun heq => hpackage (by rw [heq])
    match inner with
    | [] => rfl
    | [_] => rfl
    | second :: _ :: _ =>
      exact decide_eq_false fun heq => hfirst (congrArg Prod.fst heq)
  | [first, second] =>
    match inner with
    | [] => rfl
    | _ :: _ =>
      exact decide_eq_false fun heq => hpair (by rw [← heq])
  | _ :: _ :: _ :: _ => rfl

theorem placeInLibrary_append {segments : List String} (hne : segments ≠ [])
    (hpackage : segments ≠ [rules.formatsPair.1])
    (hpair : segments ≠ [rules.formatsPair.1, rules.formatsPair.2]) (inner : List String) :
    (rules.placeInLibrary (segments ++ inner)).segments =
      (rules.placeInLibrary segments).segments ++
        if rules.isFormat segments then inner else inner.map Text.titleCase := by
  have happend := rules.isFormat_append hne hpackage hpair inner
  cases h : rules.isFormat segments with
  | false =>
    rw [rules.placeInLibrary_of_not_isFormat h,
      rules.placeInLibrary_of_not_isFormat (happend.trans h)]
    exact List.map_append
  | true =>
    match segments with
    | first :: second :: format :: rest =>
      rw [rules.placeInLibrary_of_isFormat h]
      exact congrArg Namespace.segments (rules.placeInLibrary_of_isFormat (happend.trans h))

/-! ## All rules -/

/-- Two segments are enough to see which alias leads a path. -/
theorem afterAlias?_append (name : String) {segments : List String} (h : 2 ≤ segments.length)
    (inner : List String) :
    afterAlias? name (segments ++ inner) = (afterAlias? name segments).map (· ++ inner) := by
  match segments with
  | first :: next :: rest =>
    simp only [List.cons_append, afterAlias?]
    split <;> rfl

theorem ne_nil_of_afterAlias? {name : String} {segments rest : List String}
    (h : afterAlias? name segments = some rest) : rest ≠ [] := by
  unfold afterAlias? at h
  split at h
  · split at h
    · cases h
      exact List.cons_ne_nil _ _
    · cases h
  · cases h

/-- The namespace of a module further inside a package lies inside the namespace of the package. -/
theorem place_append {path : ModulePath} (h : rules.IsSettled path) (inner : List String) :
    (rules.place ⟨path.segments ++ inner⟩).segments =
      (rules.place path).segments ++ rules.placeInside path inner := by
  have hroot := afterAlias?_append rules.rootAlias h.two_le_length inner
  have hutility := afterAlias?_append rules.utilityAlias h.two_le_length inner
  obtain ⟨htwo, hpackage, hpair⟩ := h
  -- One case for each rule, in their order.
  cases hr : afterAlias? rules.rootAlias path.segments with
  | some rest =>
    simp only [libraryPart, hr, Option.getD_some] at hpackage hpair
    simp only [place, placeInside, isUtility, libraryPart, hroot, hr, Option.map_some,
      Option.isNone_some, Option.getD_some, Bool.false_and, Bool.false_or]
    exact rules.placeInLibrary_append (ne_nil_of_afterAlias? hr) hpackage hpair inner
  | none =>
    simp only [libraryPart, hr, Option.getD_none] at hpackage hpair
    cases hu : afterAlias? rules.utilityAlias path.segments with
    | some rest =>
      simp only [place, placeInside, isUtility, hroot, hutility, hr, hu, Option.map_none,
        Option.map_some, Option.isNone_none, Option.isSome_some, Bool.and_self, Bool.true_or,
        if_true, List.cons_append]
    | none =>
      have hne : path.segments ≠ [] :=
        List.ne_nil_of_length_pos (Nat.lt_of_lt_of_le Nat.two_pos htwo)
      simp only [place, placeInside, isUtility, libraryPart, hroot, hutility, hr, hu,
        Option.map_none, Option.isSome_none, Option.getD_none, Bool.and_false, Bool.false_or]
      exact rules.placeInLibrary_append hne hpackage hpair inner

/-! ## Telling the rule from the front of a path -/

theorem isSome_afterAlias? (name : String) {segments : List String} (h : 2 ≤ segments.length) :
    (afterAlias? name segments).isSome = true ↔ segments.head? = some name := by
  match segments with
  | first :: next :: rest =>
    rw [afterAlias?, List.head?_cons, Option.some.injEq]
    by_cases hfirst : first = name
    · simp [hfirst]
    · simp [hfirst]

theorem isUtility_iff {path : ModulePath} (h : 2 ≤ path.length) :
    rules.isUtility path = true ↔
      path.segments.head? = some rules.utilityAlias ∧
        path.segments.head? ≠ some rules.rootAlias := by
  rw [isUtility, Bool.and_eq_true, isSome_afterAlias? _ h, ← Option.not_isSome, Bool.not_eq_true',
    ← Bool.not_eq_true, isSome_afterAlias? _ h, and_comm]

theorem isFormat_iff {segments : List String}
    (h : segments ≠ [rules.formatsPair.1, rules.formatsPair.2]) :
    rules.isFormat segments = true ↔ [rules.formatsPair.1, rules.formatsPair.2] <+: segments := by
  match segments with
  | [] => simp [isFormat]
  | [first] => simp [isFormat]
  | [first, second] =>
    have hne : ¬[rules.formatsPair.1, rules.formatsPair.2] <+: [first, second] :=
      fun hstart => h (hstart.eq_of_length rfl).symm
    simp [isFormat, hne]
  | first :: second :: format :: rest =>
    rw [isFormat, decide_eq_true_iff, List.cons_prefix_cons, List.cons_prefix_cons, Prod.ext_iff]
    simp [eq_comm]

/-- A path with further segments has the namespace of the path, followed by these segments: as they
    are, if the alias of the utility package or the package of formats leads the path, and in title
    case otherwise. -/
theorem place_extends (rules : NamespaceRules) {path : ModulePath} (h : rules.IsSettled path)
    (inner : List String) :
    let utility := path.segments.head? = some rules.utilityAlias ∧
      path.segments.head? ≠ some rules.rootAlias
    let format := [rules.formatsPair.1, rules.formatsPair.2] <+: rules.libraryPart path
    let further := (rules.place ⟨path.segments ++ inner⟩).segments
    (utility ∨ format → further = (rules.place path).segments ++ inner) ∧
      (¬(utility ∨ format) →
        further = (rules.place path).segments ++ inner.map Text.titleCase) ∧
      (rules.place path).segments <+: further := by
  intro utility format further
  have happend : further = (rules.place path).segments ++ rules.placeInside path inner :=
    rules.place_append h inner
  have hrule : (rules.isUtility path || rules.isFormat (rules.libraryPart path)) = true ↔
      utility ∨ format := by
    rw [Bool.or_eq_true, rules.isUtility_iff h.two_le_length, rules.isFormat_iff h.ne_pair]
  refine ⟨fun hverbatim => ?_, fun htitle => ?_, ?_⟩
  · rw [happend, placeInside, if_pos (hrule.2 hverbatim)]
  · rw [happend, placeInside, if_neg fun hverbatim => htitle (hrule.1 hverbatim)]
  · exact ⟨_, happend.symm⟩

/-- The library has the name of the utility package here, so the alias is dropped and the rest is
    put into title case. -/
theorem place_extends_at_shared_alias :
    let rules : NamespaceRules := { rootAlias := "utility" }
    let path : ModulePath := ⟨["utility", "io"]⟩
    rules.IsSettled path ∧
      (rules.place ⟨["utility", "io", "byte_stream"]⟩).segments = ["Io", "Byte_Stream"] := by
  intro rules path
  have hsettled : rules.IsSettled path := ⟨by decide, by decide, by decide⟩
  have htitle := (place_extends rules hsettled ["byte_stream"]).2.1 (by decide)
  exact ⟨hsettled, htitle.trans (by decide)⟩

/-! ## Written namespaces -/

/-- A module with a segment has a namespace with a segment. -/
theorem place_ne_nil {path : ModulePath} (h : path.segments ≠ []) :
    (rules.place path).segments ≠ [] := by
  have hlibrary {segments : List String} (hne : segments ≠ []) :
      (rules.placeInLibrary segments).segments ≠ [] := by
    unfold placeInLibrary
    split
    · split
      · exact List.cons_ne_nil _ _
      · exact List.cons_ne_nil _ _
    · exact fun hnil => hne (List.map_eq_nil_iff.1 hnil)
  unfold place
  split
  case h_1 rest hr => exact hlibrary (ne_nil_of_afterAlias? hr)
  case h_2 =>
    split
    · exact List.cons_ne_nil _ _
    · exact hlibrary h

/-- A module further inside a package is written as the package, a separator and the rest. -/
theorem render_append {path : ModulePath} (h : rules.IsSettled path) {inner : List String}
    (hinner : inner ≠ []) :
    rules.render ⟨path.segments ++ inner⟩ =
      rules.render path ++ rules.separator ++
        rules.separator.intercalate (rules.placeInside path inner) := by
  have houter : (rules.place path).segments ≠ [] :=
    rules.place_ne_nil (List.ne_nil_of_length_pos (Nat.lt_of_lt_of_le Nat.two_pos h.two_le_length))
  have hplaced : rules.placeInside path inner ≠ [] := by
    rw [← List.length_pos_iff, length_placeInside]
    exact List.length_pos_iff.2 hinner
  rw [render, Namespace.render, rules.place_append h,
    String.intercalate_append_of_ne_nil houter hplaced]
  rfl

/-- Where neither of the rules for single packages applies, every segment is put into title case. -/
theorem place_of_title {path : ModulePath} (hutility : rules.isUtility path = false)
    (hformat : rules.isFormat (rules.libraryPart path) = false) :
    rules.place path = ⟨(rules.libraryPart path).map Text.titleCase⟩ := by
  rw [← rules.placeInLibrary_of_not_isFormat hformat]
  cases hr : afterAlias? rules.rootAlias path.segments with
  | some rest => simp only [place, libraryPart, hr, Option.getD_some]
  | none =>
    rw [isUtility, hr, Option.isNone_none, Bool.true_and, Option.isSome_eq_false_iff,
      Option.isNone_iff_eq_none] at hutility
    simp only [place, libraryPart, hr, hutility, Option.getD_none]

/-- Title case can be put in before or after segments are written with a separator, if there is one
    and it has no letters: a module to which neither of the rules for single packages applies is
    written as the title case of its segments, with the separator between them. -/
theorem render_eq_titleCase :
    (∀ (rules : NamespaceRules) (path : ModulePath), rules.separator ≠ "" →
      (∀ c ∈ rules.separator.toList, Text.isAlphabetic c = false) →
      rules.isUtility path = false → rules.isFormat (rules.libraryPart path) = false →
        rules.render path =
          Text.titleCase (rules.separator.intercalate (rules.libraryPart path))) ∧
    ∀ (a b : String) (c : Char), Text.isAlphabetic c = false →
      Text.titleCase (a ++ String.singleton c ++ b) =
        Text.titleCase a ++ String.singleton c ++ Text.titleCase b := by
  refine ⟨fun rules path hne hplain hutility hformat => ?_, fun a b c hc => ?_⟩
  · rw [render, rules.place_of_title hutility hformat, Text.titleCase_intercalate hne hplain]
    rfl
  · refine Text.titleCase_append_separator (by simp) (fun d hd => ?_) a b
    rw [String.toList_singleton, List.mem_singleton] at hd
    rwa [hd]

/-- Segments behind the library's name, of which one is empty and one gets longer. -/
theorem render_eq_titleCase_of_longer :
    let rules : NamespaceRules := { separator := "::" }
    let path : ModulePath := ⟨["pykotor", "ßa", "", "io_gff"]⟩
    rules.separator ≠ "" ∧ (∀ c ∈ rules.separator.toList, Text.isAlphabetic c = false) ∧
      rules.isUtility path = false ∧ rules.isFormat (rules.libraryPart path) = false ∧
      Text.titleCase "ßa::::io_gff" = "SSa::::Io_Gff" ∧
      rules.render path = Text.titleCase "ßa::::io_gff" ∧
      Text.titleCase ("ßa" ++ String.singleton ':' ++ "io_gff") =
        Text.titleCase "ßa" ++ String.singleton ':' ++ Text.titleCase "io_gff" := by
  intro rules path
  have hne : rules.separator ≠ "" := by decide
  have hcolons : rules.separator.toList.all (!Text.isAlphabetic ·) = true := by decide
  have hplain : ∀ c ∈ rules.separator.toList, Text.isAlphabetic c = false := fun c hc => by
    simpa using List.all_eq_true.1 hcolons c hc
  have hutility : rules.isUtility path = false := by decide
  have hformat : rules.isFormat (rules.libraryPart path) = false := by decide
  exact ⟨hne, hplain, hutility, hformat, by decide,
    render_eq_titleCase.1 rules path hne hplain hutility hformat,
    render_eq_titleCase.2 "ßa" "io_gff" ':' (by decide)⟩

end Migration.NamespaceRules
