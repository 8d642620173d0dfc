import Migration.Index.Naming
import Migration.Index.Declaration
import Migration.Proofs.Text.Scan

/-!
# Names, headings and declarations as they are recognised

The patterns of the index recognise what the grammar of the origin asks for. A name has the given
beginning and goes on with word characters (`IsName`). The pattern of a name between an opening and
a closing recognises names (`recognises_enclosedName`), hence so do those of class headings and of
marks; the pattern of declarations recognises those that are put together from proper parts
(`Declaration.recognises_pattern`). The parts of a declaration are read one after the other, and
none can be read in two ways, since each ends at a character that cannot belong to it.
-/

namespace Migration

open Text

/-! ## Names -/

/-- A name that begins with `beginning`: word characters follow, at least one. -/
def IsName (beginning name : List Char) : Prop :=
  ∃ word, word ≠ [] ∧ (∀ c ∈ word, isWordChar c = true) ∧ name = beginning ++ word

theorem isName_iff {beginning name : List Char} : IsName beginning name ↔ beginning <+: name ∧
    name.drop beginning.length ≠ [] ∧ (name.drop beginning.length).all isWordChar = true := by
  constructor
  · rintro ⟨word, hne, hword, rfl⟩
    rw [List.drop_left]
    exact ⟨List.prefix_append _ _, hne, List.all_eq_true.2 hword⟩
  · rintro ⟨⟨word, rfl⟩, hne, hword⟩
    rw [List.drop_left] at hne hword
    exact ⟨word, hne, List.all_eq_true.1 hword, rfl⟩

instance (beginning name : List Char) : Decidable (IsName beginning name) :=
  decidable_of_iff _ isName_iff.symm

/-- A character that is no word character is in a name only if it is in its beginning. -/
theorem IsName.not_mem {beginning name : List Char} (h : IsName beginning name) {c : Char}
    (hc : isWordChar c = false) (hbeginning : c ∉ beginning) : c ∉ name := by
  obtain ⟨word, _, hword, rfl⟩ := h
  intro hmem
  rcases List.mem_append.1 hmem with hmem | hmem
  · exact hbeginning hmem
  · exact absurd (hword c hmem) (by rw [hc]; decide)

/-- The name that is read is followed by something that cannot belong to it. -/
theorem nameAt?_eq_some_iff {beginning text name rest : List Char} :
    nameAt? beginning text = some (name, rest) ↔
      IsName beginning name ∧ text = name ++ rest ∧ ∀ c ∈ rest.head?, isWordChar c = false := by
  simp only [nameAt?, Option.bind_eq_bind, Option.bind_eq_some_iff, after?_eq_some_iff]
  constructor
  · rintro ⟨behind, rfl, h⟩
    obtain ⟨word, rest', hrun, rfl, hword, hrest⟩ := exists_run isWordChar behind
    rw [hrun] at h
    split at h
    · exact absurd h (Option.some_ne_none _).symm
    · next hne =>
      rw [Option.some.injEq, Prod.mk.injEq] at h
      obtain ⟨rfl, rfl⟩ := h
      rw [List.isEmpty_iff] at hne
      exact ⟨⟨word, hne, hword, rfl⟩, (List.append_assoc ..).symm, hrest⟩
  · rintro ⟨⟨word, hne, hword, rfl⟩, rfl, hrest⟩
    refine ⟨word ++ rest, List.append_assoc .., ?_⟩
    rw [run_eq_iff.2 ⟨rfl, hword, hrest⟩, if_neg (by rwa [List.isEmpty_iff])]

/-- Between an opening and a character that ends names, exactly the names are recognised. -/
theorem recognises_enclosedName (opening beginning : List Char) {closing : Char}
    (hclosing : isWordChar closing = false) :
    (enclosedName opening beginning closing).Recognises (IsName beginning) where
  read?_eq_some_iff {text name} := by
    simp only [enclosedName, Option.bind_eq_bind, Option.bind_eq_some_iff, after?_eq_some_iff,
      Prod.exists, nameAt?_eq_some_iff, Option.pure_def, Option.some.injEq]
    constructor
    · rintro ⟨_, rfl, _, _, ⟨hname, rfl, _⟩, rest, rfl, rfl⟩
      exact ⟨hname, rest, by simp⟩
    · rintro ⟨hname, rest, rfl⟩
      refine ⟨name ++ closing :: rest, by simp, name, closing :: rest, ⟨hname, rfl, ?_⟩, rest, rfl,
        rfl⟩
      rintro c ⟨⟩
      exact hclosing
  written_ne_nil _ := List.append_ne_nil_of_right_ne_nil _ (List.cons_ne_nil _ _)

theorem ClassHeading.recognises_pattern (beginning : List Char) :
    (ClassHeading.pattern beginning).Recognises (IsName beginning) :=
  recognises_enclosedName _ _ (by decide)

/-! ## Declarations -/

namespace Declaration

/-- The spaces and tabs behind `async`, if it is there: at least one. -/
def AsyncGap (asyncGap : Option (List Char)) : Prop :=
  ∀ gap ∈ asyncGap, gap ≠ [] ∧ ∀ c ∈ gap, isIndent c = true

/-- The annotation of the result, if it is there: spaces and tabs before its arrow, and neither a
    colon nor a line feed behind it. -/
def Annotation (result : Option (List Char × List Char)) : Prop :=
  ∀ gap hint, result = some (gap, hint) →
    (∀ c ∈ gap, isIndent c = true) ∧ ∀ c ∈ hint, c ≠ ':' ∧ c ≠ '\n'

/-- A declaration with proper parts, of a function whose name begins with `beginning`. -/
structure Proper (beginning : List Char) (d : Declaration) : Prop where
  indent : ∀ c ∈ d.indent, isIndent c = true
  asyncGap : AsyncGap d.asyncGap
  name : IsName beginning d.name
  params : ')' ∉ d.params
  result : Annotation d.result

theorem asyncText_some (gap : List Char) : asyncText (some gap) = "async".toList ++ gap := rfl

/-- The text of a declaration up to the bracket that opens its parameters. -/
def opening (d : Declaration) : List Char :=
  d.indent ++ asyncText d.asyncGap ++ "def ".toList ++ d.name ++ ['(']

/-- The text of a declaration from the bracket that closes its parameters. -/
def closing (d : Declaration) : List Char := ')' :: (resultText d.result ++ [':'])

theorem written_eq (d : Declaration) : d.written = d.opening ++ (d.params ++ d.closing) := by
  simp [written, opening, closing]

namespace Proper

variable {beginning : List Char} {d : Declaration}

/-- Names apart, a declaration goes over to another line in its parameters only. -/
theorem lineFeed_not_mem_opening (h : d.Proper beginning) (hbeginning : '\n' ∉ beginning) :
    '\n' ∉ d.opening := by
  have hindent : '\n' ∉ d.indent := fun hmem => absurd (h.indent _ hmem) (by decide)
  have hasync : '\n' ∉ asyncText d.asyncGap := by
    cases hgap : d.asyncGap with
    | none => exact List.not_mem_nil
    | some gap =>
      rw [asyncText_some, List.mem_append, not_or]
      exact ⟨by decide, fun hmem => absurd ((h.asyncGap gap hgap).2 _ hmem) (by decide)⟩
  have hname := h.name.not_mem (by decide) hbeginning
  simp only [opening, List.mem_append, not_or]
  exact ⟨⟨⟨⟨hindent, hasync⟩, by decide⟩, hname⟩, by decide⟩

theorem not_mem_resultText (h : d.Proper beginning) {c : Char} (hc : c = ':' ∨ c = '\n') :
    c ∉ resultText d.result := by
  cases hresult : d.result with
  | none => exact List.not_mem_nil
  | some result =>
    obtain ⟨gap, hint⟩ := result
    obtain ⟨hgap, hhint⟩ := h.result gap hint hresult
    simp only [resultText, List.mem_append, not_or]
    refine ⟨⟨fun hmem => absurd (hgap c hmem) ?_, ?_⟩, fun hmem => ?_⟩
    · rcases hc with rfl | rfl <;> decide
    · rcases hc with rfl | rfl <;> decide
    · exact hc.elim (hhint c hmem).1 (hhint c hmem).2

theorem lineFeed_not_mem_closing (h : d.Proper beginning) : '\n' ∉ d.closing := by
  simp only [closing, List.mem_cons, List.mem_append, not_or]
  exact ⟨by decide, h.not_mem_resultText (.inr rfl), by decide⟩

end Proper

theorem readAsync?_sound {text rest : List Char} {asyncGap : Option (List Char)}
    (h : readAsync? text = some (asyncGap, rest)) :
    AsyncGap asyncGap ∧ text = asyncText asyncGap ++ rest := by
  rw [readAsync?] at h
  split at h
  · -- Without the word, nothing is read.
    rw [Option.some.injEq, Prod.mk.injEq] at h
    obtain ⟨rfl, rfl⟩ := h
    exact ⟨nofun, rfl⟩
  · next behind hafter =>
    obtain ⟨gap, rest', hrun, rfl, hgap, _⟩ := exists_run isIndent behind
    rw [hrun] at h
    simp only at h
    split at h
    · exact absurd h (Option.some_ne_none _).symm
    · next hne =>
      rw [Option.some.injEq, Prod.mk.injEq] at h
      obtain ⟨rfl, rfl⟩ := h
      rw [List.isEmpty_iff] at hne
      refine ⟨?_, ?_⟩
      · rintro gap ⟨⟩
        exact ⟨hne, hgap⟩
      · rw [after?_eq_some_iff.1 hafter, asyncText_some, List.append_assoc]

/-- What comes behind `async` starts with neither a blank nor the word itself. -/
theorem readAsync?_complete {asyncGap : Option (List Char)} (h : AsyncGap asyncGap)
    (rest : List Char) :
    readAsync? (asyncText asyncGap ++ ("def ".toList ++ rest)) =
      some (asyncGap, "def ".toList ++ rest) := by
  cases asyncGap with
  | none => rfl
  | some gap =>
    obtain ⟨hne, hgap⟩ := h gap rfl
    have hrun : run isIndent (gap ++ ("def ".toList ++ rest)) = (gap, "def ".toList ++ rest) :=
      run_eq_iff.2 ⟨rfl, hgap, by rintro c ⟨⟩; decide⟩
    rw [readAsync?, asyncText_some, List.append_assoc, after?_append]
    simp only [hrun]
    rw [if_neg (by rwa [List.isEmpty_iff])]

theorem readEnd?_sound {text : List Char} {result : Option (List Char × List Char)}
    (h : readEnd? text = some result) :
    Annotation result ∧ resultText result ++ [':'] <+: text := by
  obtain ⟨gap, behind, hrun, rfl, hgap, _⟩ := exists_run isIndent text
  simp only [readEnd?, hrun] at h
  split at h
  · next arrowed harrow =>
    rw [after?_eq_some_iff] at harrow
    obtain ⟨hint, colon, hhint, rfl, hkind, _⟩ :=
      exists_run (fun c => c != ':' && c != '\n') arrowed
    simp only [hhint] at h
    obtain ⟨rest, hrest, rfl⟩ := Option.map_eq_some_iff.1 h
    rw [after?_eq_some_iff] at hrest
    refine ⟨?_, rest, ?_⟩
    · rintro _ _ ⟨⟩
      exact ⟨hgap, fun c hc => by simpa using hkind c hc⟩
    · rw [harrow, hrest]
      simp [resultText]
  · -- Without an arrow, the colon stands at the very front.
    obtain ⟨rest, hrest, rfl⟩ := Option.map_eq_some_iff.1 h
    exact ⟨nofun, rest, (after?_eq_some_iff.1 hrest).symm⟩

theorem readEnd?_complete {result : Option (List Char × List Char)} (h : Annotation result)
    (rest : List Char) : readEnd? (resultText result ++ ':' :: rest) = some result := by
  cases result with
  | none => rfl
  | some result =>
    obtain ⟨gap, hint⟩ := result
    obtain ⟨hgap, hhint⟩ := h gap hint rfl
    have hrun : run isIndent (gap ++ ("->".toList ++ (hint ++ ':' :: rest))) =
        (gap, "->".toList ++ (hint ++ ':' :: rest)) :=
      run_eq_iff.2 ⟨rfl, hgap, by rintro c ⟨⟩; decide⟩
    have hrun' : run (fun c => c != ':' && c != '\n') (hint ++ ':' :: rest) = (hint, ':' :: rest) :=
      run_eq_iff.2 ⟨rfl, fun c hc => by simpa using hhint c hc, by rintro c ⟨⟩; decide⟩
    simp only [resultText, List.append_assoc]
    simp only [readEnd?, hrun, after?_append, hrun']
    rfl

/-- The text of a declaration and what follows, part by part. -/
theorem written_append (d : Declaration) (rest : List Char) :
    d.written ++ rest = d.indent ++ (asyncText d.asyncGap ++ ("def ".toList ++ (d.name ++
      (['('] ++ (d.params ++ ([')'] ++ (resultText d.result ++ ':' :: rest))))))) := by
  simp [written]

theorem read?_sound {beginning text : List Char} {d : Declaration}
    (h : (pattern beginning).read? text = some d) : Proper beginning d ∧ d.written <+: text := by
  obtain ⟨indent, rest, hindent, rfl, hblank, _⟩ := exists_run isIndent text
  simp only [pattern, hindent, Option.bind_eq_bind, Option.bind_eq_some_iff, after?_eq_some_iff,
    Prod.exists, nameAt?_eq_some_iff, Option.pure_def, Option.some.injEq] at h
  obtain ⟨asyncGap, _, hasync, _, rfl, name, _, ⟨hname, rfl, _⟩, listed, rfl, closed, hclosed,
    result, hresult, rfl⟩ := h
  obtain ⟨params, behind, hparams, rfl, hopen, _⟩ := exists_run (· != ')') listed
  simp only [hparams] at hclosed ⊢
  obtain ⟨hgap, rfl⟩ := readAsync?_sound hasync
  obtain ⟨hannot, rest, rfl⟩ := readEnd?_sound hresult
  refine ⟨⟨hblank, hgap, hname, fun hmem => ?_, hannot⟩, rest, ?_⟩
  · simpa using hopen _ hmem
  · rw [written_append, hclosed]
    simp

theorem read?_complete {beginning : List Char} {d : Declaration} (h : Proper beginning d)
    (rest : List Char) : (pattern beginning).read? (d.written ++ rest) = some d := by
  obtain ⟨hindent, hasync, hname, hparams, hresult⟩ := h
  -- Behind each part comes a character that cannot belong to it, so its reader stops there.
  have hrun : ∀ more,
      run isIndent (d.indent ++ (asyncText d.asyncGap ++ ("def ".toList ++ more))) =
        (d.indent, asyncText d.asyncGap ++ ("def ".toList ++ more)) := by
    intro more
    refine run_eq_iff.2 ⟨rfl, hindent, ?_⟩
    -- The next character is that of `async` or of `def`.
    cases d.asyncGap with
    | none => rintro c ⟨⟩; decide
    | some gap => rintro c ⟨⟩; decide
  have hlist : ∀ more,
      run (· != ')') (d.params ++ ([')'] ++ more)) = (d.params, [')'] ++ more) := by
    intro more
    refine run_eq_iff.2 ⟨rfl, fun c hc => ?_, by rintro c ⟨⟩; decide⟩
    rw [bne_iff_ne]
    rintro rfl
    exact hparams hc
  have hat : ∀ more, nameAt? beginning (d.name ++ (['('] ++ more)) = some (d.name, ['('] ++ more) :=
    fun more => nameAt?_eq_some_iff.2 ⟨hname, rfl, by rintro c ⟨⟩; decide⟩
  rw [written_append]
  simp only [pattern, hrun, readAsync?_complete hasync, after?_append, hat, hlist,
    readEnd?_complete hresult, Option.bind_eq_bind, Option.bind_some, Option.pure_def]

/-- A declaration starts with a blank, with `async` or with `def`. -/
theorem Proper.head?_ne {beginning : List Char} {d : Declaration} (h : d.Proper beginning)
    {c : Char} (hc : c ∉ [' ', '\t', 'a', 'd']) (rest : List Char) :
    (d.written ++ rest).head? ≠ some c := by
  simp only [List.mem_cons, List.not_mem_nil, or_false, not_or] at hc
  obtain ⟨hspace, htab, hasync, hdef⟩ := hc
  rw [written_append]
  obtain ⟨indent, asyncGap, name, params, result⟩ := d
  cases indent with
  | nil =>
    cases asyncGap with
    | none => rintro ⟨⟩; exact hdef rfl
    | some gap => rintro ⟨⟩; exact hasync rfl
  | cons c indent =>
    rintro ⟨⟩
    exact absurd (h.indent c List.mem_cons_self) (by simp [isIndent, hspace, htab])

/-- Exactly the declarations with proper parts are recognised. -/
theorem recognises_pattern (beginning : List Char) :
    (pattern beginning).Recognises (Proper beginning) where
  read?_eq_some_iff := ⟨read?_sound, fun ⟨h, rest, htext⟩ => htext ▸ read?_complete h rest⟩
  written_ne_nil _ := List.append_ne_nil_of_right_ne_nil _ (List.cons_ne_nil _ _)

end Declaration

end Migration
