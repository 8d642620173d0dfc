import Migration.Proofs.Index.ClassAssociation
import Migration.Proofs.Text.Lines

/-!
# The grammar of declarations

What a declaration is, said without a reader: a line that starts with some spaces and tabs, then
perhaps `async`, then `def` with the name and the parameters in brackets, then perhaps the
annotation of the result, and a colon (`Declares`). The index lists what the grammar asks for, and
all of it (`indexTests_sound_and_complete`): every test stands in the source as the grammar has it,
and every line at which the grammar holds is that of a test, unless it lies inside of the text of a
test before, such as in a list of parameters that goes over several lines.
-/

namespace Migration

open Text

/-- What may stand between the indentation and `def`: nothing, or `async` and a gap. -/
inductive AsyncPart : List Char → Prop
  | absent : AsyncPart []
  | present {gap : List Char} : gap ≠ [] → (∀ c ∈ gap, isIndent c = true) →
      AsyncPart ("async".toList ++ gap)

/-- What may stand between the parameters and the colon: nothing, or an arrow and a text on the
    same line. -/
inductive ResultPart : List Char → Prop
  | absent : ResultPart []
  | present {gap hint : List Char} : (∀ c ∈ gap, isIndent c = true) →
      (∀ c ∈ hint, c ≠ ':' ∧ c ≠ '\n') → ResultPart (gap ++ "->".toList ++ hint)

/-- The grammar of declarations: the text of the declaration of `name` with the parameters
    `params`, where names begin with `beginning`. -/
inductive Declares (beginning : List Char) : (name params text : List Char) → Prop
  | intro {indent async name params result : List Char} : (∀ c ∈ indent, isIndent c = true) →
      AsyncPart async → IsName beginning name → ')' ∉ params → ResultPart result →
      Declares beginning name params
        (indent ++ async ++ "def ".toList ++ name ++ ['('] ++ params ++ [')'] ++ result ++ [':'])

/-- What follows `before` starts a line. -/
def StartsLine (before : String) : Prop := before = "" ∨ ∃ lines, before = lines ++ "\n"

/-- At the byte `offset` of the source text, at the start of a line, stands `text`, which declares
    `name` with the parameters `params`. -/
def DeclaredAt (beginning source : String) (offset : Nat) (name params text : String) : Prop :=
  ∃ before after, source = before ++ text ++ after ∧ before.utf8ByteSize = offset ∧
    StartsLine before ∧ Declares beginning.toList name.toList params.toList text.toList

/-! ## The grammar and the pattern -/

theorem startsLine_iff_admits {before : String} :
    StartsLine before ↔ Pattern.admits (· == '\n') before.toList = true := by
  constructor
  · rintro (rfl | ⟨lines, rfl⟩)
    · rfl
    · rw [String.toList_append]
      exact Pattern.admits_concat _ _ '\n'
  · intro h
    rcases List.eq_nil_or_concat' before.toList with hnil | ⟨lines, c, hlines⟩
    · exact .inl (String.toList_eq_nil_iff.1 hnil)
    · rw [hlines, Pattern.admits_concat, beq_iff_eq] at h
      refine .inr ⟨String.ofList lines, ?_⟩
      rw [← String.toList_inj, hlines, h, String.toList_append, String.toList_ofList]
      rfl

theorem asyncPart_iff {text : List Char} :
    AsyncPart text ↔
      ∃ asyncGap, Declaration.AsyncGap asyncGap ∧ Declaration.asyncText asyncGap = text := by
  constructor
  · rintro (_ | ⟨hne, hgap⟩)
    · exact ⟨none, nofun, rfl⟩
    · refine ⟨some _, ?_, rfl⟩
      rintro gap ⟨⟩
      exact ⟨hne, hgap⟩
  · rintro ⟨_ | gap, h, rfl⟩
    · exact .absent
    · exact .present (h gap rfl).1 (h gap rfl).2

theorem resultPart_iff {text : List Char} :
    ResultPart text ↔
      ∃ result, Declaration.Annotation result ∧ Declaration.resultText result = text := by
  constructor
  · rintro (_ | ⟨hgap, hhint⟩)
    · exact ⟨none, nofun, rfl⟩
    · refine ⟨some (_, _), ?_, rfl⟩
      rintro gap hint ⟨⟩
      exact ⟨hgap, hhint⟩
  · rintro ⟨_ | ⟨gap, hint⟩, h, rfl⟩
    · exact .absent
    · exact .present (h gap hint rfl).1 (h gap hint rfl).2

/-- The grammar gives the texts of the declarations with proper parts. -/
theorem declares_iff {beginning name params text : List Char} :
    Declares beginning name params text ↔ ∃ d : Declaration,
      d.Proper beginning ∧ d.name = name ∧ d.params = params ∧ d.written = text := by
  constructor
  · rintro ⟨hindent, hasync, hname, hparams, hresult⟩
    obtain ⟨asyncGap, hgap, rfl⟩ := asyncPart_iff.1 hasync
    obtain ⟨result, hannot, rfl⟩ := resultPart_iff.1 hresult
    exact ⟨⟨_, asyncGap, _, _, result⟩, ⟨hindent, hgap, hname, hparams, hannot⟩, rfl, rfl, rfl⟩
  · rintro ⟨d, hd, rfl, rfl, rfl⟩
    exact .intro hd.indent (asyncPart_iff.2 ⟨_, hd.asyncGap, rfl⟩) hd.name hd.params
      (resultPart_iff.2 ⟨_, hd.result, rfl⟩)

/-- Where the grammar holds, a declaration with proper parts stands in the source. -/
theorem declaredAt_iff {beginning source name params text : String} {offset : Nat} :
    DeclaredAt beginning source offset name params text ↔ ∃ before after, ∃ d : Declaration,
      source.toList = before ++ (d.written ++ after) ∧ byteLength before = offset ∧
      Pattern.admits (· == '\n') before = true ∧ d.Proper beginning.toList ∧
      name = String.ofList d.name ∧ params = String.ofList d.params ∧
      text = String.ofList d.written := by
  constructor
  · rintro ⟨before, after, rfl, rfl, hline, hdeclares⟩
    obtain ⟨d, hd, hname, hparams, htext⟩ := declares_iff.1 hdeclares
    refine ⟨before.toList, after.toList, d, ?_, byteLength_toList before,
      startsLine_iff_admits.1 hline, hd, ?_, ?_, ?_⟩
    · rw [String.toList_append, String.toList_append, htext, List.append_assoc]
    · rw [hname, String.ofList_toList]
    · rw [hparams, String.ofList_toList]
    · rw [htext, String.ofList_toList]
  · rintro ⟨before, after, d, hsource, rfl, hadm, hd, rfl, rfl, rfl⟩
    refine ⟨String.ofList before, String.ofList after, ?_, (byteLength_eq_utf8ByteSize before).symm,
      startsLine_iff_admits.2 (by rwa [String.toList_ofList]), ?_⟩
    · rw [← String.toList_inj, hsource]
      simp
    · simp only [String.toList_ofList]
      exact declares_iff.2 ⟨d, hd, rfl, rfl, rfl⟩

/-! ## The index and the grammar -/

/-- Where the pattern matches, the source text is as the grammar has it. -/
theorem declaredAt_of_stands {beginning source : String} {before : List Char}
    {found : Found Declaration}
    (h : (Declaration.pattern beginning.toList).Stands (Declaration.Proper beginning.toList)
      (· == '\n') source.toList before found) :
    DeclaredAt beginning source found.offset (String.ofList found.value.name)
      (String.ofList found.value.params) (String.ofList found.value.written) :=
  declaredAt_iff.2 ⟨before, found.rest, found.value, h.text_eq, h.offset_eq.symm, h.admitted,
    h.valid_value, rfl, rfl, rfl⟩

/-- If a declaration starts inside of the text of another, it starts before the colon of that: what
    is left of the other is more than its colon, with which no declaration starts. -/
theorem byteLength_succ_lt_of_covers {beginning source front inner tail more : List Char}
    {found : Found Declaration} {d : Declaration}
    (h : (Declaration.pattern beginning).Covers (Declaration.Proper beginning) (· == '\n') source
      front inner tail found)
    (hd : d.Proper beginning) (hsource : source = front ++ inner ++ (d.written ++ more)) :
    byteLength inner + 1 < byteLength found.value.written := by
  have hwritten : found.value.written = inner ++ tail := h.written_eq
  have htail := h.tail_append hsource
  obtain ⟨most, last, rfl⟩ := (List.eq_nil_or_concat' tail).resolve_left h.tail_ne_nil
  have hlast : last = ':' := by
    rw [Declaration.written, ← List.append_assoc] at hwritten
    exact (List.head_eq_of_cons_eq (List.append_inj' hwritten rfl).2).symm
  cases most with
  | nil =>
    -- Only the colon is left, so the declaration would start with it.
    rw [hlast] at htail
    exact absurd (congrArg List.head? htail).symm (hd.head?_ne (by decide) more)
  | cons c most =>
    rw [hwritten, byteLength_append, byteLength_append]
    have := byteLength_pos (List.cons_ne_nil c most)
    have := byteLength_pos (List.cons_ne_nil last [])
    omega

/-- The index and the grammar agree. Every test stands in the source as the grammar has it. And
    where the grammar holds, there is a test, or the place lies inside of the text of a test that
    starts before, and before the colon of that. -/
theorem indexTests_sound_and_complete (naming : TestNaming) (source : String) :
    (∀ test ∈ indexTests naming source, ∃ text,
      DeclaredAt naming.functionPrefix source test.offset test.name test.params text) ∧
    ∀ offset name params text, DeclaredAt naming.functionPrefix source offset name params text →
      (∃ test ∈ indexTests naming source,
        test.offset = offset ∧ test.name = name ∧ test.params = params) ∨
      ∃ test ∈ indexTests naming source, test.offset < offset ∧ ∃ around,
        DeclaredAt naming.functionPrefix source test.offset test.name test.params around ∧
        offset + 1 < test.offset + around.utf8ByteSize := by
  have hp := Declaration.recognises_pattern naming.functionPrefix.toList
  have hscan := Pattern.scans_scanLines hp source.toList
  constructor
  · intro test htest
    obtain ⟨found, hfound, rfl⟩ := mem_indexTests_iff.1 htest
    obtain ⟨before, _, hstands⟩ := hscan.stands hfound
    exact ⟨_, declaredAt_of_stands hstands⟩
  · intro offset name params text h
    obtain ⟨before, after, d, hsource, rfl, hadm, hd, rfl, rfl, rfl⟩ := declaredAt_iff.1 h
    rcases hscan.complete hp List.nil_prefix hsource hadm hd with
      ⟨found, hfound, hstands, rfl⟩ | ⟨found, hfound, front, inner, tail, rfl, hcovers⟩
    · exact .inl ⟨_, mem_indexTests_iff.2 ⟨found, hfound, rfl⟩, hstands.offset_eq, rfl, rfl⟩
    · refine .inr ⟨_, mem_indexTests_iff.2 ⟨found, hfound, rfl⟩, ?_, _,
        declaredAt_of_stands hcovers.stands, ?_⟩
      · rw [testOf_offset, hcovers.stands.offset_eq]
        exact byteLength_lt hcovers.inner_ne_nil
      · have hlt := byteLength_succ_lt_of_covers hcovers hd hsource
        rw [testOf_offset, hcovers.stands.offset_eq, byteLength_append,
          ← byteLength_eq_utf8ByteSize]
        omega

/-- A declaration among the parameters of another: the index has the outer one, and the inner one
    lies inside of it. -/
theorem indexTests_complete_at_nested :
    DeclaredAt "test_" "def test_a(\ndef test_b(x):\n" 12 "test_b" "x" "def test_b(x):" ∧
    (∃ text, DeclaredAt "test_" "def test_a(\ndef test_b(x):\n" 0 "test_a" "\ndef test_b(x" text) ∧
    ∃ test ∈ indexTests {} "def test_a(\ndef test_b(x):\n", test.offset < 12 ∧ ∃ around,
      DeclaredAt "test_" "def test_a(\ndef test_b(x):\n" test.offset test.name test.params around ∧
      12 + 1 < test.offset + around.utf8ByteSize := by
  have hinner :
      DeclaredAt "test_" "def test_a(\ndef test_b(x):\n" 12 "test_b" "x" "def test_b(x):" := by
    refine ⟨"def test_a(\n", "\n", rfl, rfl, .inr ⟨"def test_a(", rfl⟩, ?_⟩
    exact @Declares.intro _ [] [] ['t', 'e', 's', 't', '_', 'b'] ['x'] [] nofun .absent
      (by decide) (by decide) .absent
  have houter : (⟨"Unknown", "test_a", "\ndef test_b(x", "", 0, 1⟩ : IndexedTest) ∈
      indexTests {} "def test_a(\ndef test_b(x):\n" := by
    rw [indexTests, String.toList_ofList]
    simp only [LineIndex.lineOf_ofText]
    decide
  have hnone : ¬∃ test ∈ indexTests {} "def test_a(\ndef test_b(x):\n",
      test.offset = 12 ∧ test.name = "test_b" ∧ test.params = "x" := by
    rw [indexTests, String.toList_ofList]
    simp only [LineIndex.lineOf_ofText]
    decide
  refine ⟨hinner, (indexTests_sound_and_complete _ _).1 _ houter, ?_⟩
  exact ((indexTests_sound_and_complete _ _).2 _ _ _ _ hinner).resolve_left hnone

end Migration
