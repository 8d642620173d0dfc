import Migration.Proofs.Index.Docstring
import Migration.Proofs.Index.Positions

/-!
# What documents a test

A test is documented by the text behind the colon of its declaration, up to the end of the source.
What the index keeps of it is the summary of the docstring that the grammar finds there, and nothing
if there is none (`indexTests_documented`).

Though that text holds all later tests as well, none of them lends its docstring to an earlier test
(`docstring_not_borrowed`): between the colon and the opening quotes there is nothing but blanks, a
comment on the line of the declaration and a letter, while the first character of a later test that
is no blank is that of `async` or of `def`.
-/

namespace Migration

open Text

variable {naming : TestNaming} {source : String}

/-- The declaration of the test ends where `front` ends, and `rest` follows it. -/
def IndexedTest.DeclaredUpTo (naming : TestNaming) (source : String) (test : IndexedTest)
    (front rest : String) : Prop :=
  source = front ++ rest ∧ ∃ text,
    DeclaredAt naming.functionPrefix source test.offset test.name test.params text ∧
    test.offset + text.utf8ByteSize = front.utf8ByteSize

/-- A test without parameters, whose declaration stands behind the text `above`. -/
theorem declaredUpTo_plain {test : IndexedTest} {above front rest : String}
    (hname : IsName naming.functionPrefix.toList test.name.toList) (hparams : test.params = "")
    (hstart : StartsLine above) (hoffset : above.utf8ByteSize = test.offset)
    (hfront : above ++ ("def " ++ test.name ++ "():") = front) (hsource : source = front ++ rest) :
    test.DeclaredUpTo naming source front rest := by
  subst hfront
  refine ⟨hsource, _, ⟨above, rest, hsource, hoffset, hstart, ?_⟩, ?_⟩
  · have hdeclares := @Declares.intro naming.functionPrefix.toList [] [] test.name.toList [] []
      nofun .absent hname nofun .absent
    rw [hparams]
    simpa using hdeclares
  · rw [← hoffset, ← String.utf8ByteSize_append]

/-- Where the declaration of a test ends, and what follows it, is told by the scan. -/
theorem declaredUpTo_iff {before : List Char} {found : Found Declaration}
    (h : Declaration.StandsIn naming source.toList before found) {front rest : String} :
    (testOf naming source found).DeclaredUpTo naming source front rest ↔
      front.toList = before ++ found.value.written ∧ rest.toList = found.rest := by
  have htext : source.toList = before ++ found.value.written ++ found.rest := by
    rw [h.text_eq, List.append_assoc]
    rfl
  constructor
  · rintro ⟨hsource, text, hdeclared, hend⟩
    have hlist : front.toList ++ rest.toList = source.toList := by
      rw [hsource, String.toList_append]
    rw [testOf_offset, h.text_eq_of_declaredAt hdeclared, ← byteLength_eq_utf8ByteSize,
      h.offset_eq, ← byteLength_append, ← byteLength_toList] at hend
    have hfront := eq_of_byteLength_eq ⟨_, hlist⟩ ⟨_, htext.symm⟩ hend.symm
    rw [htext, hfront, List.append_cancel_left_eq] at hlist
    exact ⟨hfront, hlist⟩
  · rintro ⟨hfront, hrest⟩
    refine ⟨?_, _, declaredAt_of_stands h, ?_⟩
    · rw [← String.toList_inj, String.toList_append, hfront, hrest, htext]
    · rw [testOf_offset, ← byteLength_eq_utf8ByteSize, ← byteLength_toList, hfront,
        byteLength_append, h.offset_eq]

theorem exists_declaredUpTo {before : List Char} {found : Found Declaration}
    (h : Declaration.StandsIn naming source.toList before found) :
    ∃ front rest, (testOf naming source found).DeclaredUpTo naming source front rest := by
  refine ⟨String.ofList (before ++ found.value.written), String.ofList found.rest, ?_⟩
  rw [declaredUpTo_iff h, String.toList_ofList, String.toList_ofList]
  exact ⟨rfl, rfl⟩

/-! ## The docstring of a test -/

/-- What documents a test, told by the text that follows its declaration: the summary of the
    docstring that the text holds, and nothing if it holds none. So it is one line, without blanks
    at its ends. -/
theorem indexTests_documented (naming : TestNaming) (source : String) :
    ∀ test ∈ indexTests naming source,
      (∃ front rest, test.DeclaredUpTo naming source front rest) ∧
      (∀ front rest, test.DeclaredUpTo naming source front rest →
        (∀ lead mark body, Docstring.Holds rest.toList lead mark body →
          Docstring.Summary body test.doc.toList ∧
          ((∀ c ∈ body, isBlank c = true) → test.doc = "")) ∧
        ((¬∃ lead mark body, Docstring.Holds rest.toList lead mark body) → test.doc = "")) ∧
      '\n' ∉ test.doc.toList ∧ IsTrimmed test.doc.toList := by
  intro test htest
  obtain ⟨found, hfound, rfl⟩ := mem_indexTests_iff.1 htest
  obtain ⟨before, hstands⟩ := Declaration.exists_standsIn hfound
  have hdoc : (testOf naming source found).doc = String.ofList (Docstring.line found.rest) := rfl
  refine ⟨exists_declaredUpTo hstands, ?_, ?_⟩
  · intro front rest hrest
    rw [(declaredUpTo_iff hstands).1 hrest |>.2, hdoc, String.toList_ofList]
    refine ⟨fun lead mark body hholds => ?_, fun hnone => ?_⟩
    · rw [Docstring.line_eq_firstLine hholds]
      refine ⟨Docstring.summary_firstLine body, fun hblank => ?_⟩
      exact congrArg String.ofList (Docstring.firstLine_of_blank hblank)
    · exact congrArg String.ofList (Docstring.line_eq_nil hnone)
  · rw [hdoc, String.toList_ofList]
    rcases Docstring.line_eq_nil_or_summary found.rest with hnil | ⟨body, hsummary⟩
    · rw [hnil]
      exact ⟨List.not_mem_nil, nofun, nofun⟩
    · exact ⟨hsummary.lineFeed_not_mem, hsummary.isTrimmed⟩

/-- A docstring behind a comment, of which the line ends with a carriage return, with quotes of the
    other kind inside. -/
theorem indexTests_documented_behind_comment :
    let lead := "  # why\r\n\n  r"
    let body := "\n   One \"\"\" two.\r\n  more ''  "
    let rest := lead ++ ("'''" ++ (body ++ "'''\n\ndef test_b(): pass\n"))
    let test : IndexedTest := ⟨"Unknown", "test_a", "", "One \"\"\" two.", 0, 1⟩
    test ∈ indexTests {} ("def test_a():" ++ rest) ∧
      test.DeclaredUpTo {} ("def test_a():" ++ rest) "def test_a():" rest ∧
      Docstring.Holds rest.toList lead.toList "'''".toList body.toList ∧
      Docstring.Summary body.toList "One \"\"\" two.".toList ∧
      '\n' ∉ "One \"\"\" two.".toList ∧ IsTrimmed "One \"\"\" two.".toList := by
  intro lead body rest test
  have hlead : lead.toList = _ := String.toList_ofList
  have hbody : body.toList = _ := String.toList_ofList
  have hrest : rest.toList =
      lead.toList ++ ("'''".toList ++ (body.toList ++ "'''\n\ndef test_b(): pass\n".toList)) := by
    rw [String.toList_append, String.toList_append, String.toList_append]
  have htest : test ∈ indexTests {} ("def test_a():" ++ rest) := by
    rw [indexTests, String.toList_append, hrest, hlead, hbody]
    repeat rw [String.toList_ofList]
    simp only [LineIndex.lineOf_ofText]
    decide
  have hdeclared : test.DeclaredUpTo {} ("def test_a():" ++ rest) "def test_a():" rest :=
    declaredUpTo_plain (isName_iff.2 (by decide)) rfl (.inl rfl) rfl rfl rfl
  have hholds : Docstring.Holds rest.toList lead.toList "'''".toList body.toList := by
    refine ⟨?_, by decide, _, hrest, Docstring.before?_eq_some_iff.1 ?_⟩
    · rw [hlead]
      exact @Docstring.Lead.intro [' ', ' '] ['#', ' ', 'w', 'h', 'y'] ['\r', '\n']
        ['\n', ' ', ' '] ['r'] (List.all_eq_true.1 (by decide)) (.present (by decide)) (by decide)
        (List.all_eq_true.1 (by decide)) (.present (by decide))
    · rw [hbody]
      repeat rw [String.toList_ofList]
      decide
  obtain ⟨_, hdoc, hline⟩ := indexTests_documented {} _ test htest
  exact ⟨htest, hdeclared, hholds, ((hdoc _ _ hdeclared).1 _ _ _ hholds).1, hline⟩

/-! ## Docstrings and later tests -/

/-- The first character of a declaration that is neither a space nor a tab is that of `async` or of
    `def`. -/
theorem Declaration.Proper.find?_written {beginning : List Char} {d : Declaration}
    (h : d.Proper beginning) (rest : List Char) :
    (d.written ++ rest).find? (!isIndent ·) = some 'a' ∨
      (d.written ++ rest).find? (!isIndent ·) = some 'd' := by
  have hindent : d.indent.find? (!isIndent ·) = none :=
    List.find?_eq_none.2 fun c hc => by simp [h.indent c hc]
  rw [Declaration.written_append, List.find?_append, hindent, Option.none_or]
  cases d.asyncGap with
  | none => exact .inr rfl
  | some gap => exact .inl rfl

/-- What follows a declaration, up to a later one and from there on. -/
theorem Declaration.StandsIn.rest_eq {text before inner : List Char}
    {found later : Found Declaration} (hfound : StandsIn naming text before found)
    (hlater : StandsIn naming text (before ++ found.value.written ++ inner) later) :
    found.rest = inner ++ (later.value.written ++ later.rest) := by
  have htext := hfound.text_eq.symm.trans hlater.text_eq
  rw [List.append_assoc, List.append_assoc, List.append_cancel_left_eq] at htext
  exact List.append_cancel_left htext

namespace Docstring

/-- Behind the end of the declaration's line, a lead has blanks and perhaps a letter. -/
theorem Lead.exists_behind {lead : List Char} (h : Lead lead) :
    ∃ line blanks kind, lead = line ++ '\n' :: (blanks ++ kind) ∧ '\n' ∉ line ∧
      (∀ c ∈ blanks, isBlank c = true) ∧ KindPart kind := by
  obtain @⟨indent, comment, ending, blanks, kind, hindent, hcomment, hending, hblanks, hkind⟩ := h
  have hindent' : '\n' ∉ indent := fun hmem => absurd (hindent _ hmem) (by decide)
  have hcomment' : '\n' ∉ comment := by
    cases hcomment with
    | absent => exact List.not_mem_nil
    | present hnote => exact List.not_mem_cons_of_ne_of_not_mem (by decide) hnote
  obtain ⟨more, hmore, rfl⟩ := exists_append_lineFeed hending
  refine ⟨indent ++ comment ++ more, blanks, kind, by simp, ?_, hblanks, hkind⟩
  simp only [List.mem_append, not_or]
  exact ⟨⟨hindent', hcomment'⟩, hmore⟩

/-- Between the end of the declaration's line and the end of the opening quotes, there are blanks,
    letters that mark a kind, and quotes. -/
theorem not_mem_behind {blanks kind mark : List Char} (hblanks : ∀ c ∈ blanks, isBlank c = true)
    (hkind : KindPart kind) (hmark : mark ∈ delimiters) {c : Char} (hblank : isBlank c = false)
    (hletter : c ∉ ['r', 'R', 'u', 'U']) (hquote : ∀ mark ∈ delimiters, c ∉ mark) :
    c ∉ blanks ++ kind ++ mark := by
  simp only [List.mem_append, not_or]
  refine ⟨⟨fun hmem => ?_, fun hmem => ?_⟩, hquote mark hmark⟩
  · exact absurd (hblanks c hmem) (by simp [hblank])
  · cases hkind with
    | absent => exact absurd hmem List.not_mem_nil
    | present h => exact hletter (List.mem_singleton.1 hmem ▸ h)

/-- Behind a line feed in a lead, the first character that is neither a space nor a tab does not
    start a declaration. -/
theorem Lead.find?_behind {lead mark front tail : List Char} (hlead : Lead lead)
    (hmark : mark ∈ delimiters) (h : lead ++ mark = front ++ '\n' :: tail) :
    ∃ c, c ∉ ['a', 'd'] ∧ tail.find? (!isIndent ·) = some c := by
  obtain ⟨quote, hquote, hfeed, hindent⟩ : ∃ quote, mark.getLast? = some quote ∧
      quote ≠ '\n' ∧ isIndent quote = false := by
    rcases List.mem_pair.1 hmark with rfl | rfl
    · exact ⟨_, rfl, by decide, by decide⟩
    · exact ⟨_, rfl, by decide, by decide⟩
  -- The last character behind the line feed is a quote, so there is a first one of that sort.
  have hlast : quote ∈ tail := by
    have hends : (front ++ '\n' :: tail).getLast? = some quote := by
      rw [← h, List.getLast?_append, hquote, Option.some_or]
    rcases List.eq_nil_or_concat' tail with rfl | ⟨most, last, rfl⟩
    · rw [List.getLast?_concat] at hends
      exact absurd (Option.some.inj hends).symm hfeed
    · rw [← List.cons_append, ← List.append_assoc, List.getLast?_concat] at hends
      exact Option.some.inj hends ▸ List.mem_append_right most List.mem_cons_self
  cases hfind : tail.find? (!isIndent ·) with
  | none => exact absurd hindent (by simpa using List.find?_eq_none.1 hfind quote hlast)
  | some c =>
    refine ⟨c, fun hstart => ?_, rfl⟩
    obtain ⟨line, blanks, kind, rfl, hline, hblanks, hkind⟩ := hlead.exists_behind
    rw [List.append_assoc, List.cons_append] at h
    have hmem := (suffix_of_mark hline h).subset (List.mem_of_find?_eq_some hfind)
    revert hmem
    rcases List.mem_pair.1 hstart with rfl | rfl
    · exact not_mem_behind hblanks hkind hmark (by decide) (by decide) (by decide)
    · exact not_mem_behind hblanks hkind hmark (by decide) (by decide) (by decide)

/-- The quotes that open a docstring come before any declaration that starts on a later line. -/
theorem Lead.append_mark_prefix {beginning lead mark behind between rest : List Char}
    {d : Declaration} (hlead : Lead lead) (hmark : mark ∈ delimiters) (hd : d.Proper beginning)
    (h : lead ++ (mark ++ behind) = between ++ ['\n'] ++ (d.written ++ rest)) :
    lead ++ mark <+: between ++ ['\n'] := by
  rw [← List.append_assoc] at h
  refine (List.prefix_or_prefix_of_prefix (List.prefix_append _ behind)
    (h ▸ List.prefix_append _ _)).elim id ?_
  rintro ⟨tail, htail⟩
  rw [← htail, List.append_assoc _ tail, List.append_cancel_left_eq] at h
  rw [List.append_assoc, List.singleton_append] at htail
  -- Otherwise the declaration starts inside of the lead.
  obtain ⟨c, hc, hfind⟩ := hlead.find?_behind hmark htail.symm
  have hfirst := hd.find?_written rest
  rw [← h, List.find?_append, hfind, Option.some_or, Option.some.injEq, Option.some.injEq] at hfirst
  exact absurd (List.mem_pair.2 hfirst) hc

end Docstring

/-- No test borrows the docstring of a later one. If a docstring is read behind a declaration, the
    quotes that open it stand before every later test, and before them there is nothing but a proper
    lead. So a test is not documented if there are no such quotes between it and a later test. -/
theorem docstring_not_borrowed (naming : TestNaming) (source : String) :
    (indexTests naming source).Pairwise fun test later =>
      (∃ front rest, test.DeclaredUpTo naming source front rest) ∧
      ∀ front rest, test.DeclaredUpTo naming source front rest →
        (∀ body, Docstring.body? rest.toList = some body →
          (∃ lead mark, Docstring.Holds rest.toList lead mark body) ∧
          ∀ lead mark, Docstring.Holds rest.toList lead mark body →
            front.utf8ByteSize + byteLength (lead ++ mark) ≤ later.offset) ∧
        ∀ between after, rest = between ++ after →
          (front ++ between).utf8ByteSize = later.offset →
          (∀ mark ∈ Docstring.delimiters, ¬mark <:+: between.toList) → test.doc = "" := by
  rw [indexTests_eq_map, List.pairwise_map]
  refine (Declaration.pairwise_between source.toList).imp ?_
  rintro found later ⟨before, inner, hfound, hlater⟩
  refine ⟨exists_declaredUpTo hfound, fun front rest hrest => ?_⟩
  obtain ⟨hfront, hrest⟩ := (declaredUpTo_iff hfound).1 hrest
  have hbehind := hrest.trans (hfound.rest_eq hlater)
  have hoffset : (testOf naming source later).offset =
      front.utf8ByteSize + byteLength (inner ++ ['\n']) := by
    rw [testOf_offset, hlater.offset_eq, byteLength_append, ← byteLength_toList, hfront]
  have hopened {lead mark body : List Char} (h : Docstring.Holds rest.toList lead mark body) :
      lead ++ mark <+: inner ++ ['\n'] := by
    obtain ⟨hlead, hmark, behind, htext, _⟩ := h
    exact hlead.append_mark_prefix hmark hlater.valid_value (htext.symm.trans hbehind)
  constructor
  · intro body hbody
    refine ⟨Docstring.body?_eq_some_iff.1 hbody, fun lead mark hholds => ?_⟩
    obtain ⟨more, hmore⟩ := hopened hholds
    rw [hoffset, ← hmore, byteLength_append (lead ++ mark), ← Nat.add_assoc]
    exact Nat.le_add_right _ _
  · intro between after hsplit hend hnone
    rw [hoffset, String.utf8ByteSize_append, Nat.add_left_cancel_iff, ← byteLength_toList] at hend
    have hbetween : between.toList = inner ++ ['\n'] :=
      eq_of_byteLength_eq ⟨after.toList, by rw [hsplit, String.toList_append]⟩
        ⟨_, hbehind.symm⟩ hend
    refine congrArg String.ofList (Docstring.line_eq_nil ?_)
    rintro ⟨lead, mark, body, hholds⟩
    rw [← hrest] at hholds
    refine hnone mark hholds.2.1 ?_
    rw [hbetween]
    exact (List.suffix_append lead mark).isInfix.trans (hopened hholds).isInfix

/-- The second of three tests stands between two docstrings and has none: the first docstring opens
    before it, and the other one is that of the third test. -/
theorem docstring_not_borrowed_by_middle :
    let opened := "One.'''\n\n"
    let below := "  # none\n\n" ++ "def test_c():\n  '''Three.'''\n"
    let rest := "\n  u" ++ ("'''" ++ (opened ++ ("def test_b():" ++ below)))
    let front := "def test_a():" ++ ("\n  u" ++ ("'''" ++ opened)) ++ "def test_b():"
    let source := "def test_a():" ++ rest
    let first : IndexedTest := ⟨"Unknown", "test_a", "", "One.", 0, 1⟩
    let middle : IndexedTest := ⟨"Unknown", "test_b", "", "", 29, 4⟩
    indexTests {} source = [first, middle, ⟨"Unknown", "test_c", "", "Three.", 52, 6⟩] ∧
    (first.DeclaredUpTo {} source "def test_a():" rest ∧
      Docstring.body? rest.toList = some "One.".toList ∧
      Docstring.Holds rest.toList "\n  u".toList "'''".toList "One.".toList ∧
      "def test_a():".utf8ByteSize + byteLength ("\n  u".toList ++ "'''".toList) ≤ middle.offset) ∧
    middle.DeclaredUpTo {} source front below ∧
      (∀ mark ∈ Docstring.delimiters, ¬mark <:+: "  # none\n\n".toList) ∧ middle.doc = "" := by
  intro opened below rest front source first middle
  have hrest : rest.toList = "\n  u".toList ++ ("'''".toList ++ (opened.toList ++
      ("def test_b():".toList ++ ("  # none\n\n".toList ++
        "def test_c():\n  '''Three.'''\n".toList)))) := by
    simp only [rest, below, String.toList_append]
  have htests : indexTests {} source =
      [first, middle, ⟨"Unknown", "test_c", "", "Three.", 52, 6⟩] := by
    rw [indexTests, String.toList_append, hrest]
    repeat rw [String.toList_ofList]
    simp only [LineIndex.lineOf_ofText]
    decide
  have hholds : Docstring.Holds rest.toList "\n  u".toList "'''".toList "One.".toList := by
    refine ⟨?_, by decide, _, hrest, Docstring.before?_eq_some_iff.1 ?_⟩
    · rw [String.toList_ofList]
      exact @Docstring.Lead.intro [] [] ['\n'] [' ', ' '] ['u'] (List.forall_mem_nil _) .absent
        (by decide) (List.all_eq_true.1 (by decide)) (.present (by decide))
    · repeat rw [String.toList_ofList]
      decide
  have hfirst : first.DeclaredUpTo {} source "def test_a():" rest :=
    declaredUpTo_plain (isName_iff.2 (by decide)) rfl (.inl rfl) rfl rfl rfl
  have hmiddle : middle.DeclaredUpTo {} source front below := by
    refine declaredUpTo_plain (isName_iff.2 (by decide)) rfl
      (.inr ⟨"def test_a():\n  u'''One.'''\n", by decide⟩) (by decide) rfl ?_
    simp only [source, rest, front, String.append_assoc]
  have hnone : ∀ mark ∈ Docstring.delimiters, ¬mark <:+: "  # none\n\n".toList := by decide
  have hbody := Docstring.body?_eq_some_iff.2 ⟨_, _, hholds⟩
  have hpairs := docstring_not_borrowed {} source
  rw [htests, List.pairwise_cons, List.pairwise_cons] at hpairs
  obtain ⟨hbefore, hafter, _⟩ := hpairs
  refine ⟨htests, ⟨hfirst, hbody, hholds, ?_⟩, hmiddle, hnone, ?_⟩
  · exact (((hbefore middle List.mem_cons_self).2 _ _ hfirst).1 _ hbody).2 _ _ hholds
  · exact ((hafter _ List.mem_cons_self).2 _ _ hmiddle).2 _ _ rfl (by decide) hnone

end Migration
