import Migration.Index.Docstring
import Migration.Proofs.Text.Trim

/-!
# The grammar of docstrings

What a docstring is, said without a reader: behind the colon of a declaration come spaces and tabs,
perhaps a comment, the end of the line, any blanks, perhaps a letter, and then three quotes
(`Lead`). The docstring goes from these quotes to the next place where the same three quotes stand
(`UpTo`), and of it the first line is kept, trimmed before and after it is cut off (`Summary`).

The parts before the quotes can be read in one way only, since each ends at a character that cannot
belong to it. So the reader, which never goes back, finds the docstring that the grammar asks for,
and finds none where there is none (`body?_eq_some_iff`).
-/

namespace Migration.Docstring

open Text

/-! ## The grammar -/

/-- What may stand between the colon of a declaration and the end of its line, apart from blanks:
    nothing, or a comment. -/
inductive CommentPart : List Char → Prop
  | absent : CommentPart []
  | present {note : List Char} : '\n' ∉ note → CommentPart ('#' :: note)

/-- What may mark the kind of a string: nothing, or a letter. -/
inductive KindPart : List Char → Prop
  | absent : KindPart []
  | present {letter : Char} : letter ∈ ['r', 'R', 'u', 'U'] → KindPart [letter]

/-- What may stand between the colon of a declaration and the quotes that open its docstring: spaces
    and tabs and perhaps a comment, up to the end of the line, then blanks, and perhaps a letter. -/
inductive Lead : List Char → Prop
  | intro {indent comment ending blanks kind : List Char} : (∀ c ∈ indent, isIndent c = true) →
      CommentPart comment → ending ∈ [['\n'], ['\r', '\n']] → (∀ c ∈ blanks, isBlank c = true) →
      KindPart kind → Lead (indent ++ comment ++ ending ++ (blanks ++ kind))

/-- The text goes on with `body` up to the first place where `mark` stands. -/
def UpTo (mark text body : List Char) : Prop :=
  body ++ mark <+: text ∧ ∀ earlier, earlier ++ mark <+: text → body <+: earlier

/-- The text that follows a declaration holds the docstring `body`: behind `lead` it is opened by
    the quotes `mark`, and it goes up to the place where `mark` stands next. -/
def Holds (text lead mark body : List Char) : Prop :=
  Lead lead ∧ mark ∈ delimiters ∧ ∃ behind, text = lead ++ (mark ++ behind) ∧ UpTo mark behind body

/-- The line that is kept of the docstring `body`: the first line of the trimmed text, trimmed. -/
def Summary (body line : List Char) : Prop :=
  ∃ trimmed first, Trims body trimmed ∧ IsFirstLine trimmed first ∧ Trims first line

/-! ## Reading docstrings -/

theorem isSome_after?_iff {mark text : List Char} :
    (after? mark text).isSome = true ↔ mark <+: text := by
  rw [Option.isSome_iff_exists]
  exact exists_congr fun rest => after?_eq_some_iff.trans eq_comm

/-- The text before a mark is read up to the first place where the mark stands. -/
theorem before?_eq_some_iff {mark text body : List Char} :
    before? mark text = some body ↔ UpTo mark text body := by
  induction text generalizing body with
  | nil =>
    rw [before?, UpTo, List.prefix_nil, List.append_eq_nil_iff]
    constructor
    · intro h
      split at h
      case isTrue hmark =>
        obtain rfl := Option.some.inj h
        exact ⟨⟨rfl, List.isEmpty_iff.1 hmark⟩, fun _ _ => List.nil_prefix⟩
      case isFalse => exact absurd h nofun
    · rintro ⟨⟨rfl, rfl⟩, _⟩
      rfl
  | cons c text ih =>
    by_cases hmark : mark <+: c :: text
    · rw [before?, if_pos (isSome_after?_iff.2 hmark), Option.some.injEq]
      constructor
      · rintro rfl
        exact ⟨hmark, fun _ _ => List.nil_prefix⟩
      · exact fun h => (List.prefix_nil.1 (h.2 [] hmark)).symm
    · rw [before?, if_neg (mt isSome_after?_iff.1 hmark), Option.map_eq_some_iff]
      -- The mark stands further back, so the text before it starts with `c`.
      constructor
      · rintro ⟨body, hbody, rfl⟩
        obtain ⟨hpre, hfirst⟩ := ih.1 hbody
        refine ⟨List.cons_prefix_cons.2 ⟨rfl, hpre⟩, fun earlier hearlier => ?_⟩
        cases earlier with
        | nil => exact absurd hearlier hmark
        | cons d earlier =>
          obtain ⟨rfl, hbehind⟩ := List.cons_prefix_cons.1 hearlier
          exact List.cons_prefix_cons.2 ⟨rfl, hfirst earlier hbehind⟩
      · rintro ⟨hpre, hfirst⟩
        cases body with
        | nil => exact absurd hpre hmark
        | cons d body =>
          obtain ⟨rfl, hbehind⟩ := List.cons_prefix_cons.1 hpre
          refine ⟨body, ih.2 ⟨hbehind, fun earlier hearlier => ?_⟩, rfl⟩
          have hcons := hfirst (d :: earlier) (List.cons_prefix_cons.2 ⟨rfl, hearlier⟩)
          exact (List.cons_prefix_cons.1 hcons).2

/-- The two delimiters start with different quotes, so there is no choice between them. -/
theorem quoted?_eq_some_iff {text body : List Char} :
    quoted? text = some body ↔
      ∃ mark ∈ delimiters, ∃ behind, text = mark ++ behind ∧ UpTo mark behind body := by
  simp only [← before?_eq_some_iff, ← after?_eq_some_iff, ← Option.bind_eq_some_iff]
  constructor
  · exact List.exists_of_findSome?_eq_some
  · rintro ⟨mark, hmark, hbody⟩
    rw [quoted?, delimiters]
    simp only [List.findSome?_cons, List.findSome?_nil]
    rcases List.mem_pair.1 hmark with rfl | rfl
    · rw [hbody]
    · obtain ⟨behind, htext, _⟩ := Option.bind_eq_some_iff.1 hbody
      obtain rfl := after?_eq_some_iff.1 htext
      have hother : after? "\"\"\"".toList ("'''".toList ++ behind) = none := rfl
      rw [hother, hbody]
      rfl

/-- The end of a line is a line feed, with or without something before it. -/
theorem exists_append_lineFeed {ending : List Char} (h : ending ∈ [['\n'], ['\r', '\n']]) :
    ∃ more, '\n' ∉ more ∧ ending = more ++ ['\n'] := by
  rcases List.mem_pair.1 h with rfl | rfl
  · exact ⟨[], by decide, rfl⟩
  · exact ⟨['\r'], by decide, rfl⟩

/-- What follows the line of a declaration is read if nothing is left of that line but spaces, tabs
    and a comment. -/
theorem nextLine?_eq_some_iff {text rest : List Char} :
    nextLine? text = some rest ↔ ∃ indent comment ending,
      text = indent ++ comment ++ ending ++ rest ∧ (∀ c ∈ indent, isIndent c = true) ∧
      CommentPart comment ∧ ending ∈ [['\n'], ['\r', '\n']] := by
  constructor
  · intro h
    obtain ⟨indent, behind, hrun, rfl, hindent, -⟩ := exists_run isIndent text
    have hdrop : (indent ++ behind).dropWhile isIndent = behind := congrArg Prod.snd hrun
    rw [nextLine?, hdrop] at h
    refine ⟨indent, ?_⟩
    split at h
    case h_1 comment =>
      obtain ⟨note, tail, hnote, rfl, hkind, _⟩ := exists_run (· != '\n') comment
      have htail : (note ++ tail).dropWhile (· != '\n') = tail := congrArg Prod.snd hnote
      rw [htail, after?_eq_some_iff] at h
      refine ⟨'#' :: note, ['\n'], by simp [h], hindent, .present fun hmem => ?_, by decide⟩
      simpa using hkind _ hmem
    case h_2 =>
      obtain rfl := Option.some.inj h
      exact ⟨[], ['\r', '\n'], by simp, hindent, .absent, by decide⟩
    case h_3 =>
      obtain rfl := Option.some.inj h
      exact ⟨[], ['\n'], by simp, hindent, .absent, by decide⟩
    case h_4 => exact absurd h nofun
  · rintro ⟨indent, comment, ending, rfl, hindent, hcomment, hending⟩
    have hdrop {behind : List Char} (hbehind : ∀ c ∈ behind.head?, isIndent c = false) :
        (indent ++ behind).dropWhile isIndent = behind :=
      congrArg Prod.snd (run_eq_iff.2 ⟨rfl, hindent, hbehind⟩)
    cases hcomment with
    | absent =>
      rcases List.mem_pair.1 hending with rfl | rfl
      · rw [nextLine?, List.append_assoc, List.append_assoc, hdrop (by rintro c ⟨⟩; decide)]
        rfl
      · rw [nextLine?, List.append_assoc, List.append_assoc, hdrop (by rintro c ⟨⟩; decide)]
        rfl
    | @present note hnote =>
      -- The comment takes a carriage return with it, if there is one.
      obtain ⟨more, hfeed, rfl⟩ := exists_append_lineFeed hending
      have hline : run (· != '\n') (note ++ more ++ '\n' :: rest) =
          (note ++ more, '\n' :: rest) := by
        refine run_eq_iff.2 ⟨rfl, fun c hc => ?_, by rintro c ⟨⟩; decide⟩
        rw [bne_iff_ne]
        rintro rfl
        exact (List.mem_append.1 hc).elim hnote hfeed
      have htail : (note ++ more ++ '\n' :: rest).dropWhile (· != '\n') = '\n' :: rest :=
        congrArg Prod.snd hline
      have htext : indent ++ '#' :: note ++ (more ++ ['\n']) ++ rest =
          indent ++ '#' :: (note ++ more ++ '\n' :: rest) := by
        simp
      rw [nextLine?, htext, hdrop (by rintro c ⟨⟩; decide)]
      simp only [htail]
      rfl

/-- Before the quotes stands a letter that marks the kind of the string, or nothing. -/
theorem exists_kindPart (text : List Char) :
    ∃ kind, KindPart kind ∧ text = kind ++ dropKind text := by
  cases text with
  | nil => exact ⟨[], .absent, rfl⟩
  | cons c text =>
    rw [dropKind]
    split
    case isTrue hc => exact ⟨[c], .present (by simpa [or_assoc] using hc), rfl⟩
    case isFalse => exact ⟨[], .absent, rfl⟩

/-- Neither blanks nor the letter of a kind reach into the quotes behind them. -/
theorem dropKind_trimStart {blanks kind mark : List Char} (hblanks : ∀ c ∈ blanks, isBlank c = true)
    (hkind : KindPart kind) (hmark : mark ∈ delimiters) (behind : List Char) :
    dropKind (trimStart (blanks ++ kind ++ (mark ++ behind))) = mark ++ behind := by
  have hquotes : ∀ c ∈ (mark ++ behind).head?, isBlank c = false := by
    rcases List.mem_pair.1 hmark with rfl | rfl
    · rintro c ⟨⟩; decide
    · rintro c ⟨⟩; decide
  cases hkind with
  | absent =>
    rw [List.append_nil, trimStart_append hblanks hquotes]
    rcases List.mem_pair.1 hmark with rfl | rfl
    · rfl
    · rfl
  | @present letter hletter =>
    have hhead : ∀ c ∈ (letter :: (mark ++ behind)).head?, isBlank c = false := by
      rintro c ⟨⟩
      have hall : ['r', 'R', 'u', 'U'].all (!isBlank ·) = true := by decide
      simpa using List.all_eq_true.1 hall letter hletter
    rw [List.append_assoc, List.singleton_append, trimStart_append hblanks hhead, dropKind,
      if_pos (by simpa [or_assoc] using hletter)]

/-- The docstring that is read is the one that the text holds. -/
theorem body?_eq_some_iff {text body : List Char} :
    body? text = some body ↔ ∃ lead mark, Holds text lead mark body := by
  rw [body?, Option.bind_eq_some_iff]
  constructor
  · rintro ⟨rest, hline, hquoted⟩
    obtain ⟨indent, comment, ending, rfl, hindent, hcomment, hending⟩ :=
      nextLine?_eq_some_iff.1 hline
    obtain ⟨blanks, string, hrun, rfl, hblanks, -⟩ := exists_run isBlank rest
    have hstring : trimStart (blanks ++ string) = string := congrArg Prod.snd hrun
    obtain ⟨kind, hkind, hrest⟩ := exists_kindPart string
    obtain ⟨mark, hmark, behind, hbehind, hbody⟩ := quoted?_eq_some_iff.1 hquoted
    rw [hstring] at hbehind
    refine ⟨_, mark, .intro hindent hcomment hending hblanks hkind, hmark, behind, ?_, hbody⟩
    rw [hrest, hbehind]
    simp only [List.append_assoc]
  · rintro ⟨_, mark, ⟨hindent, hcomment, hending, hblanks, hkind⟩, hmark, behind, rfl, hbody⟩
    refine ⟨_, nextLine?_eq_some_iff.2
      ⟨_, _, _, List.append_assoc .., hindent, hcomment, hending⟩, ?_⟩
    rw [dropKind_trimStart hblanks hkind hmark]
    exact quoted?_eq_some_iff.2 ⟨mark, hmark, behind, rfl, hbody⟩

/-! ## The line that is kept -/

theorem summary_firstLine (body : List Char) : Summary body (firstLine body) :=
  ⟨trim body, _, trims_trim body, isFirstLine_takeWhile _, trims_trim _⟩

theorem firstLine_of_blank {body : List Char} (h : ∀ c ∈ body, isBlank c = true) :
    firstLine body = [] := by
  have hnil : trim body = [] :=
    trim_eq_iff.2 ⟨body, [], by simp, h, nofun, ⟨nofun, nofun⟩⟩
  rw [firstLine, hnil]
  rfl

theorem Summary.lineFeed_not_mem {body line : List Char} (h : Summary body line) :
    '\n' ∉ line := by
  obtain ⟨_, first, _, ⟨hfirst, _⟩, front, back, rfl, _⟩ := h
  exact fun hmem => hfirst (List.mem_append_left _ (List.mem_append_right _ hmem))

theorem Summary.isTrimmed {body line : List Char} (h : Summary body line) : IsTrimmed line := by
  obtain ⟨_, _, _, _, _, _, _, _, _, hline⟩ := h
  exact hline

theorem line_eq_firstLine {text lead mark body : List Char} (h : Holds text lead mark body) :
    line text = firstLine body := by
  rw [line, body?_eq_some_iff.2 ⟨lead, mark, h⟩]

theorem line_eq_nil {text : List Char} (h : ¬∃ lead mark body, Holds text lead mark body) :
    line text = [] := by
  cases hbody : body? text with
  | none => rw [line, hbody]
  | some body =>
    obtain ⟨lead, mark, hholds⟩ := body?_eq_some_iff.1 hbody
    exact absurd ⟨lead, mark, body, hholds⟩ h

/-- What documents a declaration is the summary of a docstring, or nothing. -/
theorem line_eq_nil_or_summary (text : List Char) :
    line text = [] ∨ ∃ body, Summary body (line text) := by
  by_cases h : ∃ lead mark body, Holds text lead mark body
  · obtain ⟨lead, mark, body, hholds⟩ := h
    rw [line_eq_firstLine hholds]
    exact .inr ⟨body, summary_firstLine body⟩
  · exact .inl (line_eq_nil h)

theorem lineFeed_not_mem_line (text : List Char) : '\n' ∉ line text := by
  rcases line_eq_nil_or_summary text with hnil | ⟨body, hsummary⟩
  · rw [hnil]
    exact List.not_mem_nil
  · exact hsummary.lineFeed_not_mem

end Migration.Docstring
