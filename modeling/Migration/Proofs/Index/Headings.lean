import Mathlib.Data.List.Forall2
import Migration.Proofs.Index.Context

/-!
# Class headings, line by line

The scan for class headings goes over the whole text, and takes the text of a heading out of it
before it goes on. If names of classes have no line feed in their beginning, that comes to the same
as a look at every line by itself: the headings that are found are those of the lines that open with
one (`Heads`), in the order of the lines, and each stands where its line starts
(`scan_line_by_line`).

A line holds one heading at most, since only its start is the start of a line
(`isOn_of_mem_scan`). The other lines do not matter for it (`scan_append`).
-/

namespace Migration.ClassHeading

open Text

/-- The line starts with the heading of the class `name`, whose name begins with `beginning`. -/
def Heads (beginning line name : List Char) : Prop :=
  IsName beginning name ∧ "class ".toList ++ name ++ [':'] <+: line

theorem read?_eq_some_iff_heads {beginning line name : List Char} :
    (pattern beginning).read? line = some name ↔ Heads beginning line name :=
  (recognises_pattern beginning).read?_eq_some_iff

/-- The line starts with a heading. -/
def HasHeading (beginning : List Char) (line : Line) : Prop :=
  ∃ name, Heads beginning line.content name

instance (beginning : List Char) : DecidablePred (HasHeading beginning) := fun line =>
  decidable_of_iff (((pattern beginning).read? line.content).isSome = true) <| by
    rw [Option.isSome_iff_exists]
    exact exists_congr fun _ => read?_eq_some_iff_heads

/-- The heading is the one that the line starts with. -/
def IsOn (beginning : List Char) (line : Line) (heading : ClassHeading) : Prop :=
  heading.offset = line.offset ∧ Heads beginning line.content heading.name.toList

/-- A line that is moved back keeps its heading, which moves with it. -/
theorem IsOn.shifted {beginning : List Char} {line : Line} {heading : ClassHeading}
    (h : IsOn beginning line heading) (bytes : Nat) :
    IsOn beginning (line.shifted bytes) (heading.shifted bytes) :=
  ⟨congrArg (· + bytes) h.1, h.2⟩

/-! ## One line -/

variable {naming : TestNaming}

/-- A heading at the front of a text is found. -/
theorem mem_scan_of_heads {text name : List Char}
    (h : Heads naming.classPrefix.toList text name) :
    ⟨0, String.ofList name⟩ ∈ scan naming text := by
  have hp := recognises_pattern naming.classPrefix.toList
  obtain ⟨hname, rest, htext⟩ := h
  have hfront : [] ++ text = [] ++ ((pattern naming.classPrefix.toList).written name ++ rest) :=
    htext.symm
  rcases (Pattern.scans_scanLines hp text).complete hp List.nil_prefix hfront rfl hname with
    ⟨found, hfound, hstands, rfl⟩ | ⟨_, _, front, inner, _, hnil, hcovers⟩
  · exact List.mem_map.2 ⟨found, hfound, by rw [hstands.offset_eq]; rfl⟩
  · exact absurd (List.append_eq_nil_iff.1 hnil.symm).2 hcovers.inner_ne_nil

section

variable (hclass : '\n' ∉ naming.classPrefix.toList)

include hclass

/-- All headings of one line are the one that it starts with. -/
theorem isOn_of_mem_scan {line ending : List Char} (hline : '\n' ∉ line)
    (hending : ending <+: ['\n']) {heading : ClassHeading}
    (h : heading ∈ scan naming (line ++ ending)) :
    IsOn naming.classPrefix.toList ⟨0, line⟩ heading := by
  have hp := recognises_pattern naming.classPrefix.toList
  obtain ⟨found, hfound, rfl⟩ := List.mem_map.1 h
  obtain ⟨before, _, htext, hoffset, hadm, hname⟩ :=
    (Pattern.scans_scanLines hp (line ++ ending)).stands hfound
  rw [List.nil_append] at htext
  have hbefore : before = [] := by
    -- Behind the line feed there is nothing left for a heading.
    refine by_contra fun hne => ?_
    obtain ⟨front, last, rfl⟩ := (List.eq_nil_or_concat' before).resolve_left hne
    rw [Pattern.admits_concat, beq_iff_eq] at hadm
    obtain ⟨more, hmore⟩ := hending
    have hmark := congrArg (· ++ more) htext
    simp only [List.append_assoc, hmore, hadm, List.singleton_append] at hmark
    have hnil := List.suffix_nil.1 (suffix_of_mark hline hmark)
    exact hp.written_ne_nil hname (List.append_eq_nil_iff.1 (List.append_eq_nil_iff.1 hnil).1).1
  subst hbefore
  rw [IsOn, Heads, String.toList_ofList]
  refine ⟨hoffset, hname, ?_⟩
  have hwritten : (pattern naming.classPrefix.toList).written found.value <+: line ++ ending :=
    htext ▸ List.prefix_append _ _
  refine (List.prefix_or_prefix_of_prefix hwritten (List.prefix_append line ending)).elim id ?_
  rintro ⟨more, hmore⟩
  -- What the heading has more than the line is in the ending, so it is nothing.
  rw [← hmore, List.prefix_append_right_inj] at hwritten
  have hnil : more = [] := by
    refine List.eq_nil_iff_forall_not_mem.2 fun c hc => oneLine_pattern hclass hname ?_
    rw [← hmore, ← List.mem_singleton.1 ((hwritten.trans hending).subset hc)]
    exact List.mem_append_right _ hc
  rw [hnil, List.append_nil] at hmore
  exact hmore ▸ List.prefix_refl _

/-- One line has the heading that it starts with, if there is one, and no other. -/
theorem forall₂_scan_line {line ending : List Char} (hline : '\n' ∉ line)
    (hending : ending <+: ['\n']) :
    List.Forall₂ (IsOn naming.classPrefix.toList)
      ([⟨0, line⟩].filter (HasHeading naming.classPrefix.toList))
      (scan naming (line ++ ending)) := by
  have hall (heading) (h : heading ∈ scan naming (line ++ ending)) :=
    isOn_of_mem_scan hclass hline hending h
  by_cases hheads : HasHeading naming.classPrefix.toList ⟨0, line⟩
  · rw [List.filter_cons_of_pos (by simpa using hheads), List.filter_nil]
    obtain ⟨name, hname, hpre⟩ := hheads
    have hmem := mem_scan_of_heads ⟨hname, hpre.trans (List.prefix_append line ending)⟩
    have hlt := pairwise_scan naming (line ++ ending)
    cases hscan : scan naming (line ++ ending) with
    | nil => exact absurd (hscan ▸ hmem) List.not_mem_nil
    | cons heading more =>
      rw [hscan] at hall hlt
      -- A second heading would stand further back.
      cases more with
      | nil => exact .cons (hall heading List.mem_cons_self) .nil
      | cons other more =>
        have hfirst := (hall heading List.mem_cons_self).1
        have hsecond := (hall other (List.mem_cons_of_mem _ List.mem_cons_self)).1
        have := (List.pairwise_cons.1 hlt).1 other List.mem_cons_self
        omega
  · rw [List.filter_cons_of_neg (by simpa using hheads), List.filter_nil,
      List.forall₂_nil_left_iff, List.eq_nil_iff_forall_not_mem]
    exact fun heading h => hheads ⟨_, (hall heading h).2⟩

/-! ## All lines -/

theorem forall₂_scan (text : List Char) :
    List.Forall₂ (IsOn naming.classPrefix.toList)
      ((linesOf text).filter (HasHeading naming.classPrefix.toList)) (scan naming text) := by
  induction hn : text.length using Nat.strongRecOn generalizing text with
  | ind n ih =>
    by_cases hfeed : '\n' ∈ text
    · obtain ⟨line, rest, rfl, hline⟩ := List.eq_append_cons_of_mem hfeed
      let bytes := byteLength (line ++ ['\n'])
      have hscan : scan naming (line ++ '\n' :: rest) =
          scan naming (line ++ ['\n']) ++ (scan naming rest).map (shifted bytes) := by
        rw [List.append_cons]
        exact scan_append hclass (Pattern.admits_concat _ line '\n') rest
      have hfirst := forall₂_scan_line hclass hline (List.prefix_refl ['\n'])
      have hrest := ih rest.length (by simp at hn; omega) rest rfl
      have hmoved :=
        List.rel_map (fun line heading (h : IsOn _ line heading) => h.shifted bytes) hrest
      rw [hscan, linesOf_append, linesOf_of_not_mem hline, List.filter_append, List.filter_map]
      exact List.rel_append hfirst hmoved
    · have hlast := forall₂_scan_line hclass hfeed List.nil_prefix
      rwa [List.append_nil, ← linesOf_of_not_mem hfeed] at hlast

end

/-- The headings of a source text are those of its lines, one for each line that starts with a
    heading, in the order of the lines and at the place where the line starts. -/
theorem scan_line_by_line (naming : TestNaming) (source : String)
    (hclass : '\n' ∉ naming.classPrefix.toList) :
    List.Forall₂
        (fun line heading => heading.offset = line.offset ∧
          Heads naming.classPrefix.toList line.content heading.name.toList)
        ((linesOf source.toList).filter (HasHeading naming.classPrefix.toList))
        (scan naming source.toList) ∧
      (scan naming source.toList).Pairwise fun a b => a.offset < b.offset :=
  ⟨forall₂_scan hclass source.toList, pairwise_scan naming source.toList⟩

/-- Names of classes that begin with letters of several bytes, a colon and a space. The third line
    is indented, so it has no heading. -/
theorem scan_line_by_line_behind_accents :
    let naming : TestNaming := { classPrefix := "Té: " }
    let source := "# é\nclass Té: a:b:\n class Té: c:\r\nclass Té: d:\n"
    '\n' ∉ naming.classPrefix.toList ∧
      (linesOf source.toList).map Line.offset = [0, 5, 21, 37, 51] ∧
      scan naming source.toList = [⟨5, "Té: a"⟩, ⟨37, "Té: d"⟩] ∧
      List.Forall₂
        (fun line heading => heading.offset = line.offset ∧
          Heads naming.classPrefix.toList line.content heading.name.toList)
        ((linesOf source.toList).filter (HasHeading naming.classPrefix.toList))
        (scan naming source.toList) := by
  intro naming source
  have hclass : '\n' ∉ naming.classPrefix.toList := by decide
  have hsource : source.toList = _ := String.toList_ofList
  have hlines : (linesOf source.toList).map Line.offset = [0, 5, 21, 37, 51] := by
    rw [hsource]
    decide
  have hscan : scan naming source.toList = [⟨5, "Té: a"⟩, ⟨37, "Té: d"⟩] := by
    rw [hsource]
    decide
  exact ⟨hclass, hlines, hscan, (scan_line_by_line naming source hclass).1⟩

end Migration.ClassHeading
