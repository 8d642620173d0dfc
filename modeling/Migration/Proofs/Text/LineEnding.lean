import Mathlib.Data.List.Forall2
import Migration.Proofs.Text.Concatenation
import Migration.Text.CodeSet

/-!
# Line endings

A line ends at a line feed, and some editors write a carriage return before it. `crlf` writes a text
in that way. What is read in the two forms of a text is the same, since the carriage return is never
the last character that a pattern asks for: what is written without a line feed stands in one form
where it stands in the other (`crlf_eq_append`), and a run of characters of some kind ends in both
at the same place if the kind does not tell the two line breaks apart (`run_crlf`).

A pattern whose values can be told in both forms (`Pattern.CrlfInvariant`) has the same matches in
them, one by one (`Scans.crlf`). Those of the longer form stand further back by one byte for every
line that ended before.
-/

namespace Migration.Text

variable {α : Type}

/-- Characters with a carriage return before every line feed. -/
def crlf (text : List Char) : List Char :=
  text.flatMap fun c => if c = '\n' then ['\r', '\n'] else [c]

/-- The text with a carriage return before every line feed. -/
def withCrlf (text : String) : String := String.ofList (crlf text.toList)

@[simp] theorem toList_withCrlf (text : String) : (withCrlf text).toList = crlf text.toList :=
  String.toList_ofList

/-! ## The two forms of a text -/

@[simp] theorem crlf_nil : crlf [] = [] := rfl

@[simp] theorem crlf_lineFeed_cons (text : List Char) :
    crlf ('\n' :: text) = '\r' :: '\n' :: crlf text := rfl

theorem crlf_cons_of_ne {c : Char} (h : c ≠ '\n') (text : List Char) :
    crlf (c :: text) = c :: crlf text := by
  rw [crlf, List.flatMap_cons, if_neg h]
  rfl

@[simp] theorem crlf_append (a b : List Char) : crlf (a ++ b) = crlf a ++ crlf b :=
  List.flatMap_append

theorem crlf_eq_self {text : List Char} (h : '\n' ∉ text) : crlf text = text := by
  induction text with
  | nil => rfl
  | cons c text ih =>
    rw [List.mem_cons, not_or] at h
    rw [crlf_cons_of_ne (Ne.symm h.1), ih h.2]

theorem mem_crlf_iff {c : Char} (hc : c ≠ '\r') {text : List Char} : c ∈ crlf text ↔ c ∈ text := by
  induction text with
  | nil => rfl
  | cons d text ih =>
    by_cases hd : d = '\n'
    · subst hd
      rw [crlf_lineFeed_cons, List.mem_cons, List.mem_cons, List.mem_cons, ih, or_iff_right hc]
    · rw [crlf_cons_of_ne hd, List.mem_cons, List.mem_cons, ih]

/-- Every line that has ended has one byte more. -/
theorem byteLength_crlf (text : List Char) :
    byteLength (crlf text) = byteLength text + text.count '\n' := by
  induction text with
  | nil => rfl
  | cons c text ih =>
    by_cases hc : c = '\n'
    · subst hc
      simp only [crlf_lineFeed_cons, byteLength_cons, ih, List.count_cons_self]
      have : '\r'.utf8Size = 1 := rfl
      omega
    · rw [crlf_cons_of_ne hc, byteLength_cons, byteLength_cons, ih, List.count_cons_of_ne hc,
        Nat.add_assoc]

theorem count_crlf (text : List Char) : (crlf text).count '\n' = text.count '\n' := by
  induction text with
  | nil => rfl
  | cons c text ih =>
    by_cases hc : c = '\n'
    · subst hc
      rw [crlf_lineFeed_cons, List.count_cons_of_ne (by decide), List.count_cons_self, ih,
        List.count_cons_self]
    · rw [crlf_cons_of_ne hc, List.count_cons_of_ne hc, List.count_cons_of_ne hc, ih]

theorem admits_crlf (behind : Char → Bool) (text : List Char) :
    Pattern.admits behind (crlf text) = Pattern.admits behind text := by
  rcases List.eq_nil_or_concat' text with rfl | ⟨most, last, rfl⟩
  · rfl
  · rw [crlf_append, Pattern.admits_concat]
    by_cases hlast : last = '\n'
    · subst hlast
      exact (Pattern.admits_append _ (List.cons_ne_nil _ _)).trans
        (Pattern.admits_concat _ ['\r'] _)
    · rw [crlf_cons_of_ne hlast]
      exact Pattern.admits_concat _ _ _

/-! ## Reading the two forms -/

/-- A text without line feeds that does not end inside of a line break stands in the longer form
    only where it stands in the other one. -/
theorem crlf_eq_append {text word rest : List Char} (h : crlf text = word ++ rest)
    (hword : '\n' ∉ word) (hlast : word.getLast? ≠ some '\r') :
    ∃ rest', text = word ++ rest' ∧ crlf rest' = rest := by
  induction word generalizing text with
  | nil => exact ⟨text, rfl, h⟩
  | cons c word ih =>
    rw [List.mem_cons, not_or] at hword
    cases text with
    | nil => exact absurd h (List.cons_ne_nil c _).symm
    | cons d text =>
      by_cases hd : d = '\n'
      · -- The word would have the carriage return, and go on with the line feed or end.
        subst hd
        rw [crlf_lineFeed_cons, List.cons_append, List.cons.injEq] at h
        obtain ⟨rfl, h⟩ := h
        cases word with
        | nil => exact absurd rfl hlast
        | cons e word =>
          rw [List.cons_append, List.cons.injEq] at h
          rw [← h.1] at hword
          exact absurd List.mem_cons_self hword.2
      · rw [crlf_cons_of_ne hd, List.cons_append, List.cons.injEq] at h
        obtain ⟨rfl, h⟩ := h
        have hlast' : word.getLast? ≠ some '\r' := by
          cases word with
          | nil => exact nofun
          | cons e word => rwa [List.getLast?_cons_cons] at hlast
        obtain ⟨rest', rfl, hrest⟩ := ih h hword.2 hlast'
        exact ⟨rest', rfl, hrest⟩

theorem after?_crlf {literal : List Char} (hliteral : '\n' ∉ literal)
    (hlast : literal.getLast? ≠ some '\r') (text : List Char) :
    after? literal (crlf text) = (after? literal text).map crlf := by
  ext rest
  rw [Option.map_eq_some_iff, after?_eq_some_iff]
  constructor
  · intro h
    obtain ⟨rest', rfl, hrest⟩ := crlf_eq_append h hliteral hlast
    exact ⟨rest', after?_append _ _, hrest⟩
  · rintro ⟨rest', h, rfl⟩
    rw [after?_eq_some_iff.1 h, crlf_append, crlf_eq_self hliteral]

theorem takeWhile_crlf {kind : Char → Bool} (h : kind '\r' = kind '\n') (text : List Char) :
    (crlf text).takeWhile kind = crlf (text.takeWhile kind) := by
  induction text with
  | nil => rfl
  | cons c text ih =>
    by_cases hc : c = '\n'
    · subst hc
      rw [crlf_lineFeed_cons, List.takeWhile_cons, List.takeWhile_cons, List.takeWhile_cons, h, ih]
      split <;> rfl
    · rw [crlf_cons_of_ne hc, List.takeWhile_cons, List.takeWhile_cons, ih]
      split
      · rw [crlf_cons_of_ne hc]
      · rfl

theorem dropWhile_crlf {kind : Char → Bool} (h : kind '\r' = kind '\n') (text : List Char) :
    (crlf text).dropWhile kind = crlf (text.dropWhile kind) := by
  have hboth := List.takeWhile_append_dropWhile (p := kind) (l := crlf text)
  conv_rhs at hboth => rw [← List.takeWhile_append_dropWhile (p := kind) (l := text)]
  rw [crlf_append, takeWhile_crlf h, List.append_cancel_left_eq] at hboth
  exact hboth

/-- A run ends at the same place in both forms if its kind has both line breaks or none. -/
theorem run_crlf {kind : Char → Bool} (h : kind '\r' = kind '\n') {text word rest : List Char}
    (hrun : run kind text = (word, rest)) : run kind (crlf text) = (crlf word, crlf rest) := by
  rw [run, Prod.mk.injEq] at hrun
  rw [run, takeWhile_crlf h, dropWhile_crlf h, hrun.1, hrun.2]

/-! ## Trimming -/

theorem trimEnd_concat (text : List Char) (c : Char) :
    trimEnd (text ++ [c]) = if isBlank c then trimEnd text else text ++ [c] := by
  rw [trimEnd, List.reverse_append, List.reverse_singleton, List.singleton_append,
    List.dropWhile_cons]
  split
  · rfl
  · rw [List.reverse_cons, List.reverse_reverse]

/-- A blank at the end does not matter. -/
theorem trim_concat {c : Char} (hc : isBlank c = true) (text : List Char) :
    trim (text ++ [c]) = trim text := by
  rw [trim, trim, trimStart, trimStart, List.dropWhile_append]
  split
  case isTrue h =>
    rw [List.isEmpty_iff.1 h, List.dropWhile_cons, if_pos hc]
    rfl
  case isFalse => rw [trimEnd_concat, if_pos hc]

theorem trimEnd_crlf (text : List Char) : trimEnd (crlf text) = crlf (trimEnd text) := by
  induction text using List.reverseRecOn with
  | nil => rfl
  | append_singleton text c ih =>
    by_cases hc : c = '\n'
    · subst hc
      have hbreak : crlf (text ++ ['\n']) = (crlf text ++ ['\r']) ++ ['\n'] := by
        rw [crlf_append, List.append_assoc]
        rfl
      rw [hbreak, trimEnd_concat, if_pos (by decide), trimEnd_concat, if_pos (by decide), ih,
        trimEnd_concat, if_pos (by decide)]
    · have hself : crlf (text ++ [c]) = crlf text ++ [c] := by
        rw [crlf_append, crlf_cons_of_ne hc]
        rfl
      rw [hself, trimEnd_concat, trimEnd_concat]
      split
      · exact ih
      · exact hself.symm

theorem trimStart_crlf (text : List Char) : trimStart (crlf text) = crlf (trimStart text) :=
  dropWhile_crlf (by decide) text

theorem trim_crlf (text : List Char) : trim (crlf text) = crlf (trim text) := by
  rw [trim, trim, trimStart_crlf, trimEnd_crlf]

/-! ## Scanning the two forms -/

/-- A match behind the text `before`, as it is found in the longer form of the text. -/
def Found.crlf (convert : α → α) (before : List Char) (found : Found α) : Found α :=
  ⟨byteLength (Text.crlf before), convert found.value, Text.crlf found.rest⟩

namespace Pattern

/-- Values can be told in both forms of a text: `convert` gives the value that is read in the longer
    form, and no others are read there. -/
structure CrlfInvariant (p : Pattern α) (valid : α → Prop) (convert : α → α) : Prop where
  valid_convert {value : α} : valid value → valid (convert value)
  written_convert {value : α} : valid value → p.written (convert value) = crlf (p.written value)
  exists_of_crlf {value : α} {text : List Char} : valid value → p.written value <+: crlf text →
    ∃ other, valid other ∧ p.written other <+: text
  head?_ne {value : α} : valid value → (p.written value).head? ≠ some '\n'

/-- What `found` is in a text, `found'` is in its longer form. -/
def Corresponds (p : Pattern α) (valid : α → Prop) (behind : Char → Bool) (convert : α → α)
    (text : List Char) (found found' : Found α) : Prop :=
  ∃ before, p.Stands valid behind text before found ∧ found' = found.crlf convert before

variable {p : Pattern α} {valid : α → Prop} {behind : Char → Bool} {convert : α → α}

theorem Stands.crlf (hc : p.CrlfInvariant valid convert) {text before : List Char} {found : Found α}
    (h : p.Stands valid behind text before found) :
    p.Stands valid behind (Text.crlf text) (Text.crlf before) (found.crlf convert before) where
  text_eq := by
    rw [h.text_eq, crlf_append, crlf_append, ← hc.written_convert h.valid_value]
    rfl
  offset_eq := rfl
  admitted := (admits_crlf behind before).trans h.admitted
  valid_value := hc.valid_convert h.valid_value

/-- The two forms of a text have the same matches, one by one. -/
theorem Scans.crlf (hp : p.Recognises valid) (hc : p.CrlfInvariant valid convert)
    {seen text : List Char} {founds : List (Found α)} (h : p.Scans valid behind seen text founds) :
    ∃ founds', p.Scans valid behind (Text.crlf seen) (Text.crlf text) founds' ∧
      List.Forall₂ (p.Corresponds valid behind convert (seen ++ text)) founds founds' := by
  induction h with
  | done => exact ⟨[], .done, .nil⟩
  | @hit seen rest value founds hadm hvalid _ ih =>
    obtain ⟨founds', hscan, hsame⟩ := ih
    rw [List.append_assoc] at hsame
    rw [crlf_append, ← hc.written_convert hvalid] at hscan
    refine ⟨Found.crlf convert seen ⟨byteLength seen, value, rest⟩ :: founds', ?_, .cons ?_ hsame⟩
    · rw [crlf_append, ← hc.written_convert hvalid]
      exact .hit ((admits_crlf behind seen).trans hadm) (hc.valid_convert hvalid) hscan
    · exact ⟨seen, ⟨rfl, rfl, hadm, hvalid⟩, rfl⟩
  | @miss seen text c founds hmiss _ ih =>
    obtain ⟨founds', hscan, hsame⟩ := ih
    rw [List.append_assoc] at hsame
    refine ⟨founds', ?_, hsame⟩
    -- What stands in the longer form would also stand in the other one.
    have hmiss' : admits behind (Text.crlf seen) = true → ∀ value, valid value →
        ¬p.written value <+: Text.crlf (c :: text) := by
      intro hadm value hvalid hpre
      obtain ⟨other, hother, hpre⟩ := hc.exists_of_crlf hvalid hpre
      exact hmiss ((admits_crlf behind seen).symm.trans hadm) other hother hpre
    by_cases hfeed : c = '\n'
    · -- The line feed is passed over in a step of its own.
      subst hfeed
      refine .miss hmiss' (.miss (fun _ value hvalid hpre => ?_) ?_)
      · obtain ⟨d, word, hword⟩ := List.exists_cons_of_ne_nil (hp.written_ne_nil hvalid)
        rw [hword, List.cons_prefix_cons] at hpre
        exact hc.head?_ne hvalid (by rw [hword, hpre.1]; rfl)
      · rw [crlf_append] at hscan
        rw [List.append_assoc]
        exact hscan
    · rw [crlf_append, crlf_cons_of_ne hfeed] at hscan
      rw [crlf_cons_of_ne hfeed] at hmiss' ⊢
      exact .miss hmiss' hscan

/-- What is told of the matches is the same in both forms if it is the same of every match. -/
theorem map_scanFrom_crlf {β : Type} (behind : Char → Bool) (hp : p.Recognises valid)
    (hc : p.CrlfInvariant valid convert) (text : List Char) {f g : Found α → β}
    (hfg : ∀ before found, p.Stands valid behind text before found →
      f found = g (found.crlf convert before)) :
    (p.scanFrom behind 0 0 true text).map f = (p.scanFrom behind 0 0 true (crlf text)).map g := by
  obtain ⟨founds, hscan, hsame⟩ := (scans_scanFrom hp [] text).crlf hp hc
  rw [hscan.eq_scanFrom hp] at hsame
  have hrelated : ∀ found found', p.Corresponds valid behind convert text found found' →
      f found = g found' := by
    rintro found _ ⟨before, hstands, rfl⟩
    exact hfg before found hstands
  have hmap := List.rel_map hrelated hsame
  rwa [List.forall₂_eq_eq_eq] at hmap

/-- A pattern whose values are written on one line reads the same values in both forms. -/
theorem OneLine.crlfInvariant (h : p.OneLine valid)
    (hlast : ∀ value, valid value → (p.written value).getLast? ≠ some '\r') :
    p.CrlfInvariant valid id where
  valid_convert hvalid := hvalid
  written_convert hvalid := (crlf_eq_self (h hvalid)).symm
  exists_of_crlf {value text} hvalid hpre := by
    obtain ⟨rest, hrest⟩ := hpre
    obtain ⟨rest', htext, _⟩ := crlf_eq_append hrest.symm (h hvalid) (hlast value hvalid)
    exact ⟨value, hvalid, rest', htext.symm⟩
  head?_ne hvalid hhead := h hvalid (List.mem_of_head? hhead)

end Pattern

end Migration.Text
