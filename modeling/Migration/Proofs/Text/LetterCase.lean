import Migration.Proofs.Text.TitleCase

/-!
# Title case place by place

Among the ASCII characters, every letter has one form in each case, and nothing else has another
form. In a text of such characters, title case can be told for every place on its own: the pass
stands behind a letter exactly where the character before is one, so the flags of the pass are the
text itself, read one place later (`titleCaseFrom_eq_zipWith`).

These flags do not depend on the case of the letters, nor do the two forms of a letter. Hence texts
that differ only in case have the same title case (`titleCaseFrom_eq_of_equalUpToCase`). Title case
is itself such a text (`equalUpToCase_titleCaseFrom`), so to take it twice is to take it once.
-/

namespace Migration.Text

/-- A text of ASCII characters. -/
def IsAscii (text : List Char) : Prop := ∀ c ∈ text, c.toNat < 0x80

instance (text : List Char) : Decidable (IsAscii text) := List.decidableBAll _ text

/-- Texts that differ only in the case of ASCII letters. -/
def EqualUpToCase (text other : List Char) : Prop :=
  text.map Char.toLower = other.map Char.toLower

instance (text other : List Char) : Decidable (EqualUpToCase text other) :=
  inferInstanceAs (Decidable (text.map Char.toLower = other.map Char.toLower))

/-- The place `i` of a text holds a letter, and the place before it, if there is one, does not. -/
def StartsWord (text : List Char) (i : Nat) : Prop :=
  (∃ c, text[i]? = some c ∧ c.isAlpha = true) ∧
    (i = 0 ∨ ∃ b, text[i - 1]? = some b ∧ b.isAlpha = false)

/-- The form of an ASCII character in title case, behind a letter (`inWord`) or not. -/
def cased (inWord : Bool) (c : Char) : Char := if inWord then c.toLower else c.toUpper

/-! ## One character -/

@[elab_as_elim]
theorem forall_ascii {p : Char → Prop} {c : Char} (hc : c.toNat < 0x80)
    (h : ∀ code < 0x80, p (Char.ofNat code)) : p c :=
  c.ofNat_toNat ▸ h c.toNat hc

section Character

-- There are few enough ASCII characters to try all of them.
variable {c : Char} (hc : c.toNat < 0x80)

include hc

theorem toLower_cased : ∀ inWord, (cased inWord c).toLower = c.toLower :=
  forall_ascii hc (by decide)

theorem cased_toLower : ∀ inWord, cased inWord c.toLower = cased inWord c :=
  forall_ascii hc (by decide)

theorem isAlpha_toLower : c.toLower.isAlpha = c.isAlpha := forall_ascii hc (by decide)

theorem cased_of_not_isAlpha : c.isAlpha = false → ∀ inWord, cased inWord c = c :=
  forall_ascii hc (by decide)

theorem isUpper_cased : ∀ inWord, (cased inWord c).isUpper = (c.isAlpha && !inWord) :=
  forall_ascii hc (by decide)

theorem isLower_cased : ∀ inWord, (cased inWord c).isLower = (c.isAlpha && inWord) :=
  forall_ascii hc (by decide)

end Character

theorem toNat_toLower_lt_iff (c : Char) : c.toLower.toNat < 0x80 ↔ c.toNat < 0x80 := by
  by_cases hc : c.toNat < 0x80
  · exact iff_of_true (forall_ascii hc (by decide)) hc
  · -- Only ASCII letters have another form.
    have hupper : ¬(c.val ≥ 'A'.val ∧ c.val ≤ 'Z'.val) := fun h =>
      hc (Nat.lt_of_le_of_lt (UInt32.le_iff_toNat_le.1 h.2) (by decide))
    have hself : c.toLower = c := dif_neg hupper
    rw [hself]

/-! ## The pass over a text -/

theorem isAscii_map_toLower_iff {text : List Char} :
    IsAscii (text.map Char.toLower) ↔ IsAscii text := by
  rw [IsAscii, IsAscii, List.forall_mem_map]
  exact forall₂_congr fun c _ => toNat_toLower_lt_iff c

theorem EqualUpToCase.isAscii {text other : List Char} (h : EqualUpToCase other text)
    (htext : IsAscii text) : IsAscii other := by
  rw [← isAscii_map_toLower_iff, h, isAscii_map_toLower_iff]
  exact htext

theorem titleCaseFrom_cons_of_ascii {c : Char} (hc : c.toNat < 0x80) (inWord : Bool)
    (text : List Char) :
    titleCaseFrom inWord (c :: text) = cased inWord c :: titleCaseFrom c.isAlpha text := by
  rw [titleCaseFrom, isAlphabetic, if_pos hc]
  split
  case isTrue h =>
    rw [lower, upper, if_pos hc, if_pos hc, h]
    cases inWord with
    | false => rfl
    | true => rfl
  case isFalse h =>
    -- What is no letter is copied, and both forms of it are itself.
    have hplain := Bool.eq_false_iff.2 h
    rw [cased_of_not_isAlpha hc hplain, hplain]

section Ascii

variable {text : List Char} (htext : IsAscii text) (inWord : Bool)

include htext

/-- Every character takes the form that the one before it asks for. -/
theorem titleCaseFrom_eq_zipWith :
    titleCaseFrom inWord text = List.zipWith cased (inWord :: text.map Char.isAlpha) text := by
  induction text generalizing inWord with
  | nil => rfl
  | cons c text ih =>
    obtain ⟨hc, htext⟩ := List.forall_mem_cons.1 htext
    rw [titleCaseFrom_cons_of_ascii hc, ih htext, List.map_cons, List.zipWith_cons_cons]

theorem equalUpToCase_titleCaseFrom : EqualUpToCase (titleCaseFrom inWord text) text := by
  induction text generalizing inWord with
  | nil => rfl
  | cons c text ih =>
    obtain ⟨hc, htext⟩ := List.forall_mem_cons.1 htext
    rw [EqualUpToCase, titleCaseFrom_cons_of_ascii hc, List.map_cons, List.map_cons,
      toLower_cased hc, ih htext]

theorem titleCaseFrom_map_toLower :
    titleCaseFrom inWord (text.map Char.toLower) = titleCaseFrom inWord text := by
  induction text generalizing inWord with
  | nil => rfl
  | cons c text ih =>
    obtain ⟨hc, htext⟩ := List.forall_mem_cons.1 htext
    rw [List.map_cons, titleCaseFrom_cons_of_ascii ((toNat_toLower_lt_iff c).2 hc),
      titleCaseFrom_cons_of_ascii hc, cased_toLower hc, isAlpha_toLower hc, ih htext]

theorem titleCaseFrom_eq_of_equalUpToCase {other : List Char} (h : EqualUpToCase other text) :
    titleCaseFrom inWord other = titleCaseFrom inWord text := by
  rw [← titleCaseFrom_map_toLower (h.isAscii htext), h, titleCaseFrom_map_toLower htext]

end Ascii

/-! ## Places -/

/-- At every place of a text the pass has a flag, and it is down at a letter that starts a word. -/
theorem exists_flag {text : List Char} {i : Nat} {c : Char} (h : text[i]? = some c) :
    ∃ inWord, (false :: text.map Char.isAlpha)[i]? = some inWord ∧
      (StartsWord text i ↔ c.isAlpha = true ∧ inWord = false) := by
  have hletter : (∃ d, text[i]? = some d ∧ d.isAlpha = true) ↔ c.isAlpha = true := by simp [h]
  rw [StartsWord, hletter]
  cases i with
  | zero => exact ⟨false, rfl, by simp⟩
  | succ i =>
    -- The flag was set by the character one place before, which the text has too.
    obtain ⟨hlt, -⟩ := List.getElem?_eq_some_iff.1 h
    have hbefore : text[i]? = some text[i] := List.getElem?_eq_getElem (Nat.lt_of_succ_lt hlt)
    refine ⟨text[i].isAlpha, ?_, ?_⟩
    · rw [List.getElem?_cons_succ, List.getElem?_map, hbefore, Option.map_some]
    · rw [Nat.add_sub_cancel, hbefore]
      simp

theorem getElem?_titleCaseFrom {text : List Char} (htext : IsAscii text) {i : Nat} {c : Char}
    (h : text[i]? = some c) :
    ∃ d, (titleCaseFrom false text)[i]? = some d ∧ (d.isUpper = true ↔ StartsWord text i) ∧
      (c.isAlpha = true → ¬StartsWord text i → d.isLower = true) := by
  obtain ⟨inWord, hflag, hstarts⟩ := exists_flag h
  have hc := htext c (List.mem_of_getElem? h)
  refine ⟨cased inWord c, ?_, ?_, fun hletter hnot => ?_⟩
  · rw [titleCaseFrom_eq_zipWith htext, List.getElem?_zipWith_eq_some]
    exact ⟨inWord, c, hflag, h, rfl⟩
  · rw [isUpper_cased hc, hstarts, Bool.and_eq_true, Bool.not_eq_true']
  · rw [isLower_cased hc, hletter, Bool.true_and]
    exact Bool.of_not_eq_false fun hdown => hnot (hstarts.2 ⟨hletter, hdown⟩)

theorem toList_titleCase (s : String) : (titleCase s).toList = titleCaseFrom false s.toList :=
  String.toList_ofList

/-- Title case of an ASCII text has a character for every character, and no other letters. A letter
    is in upper case where it starts a word, and in lower case everywhere else. It takes no notice
    of the case that the letters had, and so changes nothing where it has been taken before. -/
theorem titleCase_place_by_place (s : String) (hs : IsAscii s.toList) :
    (titleCase s).length = s.length ∧
      EqualUpToCase (titleCase s).toList s.toList ∧
      (∀ i c, s.toList[i]? = some c → ∃ d, (titleCase s).toList[i]? = some d ∧
        (d.isUpper = true ↔ StartsWord s.toList i) ∧
        (c.isAlpha = true → ¬StartsWord s.toList i → d.isLower = true)) ∧
      titleCase (titleCase s) = titleCase s ∧
      ∀ other : String, EqualUpToCase other.toList s.toList → titleCase other = titleCase s := by
  have hcase : EqualUpToCase (titleCase s).toList s.toList := by
    rw [toList_titleCase]
    exact equalUpToCase_titleCaseFrom hs false
  have hother (other : String) (h : EqualUpToCase other.toList s.toList) :
      titleCase other = titleCase s :=
    congrArg String.ofList (titleCaseFrom_eq_of_equalUpToCase hs false h)
  have hlength : (titleCase s).length = s.length := by
    have hmap := congrArg List.length hcase
    rwa [List.length_map, List.length_map, String.length_toList, String.length_toList] at hmap
  refine ⟨hlength, hcase, fun i c hc => ?_, hother (titleCase s) hcase, hother⟩
  rw [toList_titleCase]
  exact getElem?_titleCaseFrom hs hc

/-- A word behind a digit, letters of both cases, and the same text with all cases changed. -/
theorem titleCase_place_by_place_of_digit :
    IsAscii "io_GFF2da".toList ∧ titleCase "io_GFF2da" = "Io_Gff2Da" ∧
      StartsWord "io_GFF2da".toList 7 ∧ ¬StartsWord "io_GFF2da".toList 4 ∧
      titleCase "Io_Gff2Da" = "Io_Gff2Da" ∧
      EqualUpToCase "IO_gff2DA".toList "io_GFF2da".toList ∧
      titleCase "IO_gff2DA" = "Io_Gff2Da" := by
  have hs : IsAscii "io_GFF2da".toList := by decide
  have hother : EqualUpToCase "IO_gff2DA".toList "io_GFF2da".toList := by decide
  have htitle : titleCase "io_GFF2da" = "Io_Gff2Da" := by decide
  obtain ⟨-, -, hplace, hagain, hcase⟩ := titleCase_place_by_place "io_GFF2da" hs
  rw [htitle] at hplace hagain
  have hstart : StartsWord "io_GFF2da".toList 7 := by
    obtain ⟨d, hd, hupper, -⟩ := hplace 7 'd' (by decide)
    obtain rfl : 'D' = d := Option.some.inj hd
    exact hupper.1 (by decide)
  have hinside : ¬StartsWord "io_GFF2da".toList 4 := by
    obtain ⟨d, hd, hupper, -⟩ := hplace 4 'F' (by decide)
    obtain rfl : 'f' = d := Option.some.inj hd
    exact fun hstart => absurd (hupper.2 hstart) (by decide)
  exact ⟨hs, htitle, hstart, hinside, hagain, hother, (hcase _ hother).trans htitle⟩

end Migration.Text
