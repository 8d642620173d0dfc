import Migration.Command.Template
import Migration.Proofs.FileSystem.Write
import Migration.Proofs.Settings.Load

/-!
# The template

The template says what the defaults are, as a text of settings (`read?_template`). Written to a
path, it replaces a file only if that is forced, and otherwise fills a place that is still free.
-/

namespace Migration

/-! ## What the template says -/

theorem toList_template :
    template.toList = templateLines.flatMap fun line => line.toList ++ ['\n'] := by
  rw [template, String.toList_join, List.flatMap_map]
  simp

theorem parse?_template : Settings.parse? template = some {} := by
  rw [Settings.parse?, Toml.parse?, toList_template]
  simp only [templateLines, List.flatMap_cons, List.flatMap_nil]
  -- The lines become lists of characters before the text is read: decoding them is slow.
  repeat rw [String.toList_ofList]
  decide +kernel

/-- The template gives the defaults, with nothing to remark on. -/
theorem read?_template : LoadedSettings.read? template = some ({}, []) := by
  rw [LoadedSettings.read?, parse?_template, Option.map_some]
  rfl

namespace FileSystem

/-! ## Writing the template -/

section Writing

variable {fs : FileSystem} {storage : Storage} {workDir : Location} {path : Path} {force : Bool}
  {target : Target}

/-- What a path leads to is not replaced unless that is forced. -/
theorem mayWrite_iff (hfind : fs.find false workDir path = .ok target) :
    (fs.exists? workDir path && !force) = false ↔
      force = true ∨ ∃ place, target = .vacant place := by
  have hexists : fs.exists? workDir path = true ↔ ∃ place, target = .present place := by
    rw [exists?_iff, hfind]
    simp
  cases target with
  | present place => simp [hexists]
  | vacant place => simp [← Bool.not_eq_true, hexists]

/-- What the storage takes of the template is received where the path leads. -/
theorem writeTemplate_of_isWritable (hfind : fs.find false workDir path = .ok target)
    (hwritable : fs.IsWritable storage target)
    (hfree : force = true ∨ ∃ place, target = .vacant place) :
    Receives fs (fs.writeTemplate storage workDir path force).1 storage target
        (storage.take template.toUTF8).1 ∧
      ((fs.writeTemplate storage workDir path force).2 = none ↔
        (storage.take template.toUTF8).2 = none) := by
  unfold writeTemplate writeText
  rw [(mayWrite_iff hfind).2 hfree, writeBytes_of_isWritable hfind hwritable]
  exact ⟨receives_withContent (isEnd_of_find hfind) hwritable, Option.map_eq_none_iff⟩

/-- If the system does not open what the path leads to, or it is there and may not be replaced, then
    nothing changes. -/
theorem writeTemplate_of_not_isWritable
    (h : ∀ target, fs.find false workDir path = .ok target → fs.IsWritable storage target →
      ¬(force = true ∨ ∃ place, target = .vacant place)) :
    ∃ failure, fs.writeTemplate storage workDir path force = (fs, some failure) := by
  unfold writeTemplate writeText
  by_cases hexists : (fs.exists? workDir path && !force) = true
  · exact ⟨_, if_pos hexists⟩
  · have hfails : ∀ target, fs.find false workDir path = .ok target →
        ¬fs.IsWritable storage target := fun target hfind hwritable =>
      h target hfind hwritable ((mayWrite_iff hfind).1 (Bool.eq_false_iff.2 hexists))
    obtain ⟨error, herror⟩ := writeBytes_of_not_isWritable hfails
    rw [if_neg hexists, herror]
    exact ⟨_, rfl⟩

end Writing

end FileSystem

end Migration
