import Migration.Module.Namespace
import Migration.Proofs.Text.Join

/-!
# Dotted names

A path is read from a dotted name by cutting it at the dots. Empty parts are left out, so what is
read has segments that are not empty and have no dots in them (`of_mem_ofDotted`), whatever dots the
name starts or ends with or has side by side. From such segments the dotted name can be read back
(`ofDotted_dotted`), also if there are none. From all others it cannot, since they are not among
what is read (`ofDotted_round_trip`).
-/

namespace Migration.ModulePath

open Text

theorem of_mem_ofDotted {name segment : String} (h : segment ∈ (ofDotted name).segments) :
    segment ≠ "" ∧ '.' ∉ segment.toList := by
  obtain ⟨part, hpart, rfl⟩ := List.mem_map.1 h
  obtain ⟨hsplit, hempty⟩ := List.mem_filter.1 hpart
  constructor
  · rw [ne_eq, String.ofList_eq_empty_iff, ← List.isEmpty_iff]
    simpa using hempty
  · rw [String.toList_ofList]
    exact not_mem_of_splitOn '.' _ part hsplit

theorem ofDotted_dotted {path : ModulePath}
    (h : ∀ segment ∈ path.segments, segment ≠ "" ∧ '.' ∉ segment.toList) :
    ofDotted path.dotted = path := by
  obtain ⟨segments⟩ := path
  by_cases hnil : segments = []
  · -- No segments are written as nothing, which has one empty part.
    rw [hnil]
    rfl
  · have hdots : ∀ part ∈ segments.map String.toList, '.' ∉ part := by
      intro part hpart
      obtain ⟨segment, hsegment, rfl⟩ := List.mem_map.1 hpart
      exact (h segment hsegment).2
    have hfull : ∀ part ∈ segments.map String.toList, (!part.isEmpty) = true := by
      intro part hpart
      obtain ⟨segment, hsegment, rfl⟩ := List.mem_map.1 hpart
      simpa using (h segment hsegment).1
    have hdotted : (dotted ⟨segments⟩).toList = ['.'].intercalate (segments.map String.toList) :=
      String.toList_intercalate
    rw [ofDotted, hdotted, List.splitOn_intercalate '.' hdots (by simpa using hnil),
      List.filter_eq_self.2 hfull, List.map_map]
    simp [Function.comp_def]

/-- What is read from a dotted name has segments that are not empty and have no dots in them, and it
    is read again from its own dotted name. That holds of no other paths. -/
theorem ofDotted_round_trip :
    (∀ name : String,
      (∀ segment ∈ (ofDotted name).segments, segment ≠ "" ∧ '.' ∉ segment.toList) ∧
      ofDotted (ofDotted name).dotted = ofDotted name) ∧
    ∀ path : ModulePath, ofDotted path.dotted = path ↔
      ∀ segment ∈ path.segments, segment ≠ "" ∧ '.' ∉ segment.toList := by
  refine ⟨fun name => ⟨fun segment => of_mem_ofDotted, ofDotted_dotted fun segment => ?_⟩,
    fun path => ⟨fun h segment hsegment => ?_, ofDotted_dotted⟩⟩
  · exact of_mem_ofDotted
  · rw [← h] at hsegment
    exact of_mem_ofDotted hsegment

/-- A name with spare dots, and a path that cannot be read back. -/
theorem ofDotted_round_trip_of_spare_dots :
    let name := ".tools..io."
    let path : ModulePath := ⟨["tools", "", "io.gff"]⟩
    ("io" ∈ (ofDotted name).segments ∧ "io" ≠ "" ∧ '.' ∉ "io".toList) ∧
      ofDotted (ofDotted name).dotted = ofDotted name ∧
      path.dotted = "tools..io.gff" ∧ ofDotted path.dotted ≠ path := by
  intro name path
  have hmem : "io" ∈ (ofDotted name).segments := by decide
  obtain ⟨hnames, hpaths⟩ := ofDotted_round_trip
  obtain ⟨hsegments, hname⟩ := hnames name
  refine ⟨⟨hmem, hsegments "io" hmem⟩, hname, by decide, fun hpath => ?_⟩
  exact ((hpaths path).1 hpath "" (by decide)).1 rfl

end Migration.ModulePath
