import DesignToCode.Proofs.Schema.Valid

set_option autoImplicit false

namespace DesignToCode

open Validation Reader

namespace Version

/-- No number has more digits than a numeral may have. -/
structure Rows.Fit (rows : Rows) : Prop where
  major : rows.major.length ≤ Numeral.digitLimit
  minor : rows.minor.length ≤ Numeral.digitLimit
  patch : ∀ digits ∈ rows.patch, digits.length ≤ Numeral.digitLimit

/-- A text that names no version, or one of which every number fits. -/
def Fits (text : String) : Prop := ∀ rows, rows? (Text.trimmed text.toList) = some rows → rows.Fit

theorem exists_rowValue_iff {digits : List Char} :
    (∃ n, rowValue digits = .ok n) ↔ digits.length ≤ Numeral.digitLimit := by
  unfold rowValue
  split
  · rename_i long
    simp only [reduceCtorEq, exists_false, false_iff]
    omega
  · rename_i fits
    simp only [Except.ok.injEq, exists_eq', true_iff]
    omega

theorem Rows.exists_value_iff {rows : Rows} : (∃ v, rows.value = .ok v) ↔ rows.Fit := by
  have patch : (∃ n, rowValue (rows.patch.getD []) = .ok n) ↔
      ∀ digits ∈ rows.patch, digits.length ≤ Numeral.digitLimit := by
    rw [exists_rowValue_iff]
    cases rows.patch <;> simp
  unfold Rows.value
  simp only [Except.bind_eq_ok_iff]
  constructor
  · rintro ⟨_, major, first, minor, second, third, last, -⟩
    exact ⟨exists_rowValue_iff.mp ⟨major, first⟩, exists_rowValue_iff.mp ⟨minor, second⟩,
      patch.mp ⟨third, last⟩⟩
  · intro fit
    obtain ⟨major, first⟩ := exists_rowValue_iff.mpr fit.major
    obtain ⟨minor, second⟩ := exists_rowValue_iff.mpr fit.minor
    obtain ⟨third, last⟩ := patch.mpr fit.patch
    exact ⟨⟨major, minor, third⟩, major, first, minor, second, third, last, rfl⟩

theorem exists_parse_iff {text : String} : (∃ v, parse text = .ok v) ↔ Fits text := by
  unfold parse Fits
  split
  · rename_i none
    simp [none]
  · rename_i rows found
    rw [Except.exists_map_eq_ok_iff, Rows.exists_value_iff, found]
    simp

end Version

namespace Schema

theorem componentIds_finite (s : Schema) : s.finite.componentIds = s.componentIds := by
  unfold componentIds finite
  rw [List.map_map]
  rfl

theorem Sound.of_finite {s : Schema} (sound : s.finite.Sound) : s.Sound := by
  obtain ⟨version, inputs, targets, supported, sectionsGiven, sectionsDistinct, componentsGiven,
    componentsDistinct, references, widths⟩ := sound
  rw [componentIds_finite] at componentsGiven componentsDistinct references
  exact ⟨version, inputs, targets, supported, sectionsGiven, sectionsDistinct, componentsGiven,
    componentsDistinct, references, widths⟩

theorem validate_eq_ok_iff {s : Schema} {report : Report} :
    s.validate = .ok report ↔ s.isShallow = true ∧ DesignToCode.validate s.wire = .ok report := by
  cases shallow : s.isShallow with
  | true => rw [validate_of_isShallow shallow, eq_self, true_and]
  | false => rw [validate_of_not_isShallow shallow]; simp

/-- A schema that is reported valid is sound. -/
theorem sound_of_reported {s : Schema} {report : Report} (reported : s.validate = .ok report)
    (valid : report.valid = true) : s.Sound :=
  (sound_of_valid (validate_eq_ok_iff.mp reported).2 (List.isEmpty_iff.mp valid)
    s.read_wire).of_finite

theorem parse_currentVersion : Version.parse currentVersion = .ok (some ⟨1, 0, 0⟩) := by rfl

theorem hasShortWidths_of_read {d : Json} {s : Schema} (read : Schema.read d = .ok s)
    (short : d.IsShort) : s.HasShortWidths := by
  intro r member width given
  obtain ⟨fields, rfl, -, -, -, -, -, -, rules, -⟩ := Schema.read_eq_ok_iff.mp read
  rcases mem_of_defaulted rules with ⟨_, _, held, items⟩ | none
  · obtain ⟨values, rfl, all⟩ := tuple_eq_ok_iff.mp items
    obtain ⟨_, inside, read⟩ := exists_mem_of_forall₂ all member
    obtain ⟨rule, rfl, -, minWidth, -⟩ := ResponsiveRule.read_eq_ok_iff.mp read
    rcases mem_of_defaulted minWidth with ⟨_, v, found, width_read⟩ | none
    · rw [given] at width_read
      have inner : Json.Within v (.arr values) := .item inside (.field found (.whole v))
      have within : Json.Within v (.obj fields) := .field held inner
      exact isWritable_of_natural (short.within within) (read_of_optional width_read)
    · rw [given] at none
      cases none
  · rw [none] at member
    cases member

end Schema

end DesignToCode
