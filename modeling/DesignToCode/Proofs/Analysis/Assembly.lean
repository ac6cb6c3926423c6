import DesignToCode.Proofs.Analysis.PassRefinement
import DesignToCode.Proofs.Schema.Verdict

set_option autoImplicit false

namespace DesignToCode

open Validation

open Assembly

variable (vision : VisionOutput) (reasoning : ReasoningOutput) {inputTypes : List InputType}
  {targets : List String}

theorem sectionIds_assemble :
    (assemble vision reasoning inputTypes targets).schema.sectionIds =
      (placeSections vision.sections).map (·.id) := by
  show ((placeSections vision.sections).map _).map _ = _
  rw [List.map_map]
  rfl

theorem componentIds_assemble :
    (assemble vision reasoning inputTypes targets).schema.componentIds =
      (placeComponents vision.componentHints).map (·.id) := by
  show ((placeComponents vision.componentHints).map _).map _ = _
  rw [List.map_map]
  rfl

/-- Whatever two calls tell, the schema is sound. -/
theorem assemble_sound (given : inputTypes ≠ []) (asked : targets ≠ [])
    (supported : ∀ t ∈ targets, t ∈ Framework.names) :
    (assemble vision reasoning inputTypes targets).schema.Sound := by
  constructor
  case version => exact ⟨_, Schema.parse_currentVersion, rfl⟩
  case inputs => exact given
  case targets => exact asked
  case supported => exact supported
  case sectionsGiven =>
    rw [sectionIds_assemble, placeSections_ids]
    intro empty
    exact IdCounter.ne_empty_of_mem_nextAll empty rfl
  case sectionsDistinct =>
    rw [sectionIds_assemble]
    exact nodup_placeSections vision.sections
  case componentsGiven =>
    rw [componentIds_assemble, placeComponents_ids]
    intro empty
    exact IdCounter.ne_empty_of_mem_nextAll empty rfl
  case componentsDistinct =>
    rw [componentIds_assemble]
    exact nodup_placeComponents vision.componentHints
  case references =>
    intro sec member id named
    obtain ⟨p, -, rfl⟩ := List.mem_map.mp member
    obtain ⟨c, inside, rfl⟩ := List.mem_map.mp named
    rw [componentIds_assemble]
    exact List.mem_map_of_mem (List.mem_filter.mp inside).1
  case widths =>
    intro r member
    obtain ⟨rule, -, kept⟩ := List.mem_filterMap.mp member
    obtain ⟨width, rfl⟩ := remapRule_eq_some_iff.mp kept
    exact width

theorem hasShortWidths_assemble
    (short : ∀ rule ∈ reasoning.responsiveRules, ∀ width ∈ rule.minWidth,
      Numeral.isWritable width = true) :
    (assemble vision reasoning inputTypes targets).schema.HasShortWidths := by
  intro r member
  obtain ⟨rule, told, kept⟩ := List.mem_filterMap.mp member
  obtain ⟨-, rfl⟩ := remapRule_eq_some_iff.mp kept
  exact short rule told

end DesignToCode
