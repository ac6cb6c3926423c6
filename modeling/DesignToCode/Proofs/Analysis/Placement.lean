import Mathlib.Data.List.Nodup
import DesignToCode.Analysis.Assembly
import DesignToCode.Proofs.Schema.Ids

set_option autoImplicit false

namespace DesignToCode

namespace Assembly

theorem placeSections_hints (hints : List SectionHint) :
    (placeSections hints).map (·.hint) = hints := by
  rw [placeSections, ← List.map_uncurry_zip_eq_zipWith, List.map_map]
  exact List.map_fst_zip (by simp [IdCounter.length_nextAll])

theorem placeSections_ids (hints : List SectionHint) :
    (placeSections hints).map (·.id) = IdCounter.nextAll {} "sec" (hints.map (·.type)) := by
  rw [placeSections, ← List.map_uncurry_zip_eq_zipWith, List.map_map]
  exact List.map_snd_zip (by simp [IdCounter.length_nextAll])

theorem placeComponents_hints (hints : List ComponentHint) :
    (placeComponents hints).map (·.hint) = hints := by
  rw [placeComponents, ← List.map_uncurry_zip_eq_zipWith, List.map_map]
  exact List.map_fst_zip (by simp [IdCounter.length_nextAll])

theorem placeComponents_ids (hints : List ComponentHint) :
    (placeComponents hints).map (·.id) = IdCounter.nextAll {} "cmp" (hints.map (·.type)) := by
  rw [placeComponents, ← List.map_uncurry_zip_eq_zipWith, List.map_map]
  exact List.map_snd_zip (by simp [IdCounter.length_nextAll])

theorem nodup_placeSections (hints : List SectionHint) :
    ((placeSections hints).map (·.id)).Nodup := by
  rw [placeSections_ids]
  exact IdCounter.nodup_nextAll (by decide) _ _

theorem nodup_placeComponents (hints : List ComponentHint) :
    ((placeComponents hints).map (·.id)).Nodup := by
  rw [placeComponents_ids]
  exact IdCounter.nodup_nextAll (by decide) _ _

theorem placeSections_keys (hints : List SectionHint) :
    (placeSections hints).map (·.hint.key) = hints.map (·.key) := by
  show (placeSections hints).map ((·.key) ∘ (·.hint)) = _
  rw [← List.map_map, placeSections_hints]

variable {placed : List Placed} {components : List PlacedComponent}

/-- The section of a key is one that was placed. -/
theorem mem_of_sectionId? {key id : String} (h : sectionId? placed key = some id) :
    id ∈ placed.map (·.id) := by
  obtain ⟨p, found, rfl⟩ := Option.map_eq_some_iff.mp h
  exact List.mem_map_of_mem (List.mem_of_find?_eq_some found)

theorem sectionId?_isSome_iff {key : String} :
    (sectionId? placed key).isSome = true ↔ key ∈ placed.map (·.hint.key) := by
  simp [sectionId?]

/-- A component is in some section exactly when its key leads to one. -/
theorem mem_componentsOf_iff (distinct : (components.map (·.id)).Nodup) {c : PlacedComponent}
    (member : c ∈ components) {id : String} :
    c.id ∈ componentsOf placed components id ↔ sectionId? placed c.hint.sectionKey = some id := by
  simp only [componentsOf, List.mem_map, List.mem_filter, beq_iff_eq]
  constructor
  · rintro ⟨d, ⟨listed, leads⟩, same⟩
    obtain rfl : d = c := List.inj_on_of_nodup_map distinct listed member same
    exact leads
  · intro leads
    exact ⟨c, ⟨member, leads⟩, rfl⟩

theorem remapRule_eq_some_iff {rule made : ResponsiveRule} :
    remapRule placed rule = some made ↔
      rule.resolvedMinWidth.isSome = true ∧
        { rule with rules := rule.rules.filterMap (remapChange placed) } = made := by
  unfold remapRule
  cases rule.resolvedMinWidth <;> simp

/-- The rules that are kept are those that have a width, and keep it. -/
theorem filterMap_remapRule (placed : List Placed) (rules : List ResponsiveRule) :
    rules.filterMap (remapRule placed) =
      (rules.filter (·.resolvedMinWidth.isSome)).map fun rule =>
        { rule with rules := rule.rules.filterMap (remapChange placed) } := by
  induction rules with
  | nil => rfl
  | cons rule rest ih =>
    rw [List.filterMap_cons, List.filter_cons, remapRule]
    cases rule.resolvedMinWidth with
    | none => simpa using ih
    | some width => simpa using ih

end Assembly

end DesignToCode
