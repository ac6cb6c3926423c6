import DesignToCode.Proofs.Reading.Basic
import DesignToCode.Schema.Read

set_option autoImplicit false

namespace DesignToCode

open Reader Reading

theorem Section.read_eq_ok_iff {v : Json} {s : Section} :
    Section.read v = .ok s ↔ ∃ fields, v = .obj fields ∧
      required fields "id" "id" string = .ok s.id ∧
      required fields "name" "name" string = .ok s.name ∧
      required fields "type" "type" string = .ok s.type ∧
      defaulted fields "layout" "layout" (member Layout.named) .block = .ok s.layout ∧
      defaulted fields "components" "components" (tuple string) [] = .ok s.components ∧
      defaulted fields "columns" "columns" (optional Columns.read) none = .ok s.columns ∧
      defaulted fields "direction" "direction" (optional string) none = .ok s.direction ∧
      defaulted fields "gap" "gap" (optional natural) none = .ok s.gap := by
  obtain ⟨id, name, type, layout, components, columns, direction, gap⟩ := s
  simp only [Section.read, record_eq_ok_iff, seq_eq_ok_iff, map_eq_ok_iff, exists_and_left,
    exists_exists_and_eq_and, exists_exists_and_exists_and_eq_and, existsAndEq, and_true,
    and_assoc, Section.mk.injEq]

theorem Component.read_eq_ok_iff {v : Json} {c : Component} :
    Component.read v = .ok c ↔ ∃ fields, v = .obj fields ∧
      required fields "id" "id" string = .ok c.id ∧
      required fields "name" "name" string = .ok c.name ∧
      required fields "type" "type" string = .ok c.type ∧
      Component.readAttributes fields = .ok c.attributes := by
  obtain ⟨id, name, type, attributes⟩ := c
  simp only [Component.read, record_eq_ok_iff, seq_eq_ok_iff, map_eq_ok_iff, exists_and_left,
    exists_exists_and_eq_and, exists_exists_and_exists_and_eq_and, existsAndEq, and_true,
    and_assoc, Component.mk.injEq]

theorem LayoutStrategy.read_eq_ok_iff {v : Json} {s : LayoutStrategy} :
    LayoutStrategy.read v = .ok s ↔ ∃ fields, v = .obj fields ∧
      defaulted fields "approach" "approach" string "flex" = .ok s.approach ∧
      defaulted fields "reasoning" "reasoning" string "" = .ok s.reasoning ∧
      defaulted fields "maxWidth" "max_width" (optional natural) none = .ok s.maxWidth ∧
      defaulted fields "gap" "gap" natural 16 = .ok s.gap ∧
      defaulted fields "alignment" "alignment" string "stretch" = .ok s.alignment := by
  obtain ⟨approach, reasoning, maxWidth, gap, alignment⟩ := s
  simp only [LayoutStrategy.read, record_eq_ok_iff, seq_eq_ok_iff, map_eq_ok_iff, exists_and_left,
    exists_exists_and_eq_and, exists_exists_and_exists_and_eq_and, existsAndEq, and_true,
    and_assoc, LayoutStrategy.mk.injEq]

theorem BackgroundStrategy.read_eq_ok_iff {v : Json} {b : BackgroundStrategy} :
    BackgroundStrategy.read v = .ok b ↔ ∃ fields, v = .obj fields ∧
      defaulted fields "type" "type" string "none" = .ok b.type ∧
      defaulted fields "color" "color" (optional string) none = .ok b.color ∧
      defaulted fields "gradientFrom" "gradient_from" (optional string) none = .ok b.gradientFrom ∧
      defaulted fields "gradientTo" "gradient_to" (optional string) none = .ok b.gradientTo ∧
      defaulted fields "gradientDirection" "gradient_direction" string "to bottom" =
        .ok b.gradientDirection ∧
      defaulted fields "imageUrl" "image_url" (optional string) none = .ok b.imageUrl ∧
      defaulted fields "sectionOverrides" "section_overrides" (mapping string) [] =
        .ok b.sectionOverrides := by
  obtain ⟨type, color, gradientFrom, gradientTo, gradientDirection, imageUrl, sectionOverrides⟩ := b
  simp only [BackgroundStrategy.read, record_eq_ok_iff, seq_eq_ok_iff, map_eq_ok_iff,
    exists_and_left, exists_exists_and_eq_and, exists_exists_and_exists_and_eq_and, existsAndEq,
    and_true, and_assoc, BackgroundStrategy.mk.injEq]

theorem LayerRule.read_eq_ok_iff {v : Json} {l : LayerRule} :
    LayerRule.read v = .ok l ↔ ∃ fields, v = .obj fields ∧
      required fields "target" "target" string = .ok l.target ∧
      defaulted fields "zIndex" "z_index" integer 0 = .ok l.zIndex ∧
      defaulted fields "position" "position" string "relative" = .ok l.position := by
  obtain ⟨target, zIndex, position⟩ := l
  simp only [LayerRule.read, record_eq_ok_iff, seq_eq_ok_iff, map_eq_ok_iff, exists_and_left,
    exists_exists_and_eq_and, exists_exists_and_exists_and_eq_and, existsAndEq, and_true,
    LayerRule.mk.injEq]

theorem Layering.read_eq_ok_iff {v : Json} {l : Layering} :
    Layering.read v = .ok l ↔ ∃ fields, v = .obj fields ∧
      defaulted fields "zIndex" "z_index" integer 0 = .ok l.zIndex ∧
      defaulted fields "layers" "layers" (tuple LayerRule.read) [] = .ok l.layers := by
  obtain ⟨zIndex, layers⟩ := l
  simp only [Layering.read, record_eq_ok_iff, seq_eq_ok_iff, map_eq_ok_iff, exists_and_left,
    exists_exists_and_eq_and, existsAndEq, and_true, Layering.mk.injEq]

theorem ResponsiveChange.read_eq_ok_iff {v : Json} {c : ResponsiveChange} :
    ResponsiveChange.read v = .ok c ↔ ∃ fields, v = .obj fields ∧
      required fields "target" "target" string = .ok c.target ∧
      defaulted fields "layout" "layout" (optional (member Layout.named)) none = .ok c.layout ∧
      defaulted fields "columns" "columns" (optional Columns.read) none = .ok c.columns ∧
      defaulted fields "direction" "direction" (optional string) none = .ok c.direction ∧
      defaulted fields "gap" "gap" (optional natural) none = .ok c.gap ∧
      defaulted fields "hidden" "hidden" (optional boolean) none = .ok c.hidden := by
  obtain ⟨target, layout, columns, direction, gap, hidden⟩ := c
  simp only [ResponsiveChange.read, record_eq_ok_iff, seq_eq_ok_iff, map_eq_ok_iff, exists_and_left,
    exists_exists_and_eq_and, exists_exists_and_exists_and_eq_and, existsAndEq, and_true,
    and_assoc, ResponsiveChange.mk.injEq]

theorem ResponsiveRule.read_eq_ok_iff {v : Json} {r : ResponsiveRule} :
    ResponsiveRule.read v = .ok r ↔ ∃ fields, v = .obj fields ∧
      required fields "breakpoint" "breakpoint" string = .ok r.breakpoint ∧
      defaulted fields "minWidth" "min_width" (optional natural) none = .ok r.minWidth ∧
      defaulted fields "rules" "rules" (tuple ResponsiveChange.read) [] = .ok r.rules := by
  obtain ⟨breakpoint, minWidth, rules⟩ := r
  simp only [ResponsiveRule.read, record_eq_ok_iff, seq_eq_ok_iff, map_eq_ok_iff, exists_and_left,
    exists_exists_and_eq_and, exists_exists_and_exists_and_eq_and, existsAndEq, and_true,
    ResponsiveRule.mk.injEq]

theorem SchemaMeta.read_eq_ok_iff {v : Json} {m : SchemaMeta} :
    SchemaMeta.read v = .ok m ↔ ∃ fields, v = .obj fields ∧
      defaulted fields "schemaVersion" "schema_version" string currentVersion =
        .ok m.schemaVersion ∧
      defaulted fields "inputType" "input_type" (tuple (member InputType.named)) [.image] =
        .ok m.inputType ∧
      defaulted fields "frameworkTarget" "framework_target" (tuple string)
        [Framework.tailwind.name] = .ok m.frameworkTarget ∧
      defaulted fields "confidenceLevel" "confidence_level" (member Confidence.named) .medium =
        .ok m.confidenceLevel := by
  obtain ⟨schemaVersion, inputType, frameworkTarget, confidenceLevel⟩ := m
  simp only [SchemaMeta.read, record_eq_ok_iff, seq_eq_ok_iff, map_eq_ok_iff, exists_and_left,
    exists_exists_and_eq_and, exists_exists_and_exists_and_eq_and, existsAndEq, and_true,
    and_assoc, SchemaMeta.mk.injEq]

theorem Schema.read_eq_ok_iff {v : Json} {s : Schema} :
    Schema.read v = .ok s ↔ ∃ fields, v = .obj fields ∧
      defaulted fields "meta" "meta" SchemaMeta.read {} = .ok s.info ∧
      defaulted fields "sections" "sections" (tuple Section.read) [] = .ok s.sections ∧
      defaulted fields "components" "components" (tuple Component.read) [] = .ok s.components ∧
      defaulted fields "layoutStrategy" "layout_strategy" LayoutStrategy.read {} =
        .ok s.layoutStrategy ∧
      defaulted fields "backgroundStrategy" "background_strategy" BackgroundStrategy.read {} =
        .ok s.backgroundStrategy ∧
      defaulted fields "layering" "layering" Layering.read {} = .ok s.layering ∧
      defaulted fields "responsiveRules" "responsive_rules" (tuple ResponsiveRule.read) [] =
        .ok s.responsiveRules ∧
      defaulted fields "assumptions" "assumptions" (tuple string) [] = .ok s.assumptions ∧
      defaulted fields "ambiguities" "ambiguities" (tuple Ambiguity.read) [] =
        .ok s.ambiguities := by
  obtain ⟨info, sections, components, layoutStrategy, backgroundStrategy, layering,
    responsiveRules, assumptions, ambiguities⟩ := s
  simp only [Schema.read, record_eq_ok_iff, seq_eq_ok_iff, map_eq_ok_iff, exists_and_left,
    exists_exists_and_eq_and, exists_exists_and_exists_and_eq_and, existsAndEq, and_true,
    and_assoc, Schema.mk.injEq]

theorem Columns.tells_read (v : Json) : (Columns.read v).Tells := by
  refine (tells_integer v).andThen fun i => ?_
  split
  · exact tells_fail _
  · split
    · exact tells_fail _
    · exact tells_ok _

theorem Section.tells_read (v : Json) : (Section.read v).Tells := by
  refine tells_record (fun fields => ?_) v
  repeat' apply Tells.seq
  · exact (tells_required tells_string _ _ _).map _
  · exact tells_required tells_string _ _ _
  · exact tells_required tells_string _ _ _
  · exact tells_defaulted (tells_member _) _ _ _ _
  · exact tells_defaulted (tells_tuple tells_string) _ _ _ _
  · exact tells_defaulted (tells_optional Columns.tells_read) _ _ _ _
  · exact tells_defaulted (tells_optional tells_string) _ _ _ _
  · exact tells_defaulted (tells_optional tells_natural) _ _ _ _

theorem Component.tells_readAttributes (fields : Fields) : (readAttributes fields).Tells := by
  unfold readAttributes
  split
  · exact tells_ok _
  · exact tells_defaulted (tells_mapping tells_ok) _ _ _ _

theorem Component.tells_read (v : Json) : (Component.read v).Tells := by
  refine tells_record (fun fields => ?_) v
  repeat' apply Tells.seq
  · exact (tells_required tells_string _ _ _).map _
  · exact tells_required tells_string _ _ _
  · exact tells_required tells_string _ _ _
  · exact tells_readAttributes _

theorem LayoutStrategy.tells_read (v : Json) : (LayoutStrategy.read v).Tells := by
  refine tells_record (fun fields => ?_) v
  repeat' apply Tells.seq
  · exact (tells_defaulted tells_string _ _ _ _).map _
  · exact tells_defaulted tells_string _ _ _ _
  · exact tells_defaulted (tells_optional tells_natural) _ _ _ _
  · exact tells_defaulted tells_natural _ _ _ _
  · exact tells_defaulted tells_string _ _ _ _

theorem BackgroundStrategy.tells_read (v : Json) : (BackgroundStrategy.read v).Tells := by
  refine tells_record (fun fields => ?_) v
  repeat' apply Tells.seq
  · exact (tells_defaulted tells_string _ _ _ _).map _
  · exact tells_defaulted (tells_optional tells_string) _ _ _ _
  · exact tells_defaulted (tells_optional tells_string) _ _ _ _
  · exact tells_defaulted (tells_optional tells_string) _ _ _ _
  · exact tells_defaulted tells_string _ _ _ _
  · exact tells_defaulted (tells_optional tells_string) _ _ _ _
  · exact tells_defaulted (tells_mapping tells_string) _ _ _ _

theorem LayerRule.tells_read (v : Json) : (LayerRule.read v).Tells := by
  refine tells_record (fun fields => ?_) v
  repeat' apply Tells.seq
  · exact (tells_required tells_string _ _ _).map _
  · exact tells_defaulted tells_integer _ _ _ _
  · exact tells_defaulted tells_string _ _ _ _

theorem Layering.tells_read (v : Json) : (Layering.read v).Tells := by
  refine tells_record (fun fields => ?_) v
  repeat' apply Tells.seq
  · exact (tells_defaulted tells_integer _ _ _ _).map _
  · exact tells_defaulted (tells_tuple LayerRule.tells_read) _ _ _ _

theorem ResponsiveChange.tells_read (v : Json) : (ResponsiveChange.read v).Tells := by
  refine tells_record (fun fields => ?_) v
  repeat' apply Tells.seq
  · exact (tells_required tells_string _ _ _).map _
  · exact tells_defaulted (tells_optional (tells_member _)) _ _ _ _
  · exact tells_defaulted (tells_optional Columns.tells_read) _ _ _ _
  · exact tells_defaulted (tells_optional tells_string) _ _ _ _
  · exact tells_defaulted (tells_optional tells_natural) _ _ _ _
  · exact tells_defaulted (tells_optional tells_boolean) _ _ _ _

theorem ResponsiveRule.tells_read (v : Json) : (ResponsiveRule.read v).Tells := by
  refine tells_record (fun fields => ?_) v
  repeat' apply Tells.seq
  · exact (tells_required tells_string _ _ _).map _
  · exact tells_defaulted (tells_optional tells_natural) _ _ _ _
  · exact tells_defaulted (tells_tuple ResponsiveChange.tells_read) _ _ _ _

theorem Ambiguity.tells_read (v : Json) : (Ambiguity.read v).Tells := by
  refine tells_record (fun fields => ?_) v
  repeat' apply Tells.seq
  · exact (tells_required tells_string _ _ _).map _
  · exact tells_required tells_string _ _ _
  · exact tells_required tells_string _ _ _

theorem SchemaMeta.tells_read (v : Json) : (SchemaMeta.read v).Tells := by
  refine tells_record (fun fields => ?_) v
  repeat' apply Tells.seq
  · exact (tells_defaulted tells_string _ _ _ _).map _
  · exact tells_defaulted (tells_tuple (tells_member _)) _ _ _ _
  · exact tells_defaulted (tells_tuple tells_string) _ _ _ _
  · exact tells_defaulted (tells_member _) _ _ _ _

theorem Schema.tells_read (v : Json) : (Schema.read v).Tells := by
  refine tells_record (fun fields => ?_) v
  repeat' apply Tells.seq
  · exact (tells_defaulted SchemaMeta.tells_read _ _ _ _).map _
  · exact tells_defaulted (tells_tuple Section.tells_read) _ _ _ _
  · exact tells_defaulted (tells_tuple Component.tells_read) _ _ _ _
  · exact tells_defaulted LayoutStrategy.tells_read _ _ _ _
  · exact tells_defaulted BackgroundStrategy.tells_read _ _ _ _
  · exact tells_defaulted Layering.tells_read _ _ _ _
  · exact tells_defaulted (tells_tuple ResponsiveRule.tells_read) _ _ _ _
  · exact tells_defaulted (tells_tuple tells_string) _ _ _ _
  · exact tells_defaulted (tells_tuple Ambiguity.tells_read) _ _ _ _

end DesignToCode
