import DesignToCode.Reading.Basic
import DesignToCode.Schema.Basic

set_option autoImplicit false

/-!
Reading a schema from a document. Fields are known under their written and their long names, and
unknown fields are passed over, except that a component takes them into its attributes.
-/
namespace DesignToCode

open Reader

def Columns.read : Reader Columns := fun v =>
  (integer v).andThen fun i =>
    if low : i < 1 then .fail (.below 1)
    else if high : 12 < i then .fail (.above 12)
    else .ok ⟨i.toNat, by omega, by omega⟩

def Section.read : Reader Section :=
  record "Section" fun fields =>
    Section.mk <$> required fields "id" "id" string
      <*> required fields "name" "name" string
      <*> required fields "type" "type" string
      <*> defaulted fields "layout" "layout" (member Layout.named) .block
      <*> defaulted fields "components" "components" (tuple string) []
      <*> defaulted fields "columns" "columns" (optional Columns.read) none
      <*> defaulted fields "direction" "direction" (optional string) none
      <*> defaulted fields "gap" "gap" (optional natural) none

namespace Component

/-- The fields of a component that do not belong to its attributes. -/
def ownFields : List String := ["id", "name", "type", "attributes"]

def extraFields (fields : Fields) : Fields := fields.filter fun field => !ownFields.contains field.1

/-- The attributes that fields outside them can join: those of an object, or none. -/
def joinable? (fields : Fields) : Option Fields :=
  match Json.given? (fields.lookup "attributes") with
  | none => some []
  | some (.obj attributes) => some attributes
  | some _ => none

/-- The attributes with every extra field that they do not have. -/
def joined (attributes extra : Fields) : Fields :=
  extra.foldl (fun attributes field => Fields.putNew attributes field.1 field.2) attributes

/-- The attributes of a component. With extra fields, whatever does not count as given stands for
no attributes; without them it is read as it is. -/
def readAttributes (fields : Fields) : Reading Fields :=
  match extraFields fields, joinable? fields with
  | field :: more, some attributes => .ok (joined attributes (field :: more))
  | _, _ => defaulted fields "attributes" "attributes" (mapping anything) []

def read : Reader Component :=
  record "Component" fun fields =>
    Component.mk <$> required fields "id" "id" string
      <*> required fields "name" "name" string
      <*> required fields "type" "type" string
      <*> readAttributes fields

end Component

def LayoutStrategy.read : Reader LayoutStrategy :=
  record "LayoutStrategy" fun fields =>
    LayoutStrategy.mk <$> defaulted fields "approach" "approach" string "flex"
      <*> defaulted fields "reasoning" "reasoning" string ""
      <*> defaulted fields "maxWidth" "max_width" (optional natural) none
      <*> defaulted fields "gap" "gap" natural 16
      <*> defaulted fields "alignment" "alignment" string "stretch"

def BackgroundStrategy.read : Reader BackgroundStrategy :=
  record "BackgroundStrategy" fun fields =>
    BackgroundStrategy.mk <$> defaulted fields "type" "type" string "none"
      <*> defaulted fields "color" "color" (optional string) none
      <*> defaulted fields "gradientFrom" "gradient_from" (optional string) none
      <*> defaulted fields "gradientTo" "gradient_to" (optional string) none
      <*> defaulted fields "gradientDirection" "gradient_direction" string "to bottom"
      <*> defaulted fields "imageUrl" "image_url" (optional string) none
      <*> defaulted fields "sectionOverrides" "section_overrides" (mapping string) []

def LayerRule.read : Reader LayerRule :=
  record "LayerRule" fun fields =>
    LayerRule.mk <$> required fields "target" "target" string
      <*> defaulted fields "zIndex" "z_index" integer 0
      <*> defaulted fields "position" "position" string "relative"

def Layering.read : Reader Layering :=
  record "Layering" fun fields =>
    Layering.mk <$> defaulted fields "zIndex" "z_index" integer 0
      <*> defaulted fields "layers" "layers" (tuple LayerRule.read) []

def ResponsiveChange.read : Reader ResponsiveChange :=
  record "ResponsiveChange" fun fields =>
    ResponsiveChange.mk <$> required fields "target" "target" string
      <*> defaulted fields "layout" "layout" (optional (member Layout.named)) none
      <*> defaulted fields "columns" "columns" (optional Columns.read) none
      <*> defaulted fields "direction" "direction" (optional string) none
      <*> defaulted fields "gap" "gap" (optional natural) none
      <*> defaulted fields "hidden" "hidden" (optional boolean) none

def ResponsiveRule.read : Reader ResponsiveRule :=
  record "ResponsiveRule" fun fields =>
    ResponsiveRule.mk <$> required fields "breakpoint" "breakpoint" string
      <*> defaulted fields "minWidth" "min_width" (optional natural) none
      <*> defaulted fields "rules" "rules" (tuple ResponsiveChange.read) []

def Ambiguity.read : Reader Ambiguity :=
  record "Ambiguity" fun fields =>
    Ambiguity.mk <$> required fields "type" "type" string
      <*> required fields "description" "description" string
      <*> required fields "assumption" "assumption" string

def SchemaMeta.read : Reader SchemaMeta :=
  record "SchemaMeta" fun fields =>
    SchemaMeta.mk <$> defaulted fields "schemaVersion" "schema_version" string currentVersion
      <*> defaulted fields "inputType" "input_type" (tuple (member InputType.named)) [.image]
      <*> defaulted fields "frameworkTarget" "framework_target" (tuple string)
        [Framework.tailwind.name]
      <*> defaulted fields "confidenceLevel" "confidence_level" (member Confidence.named) .medium

def Schema.read : Reader Schema :=
  record "CanonicalSchema" fun fields =>
    Schema.mk <$> defaulted fields "meta" "meta" SchemaMeta.read {}
      <*> defaulted fields "sections" "sections" (tuple Section.read) []
      <*> defaulted fields "components" "components" (tuple Component.read) []
      <*> defaulted fields "layoutStrategy" "layout_strategy" LayoutStrategy.read {}
      <*> defaulted fields "backgroundStrategy" "background_strategy" BackgroundStrategy.read {}
      <*> defaulted fields "layering" "layering" Layering.read {}
      <*> defaulted fields "responsiveRules" "responsive_rules" (tuple ResponsiveRule.read) []
      <*> defaulted fields "assumptions" "assumptions" (tuple string) []
      <*> defaulted fields "ambiguities" "ambiguities" (tuple Ambiguity.read) []

def QualityAssessment.read : Reader QualityAssessment :=
  record "QualityAssessment" fun fields =>
    QualityAssessment.mk
      <$> required fields "visualConfidence" "visual_confidence" (member Confidence.named)
      <*> required fields "structuralConfidence" "structural_confidence" (member Confidence.named)
      <*> required fields "responsiveRisk" "responsive_risk" (member Risk.named)
      <*> required fields "maintainabilityRisk" "maintainability_risk" (member Risk.named)
      <*> required fields "manualAdjustmentNeeded" "manual_adjustment_needed"
        (member Adjustment.named)
      <*> defaulted fields "reasoning" "reasoning" string ""

end DesignToCode
