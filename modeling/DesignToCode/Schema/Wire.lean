import DesignToCode.Schema.Basic

set_option autoImplicit false

/-!
Writing a schema as a document. The stored form of a schema leaves out every field that holds
nothing, and writes null for a number that is not finite inside the attributes of a component.
-/
namespace DesignToCode

/-- Whether a field that holds nothing is written as null or left out. -/
inductive Absence where
  | written
  | omitted
  deriving DecidableEq, Repr

namespace Json

def field? (absence : Absence) : String × Option Json → Option (String × Json)
  | (key, some v) => some (key, v)
  | (key, none) =>
    match absence with
    | .written => some (key, .null)
    | .omitted => none

def ofRecord (absence : Absence) (fields : List (String × Option Json)) : Json :=
  .obj (fields.filterMap (field? absence))

end Json

def Section.toJson (absence : Absence) (s : Section) : Json :=
  .ofRecord absence [
    ("id", some (.str s.id)),
    ("name", some (.str s.name)),
    ("type", some (.str s.type)),
    ("layout", some (.str s.layout.name)),
    ("components", some (.strings s.components)),
    ("columns", s.columns.map (.ofNat ·.count)),
    ("direction", s.direction.map .str),
    ("gap", s.gap.map .ofNat)]

def Component.toJson (c : Component) : Json :=
  .obj [
    ("id", .str c.id),
    ("name", .str c.name),
    ("type", .str c.type),
    ("attributes", .obj (Json.finiteFields c.attributes))]

def LayoutStrategy.toJson (absence : Absence) (s : LayoutStrategy) : Json :=
  .ofRecord absence [
    ("approach", some (.str s.approach)),
    ("reasoning", some (.str s.reasoning)),
    ("maxWidth", s.maxWidth.map .ofNat),
    ("gap", some (.ofNat s.gap)),
    ("alignment", some (.str s.alignment))]

def BackgroundStrategy.toJson (absence : Absence) (b : BackgroundStrategy) : Json :=
  .ofRecord absence [
    ("type", some (.str b.type)),
    ("color", b.color.map .str),
    ("gradientFrom", b.gradientFrom.map .str),
    ("gradientTo", b.gradientTo.map .str),
    ("gradientDirection", some (.str b.gradientDirection)),
    ("imageUrl", b.imageUrl.map .str),
    ("sectionOverrides", some (.obj (b.sectionOverrides.map fun entry => (entry.1, .str entry.2))))]

def LayerRule.toJson (l : LayerRule) : Json :=
  .obj [("target", .str l.target), ("zIndex", .int l.zIndex), ("position", .str l.position)]

def Layering.toJson (l : Layering) : Json :=
  .obj [("zIndex", .int l.zIndex), ("layers", .list LayerRule.toJson l.layers)]

def ResponsiveChange.toJson (absence : Absence) (c : ResponsiveChange) : Json :=
  .ofRecord absence [
    ("target", some (.str c.target)),
    ("layout", c.layout.map (.str ·.name)),
    ("columns", c.columns.map (.ofNat ·.count)),
    ("direction", c.direction.map .str),
    ("gap", c.gap.map .ofNat),
    ("hidden", c.hidden.map .bool)]

def ResponsiveRule.toJson (absence : Absence) (r : ResponsiveRule) : Json :=
  .ofRecord absence [
    ("breakpoint", some (.str r.breakpoint)),
    ("minWidth", r.minWidth.map .ofNat),
    ("rules", some (.list (ResponsiveChange.toJson absence) r.rules))]

def Ambiguity.toJson (a : Ambiguity) : Json :=
  .obj [
    ("type", .str a.type),
    ("description", .str a.description),
    ("assumption", .str a.assumption)]

def SchemaMeta.toJson (m : SchemaMeta) : Json :=
  .obj [
    ("schemaVersion", .str m.schemaVersion),
    ("inputType", .list (.str ·.name) m.inputType),
    ("frameworkTarget", .strings m.frameworkTarget),
    ("confidenceLevel", .str m.confidenceLevel.name)]

/-- The form in which a schema is stored. -/
def Schema.wire (s : Schema) : Json :=
  .obj [
    ("meta", s.info.toJson),
    ("sections", .list (Section.toJson .omitted) s.sections),
    ("components", .list Component.toJson s.components),
    ("layoutStrategy", s.layoutStrategy.toJson .omitted),
    ("backgroundStrategy", s.backgroundStrategy.toJson .omitted),
    ("layering", s.layering.toJson),
    ("responsiveRules", .list (ResponsiveRule.toJson .omitted) s.responsiveRules),
    ("assumptions", .strings s.assumptions),
    ("ambiguities", .list Ambiguity.toJson s.ambiguities)]

/-- How many values may stand one inside the other in an attribute that is written. -/
def nestingLimit : Nat := 255

/-- An attribute has more values one inside the other than can be written. -/
inductive TooNested where
  | tooNested
  deriving DecidableEq, Repr

def TooNested.message : TooNested → String
  | tooNested => "Circular reference detected (depth exceeded)"

/-- Whether the attributes of a component can be written. -/
def Fields.isShallow (attributes : Fields) : Bool :=
  attributes.all fun entry => entry.2.height ≤ nestingLimit

def Schema.isShallow (s : Schema) : Bool := s.components.all fun c => Fields.isShallow c.attributes

/-- A schema in the form in which it is stored, if its attributes can be written. -/
def Schema.toWire (s : Schema) : Except TooNested Json :=
  if s.isShallow then .ok s.wire else .error .tooNested

/-- What a schema tells of itself, its ids, and the widths from which its rules hold. -/
def Schema.summary (s : Schema) : Fields := [
  ("schema_version", .str s.info.schemaVersion),
  ("input_type", .list (.str ·.name) s.info.inputType),
  ("framework_target", .strings s.info.frameworkTarget),
  ("confidence_level", .str s.info.confidenceLevel.name),
  ("section_ids", .strings s.sectionIds),
  ("component_ids", .strings s.componentIds),
  ("min_widths", .list (fun r => .ofOption .ofNat r.resolvedMinWidth) s.responsiveRules)]

def QualityAssessment.toJson (q : QualityAssessment) : Json :=
  .obj [
    ("visualConfidence", .str q.visualConfidence.name),
    ("structuralConfidence", .str q.structuralConfidence.name),
    ("responsiveRisk", .str q.responsiveRisk.name),
    ("maintainabilityRisk", .str q.maintainabilityRisk.name),
    ("manualAdjustmentNeeded", .str q.manualAdjustmentNeeded.name),
    ("reasoning", .str q.reasoning)]

end DesignToCode
