import DesignToCode.Schema.Read
import DesignToCode.Schema.Wire

set_option autoImplicit false

/-!
What the two inference calls tell. The vision call sees sections, each under a key of its own, and
components with the key of their section; the reasoning call decides the policies, which name
sections by those keys.
-/
namespace DesignToCode

structure SectionHint where
  key : String
  name : String
  type : String := "section"
  layout : Option String := none
  columns : Option Int := none
  direction : Option String := none

structure ComponentHint where
  sectionKey : String
  name : String
  type : String
  attributes : Fields := []

structure VisionOutput where
  sections : List SectionHint := []
  componentHints : List ComponentHint := []
  confidence : Binary64

/-- The lower the rank, the more an ambiguity matters. -/
structure RankedAmbiguity where
  type : String
  description : String
  assumption : String
  rank : Int := 0

structure ReasoningOutput where
  layoutStrategy : LayoutStrategy := {}
  backgroundStrategy : BackgroundStrategy := {}
  layering : Layering := {}
  responsiveRules : List ResponsiveRule := []
  ambiguities : List RankedAmbiguity := []
  assumptions : List String := []
  confidence : Option Binary64 := none

open Reader

def SectionHint.read : Reader SectionHint :=
  record "SectionHint" fun fields =>
    SectionHint.mk <$> required fields "key" "key" string
      <*> required fields "name" "name" string
      <*> defaulted fields "type" "type" string "section"
      <*> defaulted fields "layout" "layout" (optional string) none
      <*> defaulted fields "columns" "columns" (optional integer) none
      <*> defaulted fields "direction" "direction" (optional string) none

def ComponentHint.read : Reader ComponentHint :=
  record "ComponentHint" fun fields =>
    ComponentHint.mk <$> required fields "section" "section" string
      <*> required fields "name" "name" string
      <*> required fields "type" "type" string
      <*> defaulted fields "attributes" "attributes" (mapping anything) []

def VisionOutput.read : Reader VisionOutput :=
  record "VisionOutput" fun fields =>
    VisionOutput.mk <$> defaulted fields "sections" "sections" (Reader.list SectionHint.read) []
      <*> defaulted fields "componentHints" "component_hints" (Reader.list ComponentHint.read) []
      <*> required fields "confidence" "confidence" share

def RankedAmbiguity.read : Reader RankedAmbiguity :=
  record "RankedAmbiguity" fun fields =>
    RankedAmbiguity.mk <$> required fields "type" "type" string
      <*> required fields "description" "description" string
      <*> required fields "assumption" "assumption" string
      <*> defaulted fields "rank" "rank" integer 0

def ReasoningOutput.read : Reader ReasoningOutput :=
  record "ReasoningOutput" fun fields =>
    ReasoningOutput.mk
      <$> defaulted fields "layoutStrategy" "layout_strategy" LayoutStrategy.read {}
      <*> defaulted fields "backgroundStrategy" "background_strategy" BackgroundStrategy.read {}
      <*> defaulted fields "layering" "layering" Layering.read {}
      <*> defaulted fields "responsiveRules" "responsive_rules" (Reader.list ResponsiveRule.read) []
      <*> defaulted fields "ambiguities" "ambiguities" (Reader.list RankedAmbiguity.read) []
      <*> defaulted fields "assumptions" "assumptions" (Reader.list string) []
      <*> defaulted fields "confidence" "confidence" (optional share) none

def SectionHint.toJson (h : SectionHint) : Json :=
  .obj [
    ("key", .str h.key),
    ("name", .str h.name),
    ("type", .str h.type),
    ("layout", .ofOption .str h.layout),
    ("columns", .ofOption .int h.columns),
    ("direction", .ofOption .str h.direction)]

def ComponentHint.toJson (h : ComponentHint) : Json :=
  .obj [
    ("section", .str h.sectionKey),
    ("name", .str h.name),
    ("type", .str h.type),
    ("attributes", .obj h.attributes)]

def VisionOutput.toJson (v : VisionOutput) : Json :=
  .obj [
    ("sections", .list SectionHint.toJson v.sections),
    ("componentHints", .list ComponentHint.toJson v.componentHints),
    ("confidence", .real v.confidence)]

def RankedAmbiguity.toJson (a : RankedAmbiguity) : Json :=
  .obj [
    ("type", .str a.type),
    ("description", .str a.description),
    ("assumption", .str a.assumption),
    ("rank", .int a.rank)]

def ReasoningOutput.toJson (r : ReasoningOutput) : Json :=
  .obj [
    ("layoutStrategy", r.layoutStrategy.toJson .written),
    ("backgroundStrategy", r.backgroundStrategy.toJson .written),
    ("layering", r.layering.toJson),
    ("responsiveRules", .list (ResponsiveRule.toJson .written) r.responsiveRules),
    ("ambiguities", .list RankedAmbiguity.toJson r.ambiguities),
    ("assumptions", .strings r.assumptions),
    ("confidence", .ofOption .real r.confidence)]

end DesignToCode
