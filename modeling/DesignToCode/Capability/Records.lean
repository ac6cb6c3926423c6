import DesignToCode.Capability.Output
import DesignToCode.Schema.Quality

set_option autoImplicit false

/-!
The records that requests and outputs consist of, by their names. Each is read from a document and
written again, numbers in attributes that are not finite as null. Attributes that are nested too
deep cannot be written.
-/
namespace DesignToCode.Record

/-- Reads a record and writes it again. -/
def echoed {α : Type} (read : Reader α) (write : α → Json) : Reader (Except TooNested Json) :=
  fun v => (read v).map fun a => .ok (write a)

/-- Reads a record that holds attributes, and writes it again if they can be written. -/
def echoedWith {α : Type} (attributes : α → List Fields) (read : Reader α) (write : α → Json) :
    Reader (Except TooNested Json) :=
  fun v => (read v).map fun a =>
    if (attributes a).all Fields.isShallow then .ok (write a) else .error .tooNested

def ofSchema : List (String × Reader (Except TooNested Json)) := [
  ("Section", echoed Section.read (·.toJson .written)),
  ("Component", echoedWith (fun c => [c.attributes]) Component.read Component.toJson),
  ("LayoutStrategy", echoed LayoutStrategy.read (·.toJson .written)),
  ("BackgroundStrategy", echoed BackgroundStrategy.read (·.toJson .written)),
  ("LayerRule", echoed LayerRule.read LayerRule.toJson),
  ("Layering", echoed Layering.read Layering.toJson),
  ("ResponsiveChange", echoed ResponsiveChange.read (·.toJson .written)),
  ("ResponsiveRule", echoed ResponsiveRule.read (·.toJson .written)),
  ("Ambiguity", echoed Ambiguity.read Ambiguity.toJson),
  ("SchemaMeta", echoed SchemaMeta.read SchemaMeta.toJson),
  ("CanonicalSchema", fun v => (Schema.read v).map Schema.toWire),
  ("QualityAssessment", echoed QualityAssessment.read QualityAssessment.toJson)]

def ofOutput : List (String × Reader (Except TooNested Json)) := [
  ("SectionHint", echoed SectionHint.read SectionHint.toJson),
  ("ComponentHint",
    echoedWith (fun h => [h.attributes]) ComponentHint.read (·.toJson.finiteOnly)),
  ("VisionOutput",
    echoedWith (·.componentHints.map (·.attributes)) VisionOutput.read (·.toJson.finiteOnly)),
  ("RankedAmbiguity", echoed RankedAmbiguity.read RankedAmbiguity.toJson),
  ("ReasoningOutput", echoed ReasoningOutput.read ReasoningOutput.toJson)]

def named : List (String × Reader (Except TooNested Json)) := ofSchema ++ ofOutput

end DesignToCode.Record
