import DesignToCode.Analysis.Assembly
import DesignToCode.Capability.Reply
import DesignToCode.Framework.Request
import DesignToCode.Image.Source
import DesignToCode.Schema.Validation

set_option autoImplicit false

/-!
From an image to a schema: targets and image are checked first, then the two calls of a capability
are made, and what they tell is put together. Every way in which a call can end badly is told as
the failure of a stage, except that a cancellation is none.
-/
namespace DesignToCode

open DesignToCode.Text

/-- What ends a run without being a failure of a stage. -/
inductive Interruption where
  | cancelled
  | misuse (cause : Misuse)
  | notIterable (kind : String)
  | noReport (why : NoReport)
  | badValue (message : String)
  | badAddress (message : String)
  | unreadable (faults : List Fault)

inductive Stop where
  | failure (failure : Failure)
  | interruption (interruption : Interruption)

/-- Limits and defaults of runs. A timeout of zero or less is none. -/
structure RunConfig where
  settings : RunSettings := {}
  limits : ImageLimits := {}
  capabilityTimeout : Number := .int 0
  defaultTarget : String := settings.defaultTarget

def RunConfig.hasTimeout (c : RunConfig) : Bool := (Number.int 0).lt c.capabilityTimeout

structure AnalysisRequest where
  image : ImageSource
  text : Option String := none
  targets : Json := .null
  designSystem : Option Json := none

/-- A call that was made of a capability. -/
inductive CapabilityCall where
  | vision (image : Image)
  | reasoning (text : Option String) (designSystem : Option Json) (vision : VisionMade)

/-- What an analysis comes to. -/
structure Analysis where
  schema : Schema
  quality : QualityAssessment
  signals : Signals

namespace Analysis

def visionStage : String := "vision"

def reasoningStage : String := "reasoning"

def assemblyStage : String := "assembly"

/-- A failure of the capability in a stage. -/
def stageFailure (message capability stage : String) : Stop :=
  .failure (.ofCapability message capability [("stage", .str stage)])

def ofRequestRefusal : Framework.RequestRefusal → Stop
  | .unsupported entries => .failure (Framework.RequestRefusal.failure entries)
  | .notIterable kind => .interruption (.notIterable kind)

def ofImageRefusal : ImageRefusal → Stop
  | .rejected failure => .failure failure
  | .badValue message => .interruption (.badValue message)
  | .badAddress message => .interruption (.badAddress message)

/-- What a call hands over. A document is read, and a call without end is cut off by the timeout;
where there is none it can only be cancelled. -/
def receive {α β : Type} (hasTimeout : Bool) (capability stage : String) (read : Reader α)
    (ofRead : α → β) : Reply β → Except Stop β
  | .document v =>
    match read v with
    | .ok a => .ok (ofRead a)
    | .faulty _ => .error (stageFailure s!"{stage} returned unparseable output" capability stage)
  | .made b => .ok b
  | .failed failure => .error (.failure failure)
  | .raised _ => .error (stageFailure s!"{stage} call failed" capability stage)
  | .timedOut => .error (stageFailure s!"{stage} call timed out" capability stage)
  | .cancelled => .error (.interruption .cancelled)
  | .endless =>
    if hasTimeout then .error (stageFailure s!"{stage} call timed out" capability stage)
    else .error (.interruption .cancelled)

/-- A description that is not blank, without the blanks around it. -/
def description (text : Option String) : Option String := (text.map trim).filter (!·.isEmpty)

def inputTypes (text : Option String) : List InputType :=
  .image :: if text.isSome then [.text] else []

/-- The keys that the policies use. -/
def policyKeys (r : ReasoningOutput) : List String :=
  Assembly.overrideKeys r ++ Assembly.layerKeys r ++ r.responsiveRules.flatMap Assembly.ruleKeys

/-- A request whose targets and image are accepted. -/
structure Prepared where
  targets : List String
  image : Image
  text : Option String

/-- The targets are checked before the image. -/
def prepare (config : RunConfig) (download : String → Download) (request : AnalysisRequest) :
    Except Stop Prepared :=
  match Framework.request config.settings request.targets config.defaultTarget with
  | .error e => .error (ofRequestRefusal e)
  | .ok targets =>
    match loadImage config.limits download request.image with
    | .error e => .error (ofImageRefusal e)
    | .ok image => .ok ⟨targets, image, description request.text⟩

def callVision (config : RunConfig) (capability : Capability) (image : Image) :
    Except Stop VisionMade :=
  receive config.hasTimeout capability.title visionStage VisionOutput.read
    (fun output => ⟨output, []⟩) (capability.vision image)

def callReasoning (config : RunConfig) (capability : Capability) (vision : VisionMade)
    (text : Option String) (designSystem : Option Json) : Except Stop ReasoningOutput :=
  receive config.hasTimeout capability.title reasoningStage ReasoningOutput.read id
    (capability.reason vision text designSystem)

/-- What both calls tell, put together and assessed. -/
def combine (capability : Capability) (prepared : Prepared) (vision : VisionMade)
    (reasoning : ReasoningOutput) : Except Stop Analysis :=
  match vision.settle (policyKeys reasoning) with
  | .error .unusable =>
    .error (stageFailure "capability output could not be assembled into a schema"
      (capability.name.getD "") assemblyStage)
  | .error misuse => .error (.interruption (.misuse misuse))
  | .ok output =>
    let made := assemble output reasoning (inputTypes prepared.text) prepared.targets
    .ok ⟨made.schema, Quality.assess made.schema made.signals, made.signals⟩

/-- The calls that were made, and what came of them. -/
def analyze (config : RunConfig) (capability : Capability) (download : String → Download)
    (request : AnalysisRequest) : List CapabilityCall × Except Stop Analysis :=
  match prepare config download request with
  | .error stop => ([], .error stop)
  | .ok prepared =>
    let first := CapabilityCall.vision prepared.image
    match callVision config capability prepared.image with
    | .error stop => ([first], .error stop)
    | .ok vision =>
      let calls := [first, .reasoning prepared.text request.designSystem vision]
      match callReasoning config capability vision prepared.text request.designSystem with
      | .error stop => (calls, .error stop)
      | .ok reasoning => (calls, combine capability prepared vision reasoning)

end Analysis

end DesignToCode
