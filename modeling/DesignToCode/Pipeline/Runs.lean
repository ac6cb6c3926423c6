import DesignToCode.Framework.Emission
import DesignToCode.Pipeline.Analysis
import DesignToCode.Pipeline.State

set_option autoImplicit false

/-!
The three things that can be asked for: a schema from an image, code from a schema, and what is
wrong with a schema. A run that goes through ends completed with its data or failed with a failure;
no code is made of a schema that is not valid.
-/
namespace DesignToCode

/-- What a run that is completed hands over. -/
structure RunData where
  schema : Option Schema := none
  quality : Option QualityAssessment := none
  code : Option (List (String × Artifact)) := none

/-- What is not asked for is left out. -/
def RunData.toJson (d : RunData) : Json :=
  .obj ((d.schema.map fun s => ("schema", s.wire)).toList ++
    (d.quality.map fun q => ("qualityAssessment", q.toJson)).toList ++
    (d.code.map fun c => ("code", Artifact.codeJson c)).toList)

inductive Outcome where
  | completed (data : RunData)
  | failed (failure : Failure)
  | interrupted (interruption : Interruption)

/-- A run at its end, with the calls that were made on the way. -/
structure RunReport where
  run : Run
  calls : List CapabilityCall := []
  outcome : Outcome

namespace RunReport

def complete (run : Run) (calls : List CapabilityCall) (data : RunData) : RunReport :=
  ⟨run.enter .completed, calls, .completed data⟩

def fail (run : Run) (calls : List CapabilityCall) (failure : Failure) : RunReport :=
  ⟨run.enter .failed, calls, .failed failure⟩

/-- An interruption leaves the run in the state it was in. -/
def stop (run : Run) (calls : List CapabilityCall) : Stop → RunReport
  | .failure failure => fail run calls failure
  | .interruption interruption => ⟨run, calls, .interrupted interruption⟩

end RunReport

/-- What a report that is not valid is told as. -/
def Report.failure (report : Report) : Failure where
  kind := .validation
  message := s!"Schema failed validation with {report.errors.length} error(s)"
  details := report.findings

/-- Nothing if a schema is valid. -/
def gate (report : Except NoReport Report) : Except Stop Unit :=
  match report with
  | .error why => .error (.interruption (.noReport why))
  | .ok report => if report.valid then .ok () else .error (.failure report.failure)

structure AnalyzeOptions where
  includeCode : Bool := false
  includeQuality : Bool := true
  emit : EmitOptions := {}

def runAnalysis (config : RunConfig) (registry : Registry) (capability : Capability)
    (download : String → Download) (request : AnalysisRequest) (options : AnalyzeOptions) :
    RunReport :=
  let analyzing := ({} : Run).enter .analyzing
  match Analysis.analyze config capability download request with
  | (calls, .error stop) => .stop analyzing calls stop
  | (calls, .ok analysis) =>
    let validating := analyzing.enter .validating
    match gate analysis.schema.validate with
    | .error stop => .stop validating calls stop
    | .ok () =>
      let data : RunData := {
        schema := some analysis.schema
        quality := if options.includeQuality then some analysis.quality else none }
      if options.includeCode then
        let emitting := validating.enter .emitting
        match emit registry analysis.schema analysis.schema.info.frameworkTarget options.emit with
        | .error failure => .fail emitting calls failure
        | .ok code => .complete emitting calls { data with code := some code }
      else .complete validating calls data

/-- A schema as a request gives it. -/
inductive SchemaGiven where
  | document (value : Json)
  | schema (value : Schema)

namespace SchemaGiven

def validate : SchemaGiven → Except NoReport Report
  | document v => DesignToCode.validate v
  | schema s => s.validate

def read : SchemaGiven → Reading Schema
  | document v => Schema.read v
  | schema s => .ok s

end SchemaGiven

/-- The targets of a request for code; nothing if it names none. -/
def codeTargets (targets : Json) : Except Stop (Option (List String)) :=
  if targets.isGiven then
    match Framework.request {} targets "" with
    | .error e => .error (Analysis.ofRequestRefusal e)
    | .ok names => .ok (some names)
  else .ok none

/-- Without targets of its own, a request asks for those of the schema. -/
def runCodeGeneration (registry : Registry) (given : SchemaGiven) (targets : Json)
    (options : EmitOptions) : RunReport :=
  match codeTargets targets with
  | .error stop => .stop {} [] stop
  | .ok names =>
    let validating := ({} : Run).enter .validating
    match gate given.validate with
    | .error stop => .stop validating [] stop
    | .ok () =>
      match given.read with
      | .faulty faults => .stop validating [] (.interruption (.unreadable faults))
      | .ok schema =>
        let emitting := validating.enter .emitting
        match emit registry schema (names.getD schema.info.frameworkTarget) options with
        | .error failure => .fail emitting [] failure
        | .ok code => .complete emitting [] { code := some code }

/-- What is wrong with a document that should be a schema. -/
def runSchemaValidation (v : Json) : Except NoReport Report := validate v

end DesignToCode
