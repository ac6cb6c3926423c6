import DesignToCode.Pipeline.Runs
import DesignToCode.Service.Request

set_option autoImplicit false

/-!
How the service answers. Every answer but those of the router is an envelope that tells whether the
request succeeded and holds either data or an error.
-/
namespace DesignToCode

structure ServiceAnswer where
  status : Nat
  body : Json

/-- The status under which a failure is told. -/
def FailureKind.status : FailureKind → Nat
  | input => 400
  | capability => 502
  | validation => 422
  | emission | pipeline => 500

namespace ServiceAnswer

/-- An answer of the router. -/
def detail (status : Nat) (text : String) : ServiceAnswer := ⟨status, .obj [("detail", .str text)]⟩

def notFound : ServiceAnswer := detail 404 "Not Found"

/-- An answer that names another place has nothing else to tell. -/
def moved : ServiceAnswer := ⟨307, .null⟩

def notAllowed : ServiceAnswer := detail 405 "Method Not Allowed"

def notInitialized : ServiceAnswer := detail 503 "Pipeline not initialized"

def unreadable : ServiceAnswer := detail 400 "There was an error parsing the body"

def healthy : ServiceAnswer := ⟨200, .obj [("status", .str "ok")]⟩

def idFields (requestId : Option String) : Fields :=
  (requestId.map fun id => ("requestId", Json.str id)).toList

def success (data : Json) (requestId : Option String) : ServiceAnswer :=
  ⟨200, .obj ([("success", .bool true), ("data", data)] ++ idFields requestId)⟩

def failure (f : Failure) (requestId : Option String) : ServiceAnswer :=
  let details : Fields := if f.details.isEmpty then [] else [("details", .obj f.details)]
  ⟨f.kind.status, .obj ([("success", .bool false),
    ("error", .obj ([("code", .str f.kind.name), ("message", .str f.message)] ++ details))] ++
    idFields requestId)⟩

/-- What is wrong with a request: the place, each step as a text, and the message. -/
def faulty (faults : List (List String × String)) : ServiceAnswer :=
  let errors := Json.list (fun f => .obj [("loc", .strings f.1), ("msg", .str f.2)]) faults
  failure (.ofInput "Invalid request body" [("errors", errors)]) none

/-- Where the body of a request is told to be. -/
def bodyPlace : String := "body"

def ofFaults (faults : List Fault) : ServiceAnswer :=
  faulty (faults.map fun f => (bodyPlace :: f.location.map Step.text, f.cause.message))

def ofMalformed (position : Nat) : ServiceAnswer :=
  faulty [([bodyPlace, toString position], "JSON decode error")]

end ServiceAnswer

/-- What is done about the body of a request. -/
inductive Task where
  | analyze
  | generate
  | validateSchema
  deriving DecidableEq, Repr

/-- What the service knows how to do. -/
inductive Route where
  | health
  | listTargets
  | run (task : Task)
  deriving DecidableEq, Repr

namespace Route

def paths : List (String × Route) := [
  ("/health", .health),
  ("/api/v1/analyze", .run .analyze),
  ("/api/v1/code/generate", .run .generate),
  ("/api/v1/code/validate-schema", .run .validateSchema),
  ("/api/v1/code/targets", .listTargets)]

def method : Route → String
  | health | listTargets => "GET"
  | run _ => "POST"

/-- The route of a path. A line break at its end does not count. -/
def find? (path : String) : Option Route :=
  let cs := path.toList
  paths.lookup (String.ofList (if cs.getLast? = some '\n' then cs.dropLast else cs))

/-- Whether a path would have a route without the slashes at its end. -/
def isNear (path : String) : Bool :=
  let cs := path.toList
  cs.getLast? = some '/' && (find? (String.ofList (cs.reverse.dropWhile (· = '/')).reverse)).isSome

end Route

/-- The service at work. Until it is initialized there is no capability. -/
structure Service where
  capability : Option Capability
  config : RunConfig := {}
  registry : Registry := .builtIn
  download : String → Download
  requestId : String

namespace Service

/-- Why a request is left without an answer: its run was interrupted, its address is none, or it is
left open what comes of it. -/
inductive Unanswered where
  | run (interruption : Interruption)
  | badAddress (message : String)
  | noText

abbrev Handled := Except Unanswered ServiceAnswer

def ofReport (s : Service) (report : RunReport) : Handled :=
  match report.outcome with
  | .completed data => .ok (.success data.toJson s.requestId)
  | .failed failure => .ok (.failure failure s.requestId)
  | .interrupted interruption => .error (.run interruption)

def targetsGiven (targets : Option (List String)) : Json := .ofOption .strings targets

def analyze (s : Service) (capability : Capability) (b : AnalyzeBody) : Handled :=
  s.ofReport (runAnalysis s.config s.registry capability s.download
    ⟨.text b.image, b.text, targetsGiven b.targets, b.designSystem.map .obj⟩
    ⟨b.includeCode, b.includeQuality, b.emit⟩)

def generate (s : Service) (b : GenerateBody) : Handled :=
  s.ofReport (runCodeGeneration s.registry (.document (.obj b.schema)) (targetsGiven b.targets)
    b.emit)

def validateSchema (v : Json) : Handled :=
  match runSchemaValidation v with
  | .ok report => .ok (.success report.toJson none)
  | .error why => .error (.run (.noReport why))

def definitionJson (d : TargetDefinition) : Json :=
  .obj [
    ("target", .str d.target),
    ("displayName", .str d.displayName),
    ("description", .str d.description),
    ("stylesheetLanguage", .str d.stylesheetLanguage)]

def listTargets (s : Service) : ServiceAnswer :=
  .success
    (.obj [("targets", .list (fun entry => definitionJson entry.2.definition) s.registry)]) none

/-- Reads the body of a request. -/
def reading {α : Type} (read : Reader α) (body : RequestBody) (next : α → Handled) : Handled :=
  let r : Reading α := match body with
    | .absent => .fail .missing
    | .undeclared => .fail .notBody
    | .document v => read v
  match r with
  | .ok a => next a
  | .faulty faults => .ok (.ofFaults faults)

def run (s : Service) (capability : Capability) (body : RequestBody) : Task → Handled
  | .analyze => reading AnalyzeBody.read body (s.analyze capability)
  | .generate => reading GenerateBody.read body s.generate
  | .validateSchema => reading readSchemaGiven body validateSchema

/-- A body that is no document is told even before the service is initialized; whether it says what
it should is asked only after that. -/
def runRequest (s : Service) (r : ServiceRequest) (task : Task) : Handled :=
  match r.readBody, s.capability with
  | .error (.malformed position), _ => .ok (.ofMalformed position)
  | .error .unreadable, _ => .ok .unreadable
  | .error .noText, _ => .error .noText
  | .ok _, none => .ok .notInitialized
  | .ok body, some capability => s.run capability body task

def dispatch (s : Service) (r : ServiceRequest) (route : Route) : Handled :=
  if route.method ≠ r.method then .ok .notAllowed
  else
    match route with
    | .health => .ok .healthy
    | .listTargets => .ok s.listTargets
    | .run task => s.runRequest r task

def handle (s : Service) (r : ServiceRequest) : Handled :=
  match r.pathText with
  | .error fault => .error (.badAddress fault.message)
  | .ok path =>
    match Route.find? path with
    | some route => s.dispatch r route
    | none => .ok (if Route.isNear path then .moved else .notFound)

end Service

end DesignToCode
