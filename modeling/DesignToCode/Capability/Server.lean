import DesignToCode.Capability.Extraction
import DesignToCode.Capability.Prompt
import DesignToCode.Settings.Run
import DesignToCode.Settings.Service
import DesignToCode.Text.Base64
import DesignToCode.Web.Address

set_option autoImplicit false

/-!
Inference by a server of models, of which one sees and one reasons. A call is one request, and its
answer is a document in whose response the output is told.
-/
namespace DesignToCode

open DesignToCode.Text

/-- What a request meets. -/
inductive ServerReply where
  | answered (status : Int) (body : String)
  | timedOut
  | unreachable
  | broken (kind : String)

inductive ServerFailure where
  | timedOut (model : String)
  | unreachable (address : String)
  | broken (kind : String)
  | badAddress (fault : Web.AddressFault)
  | unnamed (address : Web.Address)
  | noModel (model : String)
  | badStatus (status : Int) (body : String)
  | noDocument (body : String) (refusal : Json.Refusal)
  | noFields (kind : String)
  | unreadable (refusal : Extraction.Refusal)
  | noObject (model : String)
  | mismatch (output : String) (faults : List Fault)

namespace ServerFailure

/-- No more than the start of an answer is told on. -/
def toldLength : Nat := 200

def message : ServerFailure → String
  | timedOut model => s!"Ollama timeout ({model})"
  | unreachable address => s!"Ollama connection error: {address}"
  | broken _ => ""
  | badAddress fault => fault.message
  | unnamed address => address.unnamedMessage
  | noModel model => s!"Ollama model not found: {model}"
  | badStatus status body =>
    s!"Ollama API error {status}: " ++ String.ofList (body.toList.take toldLength)
  | noDocument body refusal => refusal.message (Json.content body.toList)
  | noFields kind => s!"'{kind}' object has no attribute 'get'"
  | unreadable refusal => refusal.message
  | noObject model => s!"Ollama[{model}]: response is not a JSON object"
  | mismatch output _ => s!"{output} output does not match schema"

end ServerFailure

/-- What is asked of a model. -/
structure GenerateRequest where
  model : String
  system : String
  prompt : String
  images : List String := []

/-- The answer is asked for as one document and not as a stream. -/
def GenerateRequest.toJson (r : GenerateRequest) (temperature : Binary64) : Json :=
  .obj ([
    ("model", .str r.model),
    ("system", .str r.system),
    ("prompt", .str r.prompt),
    ("format", .str "json"),
    ("stream", .bool false),
    ("options", .obj [("temperature", .real temperature)])] ++
    if r.images.isEmpty then [] else [("images", .strings r.images)])

structure ModelServer where
  address : String
  visionModel : String
  reasoningModel : String

namespace ModelServer

/-- The text if it is not empty, else the usual one. -/
def orUsual (usual : String) (given : Option String) : String :=
  (given.filter (!·.isEmpty)).getD usual

/-- Slashes at the end of an address do not count. -/
def withoutSlashes (address : String) : String :=
  String.ofList (address.toList.reverse.dropWhile (· = '/')).reverse

/-- A server of which not everything needs to be given. -/
def ofGiven (address visionModel reasoningModel : Option String) : ModelServer :=
  let usual : ServiceSettings := {}
  { address := withoutSlashes (orUsual usual.serverAddress address)
    visionModel := orUsual usual.visionModel visionModel
    reasoningModel := orUsual usual.reasoningModel reasoningModel }

/-- Where requests go. -/
def generateAddress (s : ModelServer) : Except Web.AddressFault Web.Address := do
  (← Web.Address.parse s.address).below "api/generate"

def visionRequest (s : ModelServer) (image : List UInt8) : GenerateRequest where
  model := s.visionModel
  system := Prompt.visionSystem
  prompt := Prompt.visionUser
  images := [String.ofList (Base64.encode image)]

def reasoningRequest (s : ModelServer) (vision : VisionOutput) (text : Option String)
    (design : Option Json) : GenerateRequest where
  model := s.reasoningModel
  system := Prompt.reasoningSystem
  prompt := Prompt.reasoningUser vision text design

/-- What an answer holds under its response; an answer without one tells nothing. -/
def response (body : String) : Except ServerFailure Json.Coded :=
  match Json.parseContent body.toList with
  | .error refusal => .error (.noDocument body refusal)
  | .ok (.obj fields) => .ok ((fields.lookup (.text "response")).getD (.str ""))
  | .ok v => .error (.noFields v.kindName)

/-- What a reply of an address tells. -/
def told (s : ModelServer) (address : Web.Address) (model : String) :
    ServerReply → Except ServerFailure Json.Coded
  | .timedOut => .error (.timedOut model)
  | .unreachable => .error (.unreachable s.address)
  | .broken kind => .error (.broken kind)
  | .answered status body =>
    if !address.isNamed then .error (.unnamed address)
    else if status = 404 then .error (.noModel model)
    else if status ≠ 200 then .error (.badStatus status body)
    else response body

/-- The object that a model told, read as a value. -/
def receive {α : Type} (s : ModelServer) (model output : String) (read : Reader α)
    (reply : ServerReply) : Except ServerFailure α := do
  let address ← s.generateAddress.mapError .badAddress
  match Extraction.document (← s.told address model reply) with
  | .error refusal => .error (.unreadable refusal)
  | .ok (some (.obj fields)) =>
    match (Json.Coded.obj fields).document? with
    | none => .error (.unreadable .noText)
    | some object =>
      match read object with
      | .ok a => .ok a
      | .faulty faults => .error (.mismatch output faults)
  | .ok _ => .error (.noObject model)

def vision (s : ModelServer) (reply : ServerReply) : Except ServerFailure VisionOutput :=
  s.receive s.visionModel "vision" VisionOutput.read reply

def reason (s : ModelServer) (reply : ServerReply) : Except ServerFailure ReasoningOutput :=
  s.receive s.reasoningModel "reasoning" ReasoningOutput.read reply

end ModelServer

end DesignToCode
