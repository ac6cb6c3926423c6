import DesignToCode.Framework.Artifact
import DesignToCode.Json.Parser
import DesignToCode.Reading.Basic
import DesignToCode.Text.Case
import DesignToCode.Text.Search
import DesignToCode.Text.Encoding
import DesignToCode.Web.Address

set_option autoImplicit false

/-!
Requests to the service and what their bodies say. A body counts as a document only if it is
declared as one.
-/
namespace DesignToCode

open DesignToCode.Text

structure ServiceRequest where
  method : String
  path : String
  contentType : Option String := none
  body : List UInt8 := []

/-- What a request holds beside its head. -/
inductive RequestBody where
  | absent
  | undeclared
  | document (value : Json)

/-- Why a body that is declared as a document is none. What comes of a document with a string that
is no text is left open. -/
inductive BodyRefusal where
  | malformed (position : Nat)
  | unreadable
  | noText

namespace ServiceRequest

/-- Where the service is. -/
def home : Web.Address := { scheme := "http", host := "service" }

/-- The path that is asked for, without its query. -/
def pathText (r : ServiceRequest) : Except Web.AddressFault String := do
  return (← home.requestedFrom (← Web.Address.parse r.path)).pathText

/-- A content type without its parameters, or plain text if that is no pair of names. -/
def mediaType (contentType : String) : String :=
  let name := String.ofList (lowered (trimmed (contentType.toList.takeWhile (· != ';'))))
  if name.toList.count '/' = 1 then name else "text/plain"

def declaresDocument (contentType : String) : Bool :=
  match cut '/' (mediaType contentType).toList with
  | (main, some sub) =>
    String.ofList main = "application" &&
      (String.ofList sub = "json" || "+json".toList.reverse.isPrefixOf sub.reverse)
  | _ => false

/-- A text that was sent as a document; null is as good as nothing. -/
def parseBody (text : String) : Except BodyRefusal RequestBody :=
  match Json.parse text.toList with
  | .ok .null => .ok .absent
  | .ok v =>
    match v.document? with
    | none => .error .noText
    | some d => .ok (.document d)
  | .error (.malformed _ position) => .error (.malformed position)
  | .error (.tooManyDigits _) | .error (.tooDeep _) => .error .unreadable

def readBody (r : ServiceRequest) : Except BodyRefusal RequestBody :=
  if r.body.isEmpty then .ok .absent
  else if !r.contentType.any declaresDocument then .ok .undeclared
  else
    match textOfBytes? r.body with
    | none => .error .unreadable
    | some text => parseBody text

end ServiceRequest

structure AnalyzeBody where
  image : String
  text : Option String
  targets : Option (List String)
  includeCode : Bool
  includeQuality : Bool
  designSystem : Option Fields
  emit : EmitOptions

structure GenerateBody where
  schema : Fields
  targets : Option (List String)
  emit : EmitOptions

namespace Reader

/-- An object, which the body of a request and each part of it must be. -/
def body {α : Type} (read : Fields → Reading α) : Reader α
  | .obj fields => read fields
  | _ => .fail .notBody

def nonEmptyText : Reader String := fun v =>
  (string v).andThen fun s => if s.isEmpty then .fail (.tooShort 1) else .ok s

/-- One target, or several; what is neither is told as each. -/
def targetNames : Reader (List String)
  | .str s => .ok [s]
  | v =>
    match list string v with
    | .ok names => .ok names
    | .faulty faults =>
      .faulty (⟨.notString, [.key "str"]⟩ :: faults.map (Fault.under (.key "list[str]")))

def componentNamePattern : String := "^[A-Za-z_][A-Za-z0-9_]*$"

/-- A letter or underscore, followed by letters, digits and underscores. -/
def isComponentName (s : String) : Bool :=
  match s.toList with
  | [] => false
  | c :: rest =>
    (isAsciiLetter c || c = '_') && rest.all fun c => isAsciiAlphanumeric c || c = '_'

def componentName : Reader String := fun v =>
  (string v).andThen fun s =>
    if isComponentName s then .ok s else .fail (.unmatched componentNamePattern)

def format : Reader Format
  | .str s =>
    match Format.named.lookup s with
    | some format => .ok format
    | none => .fail (.notLiteral (Format.named.map (·.1)))
  | _ => .fail (.notLiteral (Format.named.map (·.1)))

def emitOptions (fields : Fields) : Reading EmitOptions :=
  EmitOptions.mk <$> defaulted fields "includeComments" "include_comments" boolean false
    <*> defaulted fields "componentName" "component_name" componentName "GeneratedLayout"
    <*> defaulted fields "format" "format" format .all

end Reader

open Reader

/-- The options of an analysis are an object of their own. -/
structure AnalyzeBodyOptions where
  includeCode : Bool := false
  includeQuality : Bool := true
  designSystem : Option Fields := none
  emit : EmitOptions := {}

def AnalyzeBodyOptions.read : Reader AnalyzeBodyOptions :=
  body fun fields =>
    AnalyzeBodyOptions.mk <$> defaulted fields "includeCode" "include_code" boolean false
      <*> defaulted fields "includeQualityAssessment" "include_quality_assessment" boolean true
      <*> defaulted fields "designSystem" "design_system" (optional (mapping anything)) none
      <*> emitOptions fields

def AnalyzeBody.read : Reader AnalyzeBody :=
  body fun fields =>
    (fun image text targets (o : AnalyzeBodyOptions) =>
        ⟨image, text, targets, o.includeCode, o.includeQuality, o.designSystem, o.emit⟩)
      <$> required fields "image" "image" nonEmptyText
      <*> defaulted fields "textualDescription" "textual_description" (optional string) none
      <*> defaulted fields "frameworkTarget" "framework_target" (optional targetNames) none
      <*> defaulted fields "options" "options" AnalyzeBodyOptions.read {}

def GenerateBody.read : Reader GenerateBody :=
  body fun fields =>
    GenerateBody.mk <$> required fields "schema" "schema_" (mapping anything)
      <*> defaulted fields "frameworkTarget" "framework_target" (optional targetNames) none
      <*> defaulted fields "options" "options" (body emitOptions) {}

/-- The document that is to be validated may be anything. -/
def readSchemaGiven : Reader Json :=
  body fun fields => required fields "schema" "schema_" anything

end DesignToCode
