import DesignToCode.Json.Printer
import DesignToCode.Text.Identifier

set_option autoImplicit false

namespace DesignToCode

open DesignToCode.Text

/-- The kinds of markup that code may hold beside its stylesheet. -/
inductive Format where
  | all
  | html
  | react
  deriving DecidableEq, Repr

def Format.named : List (String × Format) := [("all", .all), ("html", .html), ("react", .react)]

def Format.name : Format → String
  | .all => "all"
  | .html => "html"
  | .react => "react"

structure EmitOptions where
  includeComments : Bool := false
  componentName : String := "GeneratedLayout"
  format : Format := .all
  deriving DecidableEq, Repr

namespace EmitOptions

inductive Refusal where
  | unknownFormat (given : Json)
  | noIdentifier (name : String)
  | noName (given : Json)

def Refusal.message : Refusal → String
  | unknownFormat given =>
    s!"format must be one of {quoteList (Format.named.map Prod.fst)}, got {given.shown}"
  | noIdentifier name => s!"component_name must be a valid identifier, got {quote name}"
  | noName given => s!"'{given.kindName}' object has no attribute 'isidentifier'"

def format? : Json → Option Format
  | .str s => Format.named.lookup s
  | _ => none

/-- Options with a format and a name that may be anything; the format is checked first. -/
def check (includeComments : Bool) (name format : Json) : Except Refusal EmitOptions :=
  match format? format, name with
  | none, _ => .error (.unknownFormat format)
  | some format, .str name =>
    if isIdentifier name then .ok ⟨includeComments, name, format⟩ else .error (.noIdentifier name)
  | some _, other => .error (.noName other)

def toJson (o : EmitOptions) : Json :=
  .obj [
    ("include_comments", .bool o.includeComments),
    ("component_name", .str o.componentName),
    ("format", .str o.format.name)]

end EmitOptions

/-- The code for one framework. -/
structure Artifact where
  target : String
  html : Option String
  css : String
  react : Option String
  deriving DecidableEq, Repr

/-- The markup that a format does not ask for is left out. -/
def EmitOptions.artifact (o : EmitOptions) (target html css react : String) : Artifact where
  target := target
  html := if o.format = .react then none else some html
  css := css
  react := if o.format = .html then none else some react

def Artifact.toJson (a : Artifact) : Json :=
  .obj (("css", .str a.css) ::
    ((a.html.map fun s => ("html", Json.str s)).toList ++
      (a.react.map fun s => ("react", Json.str s)).toList))

/-- The code of several frameworks, by their names. -/
def Artifact.codeJson (code : List (String × Artifact)) : Json :=
  .obj (code.map fun entry => (entry.1, entry.2.toJson))

end DesignToCode
