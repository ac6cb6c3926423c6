import DesignToCode.Markup.Component

set_option autoImplicit false

/-!
The tree of a page: its sections in order, and in each the components that it lists. The classes
alone differ between frameworks.
-/
namespace DesignToCode

open DesignToCode.Text

/-- The classes of each element of a page. -/
structure Namer where
  root : List String := []
  ofSection : Section → List String := fun _ => []
  ofComponent : Component → Section → List String := fun _ _ => []

/-- A page without classes. -/
def Namer.none : Namer := {}

inductive PageRefusal where
  | unknownComponent (sectionId componentId : String)
  | undrawable (why : ElementRefusal)
  deriving DecidableEq, Repr

def PageRefusal.message : PageRefusal → String
  | unknownComponent sectionId componentId =>
    s!"Section {sectionId} references unknown component {componentId}"
  | undrawable why => why.message

/-- The tags of the types of sections that have one of their own. -/
def sectionTags : List (String × String) := [
  ("header", "header"),
  ("footer", "footer"),
  ("nav", "nav"),
  ("navigation", "nav"),
  ("navbar", "nav"),
  ("aside", "aside"),
  ("sidebar", "aside")]

def sectionTag (type : String) : String := (sectionTags.lookup (lower type)).getD "section"

namespace Schema

/-- The component of an id; of several, the last. -/
def lastComponent? (schema : Schema) (id : String) : Option Component :=
  schema.components.reverse.find? (·.id == id)

def componentNode (schema : Schema) (namer : Namer) (sec : Section) (id : String) :
    Except PageRefusal Node :=
  match schema.lastComponent? id with
  | .none => .error (.unknownComponent sec.id id)
  | some c =>
    match c.element with
    | .error why => .error (.undrawable why)
    | .ok node => .ok (node.withClasses (namer.ofComponent c sec))

def sectionComment (comments : Bool) (sec : Section) : Option String :=
  if comments then some s!"Section: {sec.name} ({sec.layout.name})" else .none

def sectionNode (schema : Schema) (namer : Namer) (comments : Bool) (sec : Section) :
    Except PageRefusal Node :=
  (sec.components.mapM (schema.componentNode namer sec)).map fun children =>
    .element (sectionTag sec.type) [(Node.sectionAttribute, sec.id)] (namer.ofSection sec) children
      (sectionComment comments sec)

def page (schema : Schema) (namer : Namer) (comments : Bool) : Except PageRefusal Node :=
  (schema.sections.mapM (schema.sectionNode namer comments)).map fun children =>
    .element "div" [("data-schema-version", schema.info.schemaVersion)] namer.root children .none

end Schema

end DesignToCode
