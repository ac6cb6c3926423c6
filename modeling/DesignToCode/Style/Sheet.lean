import DesignToCode.Style.ClassName
import DesignToCode.Style.Declarations

set_option autoImplicit false

/-!
The stylesheet of a schema: a rule for the page, one for each section in order, and one media block
for each responsive rule that declares something. Media blocks apply from their width on.
-/
namespace DesignToCode

/-- A rule for the elements of one class. -/
structure StyleRule where
  className : String
  declarations : Declarations := []
  comment : Option String := none

structure MediaBlock where
  label : String
  minWidth : Int
  rules : List StyleRule := []

structure StyleSheet where
  rules : List StyleRule := []
  media : List MediaBlock := []

namespace StyleRule

def declaresNothing (r : StyleRule) : Bool := r.declarations.isEmpty

end StyleRule

/-- The rules that declare something. -/
def MediaBlock.effective (m : MediaBlock) : List StyleRule :=
  m.rules.filter fun r => !r.declaresNothing

def StyleSheet.isEmpty (s : StyleSheet) : Bool :=
  s.rules.all (·.declaresNothing) && s.media.all (·.rules.isEmpty)

namespace Schema

/-- The section of an id; of several, the last. -/
def section? (schema : Schema) (id : String) : Option Section :=
  schema.sections.reverse.find? (·.id == id)

/-- The sections that a change is about: all of them, or the one of that id if there is one. -/
def sectionsFor (schema : Schema) (target : String) : List Section :=
  if target = everySection then schema.sections else (schema.section? target).toList

/-- The sections that the changes of a rule are about, each with its change. -/
def changesOf (schema : Schema) (rule : ResponsiveRule) : List (ResponsiveChange × Section) :=
  rule.rules.flatMap fun change => (schema.sectionsFor change.target).map (Prod.mk change)

end Schema

/-- Declares more for a class, in place of what is declared for it of the same properties. -/
def declareMore (made : List (String × Declarations)) (className : String) (more : Declarations) :
    List (String × Declarations) :=
  Fields.put made className (Fields.putAll ((made.lookup className).getD []) more)

namespace Schema

/-- What a rule declares for each class, in the order in which its changes reach them. -/
def mediaDeclarations (schema : Schema) (classOf : Section → String) (rule : ResponsiveRule) :
    List (String × Declarations) :=
  (schema.changesOf rule).foldl (fun made pair =>
    declareMore made (classOf pair.2) (pair.1.declarations pair.2 schema)) []

/-- The media block of a rule, unless its width is unknown or nothing is declared. -/
def mediaBlock? (schema : Schema) (classOf : Section → String) (rule : ResponsiveRule) :
    Option MediaBlock :=
  match rule.resolvedMinWidth with
  | none => none
  | some width =>
    let made := (schema.mediaDeclarations classOf rule).filter fun entry => !entry.2.isEmpty
    if made.isEmpty then none
    else some ⟨rule.breakpoint, width, made.map fun entry => ⟨entry.1, entry.2, none⟩⟩

/-- A comment if comments are asked for. -/
def commentIf (comments : Bool) (text : String) : Option String :=
  if comments then some text else none

def rootRule (schema : Schema) (root : String) (comments : Bool) : StyleRule :=
  ⟨root, schema.rootDeclarations, commentIf comments s!"Layout: {schema.layoutStrategy.approach}"⟩

def sectionRule (schema : Schema) (classOf : Section → String) (comments : Bool) (sec : Section) :
    StyleRule :=
  ⟨classOf sec, schema.sectionDeclarations sec, commentIf comments s!"Section: {sec.name}"⟩

def styleSheet (schema : Schema) (classOf : Section → String) (root : String) (comments : Bool) :
    StyleSheet where
  rules :=
    schema.rootRule root comments :: schema.sections.map (schema.sectionRule classOf comments)
  media := schema.responsiveRules.filterMap (schema.mediaBlock? classOf)

/-- The class that a map gives to a section; the map has one for each section it was made for. -/
def classIn (classes : ClassMap) (sec : Section) : String := (classes.lookup sec.id).getD ""

/-- The stylesheet over a given map, or the id of the first section that has no class there. -/
def styleSheetOver (schema : Schema) (classes : ClassMap) (root : String) (comments : Bool) :
    Except String StyleSheet :=
  match schema.sections.find? fun sec => (classes.lookup sec.id).isNone with
  | some sec => .error sec.id
  | none => .ok (schema.styleSheet (classIn classes) root comments)

end Schema

end DesignToCode
