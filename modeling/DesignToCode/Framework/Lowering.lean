import DesignToCode.Framework.Artifact
import DesignToCode.Framework.Bootstrap
import DesignToCode.Framework.Tailwind
import DesignToCode.Markup.Printer

set_option autoImplicit false

/-!
The code of a schema for each framework: the classes of the framework on the tree of the page, and
the stylesheet that goes with them.
-/
namespace DesignToCode

namespace Stylesheet

/-- The class of the page, which no section may take. -/
def rootClass : String := "page"

def namer (classes : ClassMap) : Namer where
  root := [rootClass]
  ofSection := fun sec => [Schema.classIn classes sec]

end Stylesheet

namespace Framework

/-- How the classes of sections are made where a stylesheet of its own goes with the markup. -/
def classOf : Framework → String → String
  | .cssModules => camelClass
  | _ => kebabClass

def classWriter : Framework → ClassWriter
  | .cssModules => moduleClasses
  | _ => quotedClasses

def sheetText : Framework → StyleSheet → String
  | .scss => StyleSheet.scss
  | .postcss => StyleSheet.postcss
  | _ => StyleSheet.css

/-- The lines with which a component takes in its stylesheets. -/
def imports (name : String) : Framework → List String
  | .tailwind => []
  | .bootstrap => [s!"import '{Bootstrap.stylesheetPath}';", s!"import './{name}.css';"]
  | .css | .postcss => [s!"import './{name}.css';"]
  | .scss => [s!"import './{name}.scss';"]
  | .cssModules => [s!"import styles from './{name}.module.css';"]

/-- The classes of the sections where a stylesheet of its own goes with the markup. -/
def stylesheetClasses (framework : Framework) (schema : Schema) : ClassMap :=
  sectionClasses framework.classOf [Stylesheet.rootClass] schema.sectionIds

def namer (framework : Framework) (schema : Schema) : Namer :=
  match framework with
  | .tailwind => Tailwind.namer schema
  | .bootstrap => Bootstrap.namer schema (Bootstrap.plan schema)
  | _ => Stylesheet.namer (framework.stylesheetClasses schema)

/-- The overrides behind the stylesheet of the framework itself. -/
def bootstrapStyles (schema : Schema) : String :=
  let overrides := (Bootstrap.plan schema).sheet.css
  if overrides.isEmpty then Bootstrap.importRule else Bootstrap.importRule ++ "\n" ++ overrides

def styles (framework : Framework) (schema : Schema) (comments : Bool) : String :=
  match framework with
  | .tailwind => Tailwind.directives
  | .bootstrap => bootstrapStyles schema
  | _ =>
    framework.sheetText
      (schema.styleSheet (Schema.classIn (framework.stylesheetClasses schema)) Stylesheet.rootClass
        comments)

def tree (framework : Framework) (schema : Schema) (comments : Bool) : Except PageRefusal Node :=
  schema.page (framework.namer schema) comments

def lower (framework : Framework) (options : EmitOptions) (schema : Schema) :
    Except PageRefusal Artifact :=
  (framework.tree schema options.includeComments).map fun root =>
    options.artifact framework.name (root.html 0) (framework.styles schema options.includeComments)
      (root.react framework.classWriter options.componentName
        (framework.imports options.componentName))

end Framework

end DesignToCode
