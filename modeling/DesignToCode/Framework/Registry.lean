import DesignToCode.Framework.Lowering
import DesignToCode.Pipeline.Failure

set_option autoImplicit false

/-!
The targets that code can be asked for, in the order of their registration. A target that is
registered again keeps its place.
-/
namespace DesignToCode

open DesignToCode.Text

structure TargetDefinition where
  target : String
  displayName : String
  description : String
  stylesheetLanguage : String := "css"
  deriving DecidableEq, Repr

inductive TargetDefinition.Refusal where
  | noTarget
  | noDisplayName
  deriving DecidableEq, Repr

def TargetDefinition.Refusal.message : TargetDefinition.Refusal → String
  | noTarget => "target cannot be empty"
  | noDisplayName => "display_name cannot be empty"

/-- A definition that can be registered. -/
def TargetDefinition.check (d : TargetDefinition) :
    Except TargetDefinition.Refusal TargetDefinition :=
  if d.target.isEmpty then .error .noTarget
  else if d.displayName.isEmpty then .error .noDisplayName
  else .ok d

/-- Why there is no code for a target: a failure that tells itself, or anything else. -/
inductive LoweringFailure where
  | told (failure : Failure)
  | untold

/-- How code for a target is made. -/
abbrev Lowering := EmitOptions → Schema → Except LoweringFailure Artifact

structure Target where
  definition : TargetDefinition
  lower : Lowering

abbrev Registry := List (String × Target)

namespace Registry

def register (registry : Registry) (definition : TargetDefinition) (lower : Lowering) :
    Except TargetDefinition.Refusal Registry :=
  definition.check.map fun d => Fields.put registry d.target ⟨d, lower⟩

def isRegistered (registry : Registry) (target : String) : Bool := (registry.lookup target).isSome

def definition? (registry : Registry) (target : String) : Option TargetDefinition :=
  (registry.lookup target).map (·.definition)

def targets (registry : Registry) : List String := registry.map (·.1)

/-- What is told of a target that is not registered. -/
def unknownMessage (registry : Registry) (target : String) : String :=
  s!"Unknown framework target: {target}. Available targets: {quoteList registry.targets}"

end Registry

namespace Framework

def displayName : Framework → String
  | tailwind => "Tailwind CSS"
  | bootstrap => "Bootstrap 5"
  | css => "Plain CSS"
  | scss => "SCSS"
  | cssModules => "CSS Modules"
  | postcss => "PostCSS"

def description : Framework → String
  | tailwind => "Utility classes with arbitrary values and sm:/md:/lg: breakpoint prefixes"
  | bootstrap => "Bootstrap grid/flex utilities with responsive infixes and an override stylesheet"
  | css => "Semantic HTML with a standalone stylesheet and min-width media queries"
  | scss => "Nested SCSS with a breakpoint map and respond() mixin"
  | cssModules => "camelCase module classes; the React component imports `styles`"
  | postcss => "CSS with @custom-media breakpoints and nested rules (postcss-preset-env)"

def stylesheetLanguage : Framework → String
  | scss => "scss"
  | _ => "css"

def definition (framework : Framework) : TargetDefinition :=
  ⟨framework.name, framework.displayName, framework.description, framework.stylesheetLanguage⟩

def lowering (framework : Framework) : Lowering := fun options schema =>
  (framework.lower options schema).mapError fun _ => .untold

end Framework

/-- The frameworks in the order in which they are listed. -/
def Registry.builtIn : Registry :=
  [Framework.bootstrap, .css, .scss, .cssModules, .postcss, .tailwind].map fun framework =>
    (framework.name, ⟨framework.definition, framework.lowering⟩)

end DesignToCode
