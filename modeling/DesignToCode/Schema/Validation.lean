import DesignToCode.Schema.Read
import DesignToCode.Schema.Version
import DesignToCode.Schema.Wire

set_option autoImplicit false

/-!
The gate in front of the code writers. It looks at the stored form of a schema, so that whatever is
wrong with a document is reported; only if no rule finds an error is the document read as a schema,
and what the reading finds is reported in turn. Errors block, warnings never do.
-/
namespace DesignToCode

inductive Rule where
  | missingField
  | invalidType
  | versionInvalid
  | versionUnsupported
  | inputTypeEmpty
  | inputTypeUnknown
  | targetsEmpty
  | targetUnsupported
  | targetDuplicate
  | confidenceInvalid
  | componentMissingId
  | duplicateComponentId
  | sectionsEmpty
  | sectionMissingId
  | duplicateSectionId
  | layoutInvalid
  | danglingReference
  | componentUnreferenced
  | assumptionNotString
  | ambiguityMalformed
  | breakpointUnknown
  | breakpointOrder
  | responsiveTargetUnknown
  | layeringTargetUnknown
  | overrideUnknown
  | outOfRange
  deriving DecidableEq, Repr

def Rule.name : Rule → String
  | .missingField => "missing_field"
  | .invalidType => "invalid_type"
  | .versionInvalid => "schema_version_invalid"
  | .versionUnsupported => "schema_version_unsupported"
  | .inputTypeEmpty => "input_type_empty"
  | .inputTypeUnknown => "input_type_unknown"
  | .targetsEmpty => "framework_target_empty"
  | .targetUnsupported => "framework_target_unsupported"
  | .targetDuplicate => "framework_target_duplicate"
  | .confidenceInvalid => "confidence_level_invalid"
  | .componentMissingId => "component_missing_id"
  | .duplicateComponentId => "duplicate_component_id"
  | .sectionsEmpty => "sections_empty"
  | .sectionMissingId => "section_missing_id"
  | .duplicateSectionId => "duplicate_section_id"
  | .layoutInvalid => "section_layout_invalid"
  | .danglingReference => "dangling_component_reference"
  | .componentUnreferenced => "component_unreferenced"
  | .assumptionNotString => "assumption_not_string"
  | .ambiguityMalformed => "ambiguity_malformed"
  | .breakpointUnknown => "breakpoint_unknown"
  | .breakpointOrder => "breakpoint_order"
  | .responsiveTargetUnknown => "responsive_target_unknown"
  | .layeringTargetUnknown => "layering_target_unknown"
  | .overrideUnknown => "background_override_unknown"
  | .outOfRange => "value_out_of_range"

structure Issue where
  rule : Rule
  path : String
  message : String
  deriving DecidableEq, Repr

/-- What was found. A message that cannot be written breaks the report off. -/
structure Report where
  errors : List Issue := []
  warnings : List Issue := []
  broken : Option Json.Unwritable := none
  deriving DecidableEq, Repr

namespace Report

/-- A report is clear when nothing blocks. -/
def valid (r : Report) : Bool := r.errors.isEmpty

def error (rule : Rule) (path message : String) : Report := { errors := [⟨rule, path, message⟩] }

def warning (rule : Rule) (path message : String) : Report :=
  { warnings := [⟨rule, path, message⟩] }

/-- A report whose message shows these documents. -/
def showing (r : Report) (values : List Json) : Report :=
  { r with broken := values.findSome? Json.unwritable? }

instance : Append Report :=
  ⟨fun r s => ⟨r.errors ++ s.errors, r.warnings ++ s.warnings, r.broken.or s.broken⟩⟩

@[simp] theorem errors_append (r s : Report) : (r ++ s).errors = r.errors ++ s.errors := rfl

@[simp] theorem warnings_append (r s : Report) : (r ++ s).warnings = r.warnings ++ s.warnings := rfl

@[simp] theorem broken_append (r s : Report) : (r ++ s).broken = r.broken.or s.broken := rfl

@[simp] theorem errors_showing (r : Report) (values : List Json) :
    (r.showing values).errors = r.errors := rfl

@[simp] theorem warnings_showing (r : Report) (values : List Json) :
    (r.showing values).warnings = r.warnings := rfl

@[simp] theorem broken_showing (r : Report) (values : List Json) :
    (r.showing values).broken = values.findSome? Json.unwritable? := rfl

/-- The reports of the members of a list, each with its position. -/
def each {α : Type} (check : Nat → α → Report) : Nat → List α → Report
  | _, [] => {}
  | i, a :: rest => check i a ++ each check (i + 1) rest

end Report

def Issue.toJson (i : Issue) : Json :=
  .obj [("rule", .str i.rule.name), ("path", .str i.path), ("message", .str i.message)]

/-- The findings without the verdict. -/
def Report.findings (r : Report) : Fields :=
  [("errors", .list Issue.toJson r.errors), ("warnings", .list Issue.toJson r.warnings)]

def Report.toJson (r : Report) : Json := .obj (("valid", .bool r.valid) :: r.findings)

namespace Validation

open Report

inductive Container where
  | object
  | array
  deriving DecidableEq, Repr

def Container.holds : Container → Json → Bool
  | .object, .obj _ => true
  | .array, .arr _ => true
  | _, _ => false

def Container.name : Container → String
  | .object => "an object"
  | .array => "an array"

def requiredFields : List (String × Container) := [
  ("meta", .object),
  ("sections", .array),
  ("components", .array),
  ("layoutStrategy", .object),
  ("backgroundStrategy", .object),
  ("layering", .object),
  ("responsiveRules", .array),
  ("assumptions", .array),
  ("ambiguities", .array)]

def requiredField (fields : Fields) (entry : String × Container) : Report :=
  match fields.lookup entry.1 with
  | none => error .missingField entry.1 s!"required field '{entry.1}' is missing"
  | some v =>
    if entry.2.holds v then {}
    else error .invalidType entry.1 s!"'{entry.1}' must be {entry.2.name}"

def topLevel (fields : Fields) : Report :=
  each (fun _ entry => requiredField fields entry) 0 requiredFields

def requiredInfo : List String :=
  ["schemaVersion", "inputType", "frameworkTarget", "confidenceLevel"]

def missingInfo (info : Fields) : Report :=
  each (fun _ key =>
    if (info.lookup key).isSome then {}
    else error .missingField s!"meta.{key}" s!"required field 'meta.{key}' is missing") 0
    requiredInfo

def versionOf (info : Fields) : Except DigitOverflow Report :=
  match info.lookup "schemaVersion" with
  | none => .ok {}
  | some v =>
    (Version.ofJson v).map fun
      | none =>
        (error .versionInvalid "meta.schemaVersion"
          s!"schemaVersion {v.shown} is not a semantic version").showing [v]
      | some version =>
        if version.major = supportedMajor then {}
        else
          error .versionUnsupported "meta.schemaVersion"
            (s!"schemaVersion {v.text} is outside supported range " ++
              s!">={supportedMajor}.0.0,<{supportedMajor + 1}.0.0")

def inputType (i : Nat) : Json → Report
  | .str s =>
    if inputTypeNames.contains s then {}
    else
      error .inputTypeUnknown s!"meta.inputType[{i}]"
        s!"unknown input type {Text.quote s} (expected one of {Text.quoteList inputTypeNames})"
  | _ => error .invalidType s!"meta.inputType[{i}]" "input type must be a string"

def inputTypes (info : Fields) : Report :=
  match info.lookup "inputType" with
  | none => {}
  | some (.arr []) => error .inputTypeEmpty "meta.inputType" "inputType must not be empty"
  | some (.arr values) => each inputType 0 values
  | some _ => error .invalidType "meta.inputType" "'meta.inputType' must be an array"

/-- A target is supported and was not listed before. -/
def target (seen : List String) (i : Nat) (s : String) : Report :=
  if !Framework.names.contains s then
    error .targetUnsupported s!"meta.frameworkTarget[{i}]"
      (s!"unsupported framework target {Text.quote s} (supported: " ++
        ", ".intercalate Framework.names ++ ")")
  else if seen.contains s then
    warning .targetDuplicate s!"meta.frameworkTarget[{i}]"
      s!"framework target {Text.quote s} listed more than once"
  else {}

def targetsFrom (seen : List String) : Nat → List Json → Report
  | _, [] => {}
  | i, .str s :: rest => target seen i s ++ targetsFrom (s :: seen) (i + 1) rest
  | i, _ :: rest =>
    error .invalidType s!"meta.frameworkTarget[{i}]" "framework target must be a string" ++
      targetsFrom seen (i + 1) rest

def targets (info : Fields) : Report :=
  match info.lookup "frameworkTarget" with
  | none => {}
  | some (.arr []) =>
    error .targetsEmpty "meta.frameworkTarget" "frameworkTarget must not be empty"
  | some (.arr values) => targetsFrom [] 0 values
  | some _ => error .invalidType "meta.frameworkTarget" "'meta.frameworkTarget' must be an array"

def isConfidence : Json → Bool
  | .str s => confidenceNames.contains s
  | _ => false

def confidence (info : Fields) : Report :=
  match info.lookup "confidenceLevel" with
  | none => {}
  | some v =>
    if isConfidence v then {}
    else
      (error .confidenceInvalid "meta.confidenceLevel"
        s!"confidenceLevel {v.shown} must be one of high, medium, low").showing [v]

def info (fields : Fields) : Except DigitOverflow Report :=
  match fields.lookup "meta" with
  | some (.obj about) =>
    (versionOf about).map fun version =>
      missingInfo about ++ version ++ inputTypes about ++ targets about ++ confidence about
  | _ => .ok {}

/-- The items of a field that is an array. -/
def itemsOf (fields : Fields) (key : String) : List Json :=
  match fields.lookup key with
  | some (.arr values) => values
  | _ => []

/-- The id of an object, if it is a string that is not empty. -/
def id? (fields : Fields) : Option String :=
  match fields.lookup "id" with
  | some (.str s) => if s.isEmpty then none else some s
  | _ => none

def idOf? : Json → Option String
  | .obj fields => id? fields
  | _ => none

/-- The ids of the objects of a list. -/
def ids (items : List Json) : List String := items.filterMap idOf?

def componentsFrom (seen : List String) : Nat → List Json → Report
  | _, [] => {}
  | i, .obj fields :: rest =>
    match id? fields with
    | none =>
      error .componentMissingId s!"components[{i}].id" "component has no id" ++
        componentsFrom seen (i + 1) rest
    | some id =>
      (if seen.contains id then
        error .duplicateComponentId s!"components[{i}].id" s!"duplicate component id '{id}'"
      else {}) ++ componentsFrom (id :: seen) (i + 1) rest
  | i, _ :: rest =>
    error .invalidType s!"components[{i}]" "component must be an object" ++
      componentsFrom seen (i + 1) rest

def sectionId (seen : List String) (i : Nat) (fields : Fields) : Report :=
  match id? fields with
  | none => error .sectionMissingId s!"sections[{i}].id" "section has no id"
  | some id =>
    if seen.contains id then
      error .duplicateSectionId s!"sections[{i}].id" s!"duplicate section id '{id}'"
    else {}

def isLayout : Json → Bool
  | .str s => layoutNames.contains s
  | _ => false

def sectionLayout (i : Nat) (fields : Fields) : Report :=
  let layout := (fields.lookup "layout").getD (.str Layout.block.name)
  if isLayout layout then {}
  else
    (error .layoutInvalid s!"sections[{i}].layout"
      (s!"layout {layout.shown} must be one of " ++ ", ".intercalate layoutNames)).showing [layout]

/-- A reference of a section, which is told by its id, whatever that is. -/
def reference (known : List String) (owner : Json) (i j : Nat) : Json → Report
  | .str ref =>
    if known.contains ref then {}
    else
      (error .danglingReference s!"sections[{i}].components[{j}]"
        s!"section '{owner.text}' references unknown component '{ref}'").showing [owner]
  | _ =>
    error .invalidType s!"sections[{i}].components[{j}]"
      "section components must be component id strings"

def references (known : List String) (i : Nat) (fields : Fields) : Report :=
  match fields.lookup "components" with
  | none => {}
  | some (.arr refs) =>
    each (reference known ((fields.lookup "id").getD .null) i) 0 refs
  | some _ =>
    error .invalidType s!"sections[{i}].components" "section components must be an array"

def sectionsFrom (known seen : List String) : Nat → List Json → Report
  | _, [] => {}
  | i, .obj fields :: rest =>
    sectionId seen i fields ++ sectionLayout i fields ++ references known i fields ++
      sectionsFrom known ((id? fields).toList ++ seen) (i + 1) rest
  | i, _ :: rest =>
    error .invalidType s!"sections[{i}]" "section must be an object" ++
      sectionsFrom known seen (i + 1) rest

def string? : Json → Option String
  | .str s => some s
  | _ => none

/-- The components that a section names, whatever else is wrong with it. -/
def referencedBy : Json → List String
  | .obj fields => (itemsOf fields "components").filterMap string?
  | _ => []

def unreferenced (sections components : List Json) : Report :=
  let referenced := sections.flatMap referencedBy
  each (fun _ id =>
    if referenced.contains id then {}
    else
      warning .componentUnreferenced "components"
        s!"component '{id}' is not referenced by any section") 0 (ids components)

def sections (fields : Fields) : Report :=
  match fields.lookup "sections" with
  | some (.arr items) =>
    let components := itemsOf fields "components"
    (if items.isEmpty then
      warning .sectionsEmpty "sections" "schema has no sections; emitted markup will be empty"
    else sectionsFrom (ids components) [] 0 items) ++ unreferenced items components
  | _ => {}

def assumption (i : Nat) : Json → Report
  | .str _ => {}
  | _ => error .assumptionNotString s!"assumptions[{i}]" "assumption must be a string"

def isAmbiguity : Json → Bool
  | .obj fields =>
    ["type", "description", "assumption"].all fun key =>
      ((fields.lookup key).bind string?).isSome
  | _ => false

def ambiguity (i : Nat) (v : Json) : Report :=
  if isAmbiguity v then {}
  else
    error .ambiguityMalformed s!"ambiguities[{i}]"
      "ambiguity must have string type, description and assumption"

/-- A width and the document that tells it; a truth value counts as a number. -/
structure Width where
  value : Int
  told : Json

def width? (fields : Fields) : Option Width :=
  match (fields.lookup "minWidth").getD .null with
  | .null =>
    match (fields.lookup "breakpoint").bind string? with
    | some name => (breakpoints.lookup name).map fun w => ⟨w, .int w⟩
    | none => none
  | .num (.int i) => some ⟨i, .int i⟩
  | .bool b => some ⟨if b then 1 else 0, .bool b⟩
  | _ => none

def breakpointOf (fields : Fields) : Json := (fields.lookup "breakpoint").getD .null

def ruleWidth (previous : Option Int) (i : Nat) (fields : Fields) : Report :=
  match width? fields with
  | none =>
    (error .breakpointUnknown s!"responsiveRules[{i}].breakpoint"
      (s!"breakpoint {(breakpointOf fields).shown} is not one of " ++
        ", ".intercalate (breakpoints.map (·.1)) ++ " and has no minWidth")).showing
      [breakpointOf fields]
  | some width =>
    match previous with
    | none => {}
    | some before =>
      if width.value < before then
        (warning .breakpointOrder s!"responsiveRules[{i}].breakpoint"
          (s!"breakpoint {(breakpointOf fields).shown} ({width.told.text}px) " ++
            "follows a wider breakpoint; later rules win in emitted CSS")).showing
          [breakpointOf fields, width.told]
      else {}

def targetOf? : Json → Option String
  | .obj fields => (fields.lookup "target").bind string?
  | _ => none

def change (known : List String) (i j : Nat) (v : Json) : Report :=
  match targetOf? v with
  | none =>
    error .invalidType s!"responsiveRules[{i}].rules[{j}].target" "change target must be a string"
  | some name =>
    if name = everySection ∨ known.contains name then {}
    else
      warning .responsiveTargetUnknown s!"responsiveRules[{i}].rules[{j}].target"
        s!"responsive rule targets unknown section {Text.quote name}"

def changes (known : List String) (i : Nat) (fields : Fields) : Report :=
  match Json.given? (fields.lookup "rules") with
  | none => {}
  | some (.arr items) => each (change known i) 0 items
  | some _ =>
    error .invalidType s!"responsiveRules[{i}].rules" "responsive rule changes must be an array"

def rulesFrom (known : List String) (previous : Option Int) : Nat → List Json → Report
  | _, [] => {}
  | i, .obj fields :: rest =>
    let now := ((width? fields).map (·.value)).or previous
    ruleWidth previous i fields ++ changes known i fields ++ rulesFrom known now (i + 1) rest
  | i, _ :: rest =>
    error .invalidType s!"responsiveRules[{i}]" "responsive rule must be an object" ++
      rulesFrom known previous (i + 1) rest

def targetShown : Json → Json
  | .obj fields => (fields.lookup "target").getD .null
  | _ => .null

def layer (known : List String) (i : Nat) (v : Json) : Report :=
  match targetOf? v with
  | some name => if known.contains name then {} else unknown
  | none => unknown
where
  unknown :=
    (warning .layeringTargetUnknown s!"layering.layers[{i}].target"
      s!"layer targets unknown element {(targetShown v).shown}").showing [targetShown v]

def layers (known : List String) (fields : Fields) : Report :=
  match fields.lookup "layering" with
  | some (.obj layering) => each (layer known) 0 (itemsOf layering "layers")
  | _ => {}

def overrides (known : List String) (fields : Fields) : Report :=
  match fields.lookup "backgroundStrategy" with
  | some (.obj background) =>
    match background.lookup "sectionOverrides" with
    | some (.obj entries) =>
      each (fun _ entry =>
        if known.contains entry.1 then {}
        else
          warning .overrideUnknown s!"backgroundStrategy.sectionOverrides.{entry.1}"
            s!"background override for unknown section '{entry.1}'") 0 entries
    | _ => {}
  | _ => {}

def Cause.rule : Cause → Rule
  | .below _ | .above _ => .outOfRange
  | .missing => .missingField
  | _ => .invalidType

def ofFault (fault : Fault) : Issue :=
  ⟨Cause.rule fault.cause, Location.text fault.location, fault.cause.message⟩

def model (v : Json) : Report :=
  match Schema.read v with
  | .ok _ => {}
  | .faulty faults => { errors := faults.map ofFault }

/-- Every rule on the stored form, in order. -/
def structural (fields : Fields) : Except DigitOverflow Report :=
  let components := ids (itemsOf fields "components")
  let sectionIds := ids (itemsOf fields "sections")
  (info fields).map fun about =>
    topLevel fields ++ about ++
      componentsFrom [] 0 (itemsOf fields "components") ++ sections fields ++
      each assumption 0 (itemsOf fields "assumptions") ++
      each ambiguity 0 (itemsOf fields "ambiguities") ++
      rulesFrom sectionIds none 0 (itemsOf fields "responsiveRules") ++
      layers (sectionIds ++ components) fields ++
      overrides sectionIds fields

end Validation

/-- Why there is no report: a version whose numbers have too many digits, a message that cannot be
written, or a schema that cannot be stored. -/
inductive NoReport where
  | overlongVersion (overflow : DigitOverflow)
  | unwritable (why : Json.Unwritable)
  | unstorable (why : TooNested)
  deriving DecidableEq, Repr

def NoReport.message : NoReport → String
  | overlongVersion overflow => overflow.message
  | unwritable why => why.message
  | unstorable why => why.message

/-- A report unless it is broken off. -/
def Report.whole (report : Report) : Except NoReport Report :=
  match report.broken with
  | some why => .error (.unwritable why)
  | none => .ok report

/-- The report on a document. -/
def validate : Json → Except NoReport Report
  | .obj fields => do
    let report ← (Validation.structural fields).mapError .overlongVersion
    let report ← report.whole
    return if report.valid then report ++ Validation.model (.obj fields) else report
  | _ => .ok (.error .invalidType "" "schema must be an object")

/-- The report on a schema is that on its stored form. -/
def Schema.validate (s : Schema) : Except NoReport Report := do
  let wire ← s.toWire.mapError .unstorable
  DesignToCode.validate wire

end DesignToCode
