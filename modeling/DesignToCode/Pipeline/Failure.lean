import DesignToCode.Json.Basic

set_option autoImplicit false

namespace DesignToCode

inductive FailureKind where
  | pipeline
  | input
  | capability
  | validation
  | emission
  deriving DecidableEq, Repr

def FailureKind.name : FailureKind → String
  | pipeline => "PipelineError"
  | input => "InputError"
  | capability => "CapabilityError"
  | validation => "ValidationError"
  | emission => "EmissionError"

structure Failure where
  kind : FailureKind
  message : String
  details : Fields := []

namespace Failure

/-- Adds who failed to the details, unless the details say so or there is no name for it. -/
def named (details : Fields) (key name : String) : Fields :=
  if name.isEmpty then details else Fields.putNew details key (.str name)

def ofInput (message : String) (details : Fields) : Failure := ⟨.input, message, details⟩

/-- The failure of a call of the capability of that name. -/
def ofCapability (message capability : String) (details : Fields) : Failure :=
  ⟨.capability, message, named details "capability" capability⟩

/-- The failure of the code for one target. -/
def ofEmission (message target : String) (details : Fields) : Failure :=
  ⟨.emission, message, named details "target" target⟩

/-- Details are left out when there are none. -/
def toJson (f : Failure) : Json :=
  .obj ([("kind", .str f.kind.name), ("message", .str f.message)] ++
    if f.details.isEmpty then [] else [("details", .obj f.details)])

end Failure

end DesignToCode
