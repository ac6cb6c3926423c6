import DesignToCode.Framework.Registry

set_option autoImplicit false

/-!
Code for several targets at once: all of it, or the first failure. Each target is asked for on its
own, so that what comes of it depends on no other target.
-/
namespace DesignToCode

namespace Emission

/-- The requested targets, each at its first place only. -/
def requested (targets : List String) : List String := targets.eraseDups

def noTarget : Failure := .ofEmission "No framework target requested" "" []

def unsupported (target : String) : Failure :=
  .ofEmission s!"Unsupported framework target: {target}" target []

def failed (target : String) : Failure :=
  .ofEmission s!"Failed to generate {target} output" target []

/-- The code for one target. -/
def one (registry : Registry) (schema : Schema) (options : EmitOptions) (target : String) :
    Except Failure (String × Artifact) :=
  match registry.lookup target with
  | none => .error (unsupported target)
  | some t =>
    match t.lower options schema with
    | .ok artifact => .ok (target, artifact)
    | .error (.told failure) => .error failure
    | .error .untold => .error (failed target)

end Emission

open Emission in
/-- Targets that are not registered are refused before any code is made. -/
def emit (registry : Registry) (schema : Schema) (targets : List String) (options : EmitOptions) :
    Except Failure (List (String × Artifact)) :=
  match requested targets with
  | [] => .error noTarget
  | wanted =>
    match wanted.find? fun target => !registry.isRegistered target with
    | some target => .error (unsupported target)
    | none => wanted.mapM (one registry schema options)

end DesignToCode
