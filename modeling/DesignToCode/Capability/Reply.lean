import DesignToCode.Capability.Output
import DesignToCode.Image.Basic
import DesignToCode.Json.Printer

set_option autoImplicit false

/-!
Capabilities as a run meets them. Each of the two calls of a capability may hand over a document or
a value, or end in other ways.
-/
namespace DesignToCode

open DesignToCode.Text

/-- What a call may raise beside a failure of the capability, the end of its time and a
cancellation: a failure that belongs elsewhere, the faults of a document that does not read, or
anything else, by the kind of what raised it and a message. -/
inductive Raised where
  | failure (failure : Failure) (foreign : failure.kind ≠ .capability)
  | unreadable (faults : List Fault)
  | other (kind message : String)

inductive Reply (α : Type) where
  | document (value : Json)
  | made (value : α)
  | failed (failure : Failure)
  | raised (raised : Raised)
  | timedOut
  | cancelled
  | endless

/-- What a vision call made. Fields of the first section may have been set without a check. -/
structure VisionMade where
  output : VisionOutput
  unchecked : Fields := []

/-- A capability that may have a name, and the name of its kind. -/
structure Capability where
  name : Option String := none
  kind : String
  vision : Image → Reply VisionMade
  reason : VisionMade → Option String → Option Json → Reply ReasoningOutput

/-- The name under which failures of calls are told. -/
def Capability.title (c : Capability) : String := c.name.getD c.kind

/-- What goes wrong when a field is used that is not what it should be. -/
inductive Misuse where
  | noMethod (kind method : String)
  | unhashable (kind : String)
  | incomparable (kind : String)
  | unusable
  deriving DecidableEq, Repr

def Misuse.message : Misuse → String
  | noMethod kind method => s!"'{kind}' object has no attribute '{method}'"
  | unhashable kind => s!"unhashable type: '{kind}'"
  | incomparable kind => s!"'>' not supported between instances of 'int' and '{kind}'"
  | unusable => ""

namespace UncheckedHint

/-- A text, or nothing where a value does not count as given. -/
def wordOf (v : Json) (method : String) : Except Misuse String :=
  match v with
  | .str s => .ok s
  | v => if v.isGiven then .error (.noMethod v.kindName method) else .ok ""

/-- A key that is no text is no key of any component or policy. -/
def keyOf (unused : String) (v : Json) : Except Misuse String :=
  match v with
  | .str s => .ok s
  | .arr _ | .obj _ => .error (.unhashable v.kindName)
  | _ => .ok unused

/-- The number of columns that a value comes to within its bounds. -/
def columnsOf (v : Json) : Except Misuse (Option Int) :=
  match v with
  | .null => .ok none
  | .bool _ => .ok (some 1)
  | .num (.int i) => .ok (some i)
  | .num (.real x) =>
    match Number.least (.greatest (.real x) (.int 1)) (.int 12) with
    | .int i => .ok (some i)
    | .real y =>
      match y.truncate? with
      | some i => if y.isWhole then .ok (some i) else .error .unusable
      | none => .error .unusable
  | v => .error (.incomparable v.kindName)

/-- A field that must be a text in the end. -/
def textOf (v : Json) : Except Misuse String :=
  match v with
  | .str s => .ok s
  | _ => .error .unusable

/-- Only the layout of a grid has a use for columns. -/
def isGrid (layout : String) : Bool := lower (trim layout) == Layout.grid.name

def directionOf : Json → Option String
  | .str s => some s
  | _ => none

/-- The hint that fields come to, in the order in which they are used. -/
def settle (unused : String) (fields : Fields) : Except Misuse SectionHint := do
  let field (key : String) : Json := (fields.lookup key).getD .null
  let _ ← wordOf (field "type") "lower"
  let key ← keyOf unused (field "key")
  let layout ← wordOf (field "layout") "strip"
  let columns ← if isGrid layout then columnsOf (field "columns") else .ok none
  let name ← textOf (field "name")
  let type ← textOf (field "type")
  return ⟨key, name, type, some layout, columns, directionOf (field "direction")⟩

end UncheckedHint

namespace VisionMade

/-- The fields of a hint with those that were set without a check. -/
def uncheckedFields (v : VisionMade) (hint : SectionHint) : Fields :=
  match hint.toJson with
  | .obj fields => Fields.putAll fields v.unchecked
  | _ => v.unchecked

/-- A text that is longer than every key in use, and so none of them. -/
def unusedKey (v : VisionMade) (keys : List String) : String :=
  "?" ++ String.join (v.output.sections.map (·.key) ++ v.output.componentHints.map (·.sectionKey) ++
    keys)

/-- The output as it is used, where `keys` are the keys that policies use. -/
def settle (v : VisionMade) (keys : List String) : Except Misuse VisionOutput :=
  match v.unchecked, v.output.sections with
  | [], _ | _, [] => .ok v.output
  | _ :: _, first :: rest =>
    (UncheckedHint.settle (v.unusedKey keys) (v.uncheckedFields first)).map fun hint =>
      { v.output with sections := hint :: rest }

/-- The keys of the sections as a call of reasoning sees them. -/
def keys (v : VisionMade) : List Json :=
  match v.output.sections with
  | [] => []
  | first :: rest =>
    ((v.unchecked.lookup "key").getD (.str first.key)) :: rest.map fun hint => .str hint.key

end VisionMade

end DesignToCode
