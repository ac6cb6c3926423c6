import DesignToCode.Schema.Ids
import DesignToCode.Schema.Read

set_option autoImplicit false

/-!
Building a schema part by part. Parts are only ever added at the end, and building seals the
builder: from then on it refuses every change. What is not checked when it is added is checked when
the schema is built.
-/
namespace DesignToCode

mutual

/-- Documents are the same when they hold the same values; a truth value counts as a number. -/
def Json.same : Json → Json → Bool
  | .null, .null => true
  | .str s, .str t => s == t
  | .arr xs, .arr ys => Json.sameItems xs ys
  | .obj xs, .obj ys => xs.length == ys.length && Json.sameFields xs ys
  | v, w =>
    match v.asNumber?, w.asNumber? with
    | some m, some n => m.le n && n.le m
    | _, _ => false

def Json.sameItems : List Json → List Json → Bool
  | [], [] => true
  | x :: xs, y :: ys => Json.same x y && Json.sameItems xs ys
  | _, _ => false

/-- Every field of the first object is the same in the second. -/
def Json.sameFields : List (String × Json) → List (String × Json) → Bool
  | [], _ => true
  | (key, v) :: rest, fields =>
    (match fields.lookup key with
      | some w => Json.same v w
      | none => false) && Json.sameFields rest fields

end

/-- New values for the policies that change. -/
structure Policies where
  layout : Option LayoutStrategy := none
  background : Option BackgroundStrategy := none
  layering : Option Layering := none
  responsive : Option (List ResponsiveRule) := none

namespace Policies

/-- A policy that may be there. -/
def field {α : Type} (fields : Fields) (key : String) (read : Reader α) : Reading (Option α) :=
  match fields.lookup key with
  | none => .ok none
  | some v => (read v).map some

/-- Rules, of which the first that is faulty is told. -/
def rules : List Json → Reading (List ResponsiveRule)
  | [] => .ok []
  | v :: rest => (ResponsiveRule.read v).andThen fun rule => (rules rest).map (rule :: ·)

def readRules : Reader (List ResponsiveRule)
  | .arr values => rules values
  | _ => .ok []

/-- The policies that are there, of which the first that is faulty is told. -/
def read (fields : Fields) : Reading Policies :=
  (field fields "layout" LayoutStrategy.read).andThen fun layout =>
    (field fields "background" BackgroundStrategy.read).andThen fun background =>
      (field fields "layering" Layering.read).andThen fun layering =>
        (field fields "responsive" readRules).map fun responsive =>
          ⟨layout, background, layering, responsive⟩

end Policies

/-- The targets and the assumptions are kept as they are handed in. -/
structure Builder where
  inputTypes : List InputType
  targets : List Json
  ids : IdCounter := {}
  sections : List Section := []
  components : List Component := []
  assumptions : List Json := []
  ambiguities : List Ambiguity := []
  layoutStrategy : LayoutStrategy := {}
  backgroundStrategy : BackgroundStrategy := {}
  layering : Layering := {}
  responsiveRules : List ResponsiveRule := []
  isSealed : Bool := false

namespace Builder

inductive Refusal where
  | isSealed
  | faulty (faults : List Fault)

def Refusal.message : Refusal → String
  | isSealed => "SchemaBuilder already sealed; schema is immutable"
  | faulty _ => ""

/-- Ids are given out by a sealed builder too. -/
def nextId (b : Builder) (kind type : String) : String × Builder :=
  ((b.ids.next kind type).1, { b with ids := (b.ids.next kind type).2 })

/-- A change, unless the builder is sealed. -/
def change (b : Builder) (f : Builder → Builder) : Except Refusal Builder :=
  if b.isSealed then .error .isSealed else .ok (f b)

def addSection (b : Builder) (s : Section) : Except Refusal Builder :=
  b.change fun b => { b with sections := b.sections ++ [s] }

def addComponent (b : Builder) (c : Component) : Except Refusal Builder :=
  b.change fun b => { b with components := b.components ++ [c] }

/-- An assumption that counts as given is added unless it is there. -/
def addAssumption (b : Builder) (assumption : Json) : Except Refusal Builder :=
  b.change fun b =>
    if !assumption.isGiven || b.assumptions.any assumption.same then b
    else { b with assumptions := b.assumptions ++ [assumption] }

def addAmbiguity (b : Builder) (type description assumption : Json) :
    Except Refusal (Ambiguity × Builder) :=
  if b.isSealed then .error .isSealed
  else
    match Ambiguity.read
      (.obj [("type", type), ("description", description), ("assumption", assumption)]) with
    | .ok a => .ok (a, { b with ambiguities := b.ambiguities ++ [a] })
    | .faulty faults => .error (.faulty faults)

def setPolicies (b : Builder) (p : Policies) : Except Refusal Builder :=
  b.change fun b => { b with
    layoutStrategy := p.layout.getD b.layoutStrategy
    backgroundStrategy := p.background.getD b.backgroundStrategy
    layering := p.layering.getD b.layering
    responsiveRules := p.responsive.getD b.responsiveRules }

/-- The targets are checked before the assumptions. -/
def assembled (b : Builder) (confidence : Confidence) : Reading Schema :=
  ((Reader.tuple Reader.string (.arr b.targets)).under (.key "framework_target")).andThen
    fun targets =>
      ((Reader.tuple Reader.string (.arr b.assumptions)).under (.key "assumptions")).map
        fun assumptions => {
          info := {
            inputType := b.inputTypes
            frameworkTarget := targets
            confidenceLevel := confidence }
          sections := b.sections
          components := b.components
          layoutStrategy := b.layoutStrategy
          backgroundStrategy := b.backgroundStrategy
          layering := b.layering
          responsiveRules := b.responsiveRules
          assumptions := assumptions
          ambiguities := b.ambiguities }

/-- Seals the builder, whether or not its parts make a schema. -/
def build (b : Builder) (confidence : Confidence) : Except Refusal Schema × Builder :=
  if b.isSealed then (.error .isSealed, b)
  else
    match b.assembled confidence with
    | .ok schema => (.ok schema, { b with isSealed := true })
    | .faulty faults => (.error (.faulty faults), { b with isSealed := true })

theorem change_isSealed {b : Builder} (h : b.isSealed = true) (f : Builder → Builder) :
    b.change f = .error .isSealed := by
  simp [change, h]

end Builder

end DesignToCode
