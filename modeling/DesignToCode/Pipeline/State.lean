set_option autoImplicit false

/-!
The states of a run. A run starts as received and ends as completed or failed, and no state is
entered twice.
-/
namespace DesignToCode

inductive RunState where
  | received
  | analyzing
  | validating
  | emitting
  | completed
  | failed
  deriving DecidableEq, Repr

namespace RunState

def name : RunState → String
  | received => "received"
  | analyzing => "analyzing"
  | validating => "validating"
  | emitting => "emitting"
  | completed => "completed"
  | failed => "failed"

def named : List (String × RunState) :=
  [received, analyzing, validating, emitting, completed, failed].map fun s => (s.name, s)

/-- The states that may follow a state. -/
def successors : RunState → List RunState
  | received => [analyzing, validating, failed]
  | analyzing => [validating, failed]
  | validating => [emitting, completed, failed]
  | emitting => [completed, failed]
  | completed => []
  | failed => []

end RunState

/-- A run that is in a state, and the states it was in before, last one first. -/
structure Run where
  state : RunState := .received
  before : List RunState := []
  deriving DecidableEq, Repr

/-- A step to a state that may not follow. -/
structure BadTransition where
  source : RunState
  target : RunState
  deriving DecidableEq, Repr

def BadTransition.message (t : BadTransition) : String :=
  s!"Invalid pipeline transition {t.source.name} -> {t.target.name}"

namespace Run

/-- All states of the run, in order. -/
def history (r : Run) : List RunState := (r.state :: r.before).reverse

def enter (r : Run) (next : RunState) : Run := ⟨next, r.state :: r.before⟩

def transition (r : Run) (next : RunState) : Except BadTransition Run :=
  if r.state.successors.contains next then .ok (r.enter next) else .error ⟨r.state, next⟩

end Run

end DesignToCode
