import DesignToCode.Capability.Command
import DesignToCode.Capability.Server
import DesignToCode.Capability.Static

set_option autoImplicit false

namespace DesignToCode

inductive Backend where
  | command
  | server
  | fixed
  deriving DecidableEq, Repr

namespace Backend

def named : List (String × Backend) :=
  [("claude", .command), ("ollama", .server), ("static", .fixed)]

def name : Backend → String
  | command => "claude"
  | server => "ollama"
  | fixed => "static"

/-- The kind of capability that infers by a backend. -/
def kind : Backend → String
  | command => "ClaudeCliCapability"
  | server => "OllamaCapability"
  | fixed => "StaticCapability"

/-- How a name is told that is no backend's. -/
def unknownMessage (name : String) : String :=
  s!"Unknown capability backend: {name}. Available backends: {Text.quoteList (named.map (·.1))}"

end Backend

/-- A command that did not end in time is told apart from one that failed. -/
def Reply.ofCommand {α β : Type} (f : α → β) : Except CommandFailure α → Reply β
  | .ok a => .made (f a)
  | .error .cancelled => .cancelled
  | .error (.timedOut ..) => .timedOut
  | .error failure => .raised (.other Backend.command.kind failure.message)

def Reply.ofServer {α β : Type} (f : α → β) : Except ServerFailure α → Reply β
  | .ok a => .made (f a)
  | .error failure => .raised (.other Backend.server.kind failure.message)

namespace Capability

/-- Output of which nothing was set without a check. -/
def visionMade (output : VisionOutput) : VisionMade := ⟨output, []⟩

/-- A capability that starts a command, where `ending` says how each start ends. -/
def ofCommand (c : Command) (ending : Nat → Ending) : Capability where
  name := some Backend.command.name
  kind := Backend.command.kind
  vision := fun _ => .ofCommand visionMade (c.vision ending).result
  reason := fun _ _ _ => .ofCommand id (c.reason ending).result

/-- A capability that asks a server, where `reply` says what each request meets. -/
def ofServer (s : ModelServer) (reply : GenerateRequest → ServerReply) : Capability where
  name := some Backend.server.name
  kind := Backend.server.kind
  vision := fun image => .ofServer visionMade (s.vision (reply (s.visionRequest image.data)))
  reason := fun vision text design =>
    .ofServer id (s.reason (reply (s.reasoningRequest vision.output text design)))

end Capability

/-- The capability of a backend as it is set by default. -/
def Backend.capability (ending : Nat → Ending) (reply : GenerateRequest → ServerReply) :
    Backend → Capability
  | command => .ofCommand {} ending
  | server => .ofServer (.ofGiven none none none) reply
  | fixed => .static (.made (Capability.visionMade Static.vision)) (.made Static.reasoning)

end DesignToCode
