import DesignToCode.Capability.Extraction
import DesignToCode.Capability.Prompt
import DesignToCode.Capability.Retry
import DesignToCode.Text.Case
import DesignToCode.Text.Utf8

set_option autoImplicit false

/-!
Inference by a command that is started once a call. The command is told its prompt among its
arguments and answers an envelope, a document that holds the text and the tokens that were used.
-/
namespace DesignToCode

open DesignToCode.Text

/-- How one start of the command ended. -/
inductive Ending where
  | notStarted (reason : String)
  | timedOut
  | cancelled
  | finished (code : Int) (output errors : List UInt8)

/-- A command that did not end in time, or is not waited for any longer, is killed. -/
def Ending.isKilled : Ending → Bool
  | timedOut | cancelled => true
  | _ => false

inductive CommandFailure where
  | notStarted (caller reason : String)
  | timedOut (caller : String) (timeout : Number)
  | exited (caller : String) (code : Int) (told : String)
  | cancelled
  | overlongPause
  | unreadable (refusal : Extraction.Refusal)
  | noObject (caller : String)
  | mismatch (caller : String) (faults : List Fault)

/-- No more than the start of what a command told is told on. -/
def CommandFailure.toldLength : Nat := 500

def CommandFailure.message : CommandFailure → String
  | notStarted caller reason => s!"{caller}: CLI spawn failed: {reason}"
  | timedOut caller timeout => s!"{caller}: Claude CLI timed out ({timeout.text}s)"
  | exited caller code told =>
    s!"{caller}: Claude CLI failed (exit {code}): " ++
      String.ofList (told.toList.take toldLength)
  | cancelled => ""
  | overlongPause => "int too large to convert to float"
  | unreadable refusal => refusal.message
  | noObject caller => s!"{caller}: response is not a JSON object"
  | mismatch caller _ => s!"{caller}: output does not match schema"

structure TokenUsage where
  input : Json.Coded
  output : Json.Coded

/-- What the command answered; the text may be any document. -/
structure CommandAnswer where
  text : Json.Coded
  usage : Option TokenUsage := none

structure Command where
  program : String := "claude"
  model : String := ""
  timeout : Number := .real (.ofInt 300)
  retries : RetryPolicy := {}

namespace Command

/-- The words of a failure that tell of a limit on the rate, in any case. -/
def limitWords : List String := ["rate", "429", "overloaded", "too many", "throttl"]

def tellsOfLimit (told : String) : Bool := limitWords.any (holds (lower told))

/-- The arguments, the program first. With an image, reading is the only tool; else there is none.
-/
def arguments (c : Command) (prompt : String) (withImage : Bool) : List String :=
  [c.program, "-p", prompt, "--output-format", "json", "--dangerously-skip-permissions",
    "--no-session-persistence"] ++
    (if c.model.isEmpty then [] else ["--model", c.model]) ++
    (if withImage then ["--allowedTools", "Read"] else ["--tools", ""])

/-- Both prompts in one, and between them where the image is. -/
def prompt (system user imagePath : String) : String :=
  lines ([system, ""] ++
    (if imagePath.isEmpty then [] else [
      s!"First, read the design screenshot at: {imagePath}",
      "Use this screenshot as the visual ground truth.",
      ""]) ++
    [user])

/-- An output with the document that it may be. -/
structure Output where
  text : String
  envelope : Option Json.Coded

def Output.field (o : Output) (key : String) : Option Json.Coded := o.envelope.bind (·.get? key)

/-- Outputs are trimmed. -/
def Output.ofBytes (bytes : List UInt8) : Except Extraction.Refusal Output :=
  let text := trim (Utf8.decode bytes)
  (Extraction.firstDocument [text.toList]).map fun envelope => ⟨text, envelope⟩

/-- The tokens that an envelope tells of. -/
def usage? : Option Json.Coded → Option TokenUsage
  | some (.obj fields) =>
    let count (key : String) : Json.Coded := (fields.lookup (.text key)).getD (.num (.int 0))
    some ⟨count "input_tokens", count "output_tokens"⟩
  | _ => none

/-- The text is the result of the envelope, else its content, else all of the output. -/
def Output.answer (o : Output) : CommandAnswer where
  text := ((o.field "result").or (o.field "content")).getD (.str o.text)
  usage := usage? (o.field "usage")

/-- An exit code other than zero or an envelope that says so is an error. -/
def Output.isError (o : Output) (code : Int) : Bool :=
  code ≠ 0 || (o.field "is_error").any Json.Coded.isGiven

/-- What was told of an error: the error output, or the result of the envelope if that is empty. -/
def Output.told (o : Output) (errors : List UInt8) : String :=
  let said := trim (Utf8.decode errors)
  if said.isEmpty then ((o.field "result").map Json.Coded.text).getD "" else said

def attempt (c : Command) (caller : String) : Ending → Attempt CommandFailure CommandAnswer
  | .notStarted reason => .failed (.notStarted caller reason) none
  | .timedOut => .failed (.timedOut caller c.timeout) none
  | .cancelled => .stopped .cancelled
  | .finished code output errors =>
    match Output.ofBytes output with
    | .error refusal => .stopped (.unreadable refusal)
    | .ok o =>
      if o.isError code then
        let told := o.told errors
        .failed (.exited caller code told) (some (tellsOfLimit told))
      else .succeeded o.answer

/-- Starts the command until it answers or the policy allows no more; `ending` says how each start
ends. -/
def ask (c : Command) (caller : String) (ending : Nat → Ending) :
    Tries CommandFailure CommandAnswer :=
  .ofPolicy c.retries .overlongPause fun k => c.attempt caller (ending k)

/-- How many of the starts that were made were killed. -/
def killed (ending : Nat → Ending) (made : Nat) : Nat :=
  (List.range made).countP fun k => (ending k).isKilled

/-- The object that an answer holds, read as a value. -/
def checked {α : Type} (caller : String) (read : Reader α) (answer : CommandAnswer) :
    Except CommandFailure α :=
  match Extraction.document answer.text with
  | .error refusal => .error (.unreadable refusal)
  | .ok (some (.obj fields)) =>
    match (Json.Coded.obj fields).document? with
    | none => .error (.unreadable .noText)
    | some object =>
      match read object with
      | .ok a => .ok a
      | .faulty faults => .error (.mismatch caller faults)
  | .ok _ => .error (.noObject caller)

def visionCaller : String := "ClaudeVision"

def reasoningCaller : String := "ClaudeReasoning"

def visionArguments (c : Command) (imagePath : String) : List String :=
  c.arguments (prompt Prompt.visionSystem Prompt.visionUser imagePath) true

def vision (c : Command) (ending : Nat → Ending) : Tries CommandFailure VisionOutput :=
  (c.ask visionCaller ending).andThen (checked visionCaller VisionOutput.read)

def reasoningArguments (c : Command) (vision : VisionOutput) (text : Option String)
    (design : Option Json) : List String :=
  c.arguments (prompt Prompt.reasoningSystem (Prompt.reasoningUser vision text design) "") false

def reason (c : Command) (ending : Nat → Ending) : Tries CommandFailure ReasoningOutput :=
  (c.ask reasoningCaller ending).andThen (checked reasoningCaller ReasoningOutput.read)

end Command

end DesignToCode
