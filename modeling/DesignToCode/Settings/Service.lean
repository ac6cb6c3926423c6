import DesignToCode.Json.Basic
import DesignToCode.Settings.Environment

set_option autoImplicit false

/-!
What can be set about the service: where it listens, which backend infers, where the backends are
found, and how it logs.
-/
namespace DesignToCode

structure ServiceSettings where
  host : String := "0.0.0.0"
  channel : Int := 8000
  origins : String := "http://localhost:3000,http://127.0.0.1:3000"
  backend : String := "claude"
  command : Option String := none
  commandModel : String := ""
  serverAddress : String := "http://localhost:11434"
  visionModel : String := "llava"
  reasoningModel : String := "mistral"
  logLevel : String := "INFO"
  logFolder : String := "logs"

namespace ServiceSettings

def read (env : Environment) : Except SettingRefusal ServiceSettings := do
  let usual : ServiceSettings := {}
  let channel ← env.integer "API_PORT" usual.channel
  return {
    channel
    host := env.text "API_HOST" usual.host
    origins := env.text "CORS_ORIGINS" usual.origins
    backend := env.text "CAPABILITY_BACKEND" usual.backend
    command := env.lookup "CLAUDE_CLI_PATH"
    commandModel := env.text "CLAUDE_MODEL" usual.commandModel
    serverAddress := env.text "OLLAMA_URL" usual.serverAddress
    visionModel := env.text "OLLAMA_VISION_MODEL" usual.visionModel
    reasoningModel := env.text "OLLAMA_REASONING_MODEL" usual.reasoningModel
    logLevel := env.text "LOG_LEVEL" usual.logLevel
    logFolder := env.text "LOG_DIR" usual.logFolder }

/-- The name of the command if none is set. -/
def usualCommand : String := "claude"

/-- The command is told if it is set, and an empty one stands for its usual name. -/
def toJson (s : ServiceSettings) : Json :=
  .obj ([
    ("API_HOST", .str s.host),
    ("API_PORT", .int s.channel),
    ("CORS_ORIGINS", .str s.origins),
    ("CAPABILITY_BACKEND", .str s.backend),
    ("CLAUDE_MODEL", .str s.commandModel),
    ("OLLAMA_URL", .str s.serverAddress),
    ("OLLAMA_VISION_MODEL", .str s.visionModel),
    ("OLLAMA_REASONING_MODEL", .str s.reasoningModel),
    ("LOG_LEVEL", .str s.logLevel),
    ("LOG_DIR", .str s.logFolder)] ++
    (s.command.map fun path =>
      ("CLAUDE_CLI_PATH", Json.str (if path.isEmpty then usualCommand else path))).toList)

end ServiceSettings

end DesignToCode
