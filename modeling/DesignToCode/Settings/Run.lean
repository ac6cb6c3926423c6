import DesignToCode.Image.Basic
import DesignToCode.Settings.Environment

set_option autoImplicit false

/-!
What can be set about runs: the limits of images, the timeouts and retries of capabilities, and the
thresholds of the assessment. Times are in seconds.
-/
namespace DesignToCode

structure RunSettings where
  maxImageBytes : Int := 10 * 1024 * 1024
  acceptedImageTypes : List String := usualImageTypes
  imageFetchTimeout : Binary64 := .ofInt 30
  defaultTarget : String := "tailwind"
  capabilityTimeout : Binary64 := .ofInt 0
  maxRetries : Int := 0
  retryBaseDelay : Binary64 := .ofInt 10
  commandTimeout : Binary64 := .ofInt 300
  serverTimeout : Binary64 := .ofInt 120
  serverTemperature : Binary64 := .ofDecimal false 2 (-1)
  highConfidence : Binary64 := .ofDecimal false 8 (-1)
  mediumConfidence : Binary64 := .ofDecimal false 5 (-1)
  highMaxUnresolved : Binary64 := .ofDecimal false 1 (-1)
  mediumMaxUnresolved : Binary64 := .ofDecimal false 3 (-1)
  mediumComponents : Int := 20
  highComponents : Int := 50

namespace RunSettings

/-- The settings of an environment; the first text that stands for no value is told. -/
def read (env : Environment) : Except SettingRefusal RunSettings := do
  let usual : RunSettings := {}
  let maxImageBytes ← env.integer "MAX_IMAGE_BYTES" usual.maxImageBytes
  let imageFetchTimeout ← env.number "IMAGE_FETCH_TIMEOUT" usual.imageFetchTimeout
  let capabilityTimeout ← env.number "CAPABILITY_TIMEOUT" usual.capabilityTimeout
  let maxRetries ← env.integer "CAPABILITY_MAX_RETRIES" usual.maxRetries
  let retryBaseDelay ← env.number "CAPABILITY_RETRY_BASE_DELAY" usual.retryBaseDelay
  let commandTimeout ← env.number "CLAUDE_CLI_TIMEOUT" usual.commandTimeout
  let serverTimeout ← env.number "OLLAMA_HTTP_TIMEOUT" usual.serverTimeout
  let serverTemperature ← env.number "OLLAMA_TEMPERATURE" usual.serverTemperature
  let highConfidence ← env.number "CONFIDENCE_HIGH_THRESHOLD" usual.highConfidence
  let mediumConfidence ← env.number "CONFIDENCE_MEDIUM_THRESHOLD" usual.mediumConfidence
  let highMaxUnresolved ← env.number "STRUCTURAL_HIGH_MAX_UNRESOLVED" usual.highMaxUnresolved
  let mediumMaxUnresolved ← env.number "STRUCTURAL_MEDIUM_MAX_UNRESOLVED" usual.mediumMaxUnresolved
  let mediumComponents ← env.integer "MAINTAINABILITY_MEDIUM_COMPONENTS" usual.mediumComponents
  let highComponents ← env.integer "MAINTAINABILITY_HIGH_COMPONENTS" usual.highComponents
  return {
    maxImageBytes, imageFetchTimeout, capabilityTimeout, maxRetries, retryBaseDelay, commandTimeout,
    serverTimeout, serverTemperature, highConfidence, mediumConfidence, highMaxUnresolved,
    mediumMaxUnresolved, mediumComponents, highComponents
    acceptedImageTypes := env.items "ACCEPTED_IMAGE_TYPES" usual.acceptedImageTypes
    defaultTarget := env.text "DEFAULT_FRAMEWORK_TARGET" usual.defaultTarget }

def toJson (s : RunSettings) : Json :=
  .obj [
    ("MAX_IMAGE_BYTES", .int s.maxImageBytes),
    ("ACCEPTED_IMAGE_TYPES", .strings s.acceptedImageTypes),
    ("IMAGE_FETCH_TIMEOUT", .real s.imageFetchTimeout),
    ("DEFAULT_FRAMEWORK_TARGET", .str s.defaultTarget),
    ("CAPABILITY_TIMEOUT", .real s.capabilityTimeout),
    ("CAPABILITY_MAX_RETRIES", .int s.maxRetries),
    ("CAPABILITY_RETRY_BASE_DELAY", .real s.retryBaseDelay),
    ("CLAUDE_CLI_TIMEOUT", .real s.commandTimeout),
    ("OLLAMA_HTTP_TIMEOUT", .real s.serverTimeout),
    ("OLLAMA_TEMPERATURE", .real s.serverTemperature),
    ("CONFIDENCE_HIGH_THRESHOLD", .real s.highConfidence),
    ("CONFIDENCE_MEDIUM_THRESHOLD", .real s.mediumConfidence),
    ("STRUCTURAL_HIGH_MAX_UNRESOLVED", .real s.highMaxUnresolved),
    ("STRUCTURAL_MEDIUM_MAX_UNRESOLVED", .real s.mediumMaxUnresolved),
    ("MAINTAINABILITY_MEDIUM_COMPONENTS", .int s.mediumComponents),
    ("MAINTAINABILITY_HIGH_COMPONENTS", .int s.highComponents)]

end RunSettings

end DesignToCode
