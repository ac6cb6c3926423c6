import DesignToCode.Json.Printer
import DesignToCode.Pipeline.Failure
import DesignToCode.Schema.Basic
import DesignToCode.Settings.Run
import DesignToCode.Text.Blank
import DesignToCode.Text.Case

set_option autoImplicit false

/-!
Which frameworks a request asks for. Names are taken in any case and with blanks around them; what
is no name of a framework is told, all of it at once.
-/
namespace DesignToCode

open DesignToCode.Text

namespace Framework

inductive RequestRefusal where
  | unsupported (entries : List Json)
  | notIterable (kind : String)

/-- Entries that are no names are told as texts. -/
def RequestRefusal.failure (entries : List Json) : Failure :=
  let texts := entries.map Json.text
  .ofInput ("Unsupported framework target: " ++ ", ".intercalate texts)
    [("unsupported", .strings texts), ("supported", .strings Framework.names)]

/-- The name that an entry stands for. -/
def nameOf? : Json → Option String
  | .str s => if names.contains (lower (trim s)) then some (lower (trim s)) else none
  | _ => none

/-- The entries of a request; a single name is a request too. -/
def entries? : Json → Except RequestRefusal (List Json)
  | .str s => .ok [.str s]
  | .arr entries => .ok entries
  | .obj fields => .ok (fields.map fun field => .str field.1)
  | v => if v.isGiven then .error (.notIterable v.kindName) else .ok []

/-- What a request without entries asks for: the default, or what is set where that is empty. -/
def defaultName (settings : RunSettings) (fallback : String) : String :=
  if fallback.isEmpty then settings.defaultTarget else fallback

/-- The names asked for, in order and without repetition. The default is taken as it is. -/
def request (settings : RunSettings) (targets : Json) (fallback : String) :
    Except RequestRefusal (List String) :=
  match entries? targets with
  | .error e => .error e
  | .ok [] => .ok [defaultName settings fallback]
  | .ok entries =>
    match entries.filter fun entry => (nameOf? entry).isNone with
    | [] => .ok (entries.filterMap nameOf?).eraseDups
    | unknown => .error (.unsupported unknown)

end Framework

end DesignToCode
