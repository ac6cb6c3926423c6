import DesignToCode.Number.Numeral
import DesignToCode.Text.Quoted
import DesignToCode.Text.Search

set_option autoImplicit false

/-!
Named texts that a program is started with, and the values that they stand for. A name that is not
there stands for a default.
-/
namespace DesignToCode

open DesignToCode.Text

abbrev Environment := List (String × String)

/-- A text that stands for no value of its kind. -/
inductive SettingRefusal where
  | noInteger (text : String) (cause : Numeral.Refusal)
  | noNumber (text : String)
  deriving DecidableEq, Repr

def SettingRefusal.message : SettingRefusal → String
  | noInteger text cause => cause.message text
  | noNumber text => s!"could not convert string to float: {quote text}"

namespace Environment

def text (env : Environment) (name fallback : String) : String := (env.lookup name).getD fallback

def integer (env : Environment) (name : String) (fallback : Int) : Except SettingRefusal Int :=
  match env.lookup name with
  | none => .ok fallback
  | some s => (Numeral.int s.toList).mapError (.noInteger s)

/-- A number in the digits of any script. -/
def number (env : Environment) (name : String) (fallback : Binary64) :
    Except SettingRefusal Binary64 :=
  match env.lookup name with
  | none => .ok fallback
  | some s =>
    match Numeral.real? digitValue? s.toList with
    | some x => .ok x
    | none => .error (.noNumber s)

/-- The items between commas, without blanks around them and without empty ones. -/
def items (env : Environment) (name : String) (fallback : List String) : List String :=
  match env.lookup name with
  | none => fallback
  | some s => ((pieces ',' s.toList).map fun piece => String.ofList (trimmed piece)).filter
      (!·.isEmpty)

end Environment

end DesignToCode
