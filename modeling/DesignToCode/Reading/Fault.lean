import DesignToCode.Json.Basic
import DesignToCode.Reading.Location
import DesignToCode.Text.Quoted

set_option autoImplicit false

namespace DesignToCode

inductive Cause where
  | missing
  | notString
  | notInteger
  | unparsableInteger
  | oversizedInteger
  | fractionalInteger
  | notFinite
  | notNumber
  | unparsableNumber
  | notBoolean
  | unparsableBoolean
  | below (least : Int)
  | above (greatest : Int)
  | notMember (members : List String)
  | notTuple
  | notList
  | notMapping
  | notRecord (name : String)
  | notBody
  | notLiteral (members : List String)
  | tooShort (least : Nat)
  | unmatched (pattern : String)
  deriving DecidableEq, Repr

namespace Cause

/-- The word for the kind of fault. -/
def code : Cause → String
  | missing => "missing"
  | notString => "string_type"
  | notInteger => "int_type"
  | unparsableInteger => "int_parsing"
  | oversizedInteger => "int_parsing_size"
  | fractionalInteger => "int_from_float"
  | notFinite => "finite_number"
  | notNumber => "float_type"
  | unparsableNumber => "float_parsing"
  | notBoolean => "bool_type"
  | unparsableBoolean => "bool_parsing"
  | below _ => "greater_than_equal"
  | above _ => "less_than_equal"
  | notMember _ => "enum"
  | notTuple => "tuple_type"
  | notList => "list_type"
  | notMapping => "dict_type"
  | notRecord _ => "model_type"
  | notBody => "model_attributes_type"
  | notLiteral _ => "literal_error"
  | tooShort _ => "string_too_short"
  | unmatched _ => "string_pattern_mismatch"

/-- Members in quotes, the last one after the word "or". -/
def choice (members : List String) : String :=
  let quoted := members.map Text.quote
  match quoted.dropLast, quoted.getLast? with
  | _, none => ""
  | [], some last => last
  | front, some last => ", ".intercalate front ++ " or " ++ last

def message : Cause → String
  | missing => "Field required"
  | notString => "Input should be a valid string"
  | notInteger => "Input should be a valid integer"
  | unparsableInteger => "Input should be a valid integer, unable to parse string as an integer"
  | oversizedInteger => "Unable to parse input string as an integer, exceeded maximum size"
  | fractionalInteger => "Input should be a valid integer, got a number with a fractional part"
  | notFinite => "Input should be a finite number"
  | notNumber => "Input should be a valid number"
  | unparsableNumber => "Input should be a valid number, unable to parse string as a number"
  | notBoolean => "Input should be a valid boolean"
  | unparsableBoolean => "Input should be a valid boolean, unable to interpret input"
  | below least => s!"Input should be greater than or equal to {least}"
  | above greatest => s!"Input should be less than or equal to {greatest}"
  | notMember members => "Input should be " ++ choice members
  | notTuple => "Input should be a valid tuple"
  | notList => "Input should be a valid list"
  | notMapping => "Input should be a valid dictionary"
  | notRecord name => s!"Input should be a valid dictionary or instance of {name}"
  | notBody => "Input should be a valid dictionary or object to extract fields from"
  | notLiteral members => "Input should be " ++ choice members
  | tooShort least =>
    s!"String should have at least {least} character" ++ if least = 1 then "" else "s"
  | unmatched pattern => s!"String should match pattern '{pattern}'"

end Cause

structure Fault where
  cause : Cause
  location : Location
  deriving DecidableEq, Repr

/-- The fault as seen from one step further out. -/
def Fault.under (step : Step) (fault : Fault) : Fault :=
  { fault with location := step :: fault.location }

def Step.toJson : Step → Json
  | key name => .str name
  | index position => .int position
  | flag value => .bool value

def Fault.toJson (fault : Fault) : Json :=
  .obj [
    ("type", .str fault.cause.code),
    ("loc", .list Step.toJson fault.location),
    ("msg", .str fault.cause.message)]

end DesignToCode
