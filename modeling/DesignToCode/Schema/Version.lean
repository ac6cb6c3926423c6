import DesignToCode.Json.Printer
import DesignToCode.Number.Numeral

set_option autoImplicit false

namespace DesignToCode

open DesignToCode.Text

structure Version where
  major : Nat
  minor : Nat
  patch : Nat
  deriving DecidableEq, Repr

/-- A number was to be read whose digits are more than a numeral may have. -/
structure DigitOverflow where
  digits : Nat
  deriving DecidableEq, Repr

def DigitOverflow.message (o : DigitOverflow) : String := Numeral.tooLongMessage o.digits

namespace Version

/-- The digit rows of a version that is well formed. -/
structure Rows where
  major : List Char
  minor : List Char
  patch : Option (List Char)

def isLabelChar (c : Char) : Bool := isAsciiAlphanumeric c || c = '.' || c = '-'

/-- Nothing, or a minus or plus sign and a label of letters, digits, points and minus signs. -/
def isSuffix : List Char → Bool
  | [] => true
  | c :: label => (c = '-' || c = '+') && !label.isEmpty && label.all isLabelChar

/-- A row of digits and what follows it. -/
def row? (cs : List Char) : Option (List Char × List Char) :=
  let digits := cs.takeWhile isDecimalDigit
  if digits.isEmpty then none else some (digits, cs.dropWhile isDecimalDigit)

/-- A row of digits behind a point. -/
def pointRow? : List Char → Option (List Char × List Char)
  | '.' :: rest => row? rest
  | _ => none

def rows? (cs : List Char) : Option Rows := do
  let (major, rest) ← row? cs
  let (minor, rest) ← pointRow? rest
  match pointRow? rest with
  | some (patch, rest) => if isSuffix rest then some ⟨major, minor, some patch⟩ else none
  | none => if isSuffix rest then some ⟨major, minor, none⟩ else none

def rowValue (digits : List Char) : Except DigitOverflow Nat :=
  if digits.length > Numeral.digitLimit then .error ⟨digits.length⟩
  else .ok (ofDigits (digits.filterMap digitValue?))

def Rows.value (rows : Rows) : Except DigitOverflow Version := do
  let major ← rowValue rows.major
  let minor ← rowValue rows.minor
  let patch ← rowValue (rows.patch.getD [])
  return ⟨major, minor, patch⟩

/-- The version that a text names; blanks around it do not count, and a missing patch is zero. -/
def parse (s : String) : Except DigitOverflow (Option Version) :=
  match rows? (trimmed s.toList) with
  | none => .ok none
  | some rows => rows.value.map some

/-- Only a string can name a version. -/
def ofJson : Json → Except DigitOverflow (Option Version)
  | .str s => parse s
  | _ => .ok none

end Version

end DesignToCode
