import DesignToCode.Number.Basic
import DesignToCode.Text.Blank
import DesignToCode.Text.Digit
import DesignToCode.Text.Quoted

set_option autoImplicit false

/-!
Reading numbers from text. White space around a numeral and single underscores between its digits do
not count. A whole numeral may have at most 4300 digits.
-/
namespace DesignToCode.Numeral

open DesignToCode.Text

/-- The greatest number of digits a whole numeral may have. -/
def digitLimit : Nat := 4300

/-- Whether a whole number has no more digits than can be written. -/
def isWritable (i : Int) : Bool := (Nat.toDigits 10 i.natAbs).length ≤ digitLimit

/-- How a whole number is told that cannot be written. -/
def unwritableMessage : String :=
  s!"Exceeds the limit ({digitLimit} digits) for integer string conversion; " ++
    "use sys.set_int_max_str_digits() to increase the limit"

inductive Refusal where
  | malformed
  | tooLong (digits : Nat)
  deriving DecidableEq, Repr

/-- Where a numeral of too many digits is refused by a reader that names the cause. -/
def tooLongMessage (digits : Nat) : String :=
  s!"Exceeds the limit ({digitLimit} digits) for integer string conversion: " ++
    s!"value has {digits} digits; use sys.set_int_max_str_digits() to increase the limit"

/-- How a text is told that is no whole numeral. -/
def Refusal.message (text : String) : Refusal → String
  | malformed => s!"invalid literal for int() with base 10: {quote text}"
  | tooLong digits => tooLongMessage digits

/-- A sign in front of a numeral, and the rest. -/
def sign : List Char → Bool × List Char
  | '-' :: rest => (true, rest)
  | '+' :: rest => (false, rest)
  | cs => (false, cs)

/-- Digit values with single underscores between digits. -/
def digitsAfter (value? : Char → Option Nat) : List Char → Option (List Nat)
  | [] => some []
  | '_' :: c :: rest => do
    let d ← value? c
    let more ← digitsAfter value? rest
    some (d :: more)
  | c :: rest => do
    let d ← value? c
    let more ← digitsAfter value? rest
    some (d :: more)

/-- One digit at least, and no underscore first. -/
def digits? (value? : Char → Option Nat) : List Char → Option (List Nat)
  | [] => none
  | c :: rest => do
    let d ← value? c
    let more ← digitsAfter value? rest
    some (d :: more)

def signed (negative : Bool) (n : Nat) : Int := if negative then -(n : Int) else n

/-- A whole number in the digits of any script, with a sign or without. Too many digits are told
before anything that follows them. -/
def int (cs : List Char) : Except Refusal Int :=
  let (negative, body) := sign (unspaced cs)
  let isPart (c : Char) : Bool := isDecimalDigit c || c = '_'
  match digits? digitValue? (body.takeWhile isPart) with
  | none => .error .malformed
  | some digits =>
    if digits.length > digitLimit then .error (.tooLong digits.length)
    else if (body.dropWhile isPart).isEmpty then .ok (signed negative (ofDigits digits))
    else .error .malformed

/-- The digits, fraction and exponent of a decimal numeral. -/
structure Decimal where
  whole : List Nat
  fraction : List Nat
  exponent : Int

def Decimal.value (negative : Bool) (d : Decimal) : Binary64 :=
  .ofDecimal negative (ofDigits (d.whole ++ d.fraction)) (d.exponent - d.fraction.length)

/-- A row of digits that may be empty. -/
def row? (value? : Char → Option Nat) (cs : List Char) : Option (List Nat) :=
  if cs.isEmpty then some [] else digits? value? cs

/-- An exponent, the mark included; nothing stands for zero. -/
def exponent? (value? : Char → Option Nat) : List Char → Option Int
  | [] => some 0
  | _ :: cs =>
    let (negative, body) := sign cs
    (digits? value? body).map fun digits => signed negative (ofDigits digits)

/-- Digits on one side of the point at least, and an exponent if there is one. -/
def decimal? (value? : Char → Option Nat) (cs : List Char) : Option Decimal := do
  let mantissa := cs.takeWhile fun c => c != 'e' && c != 'E'
  let exponent ← exponent? value? (cs.dropWhile fun c => c != 'e' && c != 'E')
  let whole ← row? value? (mantissa.takeWhile (· != '.'))
  let fraction ← row? value? ((mantissa.dropWhile (· != '.')).drop 1)
  if whole.isEmpty && fraction.isEmpty then none else some ⟨whole, fraction, exponent⟩

/-- A numeral with fraction and exponent, or a word for infinity or not-a-number in any case. -/
def bareReal? (value? : Char → Option Nat) (cs : List Char) : Option Binary64 :=
  let (negative, body) := sign cs
  let word := String.ofList (body.map Char.toLower)
  if word = "inf" ∨ word = "infinity" then some (.infinite negative)
  else if word = "nan" then some .nan
  else (decimal? value? body).map (Decimal.value negative)

/-- The same with white space around it. -/
def real? (value? : Char → Option Nat) (cs : List Char) : Option Binary64 :=
  bareReal? value? (unspaced cs)

end DesignToCode.Numeral
