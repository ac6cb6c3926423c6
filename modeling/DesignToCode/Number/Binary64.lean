set_option autoImplicit false

/-!
Numbers of the 64-bit binary format, as a sign, a significand below `2 ^ 53` and a power of two.
A quotient becomes the nearest of them, and a tie goes to the even significand.
-/
namespace DesignToCode

inductive Binary64 where
  | nan
  | infinite (negative : Bool)
  | finite (negative : Bool) (significand : Nat) (exponent : Int)
  deriving DecidableEq, Repr

namespace Binary64

/-- The quotient of two numbers as a whole number, nearest first, a tie to the even neighbour. -/
def roundDiv (num den : Nat) : Nat :=
  let q := num / den
  let r := num % den
  if den < 2 * r ∨ (2 * r = den ∧ q % 2 = 1) then q + 1 else q

def leastExponent : Int := -1074

def greatestExponent : Int := 971

/-- The exponent of the greatest power of two in the format. -/
def greatestPower : Nat := 1023

def zero (negative : Bool) : Binary64 := finite negative 0 leastExponent

/-- `num / den` divided by a power of two, as a new quotient. -/
def scaleDown (num den : Nat) (exponent : Int) : Nat × Nat :=
  if exponent ≥ 0 then (num, den * Nat.pow 2 exponent.toNat)
  else (num * Nat.pow 2 (-exponent).toNat, den)

/-- The power of two that leaves a significand of 53 bits, or the least one. -/
def exponentOf (num den : Nat) : Int :=
  let guess : Int := (num.log2 : Int) - den.log2 - 53
  let scaled := scaleDown num den guess
  let exact := if scaled.1 / scaled.2 < Nat.pow 2 53 then guess else guess + 1
  max exact leastExponent

/-- The number nearest to `num / den`, a tie to the even significand. -/
def ofRatio (negative : Bool) (num den : Nat) : Binary64 :=
  if num = 0 then zero negative
  else
    let exponent := exponentOf num den
    let scaled := scaleDown num den exponent
    let significand := roundDiv scaled.1 scaled.2
    let carried := significand = Nat.pow 2 53
    let significand := if carried then Nat.pow 2 52 else significand
    let exponent := if carried then exponent + 1 else exponent
    if exponent > greatestExponent then infinite negative
    else finite negative significand exponent

/-- The number nearest to `digits * 10 ^ power`. Powers that no digit row of that length can bring
back into range are not computed; `10 ^ least ≤ digits < 10 ^ most`. -/
def ofDecimal (negative : Bool) (digits : Nat) (power : Int) : Binary64 :=
  if digits = 0 then zero negative
  else
    let least : Int := (digits.log2 * 30102 / 100000 : Nat)
    let most : Int := ((digits.log2 + 1) * 30103 / 100000 + 1 : Nat)
    if least + power > 310 then infinite negative
    else if most + power < -330 then zero negative
    else if power ≥ 0 then ofRatio negative (digits * Nat.pow 10 power.toNat) 1
    else ofRatio negative digits (Nat.pow 10 (-power).toNat)

def ofInt (i : Int) : Binary64 := ofRatio (i < 0) i.natAbs 1

def isFinite : Binary64 → Bool
  | finite .. => true
  | _ => false

def isZero : Binary64 → Bool
  | finite _ m _ => m == 0
  | _ => false

def neg : Binary64 → Binary64
  | nan => nan
  | infinite s => infinite !s
  | finite s m e => finite (!s) m e

/-- The whole part of a finite number, toward zero. -/
def truncate? : Binary64 → Option Int
  | finite s m e =>
    let size : Nat := if e ≥ 0 then m * Nat.pow 2 e.toNat else m / Nat.pow 2 (-e).toNat
    some (if s then -(size : Int) else size)
  | _ => none

/-- Whether a finite number has no fraction. -/
def isWhole : Binary64 → Bool
  | finite _ m e => e ≥ 0 || m % Nat.pow 2 (-e).toNat == 0
  | _ => false

/-- How far a number is from a whole one, rounded like a quotient. -/
def distance (i : Int) : Binary64 → Binary64
  | nan => nan
  | infinite _ => infinite false
  | finite s m e =>
    let value : Int := if s then -(m : Int) else m
    let unit := Nat.pow 2 (-e).toNat
    ofRatio false (i * unit - value * Int.pow 2 e.toNat).natAbs unit

/-- A number doubled so many times, beyond the greatest one infinite. -/
def doubled (times : Nat) : Binary64 → Binary64
  | finite s m e =>
    let exponent := e + times
    ofRatio s (m * Nat.pow 2 exponent.toNat) (Nat.pow 2 (-exponent).toNat)
  | x => x

end Binary64

end DesignToCode
