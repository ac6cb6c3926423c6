import DesignToCode.Number.Binary64

set_option autoImplicit false

/-!
Numbers of a document: whole numbers of any size and numbers of the 64-bit binary format, which
stay apart however equal their values are. The order compares exact values; not-a-number is below
and above nothing.
-/
namespace DesignToCode

inductive Number where
  | int (value : Int)
  | real (value : Binary64)
  deriving DecidableEq, Repr

namespace Number

/-- The place of a number on the extended line. -/
inductive Place where
  | nowhere
  | low
  | high
  | at (significand : Int) (exponent : Int)

def place : Number → Place
  | int i => .at i 0
  | real .nan => .nowhere
  | real (.infinite negative) => if negative then .low else .high
  | real (.finite negative m e) => .at (if negative then -(m : Int) else m) e

/-- Whether `m * 2 ^ e ≤ m' * 2 ^ e'`, compared at the smaller power of two. -/
def scaledLe (m e m' e' : Int) : Bool :=
  m * Int.pow 2 (e - min e e').toNat ≤ m' * Int.pow 2 (e' - min e e').toNat

def Place.le : Place → Place → Bool
  | .nowhere, _ | _, .nowhere => false
  | .low, _ | _, .high => true
  | .high, _ | _, .low => false
  | .at m e, .at m' e' => scaledLe m e m' e'

def le (x y : Number) : Bool := x.place.le y.place

def lt (x y : Number) : Bool := x.le y && !y.le x

/-- The first of two numbers, unless the second is below it. -/
def least (x y : Number) : Number := if y.lt x then y else x

/-- The first of two numbers, unless the second is above it. -/
def greatest (x y : Number) : Number := if x.lt y then y else x

def isZero : Number → Bool
  | int i => i == 0
  | real x => x.isZero

/-- A number doubled so many times. -/
def doubled (times : Nat) : Number → Number
  | int i => int (i * Int.pow 2 times)
  | real x => real (x.doubled times)

def toBinary64 : Number → Binary64
  | int i => .ofInt i
  | real x => x

/-- A number in the binary format; a whole number beyond the greatest of the format has none. -/
def binary64? : Number → Option Binary64
  | int i =>
    let x := Binary64.ofInt i
    if x.isFinite then some x else none
  | real x => some x

end Number

end DesignToCode
