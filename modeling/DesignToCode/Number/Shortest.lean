import DesignToCode.Number.Basic

set_option autoImplicit false

/-!
The shortest decimal text of a number that reads back as that number. Digit rows of 1, 2, … 17
digits are tried in turn; of a row's two neighbours of the number the nearer one counts, if it lies
in the interval that reads back.
-/
namespace DesignToCode

namespace Binary64

/-- The numbers that round to `m * 2 ^ e` are those between `low` and `high` quarters of `2 ^ e`,
the ends included when `m` is even. -/
structure Interval where
  low : Nat
  value : Nat
  high : Nat
  closed : Bool
  exponent : Int

def interval (m : Nat) (e : Int) : Interval where
  low := if m = Nat.pow 2 52 ∧ e > leastExponent then 4 * m - 1 else 4 * m - 2
  value := 4 * m
  high := 4 * m + 2
  closed := m % 2 = 0
  exponent := e - 2

/-- Both sides of a comparison of `x * 2 ^ e` with `d * 10 ^ k`, as whole numbers. -/
def balance (x : Nat) (e : Int) (d : Nat) (k : Int) : Nat × Nat :=
  (x * Nat.pow 2 e.toNat * Nat.pow 10 (-k).toNat,
    d * Nat.pow 10 k.toNat * Nat.pow 2 (-e).toNat)

def Interval.contains (i : Interval) (d : Nat) (k : Int) : Bool :=
  let low := balance i.low i.exponent d k
  let high := balance i.high i.exponent d k
  if i.closed then low.1 ≤ low.2 && high.2 ≤ high.1 else low.1 < low.2 && high.2 < high.1

/-- The decimal exponent of the first digit of `x * 2 ^ e`, found from an estimate by bits. -/
def leadingPower (x : Nat) (e : Int) : Int :=
  let guess : Int := ((x.log2 : Int) + e) * 30103 / 100000 - 1
  let fits (k : Int) : Bool := let b := balance x e 1 k; b.2 ≤ b.1
  if fits (guess + 2) then guess + 2 else if fits (guess + 1) then guess + 1 else guess

/-- The better of the two digit rows around the value at the decimal exponent `k`, if it reads
back. The row below wins a tie when it is even. -/
def neighbour? (i : Interval) (k : Int) : Option Nat :=
  let b := balance i.value i.exponent 1 k
  let below := b.1 / b.2
  let rest := b.1 % b.2
  let upper := decide (b.2 < 2 * rest ∨ (b.2 = 2 * rest ∧ below % 2 = 1))
  let first := if upper then below + 1 else below
  let second := if upper then below else below + 1
  if i.contains first k then some first else if i.contains second k then some second else none

def searchDigits (i : Interval) (power : Int) : Nat → Nat → Nat × Int
  | 0, count => (0, power - count)
  | fuel + 1, count =>
    match neighbour? i (power - count) with
    | some d => (d, power - count)
    | none => searchDigits i power fuel (count + 1)

def stripZeros : Nat → Nat → Int → Nat × Int
  | 0, d, k => (d, k)
  | fuel + 1, d, k => if d % 10 = 0 ∧ d ≠ 0 then stripZeros fuel (d / 10) (k + 1) else (d, k)

/-- The digit row and the decimal exponent of its last digit. -/
def shortest (m : Nat) (e : Int) : Nat × Int :=
  let i := interval m e
  let found := searchDigits i (leadingPower i.value i.exponent) 18 0
  stripZeros 20 found.1 found.2

end Binary64

/-- How a number is laid out once its digits are chosen. -/
structure NumberLayout where
  leastPositional : Int
  greatestPositional : Int
  exponentWidth : Nat
  nan : String
  infinity : String

/-- Numbers from `1e-4` to below `1e16` are written positionally and keep a decimal place; the
others have a signed exponent of two digits at least. -/
def NumberLayout.text : NumberLayout := ⟨-4, 15, 2, "nan", "inf"⟩

/-- The same in a document. -/
def NumberLayout.document : NumberLayout := ⟨-4, 15, 2, "NaN", "Infinity"⟩

namespace NumberLayout

def padLeft (width : Nat) (cs : List Char) : List Char :=
  List.replicate (width - cs.length) '0' ++ cs

/-- Digits with a point before the last `places` of them, at least one digit on each side. -/
def positional (digits : List Char) (power : Int) : List Char :=
  if power ≥ 0 then digits ++ List.replicate power.toNat '0' ++ ['.', '0']
  else
    let places := (-power).toNat
    let row := padLeft (places + 1) digits
    row.take (row.length - places) ++ '.' :: row.drop (row.length - places)

def scientific (layout : NumberLayout) (digits : List Char) (exponent : Int) : List Char :=
  let tail := digits.drop 1
  digits.take 1 ++ (if tail.isEmpty then [] else '.' :: tail) ++
    'e' :: (if exponent < 0 then '-' else '+') ::
      padLeft layout.exponentWidth (Nat.toDigits 10 exponent.natAbs)

def magnitude (layout : NumberLayout) (m : Nat) (e : Int) : List Char :=
  if m = 0 then ['0', '.', '0']
  else
    let row := Binary64.shortest m e
    let digits := Nat.toDigits 10 row.1
    let exponent := row.2 + digits.length - 1
    if layout.leastPositional ≤ exponent ∧ exponent ≤ layout.greatestPositional then
      positional digits row.2
    else scientific layout digits exponent

def write (layout : NumberLayout) : Binary64 → String
  | .nan => layout.nan
  | .infinite negative => (if negative then "-" else "") ++ layout.infinity
  | .finite negative m e =>
    (if negative then "-" else "") ++ String.ofList (layout.magnitude m e)

end NumberLayout

/-- The decimal text of a number. -/
def Number.text : Number → String
  | .int i => toString i
  | .real x => NumberLayout.text.write x

end DesignToCode
