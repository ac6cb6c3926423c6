import DesignToCode.Number.Shortest

set_option autoImplicit false

/-!
Numbers with two decimal places. The exact value is rounded, and a tie goes to the even neighbour.
-/
namespace DesignToCode

namespace Number

/-- The hundredths nearest to `m * 2 ^ e`. -/
def hundredths (m : Nat) (e : Int) : Nat :=
  Binary64.roundDiv (m * 100 * Nat.pow 2 e.toNat) (Nat.pow 2 (-e).toNat)

def twoPlaces (x : Number) : String :=
  match x.toBinary64 with
  | .finite negative m e =>
    let digits := NumberLayout.padLeft 3 (Nat.toDigits 10 (hundredths m e))
    (if negative then "-" else "") ++
      String.ofList (digits.take (digits.length - 2) ++ '.' :: digits.drop (digits.length - 2))
  | y => NumberLayout.text.write y

end Number

end DesignToCode
