import DesignToCode.Text.Digit
import DesignToCode.Text.Quoted

set_option autoImplicit false

namespace DesignToCode.Text

def percentByte (b : UInt8) : List Char :=
  '%' :: (hexDigits 2 b.toNat).map Char.toUpper

/-- A character that does not stay is written as the percent codes of its bytes. -/
def percentChar (stays : Char → Bool) (c : Char) : List Char :=
  if stays c then [c] else (String.singleton c).toUTF8.toList.flatMap percentByte

def percentEncoded (stays : Char → Bool) (cs : List Char) : List Char :=
  cs.flatMap (percentChar stays)

/-- Letters, digits, `_.-~` and the marks that structure an address. -/
def staysInAddress (c : Char) : Bool :=
  isAsciiAlphanumeric c || "_.-~:/?#@!$&()*+,;=%".toList.contains c

def percentEncode (s : String) : String := String.ofList (percentEncoded staysInAddress s.toList)

/-- The bytes that a text of ASCII characters and percent codes stands for. -/
def percentBytes : List Char → List UInt8
  | '%' :: a :: b :: rest =>
    match hexValue? a, hexValue? b with
    | some high, some low => .ofNat (high * 16 + low) :: percentBytes rest
    | _, _ => 0x25 :: percentBytes (a :: b :: rest)
  | c :: rest => (String.singleton c).toUTF8.toList ++ percentBytes rest
  | [] => []

end DesignToCode.Text
