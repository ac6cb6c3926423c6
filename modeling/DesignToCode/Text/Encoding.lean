import DesignToCode.Text.Utf8

set_option autoImplicit false

/-!
Bytes as text in the coding that they show: by a mark in front, or else by where zeros stand among
the first four bytes of a document, which starts with a character of ASCII.
-/
namespace DesignToCode.Text

/-- A coding of characters in one, two or four bytes at a time. -/
inductive Encoding where
  | utf8
  | utf16 (littleEnd : Bool)
  | utf32 (littleEnd : Bool)
  deriving DecidableEq, Repr

namespace Encoding

/-- The coding of bytes without a mark. -/
def shown : List UInt8 → Encoding
  | a :: b :: c :: d :: _ =>
    if a = 0 then if b = 0 then utf32 false else utf16 false
    else if b = 0 then if c = 0 && d = 0 then utf32 true else utf16 true
    else utf8
  | [a, b] => if a = 0 then utf16 false else if b = 0 then utf16 true else utf8
  | _ => utf8

/-- The coding of bytes, and the bytes without the mark that tells it. -/
def detect : List UInt8 → Encoding × List UInt8
  | 0x00 :: 0x00 :: 0xfe :: 0xff :: rest => (utf32 false, rest)
  | 0xff :: 0xfe :: 0x00 :: 0x00 :: rest => (utf32 true, rest)
  | 0xfe :: 0xff :: rest => (utf16 false, rest)
  | 0xff :: 0xfe :: rest => (utf16 true, rest)
  | 0xef :: 0xbb :: 0xbf :: rest => (utf8, rest)
  | bytes => (shown bytes, bytes)

/-- Numbers of two bytes; nothing if a byte is left over. -/
def units? (littleEnd : Bool) : List UInt8 → Option (List Nat)
  | [] => some []
  | [_] => none
  | a :: b :: rest =>
    let unit := if littleEnd then b.toNat * 0x100 + a.toNat else a.toNat * 0x100 + b.toNat
    (units? littleEnd rest).map (unit :: ·)

/-- The character of a code; a half of a pair that stands alone becomes the replacement character.
-/
def char? (code : Nat) : Option Char :=
  if 0xd800 ≤ code ∧ code < 0xe000 then some Utf8.replacement
  else if code.isValidChar then some (Char.ofNat code)
  else none

/-- The characters of units, of which two halves make one. -/
def ofUnits? : List Nat → Option (List Char)
  | [] => some []
  | high :: low :: rest =>
    if 0xd800 ≤ high ∧ high < 0xdc00 ∧ 0xdc00 ≤ low ∧ low < 0xe000 then do
      let c ← char? (0x10000 + (high - 0xd800) * 0x400 + (low - 0xdc00))
      (ofUnits? rest).map (c :: ·)
    else do
      let c ← char? high
      (ofUnits? (low :: rest)).map (c :: ·)
  | [unit] => (char? unit).map ([·])

/-- The characters of codes that two units make each. -/
def ofWideUnits? (littleEnd : Bool) : List Nat → Option (List Char)
  | [] => some []
  | [_] => none
  | a :: b :: rest => do
    let c ← char? (if littleEnd then b * 0x10000 + a else a * 0x10000 + b)
    (ofWideUnits? littleEnd rest).map (c :: ·)

/-- The text of bytes that are nothing but characters of a coding. -/
def decode? (coding : Encoding) (bytes : List UInt8) : Option String :=
  match coding with
  | utf8 => Utf8.decode? bytes
  | utf16 littleEnd => ((units? littleEnd bytes).bind ofUnits?).map String.ofList
  | utf32 littleEnd => ((units? littleEnd bytes).bind (ofWideUnits? littleEnd)).map String.ofList

end Encoding

/-- The text of bytes in the coding that they show. -/
def textOfBytes? (bytes : List UInt8) : Option String :=
  let (coding, rest) := Encoding.detect bytes
  coding.decode? rest

end DesignToCode.Text
