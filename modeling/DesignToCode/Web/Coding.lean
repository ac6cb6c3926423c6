import DesignToCode.Text.Blank
import DesignToCode.Text.Case
import DesignToCode.Text.Search
import DesignToCode.Web.Inflate

set_option autoImplicit false

/-!
The codings in which a body may be sent, and bodies as they arrive. A coding frames compressed bytes
by a head that names it and a sum of what was compressed.
-/
namespace DesignToCode.Web

open DesignToCode.Text

/-- One bit of a remainder moved out. -/
def shiftRemainder (c : UInt32) : UInt32 :=
  if c &&& 1 = 1 then (c >>> 1) ^^^ 0xedb88320 else c >>> 1

/-- The remainder of bytes as a polynomial. -/
def crc32 (bytes : List UInt8) : Nat :=
  (bytes.foldl (fun c b => Nat.repeat shiftRemainder 8 (c ^^^ b.toUInt32)) 0xffffffff ^^^
    0xffffffff).toNat

/-- The sum of bytes, and the sum of all sums on the way. -/
def adler32 (bytes : List UInt8) : Nat :=
  let sums := bytes.foldl (fun (s : Nat × Nat) b =>
    let low := (s.1 + b.toNat) % 65521
    (low, (s.2 + low) % 65521)) (1, 0)
  sums.2 * 0x10000 + sums.1

/-- The bits behind a text that a zero ends. -/
def skipText : Nat → Bits → Taken Unit
  | 0, _ => .starved
  | fuel + 1, bits =>
    (takeNumber 8 bits).andThen fun b rest => if b = 0 then .taken () rest else skipText fuel rest

/-- A part of a head that is there if a flag says so. -/
def optionalPart (flags flag : Nat) (part : Bits → Taken Unit) (bits : Bits) : Taken Unit :=
  if flags.testBit flag then part bits else .taken () bits

/-- A length and so many bytes. -/
def skipField (bits : Bits) : Taken Unit :=
  (takeNumber 16 bits).andThen fun size rest =>
    (takeNumber (8 * size) rest).andThen fun _ rest => .taken () rest

/-- The lower half of the remainder of the head up to here. -/
def checkHead (bytes : List UInt8) (bits : Bits) : Taken Unit :=
  let head := bytes.take (bytes.length - bits.length / 8)
  ((takeNumber 16 bits).require (· = crc32 head % 0x10000)).andThen fun _ rest => .taken () rest

/-- The bits behind a head with two marks, a method, flags, a time, and the parts that the flags
tell. -/
def takeGzipHead (bytes : List UInt8) : Taken Unit :=
  ((takeNumber 16 (bitsOf bytes)).require (· = 0x8b1f)).andThen fun _ rest =>
    ((takeNumber 16 rest).require fun n => n % 256 = 8 && n / 256 < 32).andThen fun n rest =>
      let flags := n / 256
      (takeNumber 48 rest).andThen fun _ rest =>
        (optionalPart flags 2 skipField rest).andThen fun _ rest =>
          (optionalPart flags 3 (skipText rest.length) rest).andThen fun _ rest =>
            (optionalPart flags 4 (skipText rest.length) rest).andThen fun _ rest =>
              optionalPart flags 1 (checkHead bytes) rest

/-- Bytes with their remainder and their number behind them. -/
def gunzip (bytes : List UInt8) : Inflated :=
  .after #[] (takeGzipHead bytes) fun _ rest =>
    let inner := inflate rest
    .after inner.output inner.ending fun _ rest =>
      let output := inner.output
      let sum := (takeNumber 32 (fromByte rest)).require (· = crc32 output.toList)
      ⟨output, sum.andThen fun _ rest =>
        ((takeNumber 32 rest).require (· = output.size % 0x100000000)).andThen fun _ rest =>
          .taken () rest⟩

/-- A number whose bytes stand in the order of writing. -/
def swapBytes (n : Nat) : Nat :=
  n % 0x100 * 0x1000000 + n / 0x100 % 0x100 * 0x10000 + n / 0x10000 % 0x100 * 0x100 + n / 0x1000000

/-- Method and window, and a second byte that makes both a multiple of 31; no dictionary. -/
def isDeflateHead (n : Nat) : Bool :=
  let first := n % 256
  let second := n / 256
  (first * 256 + second) % 31 = 0 && first % 16 = 8 && first / 16 ≤ 7 && !second.testBit 5

/-- Bytes in a frame of two bytes and a sum. -/
def unframe (bytes : List UInt8) : Inflated :=
  .after #[] ((takeNumber 16 (bitsOf bytes)).require isDeflateHead) fun _ rest =>
    let inner := inflate rest
    .after inner.output inner.ending fun _ rest =>
      let sum := (takeNumber 32 (fromByte rest)).require
        (swapBytes · = adler32 inner.output.toList)
      ⟨inner.output, sum.andThen fun _ rest => .taken () rest⟩

/-- A body as it arrives, and whether it breaks off behind its chunks. -/
structure Body where
  chunks : List (List UInt8)
  isBroken : Bool := false
  deriving DecidableEq, Repr

/-- The chunks that can be told once each chunk has arrived; `told` is how many bytes were. -/
def Body.decodeFrom (decode : List UInt8 → Inflated) (sent : List UInt8) (told : Nat)
    (isBroken : Bool) : List (List UInt8) → Body
  | [] => ⟨[], isBroken⟩
  | chunk :: rest =>
    let all := sent ++ chunk
    let r := decode all
    if r.ending matches .corrupt then ⟨[], true⟩
    else
      let more := decodeFrom decode all r.output.size isBroken rest
      ⟨r.output.toList.drop told :: more.chunks, more.isBroken⟩

def Body.decode (decode : List UInt8 → Inflated) (b : Body) : Body :=
  decodeFrom decode [] 0 b.isBroken b.chunks

inductive Coding where
  | gzip
  | deflate
  deriving DecidableEq, Repr

namespace Coding

def named : List (String × Coding) := [("gzip", gzip), ("deflate", deflate)]

/-- A body out of its coding. Compressed bytes may come without a frame if the first chunk shows
that there is none. -/
def decode (b : Body) : Coding → Body
  | gzip => b.decode gunzip
  | deflate =>
    match b.chunks with
    | first :: _ =>
      if (unframe first).ending matches .corrupt then b.decode (inflate ∘ bitsOf)
      else b.decode unframe
    | [] => b

/-- The codings that a header names, in the order in which they were put on; other names do not
count. -/
def ofHeader (header : String) : List Coding :=
  (pieces ',' header.toList).filterMap fun name =>
    named.lookup (lower (String.ofList (trimmed name)))

/-- A body out of all of its codings, the last one first. -/
def decodeAll (codings : List Coding) (b : Body) : Body := codings.reverse.foldl decode b

end Coding

end DesignToCode.Web
