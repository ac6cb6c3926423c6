set_option autoImplicit false

/-!
Reading compressed bytes: blocks that are stored as they are, or written in codes of which frequent
symbols have short ones, with copies of what was written before. What can be told from a start of
the bytes is told, whether or not more of them follow.
-/
namespace DesignToCode.Web

/-- Bits in the order in which they are read. -/
abbrev Bits := List Bool

/-- The lowest bit of a byte comes first. -/
def bitsOf (bytes : List UInt8) : Bits :=
  bytes.flatMap fun b => (List.range 8).map b.toNat.testBit

/-- What reading bits comes to: a value and the bits behind it, too few bits, or nonsense. -/
inductive Taken (α : Type) where
  | taken (value : α) (rest : Bits)
  | starved
  | corrupt

namespace Taken

/-- Goes on with what was read and the bits behind it. -/
def andThen {α β : Type} (first : Taken α) (next : α → Bits → Taken β) : Taken β :=
  match first with
  | taken a rest => next a rest
  | starved => starved
  | corrupt => corrupt

/-- A value that has to pass a test. -/
def require {α : Type} (passes : α → Bool) (first : Taken α) : Taken α :=
  first.andThen fun a rest => if passes a then taken a rest else corrupt

end Taken

/-- A number of some bits, the lowest first. -/
def takeNumber (width : Nat) (bits : Bits) : Taken Nat :=
  let front := bits.take width
  if front.length < width then .starved
  else .taken (front.foldr (fun b n => b.toNat + 2 * n) 0) (bits.drop width)

/-- The bits from the next byte on, of bits that end with a byte. -/
def fromByte (bits : Bits) : Bits := bits.drop (bits.length % 8)

/-- A code: how many symbols have a code of one bit, of two bits and so on up to fifteen, and the
symbols in the order of their codes. -/
structure Code where
  counts : List Nat
  symbols : List Nat

namespace Code

/-- The code in which each symbol has so many bits; a symbol of none has no code. -/
def ofLengths (lengths : List Nat) : Code :=
  let sizes := (List.range 15).map (· + 1)
  { counts := sizes.map fun size => lengths.count size
    symbols := sizes.flatMap fun size => (lengths.zipIdx.filter (·.1 = size)).map (·.2) }

/-- How many codes of the greatest length are free; nothing if there are more symbols than codes. -/
def free? (code : Code) : Option Nat :=
  code.counts.foldl (fun free count => free.bind fun n =>
    if count ≤ 2 * n then some (2 * n - count) else none) (some 1)

/-- All codes are in use, or there are none. -/
def isFull (code : Code) : Bool := code.free? = some 0 || code.symbols.isEmpty

/-- The same, or one symbol with a code of one bit. -/
def isUsable (code : Code) : Bool :=
  code.isFull || (code.symbols.length = 1 && code.counts.head? = some 1)

/-- The symbol whose code comes next. `place` counts from the first code of each length. -/
def takeFrom (place : Nat) (symbols : List Nat) : List Nat → Bits → Taken Nat
  | [], _ => .corrupt
  | _ :: _, [] => .starved
  | count :: more, b :: rest =>
    let here := 2 * place + b.toNat
    if here < count then .taken (symbols.getD here 0) rest
    else takeFrom (here - count) (symbols.drop count) more rest

def take (code : Code) (bits : Bits) : Taken Nat := takeFrom 0 code.symbols code.counts bits

end Code

/-- The least length of each symbol for lengths, and how many bits are added. -/
def lengthBases : List (Nat × Nat) := [
  (3, 0), (4, 0), (5, 0), (6, 0), (7, 0), (8, 0), (9, 0), (10, 0), (11, 1), (13, 1), (15, 1),
  (17, 1), (19, 2), (23, 2), (27, 2), (31, 2), (35, 3), (43, 3), (51, 3), (59, 3), (67, 4),
  (83, 4), (99, 4), (115, 4), (131, 5), (163, 5), (195, 5), (227, 5), (258, 0)]

/-- The least distance of each symbol for distances, and how many bits are added. -/
def distanceBases : List (Nat × Nat) := [
  (1, 0), (2, 0), (3, 0), (4, 0), (5, 1), (7, 1), (9, 2), (13, 2), (17, 3), (25, 3), (33, 4),
  (49, 4), (65, 5), (97, 5), (129, 6), (193, 6), (257, 7), (385, 7), (513, 8), (769, 8),
  (1025, 9), (1537, 9), (2049, 10), (3073, 10), (4097, 11), (6145, 11), (8193, 12), (12289, 12),
  (16385, 13), (24577, 13)]

def takeExtended (bases : List (Nat × Nat)) (symbol : Nat) (bits : Bits) : Taken Nat :=
  match bases[symbol]? with
  | none => .corrupt
  | some (base, width) => (takeNumber width bits).andThen fun n rest => .taken (base + n) rest

/-- The length that a symbol starts, and the distance behind it. -/
def takeCopy (distances : Code) (symbol : Nat) (bits : Bits) : Taken (Nat × Nat) :=
  (takeExtended lengthBases (symbol - 257) bits).andThen fun length rest =>
    (distances.take rest).andThen fun far rest =>
      (takeExtended distanceBases far rest).andThen fun distance rest =>
        .taken (length, distance) rest

/-- So many bytes more, each the one that was written so far back. -/
def copyBack (distance : Nat) : Nat → Array UInt8 → Array UInt8
  | 0, output => output
  | n + 1, output => copyBack distance n (output.push (output.getD (output.size - distance) 0))

/-- What was written, and how the reading ended. -/
structure Inflated where
  output : Array UInt8
  ending : Taken Unit

namespace Inflated

/-- Goes on with a value that was read, after some output. -/
def after {α : Type} (output : Array UInt8) (first : Taken α) (next : α → Bits → Inflated) :
    Inflated :=
  match first with
  | .taken a rest => next a rest
  | .starved => ⟨output, .starved⟩
  | .corrupt => ⟨output, .corrupt⟩

end Inflated

/-- Symbols up to the one that ends a block: bytes and copies. -/
def inflateSymbols (literals distances : Code) : Nat → Bits → Array UInt8 → Inflated
  | 0, _, output => ⟨output, .starved⟩
  | fuel + 1, bits, output =>
    .after output (literals.take bits) fun symbol rest =>
      if symbol < 256 then inflateSymbols literals distances fuel rest (output.push (.ofNat symbol))
      else if symbol = 256 then ⟨output, .taken () rest⟩
      else
        .after output (takeCopy distances symbol rest) fun copy rest =>
          if copy.2 ≤ output.size then
            inflateSymbols literals distances fuel rest (copyBack copy.2 copy.1 output)
          else ⟨output, .corrupt⟩

/-- So many bytes as they are. -/
def inflateBytes : Nat → Bits → Array UInt8 → Inflated
  | 0, bits, output => ⟨output, .taken () bits⟩
  | n + 1, bits, output =>
    .after output (takeNumber 8 bits) fun b rest => inflateBytes n rest (output.push (.ofNat b))

/-- A length and its complement stand before bytes that are stored. -/
def inflateStored (bits : Bits) (output : Array UInt8) : Inflated :=
  let size := (takeNumber 32 (fromByte bits)).require fun n => n / 0x10000 + n % 0x10000 = 0xffff
  .after output size fun n rest => inflateBytes (n % 0x10000) rest output

def fixedLiterals : Code :=
  .ofLengths (List.replicate 144 8 ++ List.replicate 112 9 ++ List.replicate 24 7 ++
    List.replicate 8 8)

def fixedDistances : Code := .ofLengths (List.replicate 32 5)

/-- The order in which the lengths of the code for lengths are told. -/
def lengthOrder : List Nat := [16, 17, 18, 0, 8, 7, 9, 6, 10, 5, 11, 4, 12, 3, 13, 2, 14, 1, 15]

/-- Numbers of three bits. -/
def takeTriples : Nat → Bits → Taken (List Nat)
  | 0, bits => .taken [] bits
  | n + 1, bits =>
    (takeNumber 3 bits).andThen fun triple rest =>
      (takeTriples n rest).andThen fun more rest => .taken (triple :: more) rest

/-- The code in which the lengths of the codes of a block are told. -/
def takeLengthCode (count : Nat) (bits : Bits) : Taken Code :=
  (takeTriples count bits).andThen fun told rest =>
    let lengths := (List.range 19).map fun symbol => ((lengthOrder.zip told).lookup symbol).getD 0
    (Taken.taken (Code.ofLengths lengths) rest).require Code.isFull

/-- Which length a symbol repeats, how often at least, and how many bits are added. -/
def repetition? (symbol : Nat) (found : List Nat) : Option (Nat × Nat × Nat) :=
  match symbol with
  | 16 => found.head?.map fun last => (last, 3, 2)
  | 17 => some (0, 3, 3)
  | 18 => some (0, 11, 7)
  | length => some (length, 1, 0)

/-- The lengths of codes, as many as are missing, behind those that were found, the last one first.
-/
def takeLengths (code : Code) : Nat → Nat → List Nat → Bits → Taken (List Nat)
  | _, 0, found, bits => .taken found.reverse bits
  | 0, _ + 1, _, _ => .starved
  | fuel + 1, missing + 1, found, bits =>
    (code.take bits).andThen fun symbol rest =>
      match repetition? symbol found with
      | none => .corrupt
      | some (length, least, width) =>
        (takeNumber width rest).andThen fun more rest =>
          if least + more ≤ missing + 1 then
            takeLengths code fuel (missing + 1 - (least + more))
              (List.replicate (least + more) length ++ found) rest
          else .corrupt

/-- The codes of a block for literals and for distances. A block has an end. -/
def takeCodes (bits : Bits) : Taken (Code × Code) :=
  (takeNumber 14 bits).andThen fun sizes rest =>
    let literals := sizes % 32 + 257
    let distances := sizes / 32 % 32 + 1
    if literals > 286 || distances > 30 then .corrupt
    else
      (takeLengthCode (sizes / 1024 + 4) rest).andThen fun code rest =>
        (takeLengths code rest.length (literals + distances) [] rest).andThen fun lengths rest =>
          let first := Code.ofLengths (lengths.take literals)
          let second := Code.ofLengths (lengths.drop literals)
          if lengths.getD 256 0 ≠ 0 && first.isUsable && second.isUsable then
            .taken (first, second) rest
          else .corrupt

def inflateBlock (kind : Nat) (bits : Bits) (output : Array UInt8) : Inflated :=
  match kind with
  | 0 => inflateStored bits output
  | 1 => inflateSymbols fixedLiterals fixedDistances bits.length bits output
  | 2 =>
    .after output (takeCodes bits) fun codes rest =>
      inflateSymbols codes.1 codes.2 rest.length rest output
  | _ => ⟨output, .corrupt⟩

/-- Blocks up to the one that says it is the last. -/
def inflateBlocks : Nat → Bits → Array UInt8 → Inflated
  | 0, _, output => ⟨output, .starved⟩
  | fuel + 1, bits, output =>
    .after output (takeNumber 3 bits) fun head rest =>
      let block := inflateBlock (head / 2) rest output
      match block.ending with
      | .taken () rest =>
        if head % 2 = 1 then block else inflateBlocks fuel rest block.output
      | _ => block

def inflate (bits : Bits) : Inflated := inflateBlocks bits.length bits #[]

end DesignToCode.Web
