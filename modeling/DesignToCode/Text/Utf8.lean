set_option autoImplicit false

/-!
Reading bytes as text. Bytes that are no text become one replacement character per longest start
of a character that they hold.
-/
namespace DesignToCode.Text.Utf8

/-- A character of which some bytes are read: its code so far, the bytes still owed and the range
of the next of them. -/
structure Pending where
  code : Nat
  owed : Nat
  least : Nat
  greatest : Nat

def replacement : Char := '\ufffd'

/-- A byte between characters: what it writes and what it leaves pending. -/
def first (b : Nat) : List Char × Option Pending :=
  if b < 0x80 then ([Char.ofNat b], none)
  else if 0xc2 ≤ b ∧ b ≤ 0xdf then ([], some ⟨b - 0xc0, 1, 0x80, 0xbf⟩)
  else if 0xe0 ≤ b ∧ b ≤ 0xef then
    ([], some ⟨b - 0xe0, 2, if b = 0xe0 then 0xa0 else 0x80, if b = 0xed then 0x9f else 0xbf⟩)
  else if 0xf0 ≤ b ∧ b ≤ 0xf4 then
    ([], some ⟨b - 0xf0, 3, if b = 0xf0 then 0x90 else 0x80, if b = 0xf4 then 0x8f else 0xbf⟩)
  else ([replacement], none)

/-- A byte while a character is pending. -/
def next (p : Pending) (b : Nat) : List Char × Option Pending :=
  if p.least ≤ b ∧ b ≤ p.greatest then
    let code := p.code * 64 + (b - 0x80)
    if p.owed ≤ 1 then ([Char.ofNat code], none)
    else ([], some ⟨code, p.owed - 1, 0x80, 0xbf⟩)
  else (replacement :: (first b).1, (first b).2)

def decodeFrom : Option Pending → List UInt8 → List Char
  | none, [] => []
  | some _, [] => [replacement]
  | none, b :: rest => (first b.toNat).1 ++ decodeFrom (first b.toNat).2 rest
  | some p, b :: rest => (next p b.toNat).1 ++ decodeFrom (next p b.toNat).2 rest

def decode (bytes : List UInt8) : String := String.ofList (decodeFrom none bytes)

/-- The text of bytes that are nothing but characters. -/
def decode? (bytes : List UInt8) : Option String :=
  String.fromUTF8? ⟨bytes.toArray⟩

end DesignToCode.Text.Utf8
