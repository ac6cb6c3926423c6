set_option autoImplicit false

/-!
Base 64. Groups of four characters carry three bytes, and the last group may carry fewer with its
padding. Reading is strict: nothing but the alphabet, and padding only at the end of what the last
group needs, except that any number of pads may follow complete groups.
-/
namespace DesignToCode.Text.Base64

def alphabet : List Char :=
  "ABCDEFGHIJKLMNOPQRSTUVWXYZabcdefghijklmnopqrstuvwxyz0123456789+/".toList

def pad : Char := '='

/-- The six bits that a character of the alphabet stands for. -/
def value? (c : Char) : Option Nat :=
  let n := c.toNat
  if 65 ≤ n ∧ n ≤ 90 then some (n - 65)
  else if 97 ≤ n ∧ n ≤ 122 then some (n - 71)
  else if 48 ≤ n ∧ n ≤ 57 then some (n + 4)
  else if c = '+' then some 62
  else if c = '/' then some 63
  else none

/-- The last group of a text, which may carry one byte or two. -/
def lastGroup? (a b c d : Char) : Option (List UInt8) := do
  let v ← value? a
  let w ← value? b
  if c = pad then
    if d = pad then some [.ofNat (v * 4 + w / 16)] else none
  else
    let x ← value? c
    if d = pad then some [.ofNat (v * 4 + w / 16), .ofNat (w % 16 * 16 + x / 4)] else none

def group? (a b c d : Char) : Option (List UInt8) := do
  let v ← value? a
  let w ← value? b
  let x ← value? c
  let y ← value? d
  some [.ofNat (v * 4 + w / 16), .ofNat (w % 16 * 16 + x / 4), .ofNat (x % 4 * 64 + y)]

def decodeGroups? : List Char → Option (List UInt8)
  | [] => some []
  | a :: b :: c :: d :: rest =>
    match group? a b c d with
    | some bytes => (decodeGroups? rest).map (bytes ++ ·)
    | none =>
      if (a :: b :: c :: d :: rest).all (· = pad) then some []
      else if rest.isEmpty then lastGroup? a b c d
      else none
  | rest => if rest.all (· = pad) then some [] else none

def decode? (cs : List Char) : Option (List UInt8) :=
  if cs.head? = some pad then none else decodeGroups? cs

def digit (n : Nat) : Char := alphabet.getD n pad

def encode : List UInt8 → List Char
  | [] => []
  | [a] => [digit (a.toNat / 4), digit (a.toNat % 4 * 16), pad, pad]
  | [a, b] =>
    [digit (a.toNat / 4), digit (a.toNat % 4 * 16 + b.toNat / 16), digit (b.toNat % 16 * 4), pad]
  | a :: b :: c :: rest =>
    digit (a.toNat / 4) :: digit (a.toNat % 4 * 16 + b.toNat / 16) ::
      digit (b.toNat % 16 * 4 + c.toNat / 64) :: digit (c.toNat % 64) :: encode rest

end DesignToCode.Text.Base64
