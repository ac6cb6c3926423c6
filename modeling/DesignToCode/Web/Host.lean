import DesignToCode.Text.Digit
import DesignToCode.Text.Percent
import DesignToCode.Text.Search

set_option autoImplicit false

/-!
Hosts of addresses: names, and numbers of the fourth and the sixth version. A host that has the
look of a number must be one.
-/
namespace DesignToCode.Web

open DesignToCode.Text

/-- Where a reader of rows of digits may stand behind a character. Before row `k` it stands at
`2 * k`, within it at `2 * k + 1`; any one character may part two rows. -/
def rowPlaces (c : Char) (place : Nat) : List Nat :=
  (if isAsciiDigit c then [if place % 2 = 0 then place + 1 else place] else []) ++
    (if place % 2 = 1 then [place + 1] else [])

/-- Four rows of digits with one character between each two. -/
def looksNumeric (host : List Char) : Bool :=
  let step (places : List Nat) (c : Char) : List Nat :=
    ((places.flatMap (rowPlaces c)).filter (· ≤ 7)).eraseDups
  (host.foldl step [0]).contains 7

/-- A number up to 255 without zeros in front. -/
def isOctet (cs : List Char) : Bool :=
  !cs.isEmpty && cs.length ≤ 3 && cs.all isAsciiDigit && (cs = ['0'] || cs.head? != some '0') &&
    ofDigits (cs.filterMap asciiDigit?) ≤ 255

def isVersion4 (host : List Char) : Bool :=
  let octets := pieces '.' host
  octets.length = 4 && octets.all isOctet

/-- Sixteen bits. -/
def isGroup (cs : List Char) : Bool :=
  !cs.isEmpty && cs.length ≤ 4 && cs.all fun c => (hexValue? c).isSome

/-- How many groups stand on one side of a gap, where nothing stands for none. -/
def sideGroups? (side : List (List Char)) : Option Nat :=
  if side = [[]] then some 0 else if side.all isGroup then some side.length else none

/-- Eight groups, or fewer with one gap that stands for the rest. -/
def isGrouped : List (List Char) → Bool
  | [] => false
  | first :: rest =>
    match rest.dropLast.dropWhile (!·.isEmpty) with
    | [] => (first :: rest).length = 8 && (first :: rest).all isGroup
    | _ :: inner =>
      match sideGroups? (first :: rest.dropLast.takeWhile (!·.isEmpty)),
        sideGroups? (inner ++ rest.getLast?.toList) with
      | some front, some back => front + back < 8
      | _, _ => false

/-- The last two groups may be written as a number of the fourth version. -/
def hasGroups (cs : List Char) : Bool :=
  let groups := pieces ':' cs
  match groups.getLast? with
  | some last =>
    if last.contains '.' then isVersion4 last && isGrouped (groups.dropLast ++ [['0'], ['0']])
    else isGrouped groups
  | none => false

/-- Groups, and a zone behind a percent sign if there is one. -/
def isVersion6 (host : List Char) : Bool :=
  match cut '%' host with
  | (groups, none) => hasGroups groups
  | (groups, some zone) => !zone.isEmpty && !zone.contains '%' && hasGroups groups

inductive HostFault where
  | notVersion4
  | notVersion6
  deriving DecidableEq, Repr

/-- Letters, digits and the marks that a name may hold. -/
def staysInHost (c : Char) : Bool :=
  isAsciiAlphanumeric c || "-._~!$&'()*+,;=\"`\x7b\x7d%|\\".toList.contains c

/-- The inside of brackets. -/
def bracketed? (host : List Char) : Option (List Char) :=
  match host with
  | '[' :: rest => if rest.getLast? = some ']' then some rest.dropLast else none
  | _ => none

/-- A host as it is asked for. Names are written in small letters. A name with characters beyond
ASCII is kept as it is: how such names are encoded for the network, and which of them cannot be, is
left out. -/
def readHost (host : List Char) : Except HostFault (List Char) :=
  if looksNumeric host then if isVersion4 host then .ok host else .error .notVersion4
  else
    match bracketed? host with
    | some inside => if isVersion6 inside then .ok inside else .error .notVersion6
    | none =>
      if host.all fun c => c.toNat < 0x80 then
        .ok (percentEncoded staysInHost (host.map Char.toLower))
      else .ok host

end DesignToCode.Web
