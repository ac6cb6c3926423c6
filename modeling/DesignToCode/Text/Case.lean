import DesignToCode.Text.Table.CapitalForms
import DesignToCode.Text.Table.Cased
import DesignToCode.Text.Table.SmallLetters

set_option autoImplicit false

/-!
Lower-casing and upper-casing of any script. One letter has a small form of two characters, and the
capital sigma has two small forms, of which its neighbours choose.
-/
namespace DesignToCode.Text

def Table.CaseRun.covers (run : Table.CaseRun) (code : Nat) : Bool :=
  run.first ≤ code && code ≤ run.last && (code - run.first) % run.step == 0

/-- The small letter of a letter that has a single one, and any other character itself. -/
def smallLetter (c : Char) : Char :=
  if c.toNat < 0x80 then c.toLower
  else
    match Table.smallLetters.find? (·.covers c.toNat) with
    | some run => Char.ofNat ((c.toNat : Int) + run.shift).toNat
    | none => c

/-- Whether the first character that is not passed over has a case. -/
def nextIsCased (cs : List Char) : Bool :=
  match cs.dropWhile fun c => Table.caseIgnorable.contains c.toNat with
  | [] => false
  | c :: _ => Table.cased.contains c.toNat

/-- The small form of one character between the text before it, last character first, and the text
after it. A capital sigma ends a word when a cased letter stands before it and none after it. -/
def lowerAt (before : List Char) (c : Char) (after : List Char) : List Char :=
  if c = 'İ' then ['i', '\u0307']
  else if c = 'Σ' then [if nextIsCased before && !nextIsCased after then 'ς' else 'σ']
  else [smallLetter c]

def lowerFrom (before : List Char) : List Char → List Char
  | [] => []
  | c :: after => lowerAt before c after ++ lowerFrom (c :: before) after

def lowered (cs : List Char) : List Char := lowerFrom [] cs

def lower (s : String) : String := String.ofList (lowered s.toList)

/-- The letter of which a character is the small letter, if any. -/
def capitalLetter? (c : Char) : Option Char :=
  let code (run : Table.CaseRun) : Nat := ((c.toNat : Int) - run.shift).toNat
  (Table.smallLetters.find? fun run => run.covers (code run)).map fun run => Char.ofNat (code run)

/-- The capital form of one character. -/
def capitalForm (c : Char) : List Char :=
  match Table.capitalForms.lookup c.toNat with
  | some form => form.map Char.ofNat
  | none => [(capitalLetter? c).getD c]

def upper (s : String) : String := String.ofList (s.toList.flatMap capitalForm)

end DesignToCode.Text
