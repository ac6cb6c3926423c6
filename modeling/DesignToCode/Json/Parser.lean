import DesignToCode.Json.Coded
import DesignToCode.Number.Numeral

set_option autoImplicit false

/-!
Reading documents from text. The words for not-a-number and the infinities are accepted beside the
standard; of two fields with one key the later one counts. A refusal says where the reader stopped.
-/
namespace DesignToCode.Json

open DesignToCode.Text

/-- What the reader met. -/
inductive Defect where
  | byteOrderMark
  | noValue
  | extraData
  | noName
  | noColon
  | noComma
  | unterminated
  | controlCharacter
  | badEscape
  | badUnicodeEscape
  deriving DecidableEq, Repr

def Defect.message : Defect → String
  | .byteOrderMark => "Unexpected UTF-8 BOM (decode using utf-8-sig)"
  | .noValue => "Expecting value"
  | .extraData => "Extra data"
  | .noName => "Expecting property name enclosed in double quotes"
  | .noColon => "Expecting ':' delimiter"
  | .noComma => "Expecting ',' delimiter"
  | .unterminated => "Unterminated string starting at"
  | .controlCharacter => "Invalid control character at"
  | .badEscape => "Invalid \\escape"
  | .badUnicodeEscape => "Invalid \\uXXXX escape"

/-- What holds other values. -/
inductive Container where
  | array
  | object
  deriving DecidableEq, Repr

def Container.name : Container → String
  | array => "array"
  | object => "object"

/-- Why a text is refused: a defect at a position, a whole number of too many digits, or an array or
object within too many others. -/
inductive Refusal where
  | malformed (defect : Defect) (position : Nat)
  | tooManyDigits (digits : Nat)
  | tooDeep (inner : Container)
  deriving DecidableEq, Repr

/-- The same while reading, when a place is known by the number of characters that follow it. -/
inductive Halt where
  | at (defect : Defect) (remaining : Nat)
  | tooManyDigits (digits : Nat)
  | tooDeep (inner : Container)

/-- What was read, and the text after it. -/
abbrev Read (α : Type) := Except Halt (α × List Char)

namespace Read

/-- Goes on with what was read and the text after it. -/
def andThen {α β : Type} (first : Read α) (next : α → List Char → Read β) : Read β :=
  match first with
  | .error stop => .error stop
  | .ok (a, rest) => next a rest

/-- Puts a code in front of the codes that were read. -/
def after (code : Nat) (tail : Read (List Nat)) : Read (List Nat) :=
  tail.andThen fun codes rest => .ok (code :: codes, rest)

end Read

def halt {α : Type} (defect : Defect) (here : List Char) : Read α :=
  .error (.at defect here.length)

def isSpace (c : Char) : Bool := c = ' ' || c = '\t' || c = '\n' || c = '\r'

def skipSpace (cs : List Char) : List Char := cs.dropWhile isSpace

def unit? (a b c d : Char) : Option Nat := do
  let w ← hexValue? a
  let x ← hexValue? b
  let y ← hexValue? c
  let z ← hexValue? d
  some (((w * 16 + x) * 16 + y) * 16 + z)

def isHighUnit (n : Nat) : Bool := 0xd800 ≤ n && n ≤ 0xdbff

def isLowUnit (n : Nat) : Bool := 0xdc00 ≤ n && n ≤ 0xdfff

def pairCode (high low : Nat) : Nat := 0x10000 + (high - 0xd800) * 0x400 + (low - 0xdc00)

def simpleEscape? : Char → Option Char
  | '\x22' => some '\x22'
  | '\\' => some '\\'
  | '/' => some '/'
  | 'b' => some '\x08'
  | 'f' => some '\x0c'
  | 'n' => some '\n'
  | 'r' => some '\r'
  | 't' => some '\t'
  | _ => none

/-- The codes of what follows a quotation mark up to the next one that is not escaped. `opened` is
the number of characters from the opening mark on. -/
def stringBody (opened : Nat) : List Char → Read (List Nat)
  | [] => .error (.at .unterminated opened)
  | '\x22' :: rest => .ok ([], rest)
  | ['\\'] => .error (.at .unterminated opened)
  | '\\' :: 'u' :: a :: b :: c :: d :: next :: rest =>
    match unit? a b c d with
    | none => halt .badUnicodeEscape ('u' :: a :: b :: c :: d :: next :: rest)
    | some high =>
      match next, rest with
      | '\\', 'u' :: e :: f :: g :: h :: after :: rest' =>
        if isHighUnit high then
          match unit? e f g h with
          | none => halt .badUnicodeEscape ('u' :: e :: f :: g :: h :: after :: rest')
          | some low =>
            if isLowUnit low then (stringBody opened (after :: rest')).after (pairCode high low)
            else
              (stringBody opened ('\\' :: 'u' :: e :: f :: g :: h :: after :: rest')).after high
        else
          (stringBody opened ('\\' :: 'u' :: e :: f :: g :: h :: after :: rest')).after high
      | next, rest => (stringBody opened (next :: rest)).after high
  | '\\' :: 'u' :: rest => halt .badUnicodeEscape ('u' :: rest)
  | '\\' :: c :: rest =>
    match simpleEscape? c with
    | none => halt .badEscape ('\\' :: c :: rest)
    | some e => (stringBody opened rest).after e.toNat
  | c :: rest =>
    if c.toNat < 0x20 then halt .controlCharacter (c :: rest)
    else (stringBody opened rest).after c.toNat

/-- An exponent: the mark, a sign or none, and one digit at least. -/
def exponentPart? (cs : List Char) : Option (List Char × List Char) :=
  match cs with
  | c :: rest =>
    if c = 'e' ∨ c = 'E' then
      let signs := rest.take 1 |>.filter fun c => c = '+' || c = '-'
      let body := rest.drop signs.length
      let digits := body.takeWhile isAsciiDigit
      if digits.isEmpty then none
      else some (c :: signs ++ digits, body.dropWhile isAsciiDigit)
    else none
  | [] => none

/-- A fraction: the point and one digit at least. -/
def fractionPart? (cs : List Char) : Option (List Char × List Char) :=
  match cs with
  | '.' :: rest =>
    let digits := rest.takeWhile isAsciiDigit
    if digits.isEmpty then none else some (digits, rest.dropWhile isAsciiDigit)
  | _ => none

/-- The digits before fraction and exponent: a lone zero, or a row that starts with none. -/
def wholePart? (cs : List Char) : Option (List Char × List Char) :=
  match cs with
  | '0' :: rest => some (['0'], rest)
  | c :: rest =>
    if isAsciiDigit c then
      some (c :: rest.takeWhile isAsciiDigit, rest.dropWhile isAsciiDigit)
    else none
  | [] => none

def digitValues (cs : List Char) : List Nat := cs.filterMap asciiDigit?

def number (cs : List Char) : Read Number :=
  let negative := cs.head? = some '-'
  match wholePart? (if negative then cs.drop 1 else cs) with
  | none => halt .noValue cs
  | some (whole, rest) =>
    let fraction := fractionPart? rest
    let rest := (fraction.map (·.2)).getD rest
    let exponent := exponentPart? rest
    let rest := (exponent.map (·.2)).getD rest
    match fraction, exponent with
    | none, none =>
      if whole.length > Numeral.digitLimit then .error (.tooManyDigits whole.length)
      else .ok (.int (Numeral.signed negative (ofDigits (digitValues whole))), rest)
    | _, _ =>
      let decimal : Numeral.Decimal := {
        whole := digitValues whole
        fraction := digitValues ((fraction.map (·.1)).getD [])
        exponent := ((exponent.map (·.1)).bind (Numeral.exponent? asciiDigit?)).getD 0 }
      .ok (.real (decimal.value negative), rest)

mutual

/-- A value at the first character, within `fuel` nested steps; `room` more arrays and objects may
be opened. -/
def value : Nat → Nat → List Char → Read Coded
  | 0, _, cs => halt .noValue cs
  | fuel + 1, room, cs =>
    match cs with
    | '\x22' :: rest =>
      (stringBody cs.length rest).andThen fun codes rest => .ok (.str (.ofCodes codes), rest)
    | '\x7b' :: rest =>
      match room with
      | 0 => .error (.tooDeep .object)
      | room + 1 =>
        match skipSpace rest with
        | '\x7d' :: rest => .ok (.obj [], rest)
        | inner =>
          (members fuel room inner).andThen fun pairs rest =>
            .ok (.obj (Fields.ofPairs pairs), rest)
    | '[' :: rest =>
      match room with
      | 0 => .error (.tooDeep .array)
      | room + 1 =>
        match skipSpace rest with
        | ']' :: rest => .ok (.arr [], rest)
        | inner => (elements fuel room inner).andThen fun values rest => .ok (.arr values, rest)
    | 'n' :: 'u' :: 'l' :: 'l' :: rest => .ok (.null, rest)
    | 't' :: 'r' :: 'u' :: 'e' :: rest => .ok (.bool true, rest)
    | 'f' :: 'a' :: 'l' :: 's' :: 'e' :: rest => .ok (.bool false, rest)
    | 'N' :: 'a' :: 'N' :: rest => .ok (.num (.real .nan), rest)
    | 'I' :: 'n' :: 'f' :: 'i' :: 'n' :: 'i' :: 't' :: 'y' :: rest =>
      .ok (.num (.real (.infinite false)), rest)
    | '-' :: 'I' :: 'n' :: 'f' :: 'i' :: 'n' :: 'i' :: 't' :: 'y' :: rest =>
      .ok (.num (.real (.infinite true)), rest)
    | cs => (number cs).andThen fun n rest => .ok (.num n, rest)

/-- Names and values up to the closing brace. -/
def members : Nat → Nat → List Char → Read (List (Word × Coded))
  | 0, _, cs => halt .noName cs
  | fuel + 1, room, cs =>
    match cs with
    | '\x22' :: rest =>
      (stringBody cs.length rest).andThen fun codes rest =>
        let name := Word.ofCodes codes
        match skipSpace rest with
        | ':' :: rest =>
          (value fuel room (skipSpace rest)).andThen fun v rest =>
            match skipSpace rest with
            | '\x7d' :: rest => .ok ([(name, v)], rest)
            | ',' :: rest =>
              (members fuel room (skipSpace rest)).andThen fun more rest =>
                .ok ((name, v) :: more, rest)
            | here => halt .noComma here
        | here => halt .noColon here
    | cs => halt .noName cs

/-- Values up to the closing bracket. -/
def elements : Nat → Nat → List Char → Read (List Coded)
  | 0, _, cs => halt .noValue cs
  | fuel + 1, room, cs =>
    (value fuel room cs).andThen fun v rest =>
      match skipSpace rest with
      | ']' :: rest => .ok ([v], rest)
      | ',' :: rest =>
        (elements fuel room (skipSpace rest)).andThen fun more rest => .ok (v :: more, rest)
      | here => halt .noComma here

end

def byteOrderMark : Char := '\ufeff'

/-- One value, with nothing but space around it. A container takes two steps and may be no more than
one character of the text. -/
def document (cs : List Char) : Except Halt Coded :=
  let start := skipSpace cs
  match value (2 * start.length + 1) depthLimit start with
  | .error stop => .error stop
  | .ok (v, rest) =>
    match skipSpace rest with
    | [] => .ok v
    | here => .error (.at .extraData here.length)

def Halt.located (total : Nat) : Halt → Refusal
  | .at defect remaining => .malformed defect (total - remaining)
  | .tooManyDigits digits => .tooManyDigits digits
  | .tooDeep inner => .tooDeep inner

/-- A whole text, which may not start with a byte order mark. -/
def parse (cs : List Char) : Except Refusal Coded :=
  if cs.head? = some byteOrderMark then .error (.malformed .byteOrderMark 0)
  else (document cs).mapError (Halt.located cs.length)

/-- What was sent may start with a byte order mark, which does not count. -/
def content (cs : List Char) : List Char :=
  if cs.head? = some byteOrderMark then cs.drop 1 else cs

/-- A text that was sent. -/
def parseContent (cs : List Char) : Except Refusal Coded :=
  (document (content cs)).mapError (Halt.located (content cs).length)

/-- The line and the column of a position, both from one. -/
def lineColumn (cs : List Char) (position : Nat) : Nat × Nat :=
  let before := cs.take position
  (before.count '\n' + 1, (before.reverse.takeWhile (· != '\n')).length + 1)

def Refusal.message (cs : List Char) : Refusal → String
  | .malformed defect position =>
    let place := lineColumn cs position
    s!"{defect.message}: line {place.1} column {place.2} (char {position})"
  | .tooManyDigits digits => Numeral.tooLongMessage digits
  | .tooDeep inner =>
    s!"maximum recursion depth exceeded while decoding a JSON {inner.name} from a unicode string"

end DesignToCode.Json
