import DesignToCode.Json.Coded
import DesignToCode.Number.Numeral
import DesignToCode.Number.Shortest
import DesignToCode.Text.Quoted

set_option autoImplicit false

/-!
Writing documents: on one line, or one item a line with an indent; and the way messages show them.
-/
namespace DesignToCode.Json

open DesignToCode.Text

/-- Quotation mark, backslash and control characters are escaped, and nothing else. -/
def escapeChar (c : Char) : List Char :=
  if c = '\x22' then ['\\', '\x22']
  else if c = '\\' then ['\\', '\\']
  else if c = '\n' then ['\\', 'n']
  else if c = '\r' then ['\\', 'r']
  else if c = '\t' then ['\\', 't']
  else if c = '\x0c' then ['\\', 'f']
  else if c = '\x08' then ['\\', 'b']
  else if c.toNat < 0x20 then '\\' :: 'u' :: hexDigits 4 c.toNat
  else [c]

def stringText (s : String) : String :=
  String.ofList ('\x22' :: (s.toList.flatMap escapeChar ++ ['\x22']))

def numberText : Number → String
  | .int i => toString i
  | .real x => NumberLayout.document.write x

/-- How the items of a container are kept apart: by commas alone, by commas and blanks, or by lines
with an indent. -/
inductive Spacing where
  | compact
  | line
  | indented (width : Nat)

/-- What stands between a name and its value. -/
def Spacing.colon : Spacing → String
  | compact => ":"
  | _ => ": "

/-- What stands between the brackets of a container at a nesting level. -/
def enclosed (spacing : Spacing) (level : Nat) (left right : String) (items : List String) :
    String :=
  match spacing, items with
  | _, [] => left ++ right
  | .compact, items => left ++ ",".intercalate items ++ right
  | .line, items => left ++ ", ".intercalate items ++ right
  | .indented width, items =>
    let inner := "\n" ++ "".pushn ' ' (width * (level + 1))
    let outer := "\n" ++ "".pushn ' ' (width * level)
    left ++ inner ++ ("," ++ inner).intercalate items ++ outer ++ right

mutual

def renderAt (spacing : Spacing) (level : Nat) : Json → String
  | .null => "null"
  | .bool b => if b then "true" else "false"
  | .num n => numberText n
  | .str s => stringText s
  | .arr items => enclosed spacing level "[" "]" (renderItems spacing (level + 1) items)
  | .obj fields => enclosed spacing level "\x7b" "\x7d" (renderFields spacing (level + 1) fields)

def renderItems (spacing : Spacing) (level : Nat) : List Json → List String
  | [] => []
  | v :: rest => renderAt spacing level v :: renderItems spacing level rest

def renderFields (spacing : Spacing) (level : Nat) : List (String × Json) → List String
  | [] => []
  | (k, v) :: rest =>
    (stringText k ++ spacing.colon ++ renderAt spacing level v) :: renderFields spacing level rest

end

/-- A document on one line. -/
def render (value : Json) : String := renderAt .line 0 value

/-- A document on one line without blanks, as it is sent. -/
def renderCompact (value : Json) : String := renderAt .compact 0 value

/-- A document with every item on a line of its own, nested items two blanks further in. -/
def renderIndented (value : Json) : String := renderAt (.indented 2) 0 value

mutual

/-- A document as messages show it. -/
def shown : Json → String
  | .null => "None"
  | .bool b => if b then "True" else "False"
  | .num n => n.text
  | .str s => quote s
  | .arr items => "[" ++ ", ".intercalate (shownItems items) ++ "]"
  | .obj fields => "\x7b" ++ ", ".intercalate (shownFields fields) ++ "\x7d"

def shownItems : List Json → List String
  | [] => []
  | v :: rest => shown v :: shownItems rest

def shownFields : List (String × Json) → List String
  | [] => []
  | (k, v) :: rest => (quote k ++ ": " ++ shown v) :: shownFields rest

end

/-- A document as text: a string is its own text, anything else as messages show it. -/
def text : Json → String
  | .str s => s
  | value => value.shown

/-- Why a document cannot be shown: it holds a whole number of too many digits, or too many of its
values stand one inside the other. -/
inductive Unwritable where
  | tooManyDigits
  | tooDeep
  deriving DecidableEq, Repr

def Unwritable.message : Unwritable → String
  | tooManyDigits => Numeral.unwritableMessage
  | tooDeep => "maximum recursion depth exceeded while getting the repr of an object"

mutual

/-- What is met first that cannot be shown, where `room` more values may be open. -/
def unwritableAt? : Nat → Json → Option Unwritable
  | 0, _ => some .tooDeep
  | _ + 1, .num (.int i) => if Numeral.isWritable i then none else some .tooManyDigits
  | room + 1, .arr items => unwritableItem? room items
  | room + 1, .obj fields => unwritableField? room fields
  | _ + 1, _ => none

def unwritableItem? (room : Nat) : List Json → Option Unwritable
  | [] => none
  | v :: rest => (unwritableAt? room v).or (unwritableItem? room rest)

def unwritableField? (room : Nat) : List (String × Json) → Option Unwritable
  | [] => none
  | (_, v) :: rest => (unwritableAt? room v).or (unwritableField? room rest)

end

/-- What stands in the way of showing a document, if anything does. -/
def unwritable? (value : Json) : Option Unwritable := unwritableAt? depthLimit value

@[simp] theorem unwritable?_str (s : String) : unwritable? (.str s) = none := rfl

theorem unwritable?_int_eq_none_iff {i : Int} :
    unwritable? (.int i) = none ↔ Numeral.isWritable i = true := by
  show (if Numeral.isWritable i then none else some Unwritable.tooManyDigits) = none ↔ _
  simp

/-- The text of a document, if it can be shown. -/
def written (value : Json) : Except Unwritable String :=
  match value.unwritable? with
  | some why => .error why
  | none => .ok value.text

namespace Coded

/-- A string as messages show it, halves of pairs escaped. -/
def quoteWord : Word → String
  | .text s => quote s
  | .units codes =>
    let mark := quoteMark (codes.map Word.codeChar)
    let code (n : Nat) : List Char :=
      if n.isValidChar then quoteChar mark (Word.codeChar n) else '\\' :: 'u' :: hexDigits 4 n
    String.ofList (mark :: (codes.flatMap code ++ [mark]))

mutual

/-- A document as messages show it. -/
def shown : Coded → String
  | .null => "None"
  | .bool b => if b then "True" else "False"
  | .num n => n.text
  | .str word => quoteWord word
  | .arr items => "[" ++ ", ".intercalate (shownItems items) ++ "]"
  | .obj fields => "\x7b" ++ ", ".intercalate (shownFields fields) ++ "\x7d"

def shownItems : List Coded → List String
  | [] => []
  | v :: rest => shown v :: shownItems rest

def shownFields : List (Word × Coded) → List String
  | [] => []
  | (key, v) :: rest => (quoteWord key ++ ": " ++ shown v) :: shownFields rest

end

/-- A document as text: a string is its own text, anything else as messages show it. -/
def text : Coded → String
  | .str word => word.replaced
  | value => value.shown

end Coded

end DesignToCode.Json
