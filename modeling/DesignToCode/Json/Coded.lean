import DesignToCode.Json.Basic

set_option autoImplicit false

namespace DesignToCode.Json

/-- A string. A half of a pair of units may stand alone in it; then it is no text, but codes. -/
inductive Word where
  | text (value : String)
  | units (codes : List Nat)
  deriving DecidableEq

instance : Coe String Word := ⟨.text⟩

namespace Word

/-- The character of a code; a half of a pair becomes the replacement character. -/
def codeChar (n : Nat) : Char := if n.isValidChar then Char.ofNat n else '\ufffd'

/-- The string of codes, which is a text if all of them are characters. -/
def ofCodes (codes : List Nat) : Word :=
  if codes.all fun n => n.isValidChar then .text (String.ofList (codes.map codeChar))
  else .units codes

def text? : Word → Option String
  | .text s => some s
  | .units _ => none

/-- The text with the replacement character for each half of a pair. -/
def replaced : Word → String
  | .text s => s
  | .units codes => String.ofList (codes.map codeChar)

end Word

/-- A document whose strings and keys need not be texts. -/
inductive Coded where
  | null
  | bool (value : Bool)
  | num (value : Number)
  | str (value : Word)
  | arr (items : List Coded)
  | obj (fields : List (Word × Coded))
  deriving Inhabited

namespace Coded

mutual

/-- The document, if all of its strings and keys are texts. -/
def document? : Coded → Option Json
  | .null => some .null
  | .bool b => some (.bool b)
  | .num n => some (.num n)
  | .str word => word.text?.map .str
  | .arr items => (documents? items).map .arr
  | .obj fields => (fields? fields).map .obj

def documents? : List Coded → Option (List Json)
  | [] => some []
  | v :: rest => do return (← document? v) :: (← documents? rest)

def fields? : List (Word × Coded) → Option Fields
  | [] => some []
  | (key, v) :: rest => do return (← key.text?, ← document? v) :: (← fields? rest)

end

/-- The field of an object; nothing for any other document. -/
def get? : Coded → String → Option Coded
  | .obj fields, key => fields.lookup (.text key)
  | _, _ => none

/-- Null, false, zero and everything empty do not count as given. -/
def isGiven : Coded → Bool
  | .null => false
  | .bool b => b
  | .num n => !n.isZero
  | .str (.text s) => !s.isEmpty
  | .str (.units codes) => !codes.isEmpty
  | .arr items => !items.isEmpty
  | .obj fields => !fields.isEmpty

/-- The kind of a document, as messages name it. -/
def kindName : Coded → String
  | .null => "NoneType"
  | .bool _ => "bool"
  | .num (.int _) => "int"
  | .num (.real _) => "float"
  | .str _ => "str"
  | .arr _ => "list"
  | .obj _ => "dict"

end Coded

end DesignToCode.Json
