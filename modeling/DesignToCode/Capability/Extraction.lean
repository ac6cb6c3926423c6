import DesignToCode.Json.Parser
import DesignToCode.Json.Printer
import DesignToCode.Schema.Version
import DesignToCode.Text.Search

set_option autoImplicit false

/-!
Taking a document out of the text in which it was told. The text may be the document, hold it in a
fenced block, or have it between other words; the first of these that reads as a document counts.
-/
namespace DesignToCode.Extraction

open DesignToCode.Text

def fence : List Char := "```".toList

/-- The word that an opening fence may carry. -/
def label : List Char := "json".toList

/-- A text whose first line opens a fenced block, without that line and without a fence for its
last line; any other text itself. -/
def unfenced (text : List Char) : List Char :=
  if fence.isPrefixOf text then
    let body := (pieces '\n' text).drop 1
    let body := if body.getLast?.any (trimmed · == fence) then body.dropLast else body
    trimmed (List.intercalate ['\n'] body)
  else text

/-- What follows each line break of the blanks that a text starts with, the last one first, and
then what was found already. -/
def afterBreaks (found : List (List Char)) : List Char → List (List Char)
  | [] => found
  | c :: rest =>
    if !isBlank c then found else afterBreaks (if c = '\n' then rest :: found else found) rest

/-- The inside of a fenced block that opens at the start of a text: what stands between a line break
behind the opening fence and the next line that starts with a fence. -/
def blockAt? (cs : List Char) : Option (List Char) :=
  if fence.isPrefixOf cs then
    let rest := cs.drop fence.length
    let rest := if label.isPrefixOf rest then rest.drop label.length else rest
    (afterBreaks [] rest).findSome? (before? ('\n' :: fence))
  else none

/-- The inside of the first fenced block of a text. -/
def block? : List Char → Option (List Char)
  | [] => none
  | c :: rest =>
    match blockAt? (c :: rest) with
    | some inside => some inside
    | none => block? rest

/-- From the first opening brace of a text to its last closing one. -/
def braced? (cs : List Char) : Option (List Char) :=
  match ((cs.dropWhile (· != '\x7b')).reverse.dropWhile (· != '\x7d')).reverse with
  | [] => none
  | inside => some inside

/-- The places where a text may hold a document. -/
def candidates (text : List Char) : List (List Char) :=
  text :: (block? text).toList ++ (braced? text).toList

/-- Why no document can be looked for: what was told is no string, or the text has a whole number of
too many digits or nests too deep. What comes of a string that is no text is left open. -/
inductive Refusal where
  | noString (kind : String)
  | noText
  | tooManyDigits (overflow : DigitOverflow)
  | tooDeep (inner : Json.Container)

def Refusal.message : Refusal → String
  | noString kind => s!"'{kind}' object has no attribute 'strip'"
  | noText => ""
  | tooManyDigits overflow => overflow.message
  | tooDeep inner => (Json.Refusal.tooDeep inner).message []

/-- The first text that reads as a document. A whole number of too many digits ends the search, and
so does a document that nests too deep. -/
def firstDocument : List (List Char) → Except Refusal (Option Json.Coded)
  | [] => .ok none
  | cs :: rest =>
    match Json.parse cs with
    | .ok v => .ok (some v)
    | .error (.malformed ..) => firstDocument rest
    | .error (.tooManyDigits digits) => .error (.tooManyDigits ⟨digits⟩)
    | .error (.tooDeep inner) => .error (.tooDeep inner)

/-- The document in a text. -/
def ofText (text : String) : Except Refusal (Option Json.Coded) :=
  firstDocument (candidates (unfenced (trimmed text.toList)))

/-- The document in what was told. Where nothing was told there is none, and what is no string
cannot be searched. -/
def document (told : Json.Coded) : Except Refusal (Option Json.Coded) :=
  match told with
  | .str (.text s) => if s.isEmpty then .ok none else ofText s
  | .str (.units _) => .error .noText
  | v => if v.isGiven then .error (.noString v.kindName) else .ok none

end DesignToCode.Extraction
