import DesignToCode.Json.Basic
import DesignToCode.Text.Digit
import DesignToCode.Text.Search

set_option autoImplicit false

/-!
Class names for section ids. An id is any text; its class keeps the characters that a class name may
hold, and a class that is taken gets a number behind it.
-/
namespace DesignToCode

open DesignToCode.Text

def isNameChar (c : Char) : Bool := isAsciiAlphanumeric c || c = '_' || c = '-'

/-- A dash in place of every run of characters that no name holds. -/
def dashGaps : List Char → List Char
  | [] => []
  | c :: rest =>
    if isNameChar c then c :: dashGaps rest
    else if rest.head?.all isNameChar then '-' :: dashGaps rest
    else dashGaps rest

def stripDashes (cs : List Char) : List Char :=
  ((cs.dropWhile (· = '-')).reverse.dropWhile (· = '-')).reverse

/-- The characters of a text that a name may hold, which may be none. -/
def nameChars (s : String) : List Char := stripDashes (dashGaps s.toList)

def startsWithDigit (cs : List Char) : Bool := cs.head?.any isAsciiDigit

/-- The class of a section that has no character of its own to offer. -/
def namelessClass : String := "section"

def kebabClass (id : String) : String :=
  let name := nameChars id
  if name.isEmpty then namelessClass
  else String.ofList (if startsWithDigit name then 's' :: '-' :: name else name)

def capitalized : List Char → List Char
  | [] => []
  | c :: rest => c.toUpper :: rest

/-- The words of the id in one, each but the first with a capital. -/
def camelClass (id : String) : String :=
  match wordsBy isAsciiAlphanumeric id.toList with
  | [] => namelessClass
  | first :: rest =>
    let name := first.map Char.toLower ++ rest.flatMap capitalized
    String.ofList (if startsWithDigit name then 's' :: name else name)

/-- Ids with their classes, in order. -/
abbrev ClassMap := List (String × String)

/-- The first name from `position` on that is not taken, among one more than `tries` names. -/
def firstFree (taken : List String) (name : Nat → String) : Nat → Nat → String
  | 0, position => name position
  | tries + 1, position =>
    if taken.contains (name position) then firstFree taken name tries (position + 1)
    else name position

/-- The class of one id. Numbered names are all different, so one of them is free among one more
than there are taken names. -/
def freeClass (toClass : String → String) (taken : List String) (position : Nat) (id : String) :
    String :=
  if taken.contains (toClass id) then
    firstFree taken (fun number => toClass s!"{id}-{number}") taken.length position
  else toClass id

def assignClasses (toClass : String → String) (taken : List String) (position : Nat) :
    List String → ClassMap
  | [] => []
  | id :: rest =>
    let name := freeClass toClass taken position id
    (id, name) :: assignClasses toClass (name :: taken) (position + 1) rest

/-- A class for every id, none of them reserved. An id that comes again keeps its place and takes
the later class. -/
def sectionClasses (toClass : String → String) (reserved : List String) (ids : List String) :
    ClassMap :=
  Fields.ofPairs (assignClasses toClass reserved 1 ids)

end DesignToCode
