import DesignToCode.Text.Case
import DesignToCode.Text.Digit
import DesignToCode.Text.Search

set_option autoImplicit false

/-!
Ids of sections and components. An id names a kind, the slug of a type, and how many ids of that
kind and slug there are by then.
-/
namespace DesignToCode

open DesignToCode.Text

def isSlugChar (c : Char) : Bool := ('a' ≤ c && c ≤ 'z') || isAsciiDigit c

/-- Words between dashes. -/
def dashed (words : List (List Char)) : List Char := ['-'].intercalate words

/-- The small letters and digits of a text, each run of anything else a dash; a text without any is
an item. -/
def slug (s : String) : String :=
  match wordsBy isSlugChar (lowered s.toList) with
  | [] => "item"
  | words => String.ofList (dashed words)

/-- The kinds and slugs of the ids given out so far. -/
structure IdCounter where
  issued : List (String × String) := []

namespace IdCounter

def number (c : IdCounter) (kind slug : String) : Nat := c.issued.count (kind, slug) + 1

def next (c : IdCounter) (kind type : String) : String × IdCounter :=
  (s!"{kind}-{slug type}-{c.number kind (slug type)}", ⟨(kind, slug type) :: c.issued⟩)

/-- Ids of one kind for a list of types, in order. -/
def nextAll (c : IdCounter) (kind : String) : List String → List String
  | [] => []
  | type :: rest => (c.next kind type).1 :: nextAll (c.next kind type).2 kind rest

theorem number_next (c : IdCounter) (kind type : String) :
    (c.next kind type).2.number kind (slug type) = c.number kind (slug type) + 1 := by
  simp [next, number]

theorem length_nextAll (c : IdCounter) (kind : String) (types : List String) :
    (c.nextAll kind types).length = types.length := by
  induction types generalizing c with
  | nil => rfl
  | cons type rest ih => simp [nextAll, ih]

end IdCounter

end DesignToCode
