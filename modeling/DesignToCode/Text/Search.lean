set_option autoImplicit false

namespace DesignToCode.Text

/-- Whether `part` stands anywhere in a text. -/
def occurs (part : List Char) : List Char → Bool
  | [] => part.isEmpty
  | c :: rest => part.isPrefixOf (c :: rest) || occurs part rest

def holds (s part : String) : Bool := occurs part.toList s.toList

def startsWith (s start : String) : Bool := start.toList.isPrefixOf s.toList

/-- The pieces between the places where `mark` stands; one more than there are such places. -/
def pieces (mark : Char) : List Char → List (List Char)
  | [] => [[]]
  | c :: rest =>
    if c = mark then [] :: pieces mark rest
    else
      match pieces mark rest with
      | [] => [[c]]
      | piece :: more => (c :: piece) :: more

/-- The text before the first `mark`, and the text after it if there is one. -/
def cut (mark : Char) (cs : List Char) : List Char × Option (List Char) :=
  (cs.takeWhile (· != mark), (cs.dropWhile (· != mark)).tail?)

/-- What stands before the first place where `mark` stands. -/
def before? (mark : List Char) : List Char → Option (List Char)
  | [] => if mark.isEmpty then some [] else none
  | c :: rest =>
    if mark.isPrefixOf (c :: rest) then some [] else (before? mark rest).map (c :: ·)

/-- Texts with line breaks between them. -/
def lines (items : List String) : String := "\n".intercalate items

theorem pieces_ne_nil (mark : Char) (cs : List Char) : pieces mark cs ≠ [] := by
  cases cs with
  | nil => simp [pieces]
  | cons c rest =>
    unfold pieces
    split
    · simp
    · split <;> simp

theorem occurs_prefix (part back : List Char) : occurs part (part ++ back) = true := by
  cases part with
  | nil => cases back <;> rfl
  | cons c rest => simp [occurs]

theorem occurs_append (front part back : List Char) :
    occurs part (front ++ (part ++ back)) = true := by
  induction front with
  | nil => exact occurs_prefix part back
  | cons c rest ih => simp [occurs, ih]

/-- Words of the characters that `keep` keeps, without the characters between them. -/
def wordsBy (keep : Char → Bool) : List Char → List (List Char)
  | [] => []
  | c :: rest =>
    if keep c then
      match rest, wordsBy keep rest with
      | d :: _, word :: more => if keep d then (c :: word) :: more else [c] :: word :: more
      | _, more => [c] :: more
    else wordsBy keep rest

end DesignToCode.Text
