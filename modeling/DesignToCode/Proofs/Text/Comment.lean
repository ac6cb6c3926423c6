import Mathlib.Data.List.Basic
import Mathlib.Data.List.Induction
import Mathlib.Tactic.Common

set_option autoImplicit false

namespace DesignToCode.Comment

def isLineEnd (c : Char) : Bool := c = '\n' || c = '\r' || c = '\x0c'

/-- Where a reader stands: in code, in a comment of either kind, or in a string. Behind a slash in
code, or a star in a comment, the next character tells. -/
inductive Place where
  | code
  | slash
  | block
  | star
  | line
  | quoted (mark : Char)
  | escaped (mark : Option Char)
  deriving DecidableEq

namespace Place

/-- A character of code, which may begin something else. -/
def ofCode (c : Char) : Place :=
  if c = '/' then slash
  else if c = '"' ∨ c = '\'' then quoted c
  else if c = '\\' then escaped none
  else code

/-- A string ends with its mark, or with its line if that is not escaped. -/
def next (slashes : Bool) : Place → Char → Place
  | code, c => ofCode c
  | slash, c => if c = '*' then block else if slashes ∧ c = '/' then line else ofCode c
  | block, c => if c = '*' then star else block
  | star, c => if c = '/' then code else if c = '*' then star else block
  | line, c => if isLineEnd c then code else line
  | quoted mark, c =>
    if c = mark ∨ isLineEnd c then code
    else if c = '\\' then escaped (some mark)
    else quoted mark
  | escaped none, _ => code
  | escaped (some mark), _ => quoted mark

def inside : Place → Bool
  | block | star | line => true
  | _ => false

/-- A slash is held back until it is seen whether it begins a comment. -/
def held : Place → List Char
  | slash => ['/']
  | _ => []

/-- What is kept once a character is read: of a comment, nothing but the end of its line. -/
def kept (slashes : Bool) (p : Place) (c : Char) : List Char :=
  if (p.next slashes c).inside then []
  else
    match p with
    | block | star => []
    | p => if p.next slashes c = slash then p.held else p.held ++ [c]

end Place

open Place

variable (slashes : Bool)

def placeAfter (p : Place) (cs : List Char) : Place := cs.foldl (next slashes) p

def keptFrom : Place → List Char → List Char
  | _, [] => []
  | p, c :: cs => p.kept slashes c ++ keptFrom (p.next slashes c) cs

/-- A text without its comments. -/
def uncommented (cs : List Char) : List Char :=
  keptFrom slashes code cs ++ (placeAfter slashes code cs).held

/-- The lines of a text that hold more than blanks. -/
def contentLines (cs : List Char) : List (List Char) :=
  (cs.splitOnP isLineEnd).filter (·.any fun c => c != ' ' && c != '\t')

variable {slashes} {p : Place} {cs : List Char}

theorem keptFrom_append (p : Place) (cs more : List Char) :
    keptFrom slashes p (cs ++ more) =
      keptFrom slashes p cs ++ keptFrom slashes (placeAfter slashes p cs) more := by
  induction cs generalizing p with
  | nil => rfl
  | cons c rest ih => rw [List.cons_append, keptFrom, keptFrom, ih, List.append_assoc]; rfl

theorem placeAfter_append (p : Place) (cs more : List Char) :
    placeAfter slashes p (cs ++ more) = placeAfter slashes (placeAfter slashes p cs) more :=
  List.foldl_append

theorem contentLines_append (cs more : List Char) :
    contentLines (cs ++ '\n' :: more) = contentLines cs ++ contentLines more := by
  unfold contentLines
  rw [List.splitOnP_append_cons _ _ rfl, List.filter_append]

/-- No reader of a text comes into a comment. -/
def Clear (slashes : Bool) (p : Place) (cs : List Char) : Prop :=
  ∀ before, before <+: cs → (placeAfter slashes p before).inside = false

theorem Clear.of_append {more : List Char} (h : Clear slashes p (cs ++ more)) :
    Clear slashes p cs ∧ Clear slashes (placeAfter slashes p cs) more := by
  constructor
  · intro before front
    exact h before (front.trans (List.prefix_append _ _))
  · intro before front
    rw [← placeAfter_append]
    exact h _ ((List.prefix_append_right_inj cs).mpr front)

theorem ofCode_cases (c : Char) :
    ofCode c = code ∨ ofCode c = slash ∨ ofCode c = quoted c ∨ ofCode c = escaped none := by
  unfold ofCode
  split
  · exact .inr (.inl rfl)
  split
  · exact .inr (.inr (.inl rfl))
  split
  · exact .inr (.inr (.inr rfl))
  · exact .inl rfl

/-- Only a slash is held back, and only a backslash escapes. -/
theorem char_of_next (p : Place) (c : Char) :
    (p.next slashes c = slash → c = '/') ∧ ∀ mark, p.next slashes c = escaped mark → c = '\\' := by
  have fromCode : (ofCode c = slash → c = '/') ∧ ∀ mark, ofCode c = escaped mark → c = '\\' := by
    unfold ofCode
    split
    · simp [*]
    split
    · simp
    split <;> simp [*]
  cases p with
  | code => exact fromCode
  | slash =>
    rw [next]
    split
    · simp
    split
    · simp
    exact fromCode
  | escaped mark => cases mark <;> simp [next]
  | block | line =>
    rw [next]
    split <;> simp
  | star | quoted =>
    rw [next]
    split
    · simp
    split <;> simp [*]

theorem held_of_ne {p : Place} (other : p ≠ slash) : p.held = [] := by
  cases p with
  | slash => exact absurd rfl other
  | _ => rfl

theorem held_of_inside (h : p.inside = true) : p.held = [] := by
  refine held_of_ne ?_
  rintro rfl
  cases h

/-- What is kept of a character and held behind it is what was held before, with the character. -/
theorem kept_append_held (slashes : Bool) {c : Char} (outside : p.inside = false)
    (still : (p.next slashes c).inside = false) :
    p.kept slashes c ++ (p.next slashes c).held = p.held ++ [c] := by
  have kept : p.kept slashes c = if p.next slashes c = slash then p.held else p.held ++ [c] := by
    unfold Place.kept
    rw [if_neg (by simp [still])]
    cases p with
    | block | star => cases outside
    | _ => rfl
  rw [kept]
  split
  · rename_i place
    rw [place, (char_of_next p c).1 place]
    rfl
  · rename_i other
    rw [held_of_ne other, List.append_nil]

theorem Clear.keptFrom_append_held (h : Clear slashes p cs) :
    keptFrom slashes p cs ++ (placeAfter slashes p cs).held = p.held ++ cs := by
  induction cs generalizing p with
  | nil => simp [keptFrom, placeAfter]
  | cons c rest ih =>
    have split : Clear slashes p ([c] ++ rest) := h
    have later := ih split.of_append.2
    have step := kept_append_held slashes (h [] List.nil_prefix)
      (h [c] (List.prefix_append [c] rest))
    show p.kept slashes c ++ keptFrom slashes (p.next slashes c) rest ++
      (placeAfter slashes (p.next slashes c) rest).held = _
    rw [List.append_assoc]
    refine (congrArg _ later).trans ?_
    rw [← List.append_assoc]
    refine (congrArg (· ++ rest) step).trans ?_
    rw [List.append_assoc]
    rfl

/-- Behind a comment stands code. -/
theorem next_of_inside {c : Char} (comes : p.inside = true)
    (goes : (p.next slashes c).inside = false) : p.next slashes c = code := by
  cases p with
  | block =>
    rw [next] at goes
    split at goes <;> cases goes
  | star =>
    rw [next] at goes ⊢
    split
    · rfl
    · rename_i other
      rw [if_neg other] at goes
      split at goes <;> cases goes
  | line =>
    rw [next] at goes ⊢
    split
    · rfl
    · rename_i other
      rw [if_neg other] at goes
      cases goes
  | _ => cases comes

/-- Nothing is kept that was not read. -/
theorem length_kept_le (slashes : Bool) (p : Place) (c : Char) :
    (p.kept slashes c).length + (p.next slashes c).held.length ≤ p.held.length + 1 := by
  cases goes : (p.next slashes c).inside with
  | true =>
    have nothing : p.kept slashes c = [] := if_pos goes
    rw [nothing, held_of_inside goes]
    exact Nat.zero_le _
  | false =>
    cases comes : p.inside with
    | false =>
      have whole := congrArg List.length (kept_append_held slashes comes goes)
      rw [List.length_append, List.length_append] at whole
      exact Nat.le_of_eq whole
    | true =>
      have place := next_of_inside comes goes
      have last : (p.kept slashes c).length ≤ 1 := by
        unfold Place.kept
        rw [if_neg (by simp [goes])]
        cases p with
        | block | star => exact Nat.zero_le _
        | line => simp only [place, reduceCtorEq, if_false]; exact Nat.le_refl _
        | _ => cases comes
      rw [place, held_of_inside comes]
      exact last

theorem length_keptFrom_le (slashes : Bool) (p : Place) (cs : List Char) :
    (keptFrom slashes p cs).length + (placeAfter slashes p cs).held.length ≤
      p.held.length + cs.length := by
  induction cs generalizing p with
  | nil => simp [keptFrom, placeAfter]
  | cons c rest ih =>
    have step := length_kept_le slashes p c
    have later := ih (p.next slashes c)
    have whole : placeAfter slashes p (c :: rest) =
        placeAfter slashes (p.next slashes c) rest := rfl
    rw [keptFrom, whole, List.length_append, List.length_cons]
    omega

/-- Whoever comes into a comment has lost some of the text. -/
theorem length_keptFrom_lt (outside : p.inside = false)
    (comes : (placeAfter slashes p cs).inside = true) :
    (keptFrom slashes p cs).length < p.held.length + cs.length := by
  induction cs generalizing p with
  | nil => exact absurd (outside.symm.trans comes) Bool.false_ne_true
  | cons c rest ih =>
    have step := length_kept_le slashes p c
    rw [keptFrom, List.length_append, List.length_cons]
    cases first : (p.next slashes c).inside with
    | false =>
      have later := ih first comes
      omega
    | true =>
      have nothing : p.kept slashes c = [] := if_pos first
      have later := length_keptFrom_le slashes (p.next slashes c) rest
      rw [nothing, List.length_nil]
      rw [held_of_inside first, List.length_nil] at later
      omega

/-- A text that is the same without its comments has none. -/
theorem clear_of_uncommented_eq (same : uncommented slashes cs = cs) : Clear slashes code cs := by
  intro before front
  obtain ⟨after, rfl⟩ := front
  by_contra outside
  have comes : (placeAfter slashes code before).inside = true := by simpa using outside
  have lost := length_keptFrom_lt (p := code) rfl comes
  have later := length_keptFrom_le slashes (placeAfter slashes code before) after
  have total := congrArg List.length same
  rw [uncommented, keptFrom_append, placeAfter_append, List.length_append, List.length_append,
    List.length_append] at total
  rw [held_of_inside comes, List.length_nil] at later
  rw [show code.held = [] from rfl, List.length_nil] at lost
  omega

/-- Only behind a slash does a comment begin. -/
theorem inside_next_of_ne {c : Char} (outside : p.inside = false) (other : p ≠ slash) :
    (p.next slashes c).inside = false := by
  cases p with
  | code =>
    show (ofCode c).inside = false
    rcases ofCode_cases c with same | same | same | same <;> rw [same] <;> rfl
  | slash => exact absurd rfl other
  | escaped mark => cases mark <;> rfl
  | quoted mark =>
    rw [next]
    split
    · rfl
    split <;> rfl
  | _ => cases outside

/-- A text without slashes has no comments. -/
theorem uncommented_of_notMem (none : '/' ∉ cs) : uncommented slashes cs = cs := by
  have place (before : List Char) (front : before <+: cs) :
      (placeAfter slashes code before).inside = false ∧ placeAfter slashes code before ≠ slash := by
    induction before using List.reverseRecOn with
    | nil => exact ⟨rfl, Place.noConfusion⟩
    | append_singleton before c ih =>
      obtain ⟨outside, other⟩ := ih ((List.prefix_append before [c]).trans front)
      rw [placeAfter_append]
      refine ⟨inside_next_of_ne outside other, ?_⟩
      intro comes
      have same := (char_of_next _ c).1 comes
      exact none (front.subset (List.mem_append_right before (same ▸ List.mem_singleton_self c)))
  exact Clear.keptFrom_append_held fun before front => (place before front).1

def written (lines : List String) : List Char := lines.flatMap fun line => line.toList ++ ['\n']

theorem written_append (lines more : List String) :
    written (lines ++ more) = written lines ++ written more := List.flatMap_append

theorem written_cons (line : String) (rest : List String) :
    written (line :: rest) = line.toList ++ ['\n'] ++ written rest := rfl

/-- A line that the next one does not go on with. -/
def EndsPlain (line : String) : Prop := line.toList.getLast? ≠ some '\\'

instance (line : String) : Decidable (EndsPlain line) := inferInstanceAs (Decidable (¬ _))

theorem endsPlain_append (front back : String) (given : back.toList ≠ [])
    (h : EndsPlain back) : EndsPlain (front ++ back) := by
  unfold EndsPlain
  rwa [String.toList_append, List.getLast?_append_of_ne_nil _ given]

/-- Behind the line a reader stands in code again. -/
def Closes (slashes : Bool) (line : String) : Prop :=
  placeAfter slashes code (line.toList ++ ['\n']) = code

/-- What a line holds beside comments. -/
def leftOver (slashes : Bool) (line : String) : List (List Char) :=
  contentLines (keptFrom slashes code (line.toList ++ ['\n']))

/-- Lines with comments among them, and the lines without these. -/
inductive Among : List String → List String → List String → Prop
  | nil : Among [] [] []
  | line {comments all plain : List String} {line : String} (ends : EndsPlain line) :
      Among comments all plain → Among comments (line :: all) (line :: plain)
  | comment {comments all plain : List String} (comment : String) :
      Among comments all plain → Among (comment :: comments) (comment :: all) plain

theorem closes_of_clear {line : String} (ends : EndsPlain line)
    (clear : Clear slashes code (line.toList ++ ['\n'])) : Closes slashes line := by
  have outside := clear _ (List.prefix_append _ _)
  rw [Closes, placeAfter_append]
  show next slashes (placeAfter slashes code line.toList) '\n' = code
  cases place : placeAfter slashes code line.toList with
  | code | slash => cases slashes <;> rfl
  | quoted mark => exact if_pos (.inr rfl)
  | escaped mark =>
    rcases List.eq_nil_or_concat line.toList with nothing | ⟨front, c, last⟩
    · rw [nothing] at place
      cases place
    · rw [List.concat_eq_append] at last
      rw [last, placeAfter_append] at place
      refine absurd ?_ ends
      rw [last, List.getLast?_concat, (char_of_next _ c).2 mark place]
  | _ => rw [place] at outside; cases outside

/-- The end of a line is kept if code stands behind it. -/
theorem exists_keptFrom_eq {line : String} (closes : Closes slashes line) :
    ∃ kept, keptFrom slashes code (line.toList ++ ['\n']) = kept ++ ['\n'] := by
  rw [Closes, placeAfter_append] at closes
  have comes : next slashes (placeAfter slashes code line.toList) '\n' = code := closes
  have last : ∃ front,
      kept slashes (placeAfter slashes code line.toList) '\n' = front ++ ['\n'] := by
    unfold kept
    rw [comes]
    cases place : placeAfter slashes code line.toList with
    | block | star => rw [place] at comes; cases comes
    | _ =>
      rw [place] at comes
      exact ⟨_, by simp [comes, inside]; rfl⟩
  obtain ⟨front, last⟩ := last
  refine ⟨keptFrom slashes code line.toList ++ front, ?_⟩
  rw [keptFrom_append, keptFrom, keptFrom, List.append_nil, last, List.append_assoc]

theorem contentLines_break (cs : List Char) : contentLines (cs ++ ['\n']) = contentLines cs := by
  rw [contentLines_append]
  exact List.append_nil _

namespace Among

variable {comments all plain : List String}

theorem append {comments' all' plain' : List String} (first : Among comments all plain)
    (second : Among comments' all' plain') :
    Among (comments ++ comments') (all ++ all') (plain ++ plain') := by
  induction first with
  | nil => exact second
  | line ends _ ih => exact .line ends ih
  | comment c _ ih => exact .comment c ih

theorem of_plain {lines : List String} (ends : ∀ line ∈ lines, EndsPlain line) :
    Among [] lines lines := by
  induction lines with
  | nil => exact .nil
  | cons line rest ih =>
    have later := ih fun l member => ends l (List.mem_cons_of_mem _ member)
    exact .line (ends line List.mem_cons_self) later

theorem flatMap {α : Type} {comments all plain : α → List String} {items : List α}
    (each : ∀ a ∈ items, Among (comments a) (all a) (plain a)) :
    Among (items.flatMap comments) (items.flatMap all) (items.flatMap plain) := by
  induction items with
  | nil => exact .nil
  | cons a rest ih =>
    have later := ih fun b member => each b (List.mem_cons_of_mem _ member)
    exact (each a List.mem_cons_self).append later

/-- Without comments, lines hold what they hold without the lines of comments, and what these lines
hold beside comments. -/
theorem keptFrom_written (h : Among comments all plain) (clear : Clear slashes code (written plain))
    (closed : ∀ c ∈ comments, Closes slashes c) :
    placeAfter slashes code (written all) = code ∧
      (contentLines (written plain)).Sublist (contentLines (keptFrom slashes code (written all))) ∧
      (contentLines (keptFrom slashes code (written all))).length =
        (contentLines (written plain)).length +
          (comments.flatMap (leftOver slashes)).length := by
  induction h with
  | nil => exact ⟨rfl, List.Sublist.refl _, rfl⟩
  | @line comments all plain line ends _ ih =>
    have split : Clear slashes code (line.toList ++ ['\n'] ++ written plain) := clear
    obtain ⟨here, later⟩ := split.of_append
    have closes := closes_of_clear ends here
    rw [closes] at later
    obtain ⟨place, part, total⟩ := ih later closed
    have own : keptFrom slashes code (line.toList ++ ['\n']) = line.toList ++ ['\n'] := by
      have whole := here.keptFrom_append_held
      rw [closes] at whole
      simpa [held] using whole
    rw [written_cons, written_cons, placeAfter_append, keptFrom_append, closes, own,
      ← List.append_cons, ← List.append_cons, contentLines_append, contentLines_append]
    refine ⟨place, part.append_left _, ?_⟩
    rw [List.length_append, List.length_append, total, Nat.add_assoc]
  | @comment comments all plain comment _ ih =>
    have closes := closed comment List.mem_cons_self
    obtain ⟨place, part, total⟩ := ih clear fun c later => closed c (List.mem_cons_of_mem _ later)
    obtain ⟨front, kept⟩ := exists_keptFrom_eq closes
    have own : leftOver slashes comment = contentLines front := by
      rw [leftOver, kept, contentLines_break]
    rw [written_cons, placeAfter_append, keptFrom_append, closes, kept, ← List.append_cons,
      contentLines_append]
    refine ⟨place, part.trans (List.sublist_append_right _ _), ?_⟩
    rw [List.length_append, total, List.flatMap_cons, List.length_append, own]
    omega

theorem contentLines_uncommented_iff (h : Among comments all plain)
    (clear : Clear slashes code (written plain)) (closed : ∀ c ∈ comments, Closes slashes c) :
    contentLines (uncommented slashes (written all)) = contentLines (written plain) ↔
      ∀ c ∈ comments, leftOver slashes c = [] := by
  obtain ⟨place, part, total⟩ := h.keptFrom_written clear closed
  rw [uncommented, place, show code.held = [] from rfl, List.append_nil]
  constructor
  · intro same c member
    rw [same] at total
    have none : comments.flatMap (leftOver slashes) = [] := List.length_eq_zero_iff.mp (by omega)
    exact List.flatMap_eq_nil_iff.mp none c member
  · intro nothing
    have none : comments.flatMap (leftOver slashes) = [] := List.flatMap_eq_nil_iff.mpr nothing
    rw [none, List.length_nil] at total
    exact (part.eq_of_length total.symm).symm

end Among

def blockLine (text : String) : String := "/* " ++ text ++ " */"

def slashLine (text : String) : String := "// " ++ text

/-- Where slashes do not count, no line is a comment. -/
theorem placeAfter_ne_line (other : p ≠ line) (cs : List Char) : placeAfter false p cs ≠ line := by
  induction cs generalizing p with
  | nil => exact other
  | cons c rest ih =>
    refine ih ?_
    have code : ofCode c ≠ line := by
      rcases ofCode_cases c with same | same | same | same <;> simp [same]
    cases p with
    | code => exact code
    | slash =>
      rw [next]
      split
      · simp
      · rwa [if_neg (by simp)]
    | line => exact absurd rfl other
    | escaped mark => cases mark <;> simp [next]
    | block =>
      rw [next]
      split <;> simp
    | star | quoted =>
      rw [next]
      split
      · simp
      split <;> simp

theorem next_quoted (slashes : Bool) (mark : Char) {c : Char} (plain : c ≠ '\\') :
    next slashes (quoted mark) c = code ∨ next slashes (quoted mark) c = quoted mark := by
  rw [next, if_neg plain]
  split
  · exact .inl rfl
  · exact .inr rfl

/-- Behind the end of a block comment and of its line stands code, where slashes do not count. -/
theorem placeAfter_end (other : p ≠ line) : placeAfter false p [' ', '*', '/', '\n'] = code := by
  -- a string may end with each of the characters, and ends with the last one
  have last (mark : Char) : placeAfter false (quoted mark) ['\n'] = code := if_pos (.inr rfl)
  have slash (mark : Char) : placeAfter false (quoted mark) ['/', '\n'] = code := by
    show placeAfter false (next false (quoted mark) '/') ['\n'] = code
    rcases next_quoted false mark (c := '/') (by decide) with goes | goes <;> rw [goes]
    · rfl
    · exact last mark
  have star (mark : Char) : placeAfter false (quoted mark) ['*', '/', '\n'] = code := by
    show placeAfter false (next false (quoted mark) '*') ['/', '\n'] = code
    rcases next_quoted false mark (c := '*') (by decide) with goes | goes <;> rw [goes]
    · rfl
    · exact slash mark
  cases p with
  | line => exact absurd rfl other
  | quoted mark =>
    show placeAfter false (next false (quoted mark) ' ') ['*', '/', '\n'] = code
    rcases next_quoted false mark (c := ' ') (by decide) with goes | goes <;> rw [goes]
    · rfl
    · exact star mark
  | escaped mark =>
    cases mark with
    | none => rfl
    | some mark => exact star mark
  | _ => rfl

/-- Whatever stands in it, code stands behind the line of a block comment. -/
theorem closes_blockLine (text : String) : Closes false (blockLine text) := by
  have whole : (blockLine text).toList ++ ['\n'] =
      ['/', '*', ' '] ++ text.toList ++ [' ', '*', '/', '\n'] := by
    simp [blockLine]
  rw [Closes, whole, placeAfter_append]
  exact placeAfter_end (placeAfter_ne_line (by decide) _)

theorem block_of_not_infix (slashes : Bool) {cs : List Char} (comes : p = block ∨ p = star)
    (first : p = star → cs.head? ≠ some '/') (none : ¬ ['*', '/'] <:+: cs) :
    (placeAfter slashes p cs = block ∨ placeAfter slashes p cs = star) ∧
      keptFrom slashes p cs = [] := by
  induction cs generalizing p with
  | nil => exact ⟨comes, rfl⟩
  | cons c rest ih =>
    have goes : p.next slashes c = if c = '*' then star else block := by
      rcases comes with rfl | rfl
      · rfl
      · have other : c ≠ '/' := fun same => first rfl (congrArg some same)
        rw [next, if_neg other]
    have later : ¬ ['*', '/'] <:+: rest := fun held =>
      none (held.trans (List.suffix_cons c rest).isInfix)
    have nothing : p.kept slashes c = [] := by
      refine if_pos ?_
      rw [goes]
      split <;> rfl
    have rest := ih (p := p.next slashes c) (by rw [goes]; split <;> simp) ?_ later
    · rw [keptFrom, nothing]
      exact rest
    · intro star slash
      rw [goes] at star
      split at star
      · rename_i same
        obtain ⟨after, held⟩ : ∃ after, rest = '/' :: after := by
          cases rest with
          | nil => cases slash
          | cons d after => exact ⟨after, congrArg (· :: after) (Option.some.inj slash)⟩
        refine none ⟨[], after, ?_⟩
        rw [same, held]
        rfl
      · cases star

/-- A text that does not end a block comment leaves nothing beside it. -/
theorem leftOver_blockLine {text : String} (none : ¬ ['*', '/'] <:+: text.toList) :
    leftOver slashes (blockLine text) = [] := by
  have whole : (blockLine text).toList ++ ['\n'] =
      '/' :: '*' :: ' ' :: (text.toList ++ [' ', '*', '/', '\n']) := by
    simp [blockLine]
  obtain ⟨comes, nothing⟩ := block_of_not_infix slashes (p := block) (.inl rfl)
    (by simp) none
  have start : keptFrom slashes code ((blockLine text).toList ++ ['\n']) =
      keptFrom slashes block (text.toList ++ [' ', '*', '/', '\n']) := by
    rw [whole]
    rfl
  rw [leftOver, start, keptFrom_append, nothing]
  rcases comes with place | place <;> rw [place] <;> rfl

theorem line_of_no_lineEnd (slashes : Bool) {cs : List Char}
    (none : ∀ c ∈ cs, isLineEnd c = false) :
    placeAfter slashes line cs = line ∧ keptFrom slashes line cs = [] := by
  induction cs with
  | nil => exact ⟨rfl, rfl⟩
  | cons c rest ih =>
    have goes : next slashes line c = line := by
      rw [next, none c List.mem_cons_self]
      rfl
    have nothing : line.kept slashes c = [] := if_pos (by rw [goes]; rfl)
    rw [keptFrom, nothing, goes]
    exact ⟨(congrArg (placeAfter slashes · rest) goes).trans
      (ih fun d later => none d (List.mem_cons_of_mem _ later)).1,
      (ih fun d later => none d (List.mem_cons_of_mem _ later)).2⟩

/-- A text without line ends leaves nothing beside it, and code stands behind it. -/
theorem slashLine_of_no_lineEnd {text : String} (none : ∀ c ∈ text.toList, isLineEnd c = false) :
    (Closes true (slashLine text) ∧ leftOver true (slashLine text) = []) ∧
      Closes true ("  " ++ slashLine text) ∧ leftOver true ("  " ++ slashLine text) = [] := by
  obtain ⟨place, nothing⟩ := line_of_no_lineEnd true none
  have whole : (slashLine text).toList ++ ['\n'] =
      '/' :: '/' :: ' ' :: (text.toList ++ ['\n']) := by
    simp [slashLine]
  have closes : placeAfter true line (text.toList ++ ['\n']) = code := by
    rw [placeAfter_append, place]
    rfl
  have left : keptFrom true line (text.toList ++ ['\n']) = ['\n'] := by
    rw [keptFrom_append, nothing, place]
    rfl
  have front (blanks : String) : (blanks ++ slashLine text).toList ++ ['\n'] =
      blanks.toList ++ '/' :: '/' :: ' ' :: (text.toList ++ ['\n']) := by
    rw [String.toList_append, List.append_assoc, whole]
  unfold Closes leftOver
  rw [front, whole]
  refine ⟨⟨closes, ?_⟩, closes, ?_⟩
  · exact congrArg contentLines left
  · exact congrArg (fun kept => contentLines ([' ', ' '] ++ kept)) left

end DesignToCode.Comment
