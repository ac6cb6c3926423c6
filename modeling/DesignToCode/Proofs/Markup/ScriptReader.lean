import Mathlib.Data.List.Chain
import DesignToCode.Proofs.Markup.Reader
import DesignToCode.Proofs.Style.ClassName
import DesignToCode.Proofs.Text.Expression

set_option autoImplicit false

namespace DesignToCode.Script

open DesignToCode.Text

open Markup (isLayout textNodes)

/-- What stands between the brackets of a tag. -/
structure Head where
  tag : String
  attributes : List (String × String) := []
  classes : List String := []

namespace Head

def withAttributes (h : Head) (more : List (String × String)) : Head :=
  { h with attributes := h.attributes ++ more }

def withClasses (h : Head) (more : List String) : Head := { h with classes := h.classes ++ more }

def node (h : Head) (children : List Node) (comment : Option String) : Node :=
  .element h.tag h.attributes h.classes children comment

end Head

/-- Where the reader stands, with what it has read there. -/
inductive Place where
  | text (raw : List Char)
  /-- Behind the first bracket of a tag, with the text before it. -/
  | bracket (raw : List Char)
  /-- In a closing tag, with the text before it. -/
  | closing (raw name : List Char)
  /-- Behind a brace among elements. -/
  | brace
  /-- Behind a brace and a slash. -/
  | slash
  | comment (raw : List Char)
  /-- Behind the mark that ends a comment. -/
  | ended (raw : List Char)
  | tag (name : List Char)
  | attribute (head : Head) (name : List Char)
  /-- Behind the sign between the name and the value of an attribute. -/
  | equals (head : Head) (name : String)
  | value (head : Head) (name : String) (raw : List Char)
  /-- Behind the brace of a class. -/
  | member (head : Head) (raw : List Char)
  /-- Behind an attribute. -/
  | gap (head : Head)
  /-- Behind the slash of a tag that closes itself. -/
  | complete (head : Head)

/-- An element that is still open, with its siblings so far. -/
structure Frame where
  head : Head
  comment : Option String
  before : List Node

structure State where
  /-- The open elements, the innermost first. -/
  outer : List Frame := []
  /-- What is inside the innermost so far. -/
  inside : List Node := []
  /-- The comment for the next element. -/
  comment : Option String := none
  place : Place := .text []

def unescaped (raw : List Char) : Option String :=
  (unescapeExpression none raw).map String.ofList

/-- What an element holds when it ends: its text, or elements with layout behind them. -/
def content : List Node → List Char → Option (List Node)
  | [], raw => (unescaped raw).map textNodes
  | inside, raw => if isLayout raw then some inside else none

/-- Letters, digits and dashes. -/
def isAttributeChar (c : Char) : Bool := isWordChar c || c.isUpper

def isMemberChar (c : Char) : Bool := isAsciiAlphanumeric c || c = '.'

def moduleName : List Char := "styles.".toList

/-- The class that a member of a style module names. -/
def memberClass (raw : List Char) : Option String :=
  let name := String.ofList (raw.drop moduleName.length)
  if raw = moduleName ++ name.toList ∧ ClassStyle.camel.IsName name then some name else none

/-- The attribute for classes. -/
def classAttribute : String := "className"

/-- The text of a comment as it is written, with the blanks beside it. -/
def commentText (comment : String) : String :=
  " " ++ String.ofList (openEnds comment.toList) ++ " "

namespace State

def goTo (s : State) (place : Place) : State := { s with place := place }

def noting (s : State) (comment : Option String) : State := { s with comment := comment }

def add (s : State) (nodes : List Node) : State := { s with inside := s.inside ++ nodes }

/-- An element is open from here on. -/
def opened (s : State) (head : Head) : State :=
  { outer := ⟨head, s.comment, s.inside⟩ :: s.outer }

/-- An element without content is complete. -/
def completed (s : State) (head : Head) : State :=
  ((s.add [head.node [] s.comment]).noting none).goTo (.text [])

/-- A closing tag ends, behind a text. -/
def closed (s : State) (raw name : List Char) : Option State :=
  match s.outer with
  | [] => none
  | frame :: outer =>
    if frame.head.tag.toList = name ∧ s.comment = none then
      (content s.inside raw).map fun children =>
        { outer := outer, inside := frame.before ++ [frame.head.node children frame.comment] }
    else none

/-- Behind a tag or an attribute comes a blank or the end. -/
def stepGap (s : State) (head : Head) (c : Char) : Option State :=
  if c = ' ' then some (s.goTo (.attribute head []))
  else if c = '>' then some (s.opened head)
  else none

def step (s : State) (c : Char) : Option State :=
  match s.place with
  | .text raw =>
    if c = '<' then some (s.goTo (.bracket raw))
    else if c = '\x7b' then
      if isLayout raw ∧ s.comment = none then some (s.goTo .brace) else none
    else if c = '>' ∨ c = '\x7d' then none
    else some (s.goTo (.text (raw ++ [c])))
  | .bracket raw =>
    if c = '/' then some (s.goTo (.closing raw []))
    else if isLayout raw ∧ isWordChar c then some (s.goTo (.tag [c]))
    else none
  | .closing raw name =>
    if c = '>' then s.closed raw name
    else if isWordChar c then some (s.goTo (.closing raw (name ++ [c])))
    else none
  | .brace => if c = '/' then some (s.goTo .slash) else none
  | .slash => if c = '*' then some (s.goTo (.comment [])) else none
  | .comment raw =>
    if c = '/' ∧ raw.getLast? = some '*' then some (s.goTo (.ended raw.dropLast))
    else some (s.goTo (.comment (raw ++ [c])))
  | .ended raw =>
    if c = '\x7d' then some ((s.noting (some (String.ofList raw))).goTo (.text [])) else none
  | .tag name =>
    if isWordChar c then some (s.goTo (.tag (name ++ [c])))
    else s.stepGap ⟨String.ofList name, [], []⟩ c
  | .attribute head name =>
    if isAttributeChar c then some (s.goTo (.attribute head (name ++ [c])))
    else if c = '=' ∧ name ≠ [] then some (s.goTo (.equals head (String.ofList name)))
    else if c = '/' ∧ name = [] then some (s.goTo (.complete head))
    else none
  | .equals head name =>
    if c = '\x22' then some (s.goTo (.value head name []))
    else if c = '\x7b' ∧ name = classAttribute then some (s.goTo (.member head []))
    else none
  | .value head name raw =>
    if c = '\x22' then
      (unescaped raw).map fun value => s.goTo (.gap (head.withAttributes [(name, value)]))
    else some (s.goTo (.value head name (raw ++ [c])))
  | .member head raw =>
    if c = '\x7d' then (memberClass raw).map fun name => s.goTo (.gap (head.withClasses [name]))
    else if isMemberChar c then some (s.goTo (.member head (raw ++ [c])))
    else none
  | .gap head => s.stepGap head c
  | .complete head => if c = '>' then some (s.completed head) else none

def run (s : State) (cs : List Char) : Option State := cs.foldlM step s

/-- The nodes of a markup that has been read, where nothing is left open. -/
def nodes? (s : State) : Option (List Node) :=
  match s.outer, s.comment, s.place with
  | [], none, .text raw => if isLayout raw then some s.inside else none
  | _, _, _ => none

end State

/-- The nodes of a markup, if it is one. -/
def read (markup : String) : Option (List Node) :=
  (({} : State).run markup.toList).bind (·.nodes?)

/-- What a character belongs to. The braces of a class belong to the class, and those of a comment
to its marks. -/
inductive Part where
  | text
  | tag
  | value
  | member
  | mark
  | comment
  deriving DecidableEq, Repr

/-- The part that a character belongs to, where it is read next. -/
def State.part (s : State) (c : Char) : Part :=
  match s.place with
  | .text _ => if c = '<' then .tag else if c = '\x7b' then .mark else .text
  | .brace | .slash | .ended _ => .mark
  | .comment _ => .comment
  | .equals .. => if c = '\x7b' then .member else .tag
  | .value .. => if c = '\x22' then .tag else .value
  | .member .. => .member
  | .bracket _ | .closing .. | .tag _ | .attribute .. | .gap _ | .complete _ => .tag

/-- Every character of a markup can be read, and brackets and braces belong to some parts only. -/
def MarksWithin (brackets braces : List Part) (markup : String) : Prop :=
  ∀ before c after, markup.toList = before ++ c :: after →
    ∃ s, ({} : State).run before = some s ∧ (c = '<' ∨ c = '>' → s.part c ∈ brackets) ∧
      (c = '\x7b' ∨ c = '\x7d' → s.part c ∈ braces)

namespace State

variable {s t : State}

theorem noNameChar_of_mem_scriptMarks {c : Char} (h : c ∈ scriptMarks) :
    isWordChar c = false ∧ isAttributeChar c = false ∧ isMemberChar c = false := by
  simp only [scriptMarks, List.mem_cons, List.not_mem_nil, or_false] at h
  rcases h with rfl | rfl | rfl | rfl <;> decide

/-- No bracket and no brace is let pass in another part. -/
theorem part_of_step {c : Char} (h : s.step c = some t) :
    (c = '<' ∨ c = '>' → s.part c ∈ [.tag, .value, .comment]) ∧
      (c = '\x7b' ∨ c = '\x7d' → s.part c ∈ [.member, .mark, .value, .comment]) := by
  constructor
  all_goals
    intro mark
    have marked : c ∈ scriptMarks := by rcases mark with rfl | rfl <;> decide
    obtain ⟨noWord, noAttribute, noMember⟩ := noNameChar_of_mem_scriptMarks marked
    unfold step at h
    unfold part
    cases place : s.place
    all_goals
      rw [place] at h
      rcases mark with rfl | rfl <;> simp_all [stepGap]

theorem run_cons (s : State) (c : Char) (rest : List Char) :
    s.run (c :: rest) = (s.step c).bind (·.run rest) := List.foldlM_cons

theorem run_step {c : Char} (step : s.step c = some t) (rest : List Char) :
    s.run (c :: rest) = t.run rest := by
  rw [run_cons, step, Option.bind_some]

/-- A part that has been read is done with. -/
theorem run_append {first : List Char} (read : s.run first = some t) (rest : List Char) :
    s.run (first ++ rest) = t.run rest :=
  Markup.foldlM_append_of_eq_some read rest

theorem exists_of_run_append {before after : List Char} (h : s.run (before ++ after) = some t) :
    ∃ between, s.run before = some between ∧ between.run after = some t := by
  unfold run at h
  rw [List.foldlM_append] at h
  exact Option.bind_eq_some_iff.mp h

end State

/-- In whatever can be read, brackets belong to tags and braces to classes and to the marks of
comments, but for those in quoted values and in the texts of comments. -/
theorem marksWithin_of_read {markup : String} {nodes : List Node} (h : read markup = some nodes) :
    MarksWithin [.tag, .value, .comment] [.member, .mark, .value, .comment] markup := by
  intro before c after split
  obtain ⟨final, read, -⟩ := Option.bind_eq_some_iff.mp h
  rw [split] at read
  obtain ⟨s, first, later⟩ := State.exists_of_run_append read
  rw [State.run_cons] at later
  obtain ⟨next, step, -⟩ := Option.bind_eq_some_iff.mp later
  exact ⟨s, first, State.part_of_step step⟩

namespace State

variable {s t : State}

@[simp] theorem place_goTo (s : State) (place : Place) : (s.goTo place).place = place := rfl

@[simp] theorem goTo_goTo (s : State) (place next : Place) :
    (s.goTo place).goTo next = s.goTo next := rfl

@[simp] theorem comment_goTo (s : State) (place : Place) : (s.goTo place).comment = s.comment := rfl

/-- Characters that a place keeps, each behind what it has. -/
theorem run_collect {p : List Char → Place} {cs : List Char} (raw : List Char)
    (keeps : ∀ raw, ∀ c ∈ cs,
      (s.goTo (p raw)).step c = some (s.goTo (p (raw ++ [c])))) :
    (s.goTo (p raw)).run cs = some (s.goTo (p (raw ++ cs))) :=
  Markup.foldlM_collect (p := fun raw => s.goTo (p raw)) raw keeps

theorem run_text {cs : List Char} (raw : List Char) (free : ∀ c ∈ cs, c ∉ scriptMarks) :
    (s.goTo (.text raw)).run cs = some (s.goTo (.text (raw ++ cs))) :=
  run_collect raw fun raw c member => by
    have plain := free c member
    simp only [scriptMarks, List.mem_cons, List.not_mem_nil, or_false, not_or] at plain
    simp [step, plain]

/-- Behind the name of an attribute, its value in quotes. -/
theorem run_value {head : Head} {name : String} (value : String) (rest : List Char) :
    (s.goTo (.value head name [])).run ((escapeAttribute value).toList ++ '\x22' :: rest) =
      (s.goTo (.gap (head.withAttributes [(name, value)]))).run rest := by
  have inside : (s.goTo (.value head name [])).run (escapeAttribute value).toList = _ :=
    run_collect (p := .value head name) [] fun _ c member => by
      simp [step, (ne_of_mem_escapeAttribute member).2.2]
  rw [run_append inside, run_cons]
  simp [step, unescaped, unescapeExpression_escapeAttribute]

/-- A name that an attribute may have in a script. -/
def IsAttributeName (name : String) : Prop :=
  name.toList ≠ [] ∧ name.toList.all isAttributeChar = true

theorem isAttributeName_classAttribute : IsAttributeName classAttribute :=
  ⟨by decide, by decide⟩

/-- Behind a blank, the name of an attribute and the sign for its value. -/
theorem run_name {head : Head} {name : String} (plain : IsAttributeName name) (rest : List Char) :
    (s.goTo (.gap head)).run (' ' :: (name.toList ++ '=' :: rest)) =
      (s.goTo (.equals head name)).run rest := by
  have word : (s.goTo (.attribute head [])).run name.toList = _ :=
    run_collect (p := .attribute head) [] fun _ c member => by
      simp [step, List.all_eq_true.mp plain.2 c member]
  have noName : isAttributeChar '=' = false := by decide
  have ends : (s.goTo (.attribute head ([] ++ name.toList))).step '=' =
      some (s.goTo (.equals head name)) := by
    simp [step, noName, plain.1]
  have begins : (s.goTo (.gap head)).step ' ' = some (s.goTo (.attribute head [])) := rfl
  rw [run_step begins, run_append word, run_step ends]

theorem run_attribute {head : Head} {name : String} (plain : IsAttributeName name) (value : String)
    (rest : List Char) :
    (s.goTo (.gap head)).run ((" " ++ attributeText name value).toList ++ rest) =
      (s.goTo (.gap (head.withAttributes [(name, value)]))).run rest := by
  have text : (" " ++ attributeText name value).toList ++ rest =
      ' ' :: (name.toList ++
        '=' :: '\x22' :: ((escapeAttribute value).toList ++ '\x22' :: rest)) := by
    simp [attributeText, inQuotes]
  have quote : (s.goTo (.equals head name)).step '\x22' = some (s.goTo (.value head name [])) := rfl
  rw [text, run_name plain, run_step quote, run_value]

theorem run_attributes {head : Head} {more : List (String × String)}
    (plain : ∀ a ∈ more, IsAttributeName a.1) (rest : List Char) :
    (s.goTo (.gap head)).run
        ((attributeList (more.map fun a => attributeText a.1 a.2)).toList ++ rest) =
      (s.goTo (.gap (head.withAttributes more))).run rest := by
  induction more generalizing head with
  | nil => simp [attributeList, Head.withAttributes]
  | cons a more ih =>
    have text : (attributeList ((a :: more).map fun a => attributeText a.1 a.2)).toList ++ rest =
        (" " ++ attributeText a.1 a.2).toList ++
          ((attributeList (more.map fun a => attributeText a.1 a.2)).toList ++ rest) := by
      simp [attributeList]
    rw [text, run_attribute (plain a List.mem_cons_self),
      ih fun b later => plain b (List.mem_cons_of_mem a later)]
    simp [Head.withAttributes]

theorem isMemberChar_of_isName {name : String} (isName : ClassStyle.camel.IsName name) :
    ∀ c ∈ name.toList, isMemberChar c = true := by
  obtain ⟨first, rest, same, letter, later⟩ := isName
  rw [same, List.forall_mem_cons]
  have start : isAsciiLetter first = true := letter
  refine ⟨by simp [isMemberChar, isAsciiAlphanumeric, start], fun c member => ?_⟩
  have inside : isAsciiAlphanumeric c = true := later c member
  simp [isMemberChar, inside]

theorem memberClass_moduleName {name : String} (isName : ClassStyle.camel.IsName name) :
    memberClass (moduleName ++ name.toList) = some name := by
  simp [memberClass, isName]

/-- A class that is written as a member of its style module. -/
theorem run_moduleClass {head : Head} {name : String} (isName : ClassStyle.camel.IsName name)
    (rest : List Char) :
    (s.goTo (.gap head)).run ((" " ++ ("className=" ++ moduleClass name)).toList ++ rest) =
      (s.goTo (.gap (head.withClasses [name]))).run rest := by
  have text : (" " ++ ("className=" ++ moduleClass name)).toList ++ rest =
      ' ' :: (classAttribute.toList ++
        '=' :: '\x7b' :: ((moduleName ++ name.toList) ++ '\x7d' :: rest)) := by
    simp only [moduleClass, String.toList_append, List.append_assoc]
    rfl
  have letters : moduleName.all isMemberChar = true := by decide
  have closing : isMemberChar '\x7d' = false := by decide
  have collected : (s.goTo (.member head [])).run (moduleName ++ name.toList) = _ :=
    run_collect (p := .member head) [] fun _ c member => by
      have inside : isMemberChar c = true := by
        rcases List.mem_append.mp member with before | behind
        · exact List.all_eq_true.mp letters c before
        · exact isMemberChar_of_isName isName c behind
      have other : c ≠ '\x7d' := by
        rintro rfl
        rw [closing] at inside
        cases inside
      simp [step, inside, other]
  have opening : (s.goTo (.equals head classAttribute)).step '\x7b' =
      some (s.goTo (.member head [])) := rfl
  have ends : (s.goTo (.member head ([] ++ (moduleName ++ name.toList)))).step '\x7d' =
      some (s.goTo (.gap (head.withClasses [name]))) := by
    simp [step, memberClass_moduleName isName]
  rw [text, run_name isAttributeName_classAttribute, run_step opening, run_append collected,
    run_step ends]

/-- Behind the name of a tag, what is written is read as a head. -/
def IsHead (tag written : String) (head : Head) : Prop :=
  ∀ (s : State) (c : Char) (rest : List Char), c = ' ' ∨ c = '>' →
    (s.goTo (.tag tag.toList)).run (written.toList ++ c :: rest) =
      (s.goTo (.gap head)).run (c :: rest)

/-- Behind its name a tag goes on as behind an attribute. -/
theorem run_tag {name : List Char} {c : Char} (rest : List Char) (ends : c = ' ' ∨ c = '>') :
    (s.goTo (.tag name)).run (c :: rest) =
      (s.goTo (.gap ⟨String.ofList name, [], []⟩)).run (c :: rest) := by
  have noWord : isWordChar c = false := by rcases ends with rfl | rfl <;> decide
  rw [run_cons, run_cons]
  simp only [step, place_goTo, noWord, Bool.false_eq_true, if_false]
  rfl

theorem isHead_attributeList {tag : String} {attributes : List String} {head : Head}
    (read : ∀ (s : State) (rest : List Char),
      (s.goTo (.gap ⟨tag, [], []⟩)).run ((attributeList attributes).toList ++ rest) =
        (s.goTo (.gap head)).run rest) :
    IsHead tag (attributeList attributes) head := by
  intro s c rest ends
  have begins : ∃ d more, (attributeList attributes).toList ++ c :: rest = d :: more ∧
      (d = ' ' ∨ d = '>') := by
    cases attributes with
    | nil => exact ⟨c, rest, rfl, ends⟩
    | cons first more => exact ⟨' ', _, by simp [attributeList]; rfl, .inl rfl⟩
  obtain ⟨d, more, same, starts⟩ := begins
  rw [same, run_tag more starts, ← same, String.ofList_toList, read]

/-- The bracket of a tag and its name. -/
theorem run_bracket {tag : String} {raw : List Char} (layout : isLayout raw = true)
    (plain : IsPlainWord tag) (rest : List Char) :
    (s.goTo (.text raw)).run ('<' :: (tag.toList ++ rest)) =
      (s.goTo (.tag tag.toList)).run rest := by
  obtain ⟨first, name, word⟩ := List.exists_cons_of_ne_nil plain.1
  have letters := List.all_eq_true.mp plain.2
  rw [word, List.forall_mem_cons] at letters
  have noSlash : first ≠ '/' := by
    rintro rfl
    exact absurd letters.1 (by decide)
  have begun : (s.goTo (.bracket raw)).step first = some (s.goTo (.tag [first])) := by
    simp [step, layout, letters.1, noSlash]
  have collected : (s.goTo (.tag [first])).run name = _ :=
    run_collect (p := .tag) [first] fun _ c member => by simp [step, letters.2 c member]
  have bracket : (s.goTo (.text raw)).step '<' = some (s.goTo (.bracket raw)) := rfl
  rw [word, run_step bracket, List.cons_append, run_step begun, run_append collected,
    List.singleton_append]

theorem run_openTag {tag written : String} {head : Head} {raw : List Char}
    (layout : isLayout raw = true) (plain : IsPlainWord tag) (isHead : IsHead tag written head) :
    (s.goTo (.text raw)).run (openTag tag written).toList = some (s.opened head) := by
  have text : (openTag tag written).toList =
      '<' :: (tag.toList ++ (written.toList ++ '>' :: [])) := by
    simp [openTag]
  rw [text, run_bracket layout plain, isHead s '>' [] (.inr rfl)]
  rfl

theorem run_emptyTag {tag written : String} {head : Head} {raw : List Char}
    (layout : isLayout raw = true) (plain : IsPlainWord tag) (isHead : IsHead tag written head) :
    (s.goTo (.text raw)).run ("<" ++ tag ++ written ++ " />").toList = some (s.completed head) := by
  have text : ("<" ++ tag ++ written ++ " />").toList =
      '<' :: (tag.toList ++ (written.toList ++ ' ' :: ['/', '>'])) := by
    simp
  rw [text, run_bracket layout plain, isHead s ' ' _ (.inl rfl)]
  rfl

theorem run_closeTag {tag : String} {raw : List Char} (plain : IsPlainWord tag) :
    (s.goTo (.text raw)).run (closeTag tag).toList = s.closed raw tag.toList := by
  have text : (closeTag tag).toList = '<' :: '/' :: (tag.toList ++ ['>']) := by simp [closeTag]
  have collected : (s.goTo (.closing raw [])).run tag.toList = _ :=
    run_collect (p := .closing raw) [] fun _ c member => by
      have inside := List.all_eq_true.mp plain.2 c member
      have other : c ≠ '>' := by
        rintro rfl
        exact absurd inside (by decide)
      simp [step, inside, other]
  have bracket : (s.goTo (.text raw)).step '<' = some (s.goTo (.bracket raw)) := rfl
  have slash : (s.goTo (.bracket raw)).step '/' = some (s.goTo (.closing raw [])) := rfl
  rw [text, run_step bracket, run_step slash, run_append collected, run_cons, List.nil_append]
  exact Option.bind_fun_some _

/-- No character of a text and the one behind it end a comment. -/
def IsOpen (cs : List Char) : Prop := cs.IsChain fun c d => ¬ (c = '*' ∧ d = '/')

theorem head?_openEnds (cs : List Char) : (openEnds cs).head? = cs.head? := by
  unfold openEnds
  split <;> rfl

theorem isOpen_openEnds (cs : List Char) : IsOpen (openEnds cs) := by
  induction cs using openEnds.induct with
  | case1 => exact .nil
  | case2 rest ih =>
    have more : IsOpen ('/' :: openEnds rest) := .cons ih (by simp)
    rw [openEnds]
    exact .cons_cons (by decide) (.cons_cons (by decide) more)
  | case3 c rest other ih =>
    rw [openEnds]
    · refine .cons ih fun d next => ?_
      rw [head?_openEnds] at next
      rintro ⟨rfl, rfl⟩
      obtain ⟨more, rfl⟩ := List.head?_eq_some_iff.mp next
      exact other more rfl rfl
    · exact other

/-- A comment goes on as long as nothing in it ends one. -/
theorem run_open {cs : List Char} {raw : List Char} (isOpen : IsOpen (raw ++ cs)) :
    (s.goTo (.comment raw)).run cs = some (s.goTo (.comment (raw ++ cs))) := by
  induction cs generalizing raw with
  | nil => rw [List.append_nil]; rfl
  | cons c rest ih =>
    have goesOn : ¬ (c = '/' ∧ raw.getLast? = some '*') := by
      rintro ⟨rfl, last⟩
      exact (List.isChain_append.mp isOpen).2.2 _ last _ rfl ⟨rfl, rfl⟩
    have kept : (s.goTo (.comment raw)).step c = some (s.goTo (.comment (raw ++ [c]))) := by
      simp only [step, place_goTo, if_neg goesOn, goTo_goTo]
    rw [List.append_cons] at isOpen
    rw [run_step kept, ih isOpen, ← List.append_cons]

theorem isOpen_commentText (comment : String) : IsOpen ((commentText comment).toList ++ ['*']) := by
  have text : (commentText comment).toList ++ ['*'] =
      ' ' :: (openEnds comment.toList ++ [' ', '*']) := by
    simp [commentText]
  have last : IsOpen (openEnds comment.toList ++ [' ', '*']) := by
    refine List.isChain_append.mpr ⟨isOpen_openEnds _, by simp, ?_⟩
    rintro c - d next ⟨-, rfl⟩
    cases next
  rw [text]
  exact List.isChain_cons.mpr ⟨by simp, last⟩

theorem run_comment {raw : List Char} (layout : isLayout raw = true) (free : s.comment = none)
    (comment : String) (rest : List Char) :
    (s.goTo (.text raw)).run
        (("\x7b/* " ++ String.ofList (openEnds comment.toList) ++ " */\x7d").toList ++ rest) =
      ((s.noting (some (commentText comment))).goTo (.text [])).run rest := by
  have text : ("\x7b/* " ++ String.ofList (openEnds comment.toList) ++ " */\x7d").toList ++ rest =
      '\x7b' :: '/' :: '*' ::
        (((commentText comment).toList ++ ['*']) ++ '/' :: '\x7d' :: rest) := by
    simp only [commentText, String.toList_append, String.toList_ofList, List.append_assoc]
    rfl
  have brace : (s.goTo (.text raw)).step '\x7b' = some (s.goTo .brace) := by
    simp [step, layout, free]
  have slash : (s.goTo .brace).step '/' = some (s.goTo .slash) := rfl
  have star : (s.goTo .slash).step '*' = some (s.goTo (.comment [])) := rfl
  have isOpen : IsOpen ([] ++ ((commentText comment).toList ++ ['*'])) := by
    rw [List.nil_append]
    exact isOpen_commentText comment
  have inside : (s.goTo (.comment [])).run ((commentText comment).toList ++ ['*']) = _ :=
    run_open isOpen
  have ends : (s.goTo (.comment ([] ++ ((commentText comment).toList ++ ['*'])))).step '/' =
      some (s.goTo (.ended (commentText comment).toList)) := by
    simp [step]
  have closing : (s.goTo (.ended (commentText comment).toList)).step '\x7d' =
      some ((s.noting (some (commentText comment))).goTo (.text [])) := by
    simp only [step, place_goTo, if_true, String.ofList_toList]
    rfl
  rw [text, run_step brace, run_step slash, run_step star, run_append inside, run_step ends,
    run_step closing]

end State

end DesignToCode.Script
