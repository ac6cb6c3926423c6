import DesignToCode.Proofs.Markup.Component
import DesignToCode.Proofs.Text.Entity

set_option autoImplicit false

namespace DesignToCode.Markup

open DesignToCode.Text

/-- Where the reader stands, with what it has read there. -/
inductive Place where
  | text (raw : List Char)
  /-- Behind the first bracket of a tag, with the text before it. -/
  | bracket (raw : List Char)
  /-- In a closing tag, with the text before it. -/
  | closing (raw name : List Char)
  | comment (raw : List Char)
  | tag (name : List Char)
  | attribute (tag : String) (attributes : List (String × String)) (name : List Char)
  /-- Behind the sign between the name and the value of an attribute. -/
  | equals (tag : String) (attributes : List (String × String)) (name : String)
  | value (tag : String) (attributes : List (String × String)) (name : String) (raw : List Char)
  /-- Behind an attribute. -/
  | gap (tag : String) (attributes : List (String × String))

/-- An element that is still open, with its siblings so far. -/
structure Frame where
  tag : String
  attributes : List (String × String)
  comment : Option String
  before : List Node

structure State where
  /-- The open elements, the innermost first. -/
  outer : List Frame := []
  /-- What is inside the innermost so far. -/
  inside : List Node := []
  /-- The comment for the next element. -/
  comment : Option String := none
  place : Place := .text []

def isLayout (raw : List Char) : Bool := raw.all fun c => c = ' ' || c = '\n'

def unescaped (raw : List Char) : Option String := (unescape none raw).map String.ofList

/-- An empty text is no node. -/
def textNodes (s : String) : List Node := if s.isEmpty then [] else [.text s]

/-- What an element holds when it ends: its text, or elements with layout behind them. -/
def content : List Node → List Char → Option (List Node)
  | [], raw => (unescaped raw).map textNodes
  | inside, raw => if isLayout raw then some inside else none

/-- The text of a comment, within a mark and a blank on either side. -/
def commentText (raw : List Char) : Option String :=
  let text := (raw.drop 3).take (raw.length - 6)
  if raw = "-- ".toList ++ text ++ " --".toList then unescaped text else none

namespace State

def goTo (s : State) (place : Place) : State := { s with place := place }

def noting (s : State) (comment : Option String) : State := { s with comment := comment }

def add (s : State) (nodes : List Node) : State := { s with inside := s.inside ++ nodes }

/-- A tag ends. A void element is complete with it, any other is open from here on. -/
def opened (s : State) (tag : String) (attributes : List (String × String)) : State :=
  if voidTags.contains tag then
    ((s.add [.element tag attributes [] [] s.comment]).noting none).goTo (.text [])
  else
    { outer := ⟨tag, attributes, s.comment, s.inside⟩ :: s.outer }

/-- A closing tag ends, behind a text. -/
def closed (s : State) (raw name : List Char) : Option State :=
  match s.outer with
  | [] => none
  | frame :: outer =>
    if frame.tag.toList = name ∧ s.comment = none then
      (content s.inside raw).map fun children =>
        { outer := outer
          inside := frame.before ++
            [.element frame.tag frame.attributes [] children frame.comment] }
    else none

/-- Behind a tag or an attribute comes a blank or the end. -/
def stepGap (s : State) (tag : String) (attributes : List (String × String)) (c : Char) :
    Option State :=
  if c = ' ' then some (s.goTo (.attribute tag attributes []))
  else if c = '>' then some (s.opened tag attributes)
  else none

def step (s : State) (c : Char) : Option State :=
  match s.place with
  | .text raw =>
    if c = '<' then some (s.goTo (.bracket raw)) else some (s.goTo (.text (raw ++ [c])))
  | .bracket raw =>
    if c = '/' then some (s.goTo (.closing raw []))
    else if !isLayout raw then none
    else if c = '!' then some (s.goTo (.comment []))
    else some (s.goTo (.tag [c]))
  | .closing raw name =>
    if c = '>' then s.closed raw name else some (s.goTo (.closing raw (name ++ [c])))
  | .comment raw =>
    if c = '>' then
      match s.comment with
      | some _ => none
      | none => (commentText raw).map fun text => (s.noting (some text)).goTo (.text [])
    else some (s.goTo (.comment (raw ++ [c])))
  | .tag name =>
    if c = ' ' ∨ c = '>' then s.stepGap (String.ofList name) [] c
    else some (s.goTo (.tag (name ++ [c])))
  | .attribute tag attributes name =>
    if c = '=' then some (s.goTo (.equals tag attributes (String.ofList name)))
    else some (s.goTo (.attribute tag attributes (name ++ [c])))
  | .equals tag attributes name =>
    if c = '\x22' then some (s.goTo (.value tag attributes name [])) else none
  | .value tag attributes name raw =>
    if c = '\x22' then
      (unescaped raw).map fun value => s.goTo (.gap tag (attributes ++ [(name, value)]))
    else some (s.goTo (.value tag attributes name (raw ++ [c])))
  | .gap tag attributes => s.stepGap tag attributes c

def run (s : State) (cs : List Char) : Option State := cs.foldlM step s

/-- The nodes of a markup that has been read, where nothing is left open. -/
def nodes? (s : State) : Option (List Node) :=
  match s.outer, s.comment, s.place with
  | [], none, .text raw => if isLayout raw then some s.inside else none
  | _, _, _ => none

end State

/-- The nodes of a markup, if it is one. -/
def read (markup : String) : Option (List Node) :=
  (({} : State).run markup.toList).bind (·.nodes?)

/-- The characters that end a name, or make another tag of it. -/
def nameEnds : List Char := [' ', '>', '=', '/', '!']

theorem ne_of_isPlainWord {word : String} (plain : IsPlainWord word) {c d : Char}
    (member : c ∈ word.toList) (ends : d ∈ nameEnds) : c ≠ d := by
  have inside := List.all_eq_true.mp plain.2 c member
  have none : nameEnds.all (fun d => !isWordChar d) = true := by decide
  rintro rfl
  have outside := List.all_eq_true.mp none c ends
  rw [inside] at outside
  cases outside

section

variable {σ : Type} {step : σ → Char → Option σ} {s t : σ}

/-- A part that has been read is done with. -/
theorem foldlM_append_of_eq_some {first : List Char} (read : first.foldlM step s = some t)
    (rest : List Char) : (first ++ rest).foldlM step s = rest.foldlM step t := by
  rw [List.foldlM_append, read]
  rfl

/-- Characters that a state keeps, each behind what it has. -/
theorem foldlM_collect {p : List Char → σ} {cs : List Char} (raw : List Char)
    (keeps : ∀ raw, ∀ c ∈ cs, step (p raw) c = some (p (raw ++ [c]))) :
    cs.foldlM step (p raw) = some (p (raw ++ cs)) := by
  induction cs generalizing raw with
  | nil => rw [List.append_nil]; rfl
  | cons c rest ih =>
    rw [List.foldlM_cons, keeps raw c List.mem_cons_self, List.append_cons raw c rest]
    exact ih _ fun raw d later => keeps raw d (List.mem_cons_of_mem c later)

end

namespace State

variable {s t : State}

@[simp] theorem place_goTo (s : State) (place : Place) : (s.goTo place).place = place := rfl

@[simp] theorem goTo_goTo (s : State) (place next : Place) :
    (s.goTo place).goTo next = s.goTo next := rfl

@[simp] theorem comment_goTo (s : State) (place : Place) : (s.goTo place).comment = s.comment := rfl

theorem run_cons (s : State) (c : Char) (rest : List Char) :
    s.run (c :: rest) = (s.step c).bind (·.run rest) := List.foldlM_cons

theorem run_step {c : Char} (step : s.step c = some t) (rest : List Char) :
    s.run (c :: rest) = t.run rest := by
  rw [run_cons, step, Option.bind_some]

/-- A part that has been read is done with. -/
theorem run_append {first : List Char} (read : s.run first = some t) (rest : List Char) :
    s.run (first ++ rest) = t.run rest :=
  foldlM_append_of_eq_some read rest

/-- Characters that a place keeps, each behind what it has. -/
theorem run_collect {p : List Char → Place} {cs : List Char} (raw : List Char)
    (keeps : ∀ raw, ∀ c ∈ cs,
      (s.goTo (p raw)).step c = some (s.goTo (p (raw ++ [c])))) :
    (s.goTo (p raw)).run cs = some (s.goTo (p (raw ++ cs))) :=
  foldlM_collect (p := fun raw => s.goTo (p raw)) raw keeps

theorem run_text {cs : List Char} (raw : List Char) (free : ∀ c ∈ cs, c ≠ '<') :
    (s.goTo (.text raw)).run cs = some (s.goTo (.text (raw ++ cs))) :=
  run_collect raw fun _ c member => by simp [step, free c member]

theorem run_value {tag name : String} {attributes : List (String × String)} (value : String)
    (rest : List Char) :
    (s.goTo (.value tag attributes name [])).run
        ((escapeAttribute value).toList ++ '\x22' :: rest) =
      (s.goTo (.gap tag (attributes ++ [(name, value)]))).run rest := by
  have inside : (s.goTo (.value tag attributes name [])).run
      (escapeAttribute value).toList = _ :=
    run_collect (p := .value tag attributes name) [] fun _ c member => by
      simp [step, (ne_of_mem_escapeAttribute member).2.2]
  rw [run_append inside, run_cons]
  simp [step, unescaped, unescape_escapeAttribute]

theorem run_attribute {tag name : String} {attributes : List (String × String)}
    (plain : IsPlainWord name) (value : String) (rest : List Char) :
    (s.goTo (.gap tag attributes)).run
        ((" " ++ attributeText name value).toList ++ rest) =
      (s.goTo (.gap tag (attributes ++ [(name, value)]))).run rest := by
  have text : (" " ++ attributeText name value).toList ++ rest =
      ' ' :: (name.toList ++
        '=' :: '\x22' :: ((escapeAttribute value).toList ++ '\x22' :: rest)) := by
    simp [attributeText, inQuotes]
  have word : (s.goTo (.attribute tag attributes [])).run name.toList = _ :=
    run_collect (p := .attribute tag attributes) [] fun _ c member => by
      simp [step, ne_of_isPlainWord plain member (by decide : '=' ∈ nameEnds)]
  have begins : (s.goTo (.gap tag attributes)).step ' ' =
      some (s.goTo (.attribute tag attributes [])) := rfl
  have ends : (s.goTo (.attribute tag attributes ([] ++ name.toList))).step '=' =
      some (s.goTo (.equals tag attributes name)) := by
    simp [step]
  have quote : (s.goTo (.equals tag attributes name)).step '\x22' =
      some (s.goTo (.value tag attributes name [])) := rfl
  rw [text, run_step begins, run_append word, run_step ends, run_step quote, run_value]

theorem run_attributes {tag : String} {attributes more : List (String × String)}
    (plain : ∀ a ∈ more, IsPlainWord a.1) (rest : List Char) :
    (s.goTo (.gap tag attributes)).run
        ((attributeList (more.map fun a => attributeText a.1 a.2)).toList ++ rest) =
      (s.goTo (.gap tag (attributes ++ more))).run rest := by
  induction more generalizing attributes with
  | nil => simp [attributeList]
  | cons a more ih =>
    have text : (attributeList ((a :: more).map fun a => attributeText a.1 a.2)).toList ++ rest =
        (" " ++ attributeText a.1 a.2).toList ++
          ((attributeList (more.map fun a => attributeText a.1 a.2)).toList ++ rest) := by
      simp [attributeList]
    rw [text, run_attribute (plain a List.mem_cons_self),
      ih fun b later => plain b (List.mem_cons_of_mem a later), List.append_assoc]
    rfl

theorem exists_cons_attributeList (attributes : List String) :
    ∃ c rest, (attributeList attributes).toList ++ ['>'] = c :: rest ∧ (c = ' ' ∨ c = '>') := by
  cases attributes with
  | nil => exact ⟨'>', [], rfl, .inr rfl⟩
  | cons first more => exact ⟨' ', _, by simp [attributeList]; rfl, .inl rfl⟩

theorem commentText_marked (comment : String) :
    commentText ("-- ".toList ++ (escapeAttribute comment).toList ++ " --".toList) =
      some comment := by
  have inside : (("-- ".toList ++ (escapeAttribute comment).toList ++ " --".toList).drop 3).take
      (("-- ".toList ++ (escapeAttribute comment).toList ++ " --".toList).length - 6) =
        (escapeAttribute comment).toList := by
    simp
  simp only [commentText, inside, if_true, unescaped, unescape_escapeAttribute, Option.map_some,
    String.ofList_toList]

/-- Behind its name a tag goes on as behind an attribute. -/
theorem run_tag {name : List Char} {c : Char} (rest : List Char) (ends : c = ' ' ∨ c = '>') :
    (s.goTo (.tag name)).run (c :: rest) =
      (s.goTo (.gap (String.ofList name) [])).run (c :: rest) := by
  rw [run_cons, run_cons]
  simp only [step, if_pos ends]
  rfl

theorem run_openTag {tag : String} {attributes : List (String × String)} {raw : List Char}
    (layout : isLayout raw = true) (plain : IsPlainTag tag attributes) :
    (s.goTo (.text raw)).run
        (openTag tag (attributeList (attributes.map fun a => attributeText a.1 a.2))).toList =
      some (s.opened tag attributes) := by
  obtain ⟨first, name, word⟩ := List.exists_cons_of_ne_nil plain.tag.1
  have named (c : Char) (member : c ∈ tag.toList) {d : Char} (ends : d ∈ nameEnds) : c ≠ d :=
    ne_of_isPlainWord plain.tag member ends
  rw [word] at named
  have text : (openTag tag (attributeList (attributes.map fun a => attributeText a.1 a.2))).toList =
      '<' :: first :: (name ++
        ((attributeList (attributes.map fun a => attributeText a.1 a.2)).toList ++ ['>'])) := by
    simp [openTag, word]
  have begun : (s.goTo (.bracket raw)).step first =
      some (s.goTo (.tag [first])) := by
    simp [step, layout, named first List.mem_cons_self (by decide : '/' ∈ nameEnds),
      named first List.mem_cons_self (by decide : '!' ∈ nameEnds)]
  have collected : (s.goTo (.tag [first])).run name = _ :=
    run_collect (p := .tag) [first] fun _ c member => by
      simp [step, named c (List.mem_cons_of_mem first member) (by decide : ' ' ∈ nameEnds),
        named c (List.mem_cons_of_mem first member) (by decide : '>' ∈ nameEnds)]
  rw [text, run_cons]
  show (s.goTo (.bracket raw)).run _ = _
  rw [run_cons, begun, Option.bind_some, run_append collected]
  obtain ⟨c, rest, same, ends⟩ :=
    exists_cons_attributeList (attributes.map fun a => attributeText a.1 a.2)
  rw [same, run_tag rest ends, ← same, run_attributes plain.names, List.singleton_append, ← word,
    String.ofList_toList]
  rfl

theorem run_closeTag {tag : String} {raw : List Char} (plain : IsPlainWord tag) :
    (s.goTo (.text raw)).run (closeTag tag).toList = s.closed raw tag.toList := by
  have text : (closeTag tag).toList = '<' :: '/' :: (tag.toList ++ ['>']) := by simp [closeTag]
  have collected : (s.goTo (.closing raw [])).run tag.toList = _ :=
    run_collect (p := .closing raw) [] fun _ c member => by
      simp [step, ne_of_isPlainWord plain member (by decide : '>' ∈ nameEnds)]
  rw [text, run_cons]
  show (s.goTo (.bracket raw)).run _ = _
  rw [run_cons]
  show (s.goTo (.closing raw [])).run _ = _
  rw [run_append collected, run_cons, List.nil_append]
  exact Option.bind_fun_some _

theorem run_comment {raw : List Char} (layout : isLayout raw = true) (free : s.comment = none)
    (comment : String) (rest : List Char) :
    (s.goTo (.text raw)).run
        (s!"<!-- {escapeAttribute comment} -->".toList ++ rest) =
      ((s.noting (some comment)).goTo (.text [])).run rest := by
  have text : s!"<!-- {escapeAttribute comment} -->".toList ++ rest =
      '<' :: '!' :: (("-- ".toList ++ (escapeAttribute comment).toList ++ " --".toList) ++
        '>' :: rest) := by
    show ("<!-- " ++ escapeAttribute comment ++ " -->").toList ++ rest = _
    simp
  have begun : (s.goTo (.bracket raw)).step '!' =
      some (s.goTo (.comment [])) := by
    simp [step, layout]
  have collected : (s.goTo (.comment [])).run
      ("-- ".toList ++ (escapeAttribute comment).toList ++ " --".toList) = _ :=
    run_collect (p := .comment) [] fun _ c member => by
      have inside : c ≠ '>' := by
        rintro rfl
        simp only [List.mem_append] at member
        rcases member with (before | text) | behind
        · exact absurd before (by decide)
        · exact (ne_of_mem_escapeAttribute text).2.1 rfl
        · exact absurd behind (by decide)
      simp [step, inside]
  have ended : (s.goTo (.comment ("-- ".toList ++ (escapeAttribute comment).toList ++
        " --".toList))).step '>' =
      some ((s.noting (some comment)).goTo (.text [])) := by
    simp only [step, place_goTo, comment_goTo, if_true, free, commentText_marked, Option.map_some]
    rfl
  rw [text, run_cons]
  show (s.goTo (.bracket raw)).run _ = _
  rw [run_cons, begun, Option.bind_some, run_append collected, run_cons, List.nil_append, ended,
    Option.bind_some]

end State

end DesignToCode.Markup
