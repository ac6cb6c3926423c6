import DesignToCode.Proofs.Markup.ReadBack
import DesignToCode.Proofs.Markup.ScriptReader
import DesignToCode.Proofs.Style.SectionClasses

set_option autoImplicit false

namespace DesignToCode

open DesignToCode.Text

open Markup (isLayout textNodes)

open Script (Head State)

/-- The ways in which scripts write classes: quoted, or as a member of a style module. -/
inductive ClassForm where
  | quoted
  | member
  deriving DecidableEq, Repr

/-- The attribute for the classes of an element that are quoted, if it has any. -/
def quotedClassAttribute (classes : List String) : List (String × String) :=
  if classes.isEmpty then [] else [(Script.classAttribute, " ".intercalate classes)]

namespace ClassForm

def writer : ClassForm → ClassWriter
  | quoted => quotedClasses
  | member => moduleClasses

def attributes : ClassForm → List String → List (String × String)
  | quoted, classes => quotedClassAttribute classes
  | member, _ => []

def classes : ClassForm → List String → List String
  | quoted, _ => []
  | member, classes => classes

/-- The head of an element as it is written. -/
def head (form : ClassForm) (tag : String) (attributes : List (String × String))
    (classes : List String) : Head where
  tag := tag
  attributes := form.attributes classes ++ attributes.map fun a => (scriptName a.1, a.2)
  classes := form.classes classes

/-- Any classes can be quoted. Of a style module only one can be written at a time, and it has to be
a name. -/
def CanWrite : ClassForm → List String → Prop
  | quoted, _ => True
  | member, classes => ∀ name ∈ classes, classes = [name] ∧ ClassStyle.camel.IsName name

end ClassForm

def Framework.classForm : Framework → ClassForm
  | .cssModules => .member
  | _ => .quoted

theorem Framework.writer_classForm (framework : Framework) :
    framework.classForm.writer = framework.classWriter := by
  cases framework <;> rfl

namespace Node

mutual

/-- A tree as it is written in a script: texts beside each other are one, which is none if it is
empty. -/
def scripted (form : ClassForm) : Node → Node
  | .text s => .text s
  | .element tag attributes classes children comment =>
    (form.head tag attributes classes).node
      (match textsOf id children with
        | some s => textNodes s
        | none => scriptedAll form children)
      (comment.map Script.commentText)

def scriptedAll (form : ClassForm) : List Node → List Node
  | [] => []
  | node :: rest => scripted form node :: scriptedAll form rest

end

end Node

theorem isAttributeName_scriptName {name : String} (plain : IsPlainWord name) :
    State.IsAttributeName (scriptName name) := by
  unfold scriptName
  cases found : scriptNames.lookup name with
  | none =>
    refine ⟨plain.1, List.all_eq_true.mpr fun c member => ?_⟩
    simp [Script.isAttributeChar, List.all_eq_true.mp plain.2 c member]
  | some other =>
    have all : ∀ entry ∈ scriptNames,
        entry.2.toList ≠ [] ∧ entry.2.toList.all Script.isAttributeChar = true := by decide
    exact all _ (Fields.mem_of_lookup found)

namespace ClassForm

variable {tag : String} {attributes : List (String × String)} {classes : List String}

theorem forall_isAttributeName (plain : ∀ a ∈ attributes, IsPlainWord a.1) :
    ∀ a ∈ attributes.map fun a => (scriptName a.1, a.2), State.IsAttributeName a.1 := by
  rw [List.forall_mem_map]
  exact fun a member => isAttributeName_scriptName (plain a member)

theorem map_attributeText_scriptName (attributes : List (String × String)) :
    attributes.map (fun a => attributeText (scriptName a.1) a.2) =
      (attributes.map fun a => (scriptName a.1, a.2)).map fun a => attributeText a.1 a.2 := by
  rw [List.map_map]
  rfl

theorem isHead_quoted (plain : ∀ a ∈ attributes, IsPlainWord a.1) :
    State.IsHead tag (jsxAttributes quotedClasses attributes classes)
      (quoted.head tag attributes classes) := by
  have text : jsxAttributes quotedClasses attributes classes =
      attributeList ((quotedClassAttribute classes ++
        attributes.map fun a => (scriptName a.1, a.2)).map fun a => attributeText a.1 a.2) := by
    unfold jsxAttributes quotedClassAttribute
    rw [List.map_append, map_attributeText_scriptName]
    split <;> rfl
  rw [text]
  refine State.isHead_attributeList fun s rest => ?_
  refine State.run_attributes (List.forall_mem_append.mpr ⟨?_, forall_isAttributeName plain⟩) rest
  unfold quotedClassAttribute
  split
  · simp
  · rw [List.forall_mem_singleton]
    exact State.isAttributeName_classAttribute

theorem isHead_member (plain : ∀ a ∈ attributes, IsPlainWord a.1)
    (canWrite : member.CanWrite classes) :
    State.IsHead tag (jsxAttributes moduleClasses attributes classes)
      (member.head tag attributes classes) := by
  unfold jsxAttributes
  rw [map_attributeText_scriptName]
  refine State.isHead_attributeList fun s rest => ?_
  cases classes with
  | nil => exact State.run_attributes (forall_isAttributeName plain) rest
  | cons name more =>
    obtain ⟨same, isName⟩ := canWrite name List.mem_cons_self
    obtain rfl : more = [] := (List.cons.inj same).2
    have first (later : List String) :
        (attributeList (("className=" ++ moduleClass name) :: later)).toList ++ rest =
          (" " ++ ("className=" ++ moduleClass name)).toList ++
            ((attributeList later).toList ++ rest) := by
      simp [attributeList]
    refine ((congrArg _ (first _)).trans (State.run_moduleClass isName _)).trans ?_
    exact State.run_attributes (forall_isAttributeName plain) rest

theorem isHead (form : ClassForm) (plain : ∀ a ∈ attributes, IsPlainWord a.1)
    (canWrite : form.CanWrite classes) :
    State.IsHead tag (jsxAttributes form.writer attributes classes)
      (form.head tag attributes classes) := by
  cases form with
  | quoted => exact isHead_quoted plain
  | member => exact isHead_member plain canWrite

end ClassForm

theorem Script.content_of_ne_nil {inside : List Node} {raw : List Char} (given : inside ≠ [])
    (layout : isLayout raw = true) : Script.content inside raw = some inside := by
  cases inside with
  | nil => exact absurd rfl given
  | cons => exact if_pos layout

namespace Script.State

variable {s t : State} {raw : List Char}

theorem run_break (s : State) (raw rest : List Char) :
    (s.goTo (.text raw)).run ('\n' :: rest) = (s.goTo (.text (raw ++ ['\n']))).run rest :=
  run_cons ..

/-- Layout before a line changes nothing. -/
theorem run_margin (level : Int) (rest : List Char) :
    (s.goTo (.text raw)).run ((margin level).toList ++ rest) =
      (s.goTo (.text (raw ++ (margin level).toList))).run rest := by
  refine run_append (run_text raw fun c member => ?_) rest
  have blank : c = ' ' ∨ c = '\n' := by
    simpa using List.all_eq_true.mp (isLayout_margin level) c member
  rcases blank with rfl | rfl <;> decide

theorem run_start {form : ClassForm} {tag : String} {attributes : List (String × String)}
    {classes : List String} (plain : IsPlainTag tag attributes) (canWrite : form.CanWrite classes)
    (layout : isLayout raw = true) (level : Int) (rest : List Char) :
    (s.goTo (.text raw)).run
        ((margin level ++ openTag tag (jsxAttributes form.writer attributes classes)).toList ++
          rest) =
      (s.opened (form.head tag attributes classes)).run rest := by
  rw [String.toList_append, List.append_assoc, run_margin]
  exact run_append (run_openTag (isLayout_append layout (isLayout_margin level)) plain.tag
    (form.isHead plain.names canWrite)) rest

/-- The text of an element that was opened in a state. -/
theorem run_inner (s : State) (head : Head) {cs : List Char} (free : ∀ c ∈ cs, c ∉ scriptMarks) :
    (s.opened head).run cs = some ((s.opened head).goTo (.text cs)) := by
  have start : s.opened head = (s.opened head).goTo (.text []) := rfl
  conv => lhs; rw [start]
  exact run_text [] free

/-- The end of an element that was opened in a state. -/
theorem closed_eq {head : Head} {comment : Option String} {inside children : List Node}
    {place : Place} (free : s.comment = none) (held : content inside raw = some children) :
    ({ outer := ⟨head, comment, s.inside⟩ :: s.outer
       inside := inside
       place := place } : State).closed raw head.tag.toList =
      some ((s.add [head.node children comment]).goTo (.text [])) := by
  simp only [closed, held, and_self, if_true, Option.map_some]
  rw [add, goTo, free]

theorem completed_noting (head : Head) (free : s.comment = none) (comment : Option String) :
    (s.noting comment).completed head = (s.add [head.node [] comment]).goTo (.text []) := by
  obtain ⟨outer, before, _, place⟩ := s
  obtain rfl := free
  rfl

/-- The line of a comment before the lines of its element. -/
theorem run_jsxComment {comment : Option String} {level : Int} {first : String}
    {more : List String} (layout : isLayout raw = true) (free : s.comment = none)
    (kept : filled comment = comment)
    (read : ∀ raw, isLayout raw = true →
      ((s.noting (comment.map commentText)).goTo (.text raw)).run (lines (first :: more)).toList =
        some t) :
    (s.goTo (.text raw)).run
      (lines (jsxComment level comment ++ first :: more)).toList = some t := by
  rw [jsxComment, kept]
  cases comment with
  | none =>
    have same : s.noting (none : Option String) = s := by
      rw [← free]
      rfl
    exact same ▸ read raw layout
  | some text =>
    have line : margin level ++ "\x7b/* " ++ String.ofList (openEnds text.toList) ++ " */\x7d" =
        margin level ++ ("\x7b/* " ++ String.ofList (openEnds text.toList) ++ " */\x7d") := by
      simp only [String.append_assoc]
    simp only [Option.toList_some, List.map_cons, List.map_nil, List.singleton_append]
    rw [toList_lines_cons, line, String.toList_append, List.append_assoc, run_margin,
      run_comment (isLayout_append layout (isLayout_margin level)) free,
      List.flatMap_cons, List.cons_append, ← toList_lines_cons, run_break]
    exact read ['\n'] rfl

end Script.State

namespace Node

/-- From any state the reader comes to the node behind what it has, at any level. -/
def IsReadScript (form : ClassForm) (node : Node) : Prop :=
  ∀ (s : State) (raw : List Char) (level : Int), s.comment = none → isLayout raw = true →
    (s.goTo (.text raw)).run (node.jsx form.writer level).toList =
      some ((s.add [node.scripted form]).goTo (.text []))

variable {form : ClassForm} {tag : String} {attributes : List (String × String)}
  {classes : List String} {children : List Node} {comment : Option String}

theorem isReadScript_empty (plain : IsPlainTag tag attributes) (canWrite : form.CanWrite classes)
    (kept : filled comment = comment) :
    (Node.element tag attributes classes [] comment).IsReadScript form := by
  intro s raw level free layout
  have line (written : String) : margin level ++ "<" ++ tag ++ written ++ " />" =
      margin level ++ ("<" ++ tag ++ written ++ " />") := by
    simp only [String.append_assoc]
  unfold jsx
  rw [jsxLines, List.isEmpty_nil, Bool.or_true, if_pos rfl]
  refine State.run_jsxComment layout free kept fun raw layout => ?_
  rw [toList_lines_cons, List.flatMap_nil, List.append_nil, line, String.toList_append,
    State.run_margin, State.run_emptyTag (isLayout_append layout (isLayout_margin level)) plain.tag
      (form.isHead plain.names canWrite), State.completed_noting _ free]
  rfl

theorem isReadScript_texts {text : String} (content : tag ∉ voidTags)
    (plain : IsPlainTag tag attributes) (canWrite : form.CanWrite classes)
    (kept : filled comment = comment) (given : children ≠ [])
    (texts : textsOf id children = some text) :
    (Node.element tag attributes classes children comment).IsReadScript form := by
  intro s raw level free layout
  have tree : (Node.element tag attributes classes children comment).scripted form =
      (form.head tag attributes classes).node (textNodes text)
        (comment.map Script.commentText) := by
    rw [scripted, texts]
  have holds : ¬ (voidTags.contains tag || children.isEmpty) = true := by simp [content, given]
  unfold jsx
  rw [tree, jsxLines, if_neg holds, textsOf_escapeExpression, texts]
  refine State.run_jsxComment layout free kept fun raw layout => ?_
  rw [toList_lines_cons, List.flatMap_nil, List.append_nil, String.toList_append,
    String.toList_append, List.append_assoc, State.run_start plain canWrite layout level]
  have held : Script.content [] (escapeExpression text).toList = some (textNodes text) := by
    simp [Script.content, Script.unescaped, unescapeExpression_escapeExpression]
  rw [State.run_append (State.run_inner _ _ fun c => notMem_scriptMarks_of_mem_escapeExpression),
    State.run_closeTag plain.tag]
  exact State.closed_eq free held

theorem jsxLines_ne_nil (write : ClassWriter) (level : Int) (node : Node) :
    node.jsxLines write level ≠ [] := by
  cases node with
  | text => simp [jsxLines]
  | element =>
    rw [jsxLines]
    refine List.append_ne_nil_of_right_ne_nil _ ?_
    split
    · simp
    · split <;> simp

/-- The lines of a node, each behind a line break. -/
theorem flatMap_jsxLines (write : ClassWriter) (level : Int) (node : Node) :
    (node.jsxLines write level).flatMap (fun line => '\n' :: line.toList) =
      '\n' :: (node.jsx write level).toList :=
  flatMap_break (jsxLines_ne_nil write level node)

/-- Siblings are read one behind the other, each on lines of its own. -/
theorem run_jsxLinesOfAll (read : ∀ child ∈ children, child.IsReadScript form) {s : State}
    (free : s.comment = none) (level : Int) {raw : List Char} (layout : isLayout raw = true) :
    ∃ raw', isLayout raw' = true ∧
      (s.goTo (.text raw)).run
          ((jsxLinesOfAll form.writer level children).flatMap fun line => '\n' :: line.toList) =
        some ((s.add (scriptedAll form children)).goTo (.text raw')) := by
  induction children generalizing s raw with
  | nil =>
    refine ⟨raw, layout, ?_⟩
    rw [scriptedAll, State.add, List.append_nil]
    rfl
  | cons child rest ih =>
    have first := read child List.mem_cons_self s (raw ++ ['\n']) level free
      (isLayout_append layout rfl)
    have free' : (s.add [child.scripted form]).comment = none := free
    have empty : isLayout [] = true := rfl
    obtain ⟨raw', layout', later⟩ :=
      ih (fun other later => read other (List.mem_cons_of_mem child later)) free' empty
    refine ⟨raw', layout', ?_⟩
    rw [jsxLinesOfAll, List.flatMap_append, flatMap_jsxLines, List.cons_append, State.run_break,
      State.run_append first, later, scriptedAll]
    simp [State.add]

theorem isReadScript_elements (content : tag ∉ voidTags) (plain : IsPlainTag tag attributes)
    (canWrite : form.CanWrite classes) (kept : filled comment = comment)
    (mixed : textsOf id children = none) (read : ∀ child ∈ children, child.IsReadScript form) :
    (Node.element tag attributes classes children comment).IsReadScript form := by
  intro s raw level free layout
  obtain ⟨child, rest, rfl⟩ : ∃ child rest, children = child :: rest := by
    cases children with
    | nil => cases mixed
    | cons child rest => exact ⟨child, rest, rfl⟩
  have tree : (Node.element tag attributes classes (child :: rest) comment).scripted form =
      (form.head tag attributes classes).node (scriptedAll form (child :: rest))
        (comment.map Script.commentText) := by
    rw [scripted, mixed]
  have holds : ¬ (voidTags.contains tag || (child :: rest).isEmpty) = true := by simp [content]
  unfold jsx
  rw [tree, jsxLines, if_neg holds, textsOf_escapeExpression, mixed]
  refine State.run_jsxComment layout free kept fun raw layout => ?_
  rw [toList_lines_cons, State.run_start plain canWrite layout level, List.append_eq,
    List.flatMap_append, List.flatMap_singleton, String.toList_append]
  have opened : ((s.noting (comment.map Script.commentText)).opened
      (form.head tag attributes classes)).comment = none := rfl
  have empty : isLayout [] = true := rfl
  obtain ⟨raw', layout', inside⟩ := run_jsxLinesOfAll read opened (level + 1) empty
  refine (State.run_append inside _).trans ?_
  have held : Script.content (scriptedAll form (child :: rest))
      (raw' ++ ['\n'] ++ (margin level).toList) = some (scriptedAll form (child :: rest)) :=
    Script.content_of_ne_nil (List.cons_ne_nil _ _)
      (isLayout_append (isLayout_append layout' rfl) (isLayout_margin level))
  rw [State.run_break, State.run_margin, State.run_closeTag plain.tag]
  exact State.closed_eq free held

/-- The reader comes to every tree that it can read, with classes that can be written. -/
theorem IsReadable.isReadScript {node : Node} (h : node.IsReadable)
    (canWrite : ∀ e ∈ node.elements, form.CanWrite e.classes) : node.IsReadScript form := by
  induction h with
  | void void plain kept =>
    exact isReadScript_empty plain (canWrite _ List.mem_cons_self) kept
  | @texts tag attributes classes children comment text content plain kept texts =>
    have own := canWrite _ List.mem_cons_self
    cases children with
    | nil => exact isReadScript_empty plain own kept
    | cons child rest =>
      exact isReadScript_texts content plain own kept (List.cons_ne_nil _ _) texts
  | elements content plain kept given readable read =>
    have own := canWrite _ List.mem_cons_self
    obtain ⟨child, rest, rfl⟩ := List.exists_cons_of_ne_nil given
    refine isReadScript_elements content plain own kept
      ((readable child List.mem_cons_self).textsOf_eq_none rest) fun child member => ?_
    refine read child member fun e inside => canWrite e ?_
    rw [Node.elements, elementsOfAll_eq_flatMap]
    exact List.mem_cons_of_mem _ (List.mem_flatMap.mpr ⟨child, member, inside⟩)

/-- The reader gives back a tree that it can read, and nothing beside it. -/
theorem IsReadable.read_jsx {node : Node} (h : node.IsReadable)
    (canWrite : ∀ e ∈ node.elements, form.CanWrite e.classes) (level : Int) :
    Script.read (node.jsx form.writer level) = some [node.scripted form] := by
  have run : ({} : State).run (node.jsx form.writer level).toList =
      some (({} : State).add [node.scripted form]) :=
    h.isReadScript canWrite {} [] level rfl rfl
  rw [Script.read, run]
  rfl

end Node

theorem IsEntry.classes_of_mem {node e : Node} (h : IsEntry node) (member : e ∈ node.elements) :
    e.classes = [] := by
  cases h with
  | mk text content plain =>
    obtain rfl := List.mem_singleton.mp member
    rfl

/-- Only the element of the component itself has classes. -/
theorem ComponentForm.classes_of_mem {c : Component} {node e : Node} (h : ComponentForm c node)
    {classes : List String} (member : e ∈ (node.withClasses classes).elements) :
    e.classes = classes ∨ e.classes = [] := by
  have inside {tag : String} {attributes : List (String × String)} {children : List Node}
      (bare : ∀ child ∈ children, ∀ e ∈ child.elements, e.classes = [])
      (member : e ∈ ((Node.plain tag attributes children).withClasses classes).elements) :
      e.classes = classes ∨ e.classes = [] := by
    rw [Node.plain, Node.withClasses, Node.elements, Node.elementsOfAll_eq_flatMap] at member
    rcases List.mem_cons.mp member with rfl | later
    · exact .inl rfl
    · obtain ⟨child, listed, held⟩ := List.mem_flatMap.mp later
      exact .inr (bare child listed e held)
  cases h with
  | void => exact inside (by simp) member
  | text => exact inside (by simp [Node.elements]) member
  | entries _ _ entries =>
    exact inside (fun child listed e => (entries child listed).classes_of_mem) member

namespace Schema

variable {schema : Schema} {namer : Namer} {comments : Bool} {root node e : Node} {sec : Section}

theorem classes_of_mem_componentNode {id : String}
    (h : schema.componentNode namer sec id = .ok node) (member : e ∈ node.elements) :
    (∃ c, e.classes = namer.ofComponent c sec) ∨ e.classes = [] := by
  unfold componentNode at h
  split at h
  · cases h
  · rename_i c _
    split at h
    · cases h
    · rename_i drawn
      cases h
      exact ((Component.form_of_element drawn).classes_of_mem member).imp_left fun same => ⟨c, same⟩

/-- What holds of the classes that a namer gives, and of no classes, holds of all in a page. -/
theorem forall_classes_page {P : List String → Prop} (h : schema.page namer comments = .ok root)
    (none : P []) (ofRoot : P namer.root)
    (ofSection : ∀ sec ∈ schema.sections, P (namer.ofSection sec))
    (ofComponent : ∀ c sec, P (namer.ofComponent c sec)) : ∀ e ∈ root.elements, P e.classes := by
  intro e member
  obtain ⟨sections, drawn, rfl⟩ := exists_of_page h
  rw [Node.elements, Node.elementsOfAll_eq_flatMap] at member
  rcases List.mem_cons.mp member with rfl | inside
  · exact ofRoot
  obtain ⟨child, listed, inside⟩ := List.mem_flatMap.mp inside
  obtain ⟨sec, given, made⟩ := exists_mem_of_forall₂ drawn listed
  obtain ⟨components, drawn, rfl⟩ := exists_of_sectionNode made
  rw [Node.elements, Node.elementsOfAll_eq_flatMap] at inside
  rcases List.mem_cons.mp inside with rfl | inside
  · exact ofSection sec given
  obtain ⟨node, listed, inside⟩ := List.mem_flatMap.mp inside
  obtain ⟨id, -, made⟩ := exists_mem_of_forall₂ drawn listed
  rcases classes_of_mem_componentNode made inside with ⟨c, same⟩ | same
  · exact same ▸ ofComponent c sec
  · exact same ▸ none

end Schema

/-- The classes that a framework gives can be written as it writes them. -/
theorem Framework.canWrite_tree {framework : Framework} {schema : Schema} {comments : Bool}
    {root : Node} (tree : framework.tree schema comments = .ok root) :
    ∀ e ∈ root.elements, framework.classForm.CanWrite e.classes := by
  have one {name : String} (isName : ClassStyle.camel.IsName name) :
      ClassForm.member.CanWrite [name] := by
    intro other member
    obtain rfl := List.mem_singleton.mp member
    exact ⟨rfl, isName⟩
  cases framework with
  | cssModules =>
    refine Schema.forall_classes_page tree (by simp [ClassForm.CanWrite, classForm]) ?_ ?_ ?_
    · exact one (by decide : ClassStyle.camel.IsName Stylesheet.rootClass)
    · exact fun sec listed => one (Schema.isName_classIn .camel _ listed)
    · exact fun c sec name member => nomatch member
  | _ => exact fun _ _ => trivial

/-- No text of a comment ends it, and neither does it with the first character of the mark behind
it. -/
theorem Script.not_infix_commentText (comment : String) :
    ¬ "*/".toList <:+: (commentText comment).toList ++ ['*'] := by
  rintro ⟨before, after, same⟩
  have isOpen := State.isOpen_commentText comment
  rw [← same] at isOpen
  have marks : before ++ "*/".toList ++ after = before ++ '*' :: '/' :: after := by simp
  rw [marks] at isOpen
  exact (List.isChain_append_cons_cons.mp isOpen).2.1 ⟨rfl, rfl⟩

/-- For every framework, with comments and without, at every level: from the script expression of a
page the reader comes to its tree again, with the same tags, attributes, classes, texts and
comments, whatever characters they hold. Brackets belong to tags, and braces to classes and to the
marks of comments, but for those in quoted values and in the texts of comments; and no comment is
ended by its text. There is a tree wherever the components of sections are there, unless one of them
is a heading of infinite level or has to show a value that cannot be shown. -/
theorem Framework.read_jsx_tree {schema : Schema}
    (resolved : ∀ sec ∈ schema.sections, ∀ id ∈ sec.components, id ∈ schema.componentIds)
    (framework : Framework) (comments : Bool) :
    (∀ root, framework.tree schema comments = .ok root → ∀ level,
      Script.read (root.jsx framework.classWriter level) =
          some [root.scripted framework.classForm] ∧
        Script.MarksWithin [.tag, .value, .comment] [.member, .mark, .value, .comment]
          (root.jsx framework.classWriter level)) ∧
    (∀ comment, ¬ "*/".toList <:+: (Script.commentText comment).toList ++ ['*']) ∧
    ((∃ root, framework.tree schema comments = .ok root) ↔
      ¬ ∃ sec ∈ schema.sections, ∃ id ∈ sec.components, ∃ c,
        schema.lastComponent? id = some c ∧ c.IsUndrawable) := by
  refine ⟨?_, Script.not_infix_commentText, Schema.exists_page_iff_of_resolved resolved⟩
  intro root tree level
  have read := (Schema.isReadable_page tree).read_jsx (canWrite_tree tree) level
  rw [framework.writer_classForm] at read
  exact ⟨read, Script.marksWithin_of_read read⟩

/-- A page whose texts would be tags, classes and comments if they were not escaped. -/
def scriptedPage : Schema where
  sections := [{
    id := "\"\x7bx\x7d", name := "**/\x7b<b>", type := "hero", components := ["a&b"] }]
  components := [
    { id := "a&b", name := "Words", type := "text",
      attributes := [("text", .str "\x7balert(1)\x7d</p>&#123;")] }]

theorem scriptedPage_read :
    ∃ root, Framework.cssModules.tree scriptedPage true = .ok root ∧
      Script.read (root.jsx moduleClasses 2) = some [root.scripted .member] ∧
      Script.MarksWithin [.tag, .value, .comment] [.member, .mark, .value, .comment]
        (root.jsx moduleClasses 2) ∧
      root.sectionIds = ["\"\x7bx\x7d"] := by
  have resolved : ∀ sec ∈ scriptedPage.sections, ∀ id ∈ sec.components,
      id ∈ scriptedPage.componentIds := by decide
  obtain ⟨read, -, -⟩ := Framework.read_jsx_tree resolved .cssModules true
  obtain ⟨same, marks⟩ := read _ rfl 2
  exact ⟨_, rfl, same, marks, by decide⟩

/-- A page with a section whose name has brackets. -/
def bracketPage : Schema where
  sections := [{ id := "top", name := "<b>", type := "hero" }]

def bracketRoot : Node :=
  .element "div" [("data-schema-version", "1.0.0")] ["page"] [
    .element "section" [(Node.sectionAttribute, "top")] ["top"] [] (some "Section: <b> (block)")]
    none

/-- The text of a comment keeps the brackets of a name, which are in no tag and in no value. -/
theorem bracketPage_comment :
    (∀ sec ∈ bracketPage.sections, ∀ id ∈ sec.components, id ∈ bracketPage.componentIds) ∧
      ∃ root, Framework.css.tree bracketPage true = .ok root ∧
        ¬ Script.MarksWithin [.tag, .value] [.member, .mark, .value]
          (root.jsx Framework.css.classWriter 0) := by
  have tree : Framework.css.tree bracketPage true = .ok bracketRoot := by rfl
  refine ⟨by decide, bracketRoot, tree, fun within => ?_⟩
  have text : bracketRoot.jsx Framework.css.classWriter 0 =
      "<div className=\"page\" data-schema-version=\"1.0.0\">\n  \x7b/* Section: " ++ "<" ++
        "b> (block) */\x7d\n  <section className=\"top\" data-section-id=\"top\" />\n</div>" := by
    rfl
  obtain ⟨s, computed, comment⟩ : ∃ s : State, ({} : State).run
      "<div className=\"page\" data-schema-version=\"1.0.0\">\n  \x7b/* Section: ".toList =
        some s ∧ s.part '<' = .comment := ⟨_, rfl, rfl⟩
  rw [Script.MarksWithin, text, String.toList_append, String.toList_append,
    List.append_assoc] at within
  obtain ⟨t, read, brackets, -⟩ := within _ '<' _ rfl
  obtain rfl := Option.some.inj (computed.symm.trans read)
  have held := brackets (.inl rfl)
  rw [comment] at held
  exact absurd held (by decide)

end DesignToCode
