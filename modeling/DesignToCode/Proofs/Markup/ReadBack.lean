import DesignToCode.Framework.Lowering
import DesignToCode.Proofs.Json.Fields
import DesignToCode.Proofs.Markup.Carriers
import DesignToCode.Proofs.Markup.Reader
import DesignToCode.Proofs.Text.Lines

set_option autoImplicit false

namespace DesignToCode

open DesignToCode.Text Markup

/-- The attribute for the classes of an element, if it has any. -/
def classAttribute (classes : List String) : List (String × String) :=
  if classes.isEmpty then [] else [("class", " ".intercalate classes)]

namespace Node

mutual

/-- A tree as it is written: its classes as an attribute, and texts beside each other as one, which
is none if it is empty. -/
def written : Node → Node
  | .text s => .text s
  | .element tag attributes classes children comment =>
    .element tag (classAttribute classes ++ attributes) []
      (match textsOf id children with
        | some s => textNodes s
        | none => writtenAll children)
      comment

def writtenAll : List Node → List Node
  | [] => []
  | node :: rest => written node :: writtenAll rest

end

/-- The trees that the reader can give back: void elements are empty, no other holds both texts and
elements, and no comment is empty. -/
inductive IsReadable : Node → Prop
  | void {tag : String} {attributes : List (String × String)} {classes : List String}
      {comment : Option String} : tag ∈ voidTags → IsPlainTag tag attributes →
        filled comment = comment → IsReadable (.element tag attributes classes [] comment)
  | texts {tag : String} {attributes : List (String × String)} {classes : List String}
      {children : List Node} {comment : Option String} {text : String} : tag ∉ voidTags →
        IsPlainTag tag attributes → filled comment = comment →
          textsOf id children = some text →
            IsReadable (.element tag attributes classes children comment)
  | elements {tag : String} {attributes : List (String × String)} {classes : List String}
      {children : List Node} {comment : Option String} : tag ∉ voidTags →
        IsPlainTag tag attributes → filled comment = comment → children ≠ [] →
          (∀ child ∈ children, IsReadable child) →
            IsReadable (.element tag attributes classes children comment)

end Node

theorem htmlAttributes_eq (attributes : List (String × String)) (classes : List String) :
    htmlAttributes attributes classes =
      attributeList
        ((classAttribute classes ++ attributes).map fun a => attributeText a.1 a.2) := by
  unfold htmlAttributes classAttribute
  rw [List.map_append]
  split <;> rfl

theorem isPlainTag_classAttribute {tag : String} {attributes : List (String × String)}
    (plain : IsPlainTag tag attributes) (classes : List String) :
    IsPlainTag tag (classAttribute classes ++ attributes) := by
  refine ⟨plain.tag, List.forall_mem_append.mpr ⟨?_, plain.names⟩⟩
  unfold classAttribute
  intro a member
  split at member
  · cases member
  · have word : IsPlainWord "class" := by decide
    obtain rfl := List.mem_singleton.mp member
    exact word

/-- Texts that are escaped one by one are escaped as a whole. -/
theorem textsOf_escape {escape : String → String} (empty : escape "" = "")
    (append : ∀ s t, escape (s ++ t) = escape s ++ escape t) (children : List Node) :
    textsOf escape children = (textsOf id children).map escape := by
  induction children with
  | nil => rw [textsOf, textsOf, Option.map_some, empty]
  | cons child rest ih =>
    cases child with
    | text s =>
      rw [textsOf, textsOf, ih, Option.map_map, Option.map_map]
      exact congrArg (Option.map · _) (funext fun t => (append s t).symm)
    | element => rfl

theorem textsOf_escapeText (children : List Node) :
    textsOf escapeText children = (textsOf id children).map escapeText :=
  textsOf_escape rfl (fun s t => by simp [escapeText]) children

theorem textsOf_escapeExpression (children : List Node) :
    textsOf escapeExpression children = (textsOf id children).map escapeExpression :=
  textsOf_escape rfl (fun s t => by simp [escapeExpression]) children

theorem toList_lines_cons (line : String) (rest : List String) :
    (lines (line :: rest)).toList =
      line.toList ++ rest.flatMap fun next => '\n' :: next.toList := by
  induction rest generalizing line with
  | nil => simp [lines]
  | cons next rest ih =>
    have split : lines (line :: next :: rest) = line ++ "\n" ++ lines (next :: rest) := by
      simp [lines]
    rw [split, String.toList_append, String.toList_append, ih]
    simp

/-- Lines, each behind a line break. -/
theorem flatMap_break {all : List String} (given : all ≠ []) :
    all.flatMap (fun line => '\n' :: line.toList) = '\n' :: (lines all).toList := by
  obtain ⟨line, rest, rfl⟩ := List.exists_cons_of_ne_nil given
  rw [toList_lines_cons]
  rfl

theorem isLayout_append {raw more : List Char} (first : isLayout raw = true)
    (second : isLayout more = true) : isLayout (raw ++ more) = true := by
  rw [isLayout, List.all_append, ← isLayout, ← isLayout, first, second]
  rfl

theorem content_of_ne_nil {inside : List Node} {raw : List Char} (given : inside ≠ [])
    (layout : isLayout raw = true) : content inside raw = some inside := by
  cases inside with
  | nil => exact absurd rfl given
  | cons => exact if_pos layout

theorem isLayout_margin (level : Int) : isLayout (margin level).toList = true := by
  rw [margin, indent, toList_pushn, isLayout, List.all_replicate]
  split <;> rfl

namespace Markup.State

variable {s t : State} {raw : List Char}

theorem noting_none (s : State) (free : s.comment = none) : s.noting none = s := by
  rw [← free]
  rfl

/-- Behind an element there is no comment left. -/
theorem noting_add (s : State) (free : s.comment = none) (comment : Option String)
    (nodes : List Node) : ((s.noting comment).add nodes).noting none = s.add nodes :=
  congrArg (·.add nodes) (s.noting_none free)

theorem closed_eq {tag : String} {attributes : List (String × String)} {comment : Option String}
    {before inside children : List Node} {outer : List Frame}
    (held : content inside raw = some children) :
    ({ outer := ⟨tag, attributes, comment, before⟩ :: outer, inside := inside } : State).closed raw
        tag.toList =
      some {
        outer := outer
        inside := before ++ [.element tag attributes [] children comment] } := by
  simp only [closed, held, and_self, if_true, Option.map_some]

/-- The state inside an element that is no void one. -/
theorem opened_of_notMem {tag : String} (content : tag ∉ voidTags) (s : State)
    (attributes : List (String × String)) :
    s.opened tag attributes =
      ({ outer := ⟨tag, attributes, s.comment, s.inside⟩ :: s.outer } : State).goTo (.text []) := by
  simp only [opened, List.contains_eq_mem, content, decide_false, Bool.false_eq_true, if_false]
  rfl

theorem run_break (s : State) (raw rest : List Char) :
    (s.goTo (.text raw)).run ('\n' :: rest) = (s.goTo (.text (raw ++ ['\n']))).run rest :=
  run_cons ..

/-- Layout before a line changes nothing. -/
theorem run_margin (level : Int) (rest : List Char) :
    (s.goTo (.text raw)).run ((margin level).toList ++ rest) =
      (s.goTo (.text (raw ++ (margin level).toList))).run rest := by
  refine run_append (run_text raw fun c member => ?_) rest
  have blank := List.all_eq_true.mp (isLayout_margin level) c member
  rintro rfl
  revert blank
  decide

theorem run_start {tag : String} {attributes : List (String × String)}
    (plain : IsPlainTag tag attributes) (classes : List String) (layout : isLayout raw = true)
    (level : Int) (rest : List Char) :
    (s.goTo (.text raw)).run
        ((margin level ++ openTag tag (htmlAttributes attributes classes)).toList ++ rest) =
      (s.opened tag (classAttribute classes ++ attributes)).run rest := by
  rw [String.toList_append, List.append_assoc, run_margin, htmlAttributes_eq]
  exact run_append (run_openTag (isLayout_append layout (isLayout_margin level))
    (isPlainTag_classAttribute plain classes)) rest

/-- The line of a comment before the lines of its element. -/
theorem run_htmlComment {comment : Option String} {level : Int} {first : String}
    {more : List String} (layout : isLayout raw = true) (free : s.comment = none)
    (kept : filled comment = comment)
    (read : ∀ raw, isLayout raw = true →
      ((s.noting comment).goTo (.text raw)).run (lines (first :: more)).toList = some t) :
    (s.goTo (.text raw)).run
      (lines (htmlComment level comment ++ first :: more)).toList = some t := by
  rw [htmlComment, kept]
  cases comment with
  | none =>
    rw [s.noting_none free] at read
    exact read raw layout
  | some text =>
    have line : s!"{margin level}<!-- {escapeAttribute text} -->" =
        margin level ++ s!"<!-- {escapeAttribute text} -->" := by
      show margin level ++ "<!-- " ++ escapeAttribute text ++ " -->" =
        margin level ++ ("<!-- " ++ escapeAttribute text ++ " -->")
      simp only [String.append_assoc]
    simp only [Option.toList_some, List.map_cons, List.map_nil, List.singleton_append]
    rw [toList_lines_cons, line, String.toList_append, List.append_assoc, run_margin,
      run_comment (isLayout_append layout (isLayout_margin level)) free, List.flatMap_cons,
      List.cons_append, ← toList_lines_cons, run_break]
    exact read ['\n'] rfl

end Markup.State

namespace Node

/-- From any state the reader comes to the node behind what it has, at any level. -/
def IsRead (node : Node) : Prop :=
  ∀ (s : State) (raw : List Char) (level : Int), s.comment = none → isLayout raw = true →
    (s.goTo (.text raw)).run (node.html level).toList =
      some ((s.add [node.written]).goTo (.text []))

theorem isRead_void {tag : String} {attributes : List (String × String)} {comment : Option String}
    (void : tag ∈ voidTags) (plain : IsPlainTag tag attributes) (classes : List String)
    (kept : filled comment = comment) :
    (Node.element tag attributes classes [] comment).IsRead := by
  intro s raw level free layout
  unfold html
  rw [htmlLines, if_pos (by simpa using void)]
  refine State.run_htmlComment layout free kept fun raw layout => ?_
  rw [toList_lines_cons, List.flatMap_nil, State.run_start plain classes layout level,
    State.opened, if_pos (by simpa using void), s.noting_add free]
  rfl

theorem isRead_texts {tag text : String} {attributes : List (String × String)}
    {children : List Node} {comment : Option String} (content : tag ∉ voidTags)
    (plain : IsPlainTag tag attributes) (classes : List String) (kept : filled comment = comment)
    (texts : textsOf id children = some text) :
    (Node.element tag attributes classes children comment).IsRead := by
  intro s raw level free layout
  have tree : (Node.element tag attributes classes children comment).written =
      .element tag (classAttribute classes ++ attributes) [] (textNodes text) comment := by
    rw [written, texts]
  unfold html
  rw [tree, htmlLines, if_neg (by simpa using content), textsOf_escapeText, texts]
  refine State.run_htmlComment layout free kept fun raw layout => ?_
  rw [toList_lines_cons, List.flatMap_nil, List.append_nil, String.toList_append,
    String.toList_append, List.append_assoc, State.run_start plain classes layout level,
    State.opened_of_notMem content]
  refine (State.run_append (State.run_text [] fun c member => (ne_of_mem_escapeText member).1)
    (closeTag tag).toList).trans ?_
  have ended : Markup.content [] (escapeText text).toList = some (textNodes text) := by
    simp [Markup.content, unescaped, unescape_escapeText]
  rw [State.run_closeTag plain.tag, List.nil_append, ← s.noting_add free comment]
  exact State.closed_eq ended

theorem htmlLines_ne_nil (level : Int) (node : Node) : node.htmlLines level ≠ [] := by
  cases node with
  | text => simp [htmlLines]
  | element =>
    rw [htmlLines]
    refine List.append_ne_nil_of_right_ne_nil _ ?_
    split
    · simp
    · split <;> simp

/-- The lines of a node, each behind a line break. -/
theorem flatMap_htmlLines (level : Int) (node : Node) :
    (node.htmlLines level).flatMap (fun line => '\n' :: line.toList) =
      '\n' :: (node.html level).toList :=
  flatMap_break (htmlLines_ne_nil level node)

/-- Siblings are read one behind the other, each on lines of its own. -/
theorem run_htmlLinesOfAll {children : List Node} (read : ∀ child ∈ children, child.IsRead)
    {s : State} (free : s.comment = none) (level : Int) {raw : List Char}
    (layout : isLayout raw = true) :
    ∃ raw', isLayout raw' = true ∧
      (s.goTo (.text raw)).run
          ((htmlLinesOfAll level children).flatMap fun line => '\n' :: line.toList) =
        some ((s.add (writtenAll children)).goTo (.text raw')) := by
  induction children generalizing s raw with
  | nil =>
    refine ⟨raw, layout, ?_⟩
    rw [writtenAll, State.add, List.append_nil]
    rfl
  | cons child rest ih =>
    have first := read child List.mem_cons_self s (raw ++ ['\n']) level free
      (isLayout_append layout rfl)
    obtain ⟨raw', layout', later⟩ :=
      ih (fun other later => read other (List.mem_cons_of_mem child later))
        (s := s.add [child.written]) free (rfl : isLayout [] = true)
    refine ⟨raw', layout', ?_⟩
    rw [htmlLinesOfAll, List.flatMap_append, flatMap_htmlLines, List.cons_append, State.run_break,
      State.run_append first, later, writtenAll]
    simp [State.add]

theorem isRead_elements {tag : String} {attributes : List (String × String)} {children : List Node}
    {comment : Option String} (content : tag ∉ voidTags) (plain : IsPlainTag tag attributes)
    (classes : List String) (kept : filled comment = comment) (mixed : textsOf id children = none)
    (read : ∀ child ∈ children, child.IsRead) :
    (Node.element tag attributes classes children comment).IsRead := by
  intro s raw level free layout
  have given : writtenAll children ≠ [] := by
    cases children with
    | nil => cases mixed
    | cons => exact List.cons_ne_nil _ _
  have tree : (Node.element tag attributes classes children comment).written =
      .element tag (classAttribute classes ++ attributes) [] (writtenAll children) comment := by
    rw [written, mixed]
  unfold html
  rw [tree, htmlLines, if_neg (by simpa using content), textsOf_escapeText, mixed]
  refine State.run_htmlComment layout free kept fun raw layout => ?_
  rw [toList_lines_cons, State.run_start plain classes layout level,
    State.opened_of_notMem content, List.append_eq, List.flatMap_append, List.flatMap_singleton,
    String.toList_append]
  obtain ⟨raw', layout', inside⟩ := run_htmlLinesOfAll read
    (s := { outer := ⟨tag, classAttribute classes ++ attributes, comment, s.inside⟩ :: s.outer })
    rfl (level + 1) (rfl : isLayout [] = true)
  refine (State.run_append inside _).trans ?_
  have ended : Markup.content (writtenAll children) (raw' ++ ['\n'] ++ (margin level).toList) =
      some (writtenAll children) :=
    content_of_ne_nil given
      (isLayout_append (isLayout_append layout' rfl) (isLayout_margin level))
  rw [State.run_break, State.run_margin, State.run_closeTag plain.tag,
    ← s.noting_add free comment]
  exact State.closed_eq ended

theorem IsReadable.textsOf_eq_none {child : Node} (h : child.IsReadable) (rest : List Node) :
    textsOf id (child :: rest) = none := by
  cases h <;> rfl

theorem IsReadable.isRead {node : Node} (h : node.IsReadable) : node.IsRead := by
  induction h with
  | void void plain kept => exact isRead_void void plain _ kept
  | texts content plain kept texts => exact isRead_texts content plain _ kept texts
  | elements content plain kept given readable read =>
    obtain ⟨child, rest, rfl⟩ := List.exists_cons_of_ne_nil given
    exact isRead_elements content plain _ kept
      ((readable child List.mem_cons_self).textsOf_eq_none rest) read

/-- The reader gives back a tree that it can read, and nothing beside it. -/
theorem IsReadable.read_html {node : Node} (h : node.IsReadable) :
    Markup.read (node.html 0) = some [node.written] := by
  have run : ({} : State).run (node.html 0).toList =
      some (({} : State).add [node.written]) := h.isRead {} [] 0 rfl rfl
  rw [Markup.read, run]
  rfl

/-- With no children, or with elements only. -/
theorem IsReadable.of_children {tag : String} {attributes : List (String × String)}
    {children : List Node} {comment : Option String} (content : tag ∉ voidTags)
    (plain : IsPlainTag tag attributes) (kept : filled comment = comment)
    (readable : ∀ child ∈ children, child.IsReadable) (classes : List String) :
    (Node.element tag attributes classes children comment).IsReadable := by
  cases children with
  | nil => exact .texts content plain kept rfl
  | cons child rest => exact .elements content plain kept (List.cons_ne_nil _ _) readable

end Node

open Node

theorem IsEntry.isReadable {node : Node} (h : IsEntry node) : node.IsReadable := by
  cases h with
  | mk text content own => exact .texts content own.isPlain rfl rfl

theorem ComponentForm.isReadable {c : Component} {node : Node} (h : ComponentForm c node)
    (classes : List String) : (node.withClasses classes).IsReadable := by
  cases h with
  | void void own => exact .void void (own.isPlain_id c) rfl
  | text text content own =>
    cases text with
    | none => exact .texts content (own.isPlain_id c) rfl rfl
    | some text => exact .texts content (own.isPlain_id c) rfl rfl
  | entries content own entries =>
    exact .of_children content (own.isPlain_id c) rfl
      (fun child member => (entries child member).isReadable) _

theorem isPlainWord_sectionTag (type : String) :
    sectionTag type ∉ voidTags ∧ IsPlainWord (sectionTag type) := by
  unfold sectionTag
  cases found : sectionTags.lookup (lower type) with
  | none => exact ⟨by decide, by decide⟩
  | some tag =>
    have all : ∀ entry ∈ sectionTags, entry.2 ∉ voidTags ∧ IsPlainWord entry.2 := by decide
    exact all _ (Fields.mem_of_lookup found)

namespace Schema

variable {schema : Schema} {namer : Namer} {comments : Bool} {root node : Node} {sec : Section}

theorem isReadable_componentNode {id : String} (h : schema.componentNode namer sec id = .ok node) :
    node.IsReadable := by
  unfold componentNode at h
  split at h
  · cases h
  · split at h
    · cases h
    · rename_i drawn
      cases h
      exact (Component.form_of_element drawn).isReadable _

/-- The comment of a section is never empty. -/
theorem filled_sectionComment (comments : Bool) (sec : Section) :
    filled (sectionComment comments sec) = sectionComment comments sec := by
  unfold sectionComment
  split
  · exact Option.filter_eq_some_iff.mpr ⟨rfl, by simp [toString]⟩
  · rfl

theorem isReadable_sectionNode (h : schema.sectionNode namer comments sec = .ok node) :
    node.IsReadable := by
  obtain ⟨children, drawn, rfl⟩ := exists_of_sectionNode h
  obtain ⟨content, word⟩ := isPlainWord_sectionTag sec.type
  have name : IsPlainWord sectionAttribute := by decide
  refine .of_children content ⟨word, by simpa using name⟩ (filled_sectionComment comments sec)
    (fun child member => ?_) _
  obtain ⟨id, -, made⟩ := exists_mem_of_forall₂ drawn member
  exact isReadable_componentNode made

/-- The tree of a page can be read, whatever the classes and whatever the schema says. -/
theorem isReadable_page (h : schema.page namer comments = .ok root) : root.IsReadable := by
  obtain ⟨children, drawn, rfl⟩ := exists_of_page h
  have name : IsPlainWord "data-schema-version" := by decide
  refine .of_children (by decide) ⟨by decide, by simpa using name⟩ rfl (fun child member => ?_) _
  obtain ⟨sec, -, made⟩ := exists_mem_of_forall₂ drawn member
  exact isReadable_sectionNode made

/-- Where every component that a section lists is there, only one that cannot be drawn can stand in
the way of the tree. -/
theorem exists_page_iff_of_resolved
    (resolved : ∀ sec ∈ schema.sections, ∀ id ∈ sec.components, id ∈ schema.componentIds) :
    (∃ root, schema.page namer comments = .ok root) ↔
      ¬ ∃ sec ∈ schema.sections, ∃ id ∈ sec.components, ∃ c,
        schema.lastComponent? id = some c ∧ c.IsUndrawable := by
  rw [exists_page_iff, Drawable]
  simp only [not_exists, not_and]
  refine forall₂_congr fun sec listed => forall₂_congr fun id named => ?_
  obtain ⟨c, found⟩ := exists_lastComponent? (resolved sec listed id named)
  constructor
  · rintro ⟨d, same, finite⟩ other again
    cases same.symm.trans again
    exact finite
  · intro finite
    exact ⟨c, found, finite c found⟩

end Schema

/-- For every framework, with comments and without: from the markup of a page the reader comes to
its tree again, with the same tags, attributes, classes, texts and comments, whatever characters
they hold. There is a tree wherever the components of sections are there, unless one of them is a
heading of infinite level or has to show a value that cannot be shown. -/
theorem Framework.read_html_tree {schema : Schema}
    (resolved : ∀ sec ∈ schema.sections, ∀ id ∈ sec.components, id ∈ schema.componentIds)
    (framework : Framework) (comments : Bool) :
    (∀ root, framework.tree schema comments = .ok root →
      Markup.read (root.html 0) = some [root.written]) ∧
    ((∃ root, framework.tree schema comments = .ok root) ↔
      ¬ ∃ sec ∈ schema.sections, ∃ id ∈ sec.components, ∃ c,
        schema.lastComponent? id = some c ∧ c.IsUndrawable) :=
  ⟨fun _ tree => (Schema.isReadable_page tree).read_html,
    Schema.exists_page_iff_of_resolved resolved⟩

/-- A page whose texts would be markup if they were not escaped. -/
def markedPage : Schema where
  sections := [{
    id := "\"><b id='x'>", name := "--> & <hr>", type := "hero", components := ["a&b"] }]
  components := [
    { id := "a&b", name := "Words", type := "text",
      attributes := [("text", .str "\n  </p> &lt; ")] }]

theorem markedPage_read :
    ∃ root, Framework.bootstrap.tree markedPage true = .ok root ∧
      Markup.read (root.html 0) = some [root.written] ∧
      root.sectionIds = ["\"><b id='x'>"] := by
  have resolved : ∀ sec ∈ markedPage.sections, ∀ id ∈ sec.components,
      id ∈ markedPage.componentIds := by decide
  obtain ⟨read, -⟩ := Framework.read_html_tree resolved .bootstrap true
  exact ⟨_, rfl, read _ rfl, by decide⟩

end DesignToCode
