import DesignToCode.Framework.Lowering
import DesignToCode.Proofs.Style.Nesting
import DesignToCode.Proofs.Text.Comment

set_option autoImplicit false

namespace DesignToCode

open DesignToCode.Comment DesignToCode.Text

theorem endsPlain_opening (level : Nat) (head : String) : EndsPlain (opening level head) :=
  endsPlain_append _ openBrace (by decide) (by decide)

theorem endsPlain_closing (level : Nat) : EndsPlain (closing level) :=
  endsPlain_append _ closeBrace (by decide) (by decide)

theorem endsPlain_of_mem_declarationLines {level : Nat} {ds : Declarations} {line : String}
    (h : line ∈ declarationLines level ds) : EndsPlain line := by
  obtain ⟨d, -, rfl⟩ := List.mem_map.mp h
  exact endsPlain_append _ ";" (by decide) (by decide)

theorem endsPlain_of_mem_innerLines {widths : StyleSheet.Widths} {head : String → String}
    {level : Nat} {n : StyleSheet.Nest} {line : String}
    (h : line ∈ n.innerLines widths head level) : EndsPlain line := by
  obtain ⟨⟨m, r⟩, -, inside⟩ := List.mem_flatMap.mp h
  simp only [StyleSheet.innerBlock, List.mem_append, List.mem_cons, List.not_mem_nil,
    or_false] at inside
  rcases inside with ((rfl | rfl) | declared) | rfl
  · decide
  · exact endsPlain_opening _ _
  · exact endsPlain_of_mem_declarationLines declared
  · exact endsPlain_closing _

theorem endsPlain_of_mem_widthMap {widths : StyleSheet.Widths} {line : String}
    (h : line ∈ StyleSheet.widthMap widths) : EndsPlain line := by
  unfold StyleSheet.widthMap at h
  split at h
  · cases h
  · rcases List.mem_append.mp h with front | back
    · rcases List.mem_append.mp front with first | width
      · obtain rfl := List.mem_singleton.mp first
        decide
      · obtain ⟨w, -, rfl⟩ := List.mem_map.mp width
        exact endsPlain_append _ "px," (by decide) (by decide)
    · have all : ∀ line ∈ [");", "", opening 0 "@mixin respond($name)",
          opening 1 "@media (min-width: map.get($breakpoints, $name))", "    @content;", closing 1,
          closing 0, ""], EndsPlain line := by decide
      exact all line back

theorem endsPlain_of_mem_customMedia {widths : StyleSheet.Widths} {line : String}
    (h : line ∈ StyleSheet.customMedia widths) : EndsPlain line := by
  unfold StyleSheet.customMedia at h
  split at h
  · cases h
  · rcases List.mem_append.mp h with width | last
    · obtain ⟨w, -, rfl⟩ := List.mem_map.mp width
      exact endsPlain_append _ "px);" (by decide) (by decide)
    · obtain rfl := List.mem_singleton.mp last
      decide

theorem toList_lines {all : List String} (given : all ≠ []) :
    (lines all ++ "\n").toList = written all := by
  induction all with
  | nil => exact absurd rfl given
  | cons line rest ih =>
    cases rest with
    | nil => simp [lines, written]
    | cons next rest =>
      have split : lines (line :: next :: rest) = line ++ "\n" ++ lines (next :: rest) := by
        simp [lines]
      rw [split, String.append_assoc, String.toList_append, String.toList_append,
        ih (List.cons_ne_nil _ _), written_cons]
      rfl

theorem toList_blocks {blocks : List (List String)} (given : blocks ≠ [])
    (lined : ∀ block ∈ blocks, block ≠ []) :
    ("\n\n".intercalate (blocks.map lines) ++ "\n").toList = written (spaced blocks) := by
  induction blocks with
  | nil => exact absurd rfl given
  | cons block rest ih =>
    have first := toList_lines (lined block List.mem_cons_self)
    cases rest with
    | nil => simpa [spaced] using first
    | cons next rest =>
      have later := ih (List.cons_ne_nil _ _) fun b member =>
        lined b (List.mem_cons_of_mem _ member)
      rw [List.map_cons, List.map_cons, String.intercalate_cons_cons, ← List.map_cons, spaced,
        written_append, written_cons, ← first, ← later]
      · simp
      · simp

namespace Comment.Among

/-- Blocks of lines stay apart when comments are put among them. -/
theorem spaced {blocks : List (List String × List String × List String)}
    (each : ∀ b ∈ blocks, Among b.1 b.2.1 b.2.2) :
    Among (blocks.flatMap (·.1)) (DesignToCode.spaced (blocks.map (·.2.1)))
      (DesignToCode.spaced (blocks.map (·.2.2))) := by
  induction blocks with
  | nil => exact .nil
  | cons block rest ih =>
    have first := each block List.mem_cons_self
    cases rest with
    | nil => simpa [DesignToCode.spaced] using first
    | cons next rest =>
      have later := ih fun b member => each b (List.mem_cons_of_mem _ member)
      exact first.append (.line (by decide) later)

end Comment.Among

def StyleRule.withComment (r : StyleRule) (text : String) : StyleRule :=
  { r with comment := some text }

theorem blockComment_of_ne {text : String} (given : text ≠ "") :
    blockComment 0 (some text) = [blockLine text] := by
  have some : filled (some text) = some text := by simp [filled, given]
  have none : indent 0 = "" := rfl
  rw [blockComment, some]
  simp [blockLine, none]

theorem lineComment_of_ne {text : String} (given : text ≠ "") (level : Nat) :
    lineComment level (some text) = [indent level ++ slashLine text] := by
  have some : filled (some text) = some text := by simp [filled, given]
  rw [lineComment, some]
  simp [slashLine, String.append_assoc]

variable {r : StyleRule} {text : String}

/-- The lines of a rule behind its comment are code, if those behind its declarations are. -/
theorem endsPlain_rule (r : StyleRule) (level : Nat) (more : List String)
    (plain : ∀ line ∈ more, EndsPlain line) :
    ∀ line ∈ [opening level r.selector] ++ (declarationLines (level + 1) r.declarations ++ more),
      EndsPlain line := by
  intro line member
  simp only [List.mem_append, List.mem_singleton] at member
  rcases member with rfl | declared | later
  · exact endsPlain_opening _ _
  · exact endsPlain_of_mem_declarationLines declared
  · exact plain line later

theorem among_rule (r : StyleRule) (comment : String) (level : Nat) (more : List String)
    (plain : ∀ line ∈ more, EndsPlain line) :
    Among [comment]
      ([comment] ++ ([opening level r.selector] ++
        (declarationLines (level + 1) r.declarations ++ more)))
      ([opening level r.selector] ++ (declarationLines (level + 1) r.declarations ++ more)) :=
  .comment comment (.of_plain (endsPlain_rule r level more plain))

theorem endsPlain_flatLines (bare : r.comment = none) (level : Nat) :
    ∀ line ∈ r.flatLines level, EndsPlain line := by
  have plain := endsPlain_rule r level [closing level]
    (by simpa using endsPlain_closing level)
  unfold StyleRule.flatLines
  rw [bare]
  simp only [List.append_assoc]
  exact plain

theorem among_flatLines (bare : r.comment = none) (given : text ≠ "") :
    Among [blockLine text] ((r.withComment text).flatLines 0) (r.flatLines 0) := by
  have lines := among_rule r (blockLine text) 0 [closing 0] (by decide)
  rw [← blockComment_of_ne given] at lines ⊢
  unfold StyleRule.flatLines
  rw [bare]
  simp only [List.append_assoc]
  exact lines

namespace StyleSheet

variable {widths : Widths}

def Nest.withComment (n : Nest) (text : String) : Nest := { n with rule := n.rule.withComment text }

theorem among_nested (widths : Widths) {n : Nest} (bare : n.rule.comment = none)
    (given : text ≠ "") (level : Nat) :
    Among [indent level ++ slashLine text] ((n.withComment text).nested widths level)
      (n.nested widths level) := by
  have lines := among_rule n.rule (indent level ++ slashLine text) level
    (n.innerLines widths respond (level + 1))
    fun line member => endsPlain_of_mem_innerLines member
  rw [← lineComment_of_ne given level] at lines ⊢
  unfold Nest.nested
  rw [bare]
  simp only [List.append_assoc]
  exact lines

theorem among_nestedLines (widths : Widths) {page : Nest} (bare : page.rule.comment = none)
    (given : text ≠ "") {nests : List (Nest × String)}
    (others : ∀ n ∈ nests, n.1.rule.comment = none ∧ n.2 ≠ "") :
    Among (slashLine text :: nests.map fun n => "  " ++ slashLine n.2)
      (nestedLines widths (page.withComment text) (nests.map fun n => n.1.withComment n.2))
      (nestedLines widths page (nests.map (·.1))) := by
  have front : Among [] (["@use \"sass:map\";", ""] ++ widthMap widths)
      (["@use \"sass:map\";", ""] ++ widthMap widths) := by
    have first : Among [] ["@use \"sass:map\";", ""] ["@use \"sass:map\";", ""] :=
      .of_plain (by decide)
    exact first.append (.of_plain fun line member => endsPlain_of_mem_widthMap member)
  have sections : Among (nests.flatMap fun n => ["  " ++ slashLine n.2])
      (nests.flatMap fun n => "" :: (n.1.withComment n.2).nested widths 1 ++ [closing 1])
      (nests.flatMap fun n => "" :: n.1.nested widths 1 ++ [closing 1]) := by
    refine .flatMap fun n member => ?_
    obtain ⟨bare, given⟩ := others n member
    exact (Among.line (by decide) (among_nested widths bare given 1)).append
      (.of_plain (by simpa using endsPlain_closing 1))
  have last : Among [] [closing 0] [closing 0] := .of_plain (by simpa using endsPlain_closing 0)
  have first := among_nested widths bare given 0
  have whole := ((front.append first).append sections).append last
  rw [← List.map_eq_flatMap, List.append_nil] at whole
  unfold nestedLines
  rw [List.flatMap_map, List.flatMap_map]
  exact whole

theorem toList_nestedText (page : Nest) (nests : List Nest) :
    (nestedText widths page nests).toList = written (nestedLines widths page nests) :=
  toList_lines (by simp [nestedLines])

theorem among_listed {n : Nest} (bare : n.rule.comment = none) (given : text ≠ "") :
    Among [blockLine text] ((n.withComment text).listed widths) (n.listed widths) := by
  have plain : ∀ line ∈ n.innerLines widths listedMedia 1 ++ [closing 0], EndsPlain line := by
    intro line member
    rcases List.mem_append.mp member with inside | last
    · exact endsPlain_of_mem_innerLines inside
    · obtain rfl := List.mem_singleton.mp last
      exact endsPlain_closing 0
  have lines := among_rule n.rule (blockLine text) 0 _ plain
  rw [← blockComment_of_ne given] at lines ⊢
  unfold Nest.listed
  rw [bare]
  simp only [List.append_assoc]
  exact lines

/-- The lines of nests one after the other, with widths by name. -/
def listedLines (widths : Widths) (nests : List Nest) : List String :=
  customMedia widths ++ spaced (nests.map (Nest.listed widths))

theorem among_listedLines (widths : Widths) {nests : List (Nest × String)}
    (bare : ∀ n ∈ nests, n.1.rule.comment = none ∧ n.2 ≠ "") :
    Among (nests.map fun n => blockLine n.2)
      (listedLines widths (nests.map fun n => n.1.withComment n.2))
      (listedLines widths (nests.map (·.1))) := by
  let blocks := nests.map fun n =>
    ([blockLine n.2], (n.1.withComment n.2).listed widths, n.1.listed widths)
  have each : ∀ b ∈ blocks, Among b.1 b.2.1 b.2.2 := by
    intro b member
    obtain ⟨n, listed, rfl⟩ := List.mem_map.mp member
    exact among_listed (bare n listed).1 (bare n listed).2
  have front : Among [] (customMedia widths) (customMedia widths) :=
    .of_plain fun line member => endsPlain_of_mem_customMedia member
  have whole := front.append (Among.spaced each)
  rw [List.flatMap_map, ← List.map_eq_flatMap, List.map_map, List.map_map] at whole
  unfold listedLines
  rw [List.map_map, List.map_map]
  exact whole

theorem toList_listedText {nests : List Nest} (given : nests ≠ []) :
    (listedText widths nests).toList = written (listedLines widths nests) := by
  let text := "\n\n".intercalate ((nests.map (Nest.listed widths)).map lines)
  have blocks : (text ++ "\n").toList = written (spaced (nests.map (Nest.listed widths))) := by
    refine toList_blocks (by simp [given]) ?_
    intro block member
    obtain ⟨n, -, rfl⟩ := List.mem_map.mp member
    simp [Nest.listed]
  have whole : listedText widths nests = lines (customMedia widths ++ [text]) ++ "\n" := by
    rw [listedText]
    simp only [text, List.map_map]
    rfl
  rw [whole, toList_lines (by simp), listedLines, written_append, written_append, ← blocks,
    String.toList_append]
  simp [written]

end StyleSheet

namespace Schema

variable (schema : Schema) (classOf : Section → String) (root : String)

/-- The texts that stand in the comments of a sheet. -/
def commentTexts : List String :=
  s!"Layout: {schema.layoutStrategy.approach}" ::
    schema.sections.map fun sec => s!"Section: {sec.name}"

/-- The lines of comments in a nested sheet, where sections stand inside the page. -/
def nestedComments : List String :=
  slashLine s!"Layout: {schema.layoutStrategy.approach}" ::
    schema.sections.map fun sec => "  " ++ slashLine s!"Section: {sec.name}"

/-- The rule of the page without its comment, with the text of this. -/
def pageEntry : StyleRule × String :=
  (schema.rootRule root false, s!"Layout: {schema.layoutStrategy.approach}")

def sectionEntry (sec : Section) : StyleRule × String :=
  (schema.sectionRule classOf false sec, s!"Section: {sec.name}")

def entries : List (StyleRule × String) :=
  schema.pageEntry root :: schema.sections.map (schema.sectionEntry classOf)

theorem rules_commented :
    (schema.styleSheet classOf root true).rules =
      (schema.entries classOf root).map fun entry => entry.1.withComment entry.2 := by
  rw [entries, List.map_cons, List.map_map]
  rfl

theorem rules_bare :
    (schema.styleSheet classOf root false).rules = (schema.entries classOf root).map (·.1) := by
  rw [entries, List.map_cons, List.map_map]
  rfl

theorem texts_entries : (schema.entries classOf root).map (·.2) = schema.commentTexts := by
  rw [entries, List.map_cons, List.map_map]
  rfl

variable {schema classOf root}

theorem bare_of_mem_entries {entry : StyleRule × String} (h : entry ∈ schema.entries classOf root) :
    entry.1.comment = none ∧ entry.2 ≠ "" := by
  rcases List.mem_cons.mp h with rfl | own
  · exact ⟨rfl, by simp [pageEntry]⟩
  · obtain ⟨sec, -, rfl⟩ := List.mem_map.mp own
    exact ⟨rfl, by simp [sectionEntry]⟩

theorem among_mediaLines {comments : Bool} {m : MediaBlock}
    (h : m ∈ (schema.styleSheet classOf root comments).media) :
    Among [] (StyleSheet.mediaLines m) (StyleSheet.mediaLines m) := by
  have rules : Among [] (spaced (m.rules.map (StyleRule.flatLines 1)))
      (spaced (m.rules.map (StyleRule.flatLines 1))) := by
    have each : ∀ b ∈ m.rules.map (fun r => (([] : List String), r.flatLines 1, r.flatLines 1)),
        Among b.1 b.2.1 b.2.2 := by
      intro b member
      obtain ⟨r, listed, rfl⟩ := List.mem_map.mp member
      exact .of_plain (endsPlain_flatLines ((media_effective h).2 r listed).2 1)
    have none : (m.rules.map fun r => (([] : List String), r.flatLines 1, r.flatLines 1)).flatMap
        (·.1) = [] := by simp
    have whole := Among.spaced each
    rw [none, List.map_map, List.map_map] at whole
    exact whole
  have first : Among [] [opening 0 s!"@media (min-width: {m.minWidth}px)"] _ :=
    .of_plain (by simpa using endsPlain_opening _ _)
  exact (first.append rules).append (.of_plain (by simpa using endsPlain_closing 0))

theorem toList_flatText {rules : List StyleRule} {media : List MediaBlock} (given : rules ≠ []) :
    (StyleSheet.flatText rules media).toList =
      written (spaced (rules.map (StyleRule.flatLines 0) ++ media.map StyleSheet.mediaLines)) := by
  refine toList_blocks (by simp [given]) ?_
  intro block member
  rcases List.mem_append.mp member with rule | media
  · obtain ⟨r, -, rfl⟩ := List.mem_map.mp rule
    simp [StyleRule.flatLines]
  · obtain ⟨m, -, rfl⟩ := List.mem_map.mp media
    simp [StyleSheet.mediaLines]

theorem among_css :
    ∃ all plain, Among (schema.commentTexts.map blockLine) all plain ∧
      (schema.styleSheet classOf root true).css.toList = written all ∧
      (schema.styleSheet classOf root false).css.toList = written plain := by
  let rules : List (List String × List String × List String) :=
    (schema.entries classOf root).map fun entry =>
      ([blockLine entry.2], (entry.1.withComment entry.2).flatLines 0, entry.1.flatLines 0)
  let media : List (List String × List String × List String) :=
    (schema.styleSheet classOf root true).media.map fun m =>
      ([], StyleSheet.mediaLines m, StyleSheet.mediaLines m)
  have each : ∀ b ∈ rules ++ media, Among b.1 b.2.1 b.2.2 := by
    intro b member
    rcases List.mem_append.mp member with rule | block
    · obtain ⟨entry, listed, rfl⟩ := List.mem_map.mp rule
      obtain ⟨bare, given⟩ := bare_of_mem_entries listed
      exact among_flatLines bare given
    · obtain ⟨m, listed, rfl⟩ := List.mem_map.mp block
      exact among_mediaLines listed
  have comments : (rules ++ media).flatMap (·.1) = schema.commentTexts.map blockLine := by
    have none : media.flatMap (·.1) = [] := by simp [media, List.flatMap_map]
    rw [← texts_entries schema classOf root, List.flatMap_append, none, List.append_nil,
      List.flatMap_map, List.map_map, List.map_eq_flatMap]
    rfl
  have given (comments : Bool) : (schema.styleSheet classOf root comments).rules ≠ [] :=
    List.cons_ne_nil _ _
  refine ⟨_, _, comments ▸ Among.spaced each, ?_, ?_⟩
  · rw [css_styleSheet, toList_flatText (given true), rules_commented, List.map_append,
      List.map_map, List.map_map, List.map_map]
    rfl
  · rw [css_styleSheet, toList_flatText (given false), rules_bare, List.map_append,
      List.map_map, List.map_map, List.map_map]
    rfl

/-- The rules of a sheet in nests, without comments and each with the text of its comment. -/
def nests (schema : Schema) (classOf : Section → String) (root : String)
    (entries : List (StyleRule × String)) : List (StyleSheet.Nest × String) :=
  entries.map fun entry => ((schema.styleSheet classOf root false).nestOf entry.1, entry.2)

theorem bare_of_mem_nests {n : StyleSheet.Nest × String}
    (h : n ∈ schema.nests classOf root (schema.entries classOf root)) :
    n.1.rule.comment = none ∧ n.2 ≠ "" := by
  obtain ⟨entry, listed, rfl⟩ := List.mem_map.mp h
  exact bare_of_mem_entries listed

theorem among_scss :
    ∃ all plain, Among schema.nestedComments all plain ∧
      (schema.styleSheet classOf root true).scss.toList = written all ∧
      (schema.styleSheet classOf root false).scss.toList = written plain := by
  let s := schema.styleSheet classOf root false
  let sections := schema.nests classOf root (schema.sections.map (schema.sectionEntry classOf))
  have first : (s.nestOf (schema.pageEntry root).1, (schema.pageEntry root).2) ∈
      schema.nests classOf root (schema.entries classOf root) := List.mem_cons_self
  have page := bare_of_mem_nests first
  have others : ∀ n ∈ sections, n.1.rule.comment = none ∧ n.2 ≠ "" := by
    intro n member
    have later : n ∈ schema.nests classOf root (schema.entries classOf root) :=
      List.mem_cons_of_mem _ member
    exact bare_of_mem_nests later
  have lines := StyleSheet.among_nestedLines s.widths page.1 page.2 others
  have comments : schema.nestedComments =
      slashLine (schema.pageEntry root).2 :: sections.map fun n => "  " ++ slashLine n.2 := by
    simp only [sections, nests, List.map_map]
    rfl
  refine ⟨_, _, comments ▸ lines, ?_, ?_⟩
  · rw [StyleSheet.scss_eq (rules_commented schema classOf root), StyleSheet.toList_nestedText]
    simp only [sections, nests, List.map_map]
    rfl
  · rw [StyleSheet.scss_eq (rules_bare schema classOf root), StyleSheet.toList_nestedText]
    simp only [sections, nests, List.map_map]
    rfl

theorem among_postcss :
    ∃ all plain, Among (schema.commentTexts.map blockLine) all plain ∧
      (schema.styleSheet classOf root true).postcss.toList = written all ∧
      (schema.styleSheet classOf root false).postcss.toList = written plain := by
  let s := schema.styleSheet classOf root false
  let rules := schema.nests classOf root (schema.entries classOf root)
  have bare : ∀ n ∈ rules, n.1.rule.comment = none ∧ n.2 ≠ "" :=
    fun n member => bare_of_mem_nests member
  have lines := StyleSheet.among_listedLines s.widths bare
  have comments : schema.commentTexts.map blockLine = rules.map fun n => blockLine n.2 := by
    simp only [rules, nests, ← texts_entries schema classOf root, List.map_map]
    rfl
  refine ⟨_, _, comments ▸ lines, ?_, ?_⟩
  · rw [StyleSheet.postcss_eq, StyleSheet.toList_listedText (by simp [rules_commented, entries]),
      rules_commented]
    simp only [rules, nests, List.map_map]
    rfl
  · rw [StyleSheet.postcss_eq, StyleSheet.toList_listedText (by simp [rules_bare, entries]),
      rules_bare]
    simp only [rules, nests, List.map_map]
    rfl

end Schema

namespace Framework

/-- The frameworks whose code comes with a stylesheet of its own alone. -/
def ownSheets : List Framework := [.css, .scss, .cssModules, .postcss]

/-- Whether two slashes begin a comment in the styles of a framework. -/
def slashes : Framework → Bool
  | .scss => true
  | _ => false

/-- The lines of comments in the styles of a framework. -/
def commentLines (framework : Framework) (schema : Schema) : List String :=
  match framework with
  | .scss => schema.nestedComments
  | _ => schema.commentTexts.map blockLine

/-- A text that does not end the comment in which it stands. -/
def StaysComment (framework : Framework) (text : String) : Prop :=
  match framework with
  | .scss => ∀ c ∈ text.toList, isLineEnd c = false
  | _ => ¬ ['*', '/'] <:+: text.toList

variable {framework : Framework} {schema : Schema}

theorem among_styles (own : framework ∈ ownSheets) (schema : Schema) :
    ∃ all plain, Among (framework.commentLines schema) all plain ∧
      (framework.styles schema true).toList = written all ∧
      (framework.styles schema false).toList = written plain := by
  cases framework with
  | css | cssModules => exact Schema.among_css
  | scss => exact Schema.among_scss
  | postcss => exact Schema.among_postcss
  | tailwind | bootstrap => exact absurd own (by decide)

/-- Where slashes begin no comment, code stands behind every line of a comment. -/
theorem closes_commentLines (other : framework ≠ .scss) {line : String}
    (h : line ∈ framework.commentLines schema) : Closes framework.slashes line := by
  cases framework with
  | scss => exact absurd rfl other
  | _ =>
    obtain ⟨text, -, rfl⟩ := List.mem_map.mp h
    exact closes_blockLine text

theorem leftOver_of_staysComment (stays : ∀ text ∈ schema.commentTexts, framework.StaysComment text)
    {line : String} (h : line ∈ framework.commentLines schema) :
    Closes framework.slashes line ∧ leftOver framework.slashes line = [] := by
  have blocks (h : line ∈ schema.commentTexts.map blockLine)
      (stays : ∀ text ∈ schema.commentTexts, ¬ ['*', '/'] <:+: text.toList) :
      leftOver false line = [] := by
    obtain ⟨text, member, rfl⟩ := List.mem_map.mp h
    exact leftOver_blockLine (stays text member)
  cases framework with
  | scss =>
    rcases List.mem_cons.mp h with rfl | section_
    · exact (slashLine_of_no_lineEnd (stays _ List.mem_cons_self)).1
    · obtain ⟨sec, listed, rfl⟩ := List.mem_map.mp section_
      have member := List.mem_cons_of_mem s!"Layout: {schema.layoutStrategy.approach}"
        (List.mem_map_of_mem (f := fun sec : Section => s!"Section: {sec.name}") listed)
      exact (slashLine_of_no_lineEnd (stays _ member)).2
  | _ => exact ⟨closes_commentLines (by decide) h, blocks h stays⟩

/-- Let the styles without comments hold none of their own. Then, with comments taken away, the
styles with comments have the same lines up to blank ones if no text ends its comment. If code
stands behind every comment line, as it does wherever slashes begin no comment, they have the same
lines exactly when no comment line holds anything beside comments. -/
theorem uncommented_styles (own : framework ∈ ownSheets)
    (bare : uncommented framework.slashes (framework.styles schema false).toList =
      (framework.styles schema false).toList) :
    ((∀ text ∈ schema.commentTexts, framework.StaysComment text) →
      contentLines (uncommented framework.slashes (framework.styles schema true).toList) =
        contentLines (framework.styles schema false).toList) ∧
      ((∀ line ∈ framework.commentLines schema, Closes framework.slashes line) →
        (contentLines (uncommented framework.slashes (framework.styles schema true).toList) =
            contentLines (framework.styles schema false).toList ↔
          ∀ line ∈ framework.commentLines schema, leftOver framework.slashes line = [])) ∧
      (framework ≠ .scss →
        ∀ line ∈ framework.commentLines schema, Closes framework.slashes line) := by
  obtain ⟨all, plain, among, commented, alone⟩ := among_styles own schema
  rw [alone] at bare
  rw [commented, alone]
  have clear := clear_of_uncommented_eq bare
  refine ⟨?stays, among.contentLines_uncommented_iff clear, ?closes⟩
  case stays =>
    intro stays
    have comments : ∀ line ∈ framework.commentLines schema,
        Closes framework.slashes line ∧ leftOver framework.slashes line = [] :=
      fun line member => leftOver_of_staysComment stays member
    exact (among.contentLines_uncommented_iff clear fun line member => (comments line member).1).mpr
      fun line member => (comments line member).2
  case closes => exact fun other line member => closes_commentLines other member

/-- A page with one section. -/
def namedPage (name : String) : Schema where
  sections := [{ id := "hero", name := name, type := "hero" }]

/-- Without comments, the name of the section is not in the styles. -/
theorem bare_namedPage (name : String) :
    uncommented Framework.css.slashes (Framework.css.styles (namedPage name) false).toList =
      (Framework.css.styles (namedPage name) false).toList := by
  have nameless : Framework.css.styles (namedPage name) false =
      Framework.css.styles (namedPage "") false := rfl
  rw [nameless]
  exact uncommented_of_notMem (by decide +kernel)

/-- Marks of either kind of comment in a name, none of which ends its comment. -/
theorem namedPage_uncommented :
    contentLines (uncommented Framework.css.slashes
          (Framework.css.styles (namedPage "// /* Hero\n*") true).toList) =
        contentLines (Framework.css.styles (namedPage "// /* Hero\n*") false).toList := by
  refine (uncommented_styles (by decide) (bare_namedPage _)).1 ?_
  show ∀ text ∈ (namedPage "// /* Hero\n*").commentTexts, ¬ ['*', '/'] <:+: text.toList
  decide +kernel

/-- Of a schema without errors, a name that ends its comment leaves the rest of itself in the
styles. -/
theorem not_forall_uncommented_styles :
    ¬ ∀ (schema : Schema) (report : Report), schema.validate = .ok report → report.valid = true →
      ∀ framework ∈ ownSheets,
        contentLines (uncommented framework.slashes (framework.styles schema true).toList) =
          contentLines (framework.styles schema false).toList := by
  intro always
  have same := always (namedPage "a */ b") _ rfl rfl .css (by decide)
  have bare := bare_namedPage "a */ b"
  obtain ⟨all, plain, among, commented, alone⟩ :=
    among_styles (show Framework.css ∈ ownSheets by decide) (namedPage "a */ b")
  rw [alone] at bare
  rw [commented, alone] at same
  have closes : ∀ line ∈ Framework.css.commentLines (namedPage "a */ b"),
      Closes Framework.css.slashes line :=
    fun line member => closes_commentLines (by decide) member
  have nothing := (among.contentLines_uncommented_iff (clear_of_uncommented_eq bare) closes).mp same
    (blockLine "Section: a */ b") (.tail _ (.head _))
  revert nothing
  decide +kernel

end Framework

end DesignToCode
