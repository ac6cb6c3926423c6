import DesignToCode.Proofs.Grouping
import DesignToCode.Proofs.Style.Blocks
import DesignToCode.Proofs.Style.MediaRules
import DesignToCode.Proofs.Style.SectionClasses
import DesignToCode.Proofs.Schema.Verdict

set_option autoImplicit false

namespace DesignToCode

open DesignToCode.Text

namespace StyleSheet

/-- The media rules of a sheet, each with its block, in the order of the blocks. -/
def mediaRules (s : StyleSheet) : List (MediaBlock × StyleRule) :=
  s.media.flatMap fun m => m.rules.map (Prod.mk m)

theorem mediaOf_eq_filter (s : StyleSheet) (className : String) :
    s.mediaOf className = s.mediaRules.filter (·.2.className == className) := by
  rw [mediaOf, mediaRules, List.filter_flatMap]
  simp only [List.filter_map]
  rfl

/-- A rule with the media rules that are written inside it. -/
structure Nest where
  rule : StyleRule
  inner : List (MediaBlock × StyleRule)

namespace Nest

def innerLines (widths : Widths) (head : String → String) (level : Nat) (n : Nest) : List String :=
  n.inner.flatMap fun (m, r) => innerBlock head level (widthName widths m) r

/-- A nest up to its closing brace, behind which the sections stand in the nest of the page. -/
def nested (widths : Widths) (level : Nat) (n : Nest) : List String :=
  lineComment level n.rule.comment ++ [opening level n.rule.selector] ++
    declarationLines (level + 1) n.rule.declarations ++ n.innerLines widths respond (level + 1)

def listed (widths : Widths) (n : Nest) : List String :=
  blockComment 0 n.rule.comment ++ [opening 0 n.rule.selector] ++
    declarationLines 1 n.rule.declarations ++ n.innerLines widths listedMedia 1 ++ [closing 0]

end Nest

/-- Nests in the nest of the page, with a mixin for widths. -/
def nestedLines (widths : Widths) (page : Nest) (nests : List Nest) : List String :=
  ["@use \"sass:map\";", ""] ++ widthMap widths ++ page.nested widths 0 ++
    nests.flatMap (fun n => "" :: n.nested widths 1 ++ [closing 1]) ++ [closing 0]

def nestedText (widths : Widths) (page : Nest) (nests : List Nest) : String :=
  lines (nestedLines widths page nests) ++ "\n"

/-- Nests one after the other, with widths by name. -/
def listedText (widths : Widths) (nests : List Nest) : String :=
  lines (customMedia widths ++ ["\n\n".intercalate (nests.map fun n => lines (n.listed widths))]) ++
    "\n"

/-- A media block with all of its rules. -/
def mediaLines (m : MediaBlock) : List String :=
  [opening 0 s!"@media (min-width: {m.minWidth}px)"] ++
    spaced (m.rules.map (StyleRule.flatLines 1)) ++ [closing 0]

/-- Every rule and then every media block with every rule of it. -/
def flatText (rules : List StyleRule) (media : List MediaBlock) : String :=
  "\n\n".intercalate ((rules.map (StyleRule.flatLines 0) ++ media.map mediaLines).map lines) ++ "\n"

/-- Every rule and then every media block with every rule of it. -/
def flatSheet (rules : List StyleRule) (media : List MediaBlock) : String :=
  "\n\n".intercalate ((rules.map (fun r => Part.ofRule Part.starred r []) ++
    media.map fun m => [Part.ofMedia m]).map Part.text) ++ "\n"

namespace Nest

/-- What stands in the braces of a nest behind its declarations: its media rules, each in braces of
its own under the name of its width. -/
def innerParts (widths : Widths) (head : String → String) (n : Nest) : List Part :=
  n.inner.flatMap fun (m, r) => [.gap, .block (head (widthName widths m)) (Part.declared r)]

/-- A nest that is written inside others, or has others inside. -/
def nestedParts (widths : Widths) (n : Nest) (others : List Part) : List Part :=
  Part.ofRule Part.slashed n.rule
    (n.innerParts widths (fun name => "@include respond(\"" ++ name ++ "\")") ++ others)

def listedParts (widths : Widths) (n : Nest) : List Part :=
  Part.ofRule Part.starred n.rule
    (n.innerParts widths fun name => "@media (--" ++ name ++ ")")

end Nest

/-- The widths by name and the mixin that goes by them. -/
def widthParts (widths : Widths) : List Part :=
  if widths = [] then []
  else
    .line "$breakpoints: (" ::
      widths.map (fun w => .line ("  \"" ++ w.1 ++ "\": " ++ toString w.2 ++ "px,")) ++
      [.line ");", .gap,
        .block "@mixin respond($name)"
          [.block "@media (min-width: map.get($breakpoints, $name))" [.line "@content;"]],
        .gap]

/-- Nests in the braces of the nest of the page. -/
def nestedSheet (widths : Widths) (page : Nest) (nests : List Nest) : String :=
  Part.text ([.line "@use \"sass:map\";", .gap] ++ widthParts widths ++
    page.nestedParts widths (nests.flatMap fun n => .gap :: n.nestedParts widths [])) ++ "\n"

def customParts (widths : Widths) : List Part :=
  if widths = [] then []
  else
    widths.map (fun w =>
      .line ("@custom-media --" ++ w.1 ++ " (min-width: " ++ toString w.2 ++ "px);")) ++ [.gap]

/-- Nests one after the other, behind the widths by name. -/
def listedSheet (widths : Widths) (nests : List Nest) : String :=
  "\n".intercalate (Part.linesOf 0 (customParts widths) ++
    ["\n\n".intercalate (nests.map fun n => Part.text (n.listedParts widths))]) ++ "\n"

/-- The rules of a sheet in nests: every rule in one nest, every media rule in one, which is that of
its class, and those of one class in the order of the sheet. -/
structure Nesting (s : StyleSheet) (nests : List Nest) : Prop where
  rules : nests.map (·.rule) = s.rules
  distinct : (nests.map (·.rule.className)).Nodup
  inner : ∀ n ∈ nests, n.inner = s.mediaRules.filter (·.2.className == n.rule.className)
  every : (nests.flatMap (·.inner)).Perm s.mediaRules

theorem flatText_eq (rules : List StyleRule) (media : List MediaBlock) :
    flatText rules media = flatSheet rules media := by
  have ofRule (r : StyleRule) : Part.text (Part.ofRule Part.starred r []) = lines (r.flatLines 0) :=
    congrArg lines (Part.linesOf_ofRule 0 r)
  have ofMedia (m : MediaBlock) : Part.text [Part.ofMedia m] = lines (mediaLines m) := by
    refine congrArg lines ?_
    rw [Part.ofMedia, Part.linesOf_block, Part.linesOf_apart, List.map_map, mediaLines]
    simp only [Function.comp_def, Part.linesOf_ofRule, String.append_assoc]
    rfl
  simp only [flatText, flatSheet, List.map_append, List.map_map, Function.comp_def, ofRule, ofMedia]

theorem Nest.linesOf_innerParts (n : Nest) (widths : Widths) {head : String → String}
    (told : String → String) (same : ∀ name, head name = told name) (level : Nat) :
    Part.linesOf level (n.innerParts widths head) = n.innerLines widths told level := by
  rw [Nest.innerParts, Nest.innerLines, Part.linesOf_flatMap]
  refine List.flatMap_congr fun (m, r) _ => ?_
  dsimp only
  rw [Part.linesOf, Part.lines, Part.linesOf_block, Part.linesOf_declared, same, innerBlock]
  rfl

theorem Nest.linesOf_nestedParts (widths : Widths) (level : Nat) (n : Nest) (others : List Part) :
    Part.linesOf level (n.nestedParts widths others) =
      n.nested widths level ++ Part.linesOf (level + 1) others ++ [closing level] := by
  rw [Nest.nestedParts, Part.ofRule, Part.linesOf_append, Part.linesOf_slashed, Part.linesOf_block,
    Part.linesOf_append, Part.linesOf_append, Part.linesOf_declared,
    n.linesOf_innerParts widths respond (fun _ => by simp only [String.append_assoc]; rfl),
    Nest.nested]
  simp only [List.append_assoc]
  rfl

theorem Nest.linesOf_listedParts (widths : Widths) (n : Nest) :
    Part.linesOf 0 (n.listedParts widths) = n.listed widths := by
  rw [Nest.listedParts, Part.ofRule, Part.linesOf_append, Part.linesOf_starred, Part.linesOf_block,
    Part.linesOf_append, Part.linesOf_declared,
    n.linesOf_innerParts widths listedMedia (fun _ => by simp only [String.append_assoc]; rfl),
    Nest.listed]
  simp only [List.append_assoc]
  rfl

theorem linesOf_widthParts (widths : Widths) :
    Part.linesOf 0 (widthParts widths) = widthMap widths := by
  unfold widthParts widthMap
  split
  · rename_i none
    rw [none]
    rfl
  · rename_i some
    rw [if_neg (by simpa using some), Part.linesOf_append, Part.linesOf, Part.linesOf_map_line]
    simp only [String.append_assoc]
    rfl

theorem linesOf_customParts (widths : Widths) :
    Part.linesOf 0 (customParts widths) = customMedia widths := by
  unfold customParts customMedia
  split
  · rename_i none
    rw [none]
    rfl
  · rename_i some
    rw [if_neg (by simpa using some), Part.linesOf_append, Part.linesOf_map_line]
    simp only [String.append_assoc]
    rfl

theorem nestedText_eq (widths : Widths) (page : Nest) (nests : List Nest) :
    nestedText widths page nests = nestedSheet widths page nests := by
  have inside (n : Nest) : Part.linesOf 1 (.gap :: n.nestedParts widths []) =
      "" :: n.nested widths 1 ++ [closing 1] := by
    rw [Part.linesOf, Part.lines, n.linesOf_nestedParts, Part.linesOf, List.append_nil]
    rfl
  rw [nestedText, nestedSheet, Part.text, nestedLines, Part.linesOf_append, Part.linesOf_append,
    linesOf_widthParts, page.linesOf_nestedParts, Part.linesOf_flatMap]
  simp only [inside, List.append_assoc]
  rfl

theorem listedText_eq (widths : Widths) (nests : List Nest) :
    listedText widths nests = listedSheet widths nests := by
  have texts : (nests.map fun n => Part.text (n.listedParts widths)) =
      nests.map fun n => lines (n.listed widths) :=
    List.map_congr_left fun n _ => congrArg lines (n.linesOf_listedParts widths)
  rw [listedText, listedSheet, linesOf_customParts, texts]
  rfl

/-- The nest of a rule holds the media rules of its class. -/
def nestOf (s : StyleSheet) (rule : StyleRule) : Nest := ⟨rule, s.mediaOf rule.className⟩

theorem nesting {s : StyleSheet} (distinct : (s.rules.map (·.className)).Nodup)
    (known : ∀ pair ∈ s.mediaRules, pair.2.className ∈ s.rules.map (·.className)) :
    s.Nesting (s.rules.map s.nestOf) where
  rules := by
    rw [List.map_map]
    exact List.map_id _
  distinct := by
    rw [List.map_map]
    exact distinct
  inner := by
    intro n member
    obtain ⟨rule, -, rfl⟩ := List.mem_map.mp member
    exact s.mediaOf_eq_filter rule.className
  every := by
    have taken := perm_flatMap_filter distinct known
    rw [List.flatMap_map] at taken ⊢
    simpa only [nestOf, mediaOf_eq_filter] using taken

theorem scss_eq {s : StyleSheet} {page : StyleRule} {rules : List StyleRule}
    (held : s.rules = page :: rules) :
    s.scss = nestedText s.widths (s.nestOf page) (rules.map s.nestOf) := by
  unfold scss nestedText nestedLines nestedRules
  rw [held, List.flatMap_map]
  simp only [List.append_assoc]
  rfl

theorem postcss_eq (s : StyleSheet) : s.postcss = listedText s.widths (s.rules.map s.nestOf) := by
  unfold postcss listedText
  rw [List.map_map]
  rfl

/-- Where everything declares something, the flat sheet leaves nothing out. -/
theorem css_eq {s : StyleSheet} (given : s.rules ≠ [])
    (rules : ∀ r ∈ s.rules, r.declarations ≠ [])
    (media : ∀ m ∈ s.media, m.rules ≠ [] ∧ ∀ r ∈ m.rules, r.declarations ≠ []) :
    s.css = flatText s.rules s.media := by
  have effective : ∀ m ∈ s.media, m.effective = m.rules := by
    intro m member
    refine List.filter_eq_self.mpr fun r inside => ?_
    simpa [StyleRule.declaresNothing] using (media m member).2 r inside
  have allRules : s.rules.filter (fun r => !r.declaresNothing) = s.rules := by
    refine List.filter_eq_self.mpr fun r inside => ?_
    simpa [StyleRule.declaresNothing] using rules r inside
  have allMedia : s.media.filter (fun m => !m.effective.isEmpty) = s.media := by
    refine List.filter_eq_self.mpr fun m member => ?_
    rw [effective m member]
    simpa using (media m member).1
  have blocks : s.media.map MediaBlock.flatLines = s.media.map mediaLines := by
    refine List.map_congr_left fun m member => ?_
    rw [MediaBlock.flatLines, effective m member, mediaLines]
  unfold css flatText
  rw [allRules, allMedia, ← blocks]
  simp [given]

end StyleSheet

namespace Schema

variable {schema : Schema}

theorem rootDeclarations_ne_nil (schema : Schema) : schema.rootDeclarations ≠ [] := by
  unfold rootDeclarations LayoutStrategy.displayDeclarations
  split <;> simp

theorem sectionDeclarations_ne_nil (schema : Schema) (sec : Section) :
    schema.sectionDeclarations sec ≠ [] := by
  have kept (layers : List LayerRule) (made : Declarations) (some : made ≠ []) :
      layers.foldl (fun made layer => Fields.putAll made layer.declarations) made ≠ [] := by
    induction layers generalizing made with
    | nil => exact some
    | cons layer rest ih => exact ih _ (Fields.putAll_ne_nil some _)
  refine kept _ _ ?_
  unfold layoutDeclarations
  cases sec.layout <;> simp

/-- Every media block has a rule, and each of its rules declares something, without a comment. -/
theorem media_effective {classOf : Section → String} {root : String} {comments : Bool}
    {m : MediaBlock} (h : m ∈ (schema.styleSheet classOf root comments).media) :
    m.rules ≠ [] ∧ ∀ r ∈ m.rules, r.declarations ≠ [] ∧ r.comment = none := by
  obtain ⟨rule, -, built⟩ := List.mem_filterMap.mp h
  unfold mediaBlock? at built
  split at built
  · cases built
  · dsimp only at built
    split at built
    · cases built
    · rename_i something
      cases built
      constructor
      · simpa using something
      · intro r member
        obtain ⟨entry, kept, rfl⟩ := List.mem_map.mp member
        exact ⟨by simpa using (List.mem_filter.mp kept).2, rfl⟩

/-- The flat sheet of a schema leaves nothing out. -/
theorem css_styleSheet (schema : Schema) (classOf : Section → String) (root : String)
    (comments : Bool) :
    (schema.styleSheet classOf root comments).css =
      StyleSheet.flatText (schema.styleSheet classOf root comments).rules
        (schema.styleSheet classOf root comments).media := by
  refine StyleSheet.css_eq (List.cons_ne_nil _ _) ?_ ?_
  · intro r member
    rcases List.mem_cons.mp member with rfl | later
    · exact schema.rootDeclarations_ne_nil
    · obtain ⟨sec, -, rfl⟩ := List.mem_map.mp later
      exact schema.sectionDeclarations_ne_nil sec
  · intro m member
    obtain ⟨given, each⟩ := media_effective member
    exact ⟨given, fun r inside => (each r inside).1⟩

/-- The classes of the rules of a valid schema are all different. -/
theorem nodup_ruleClasses (distinct : schema.sectionIds.Nodup) (style : ClassStyle) {root : String}
    {reserved : List String} (held : root ∈ reserved) (comments : Bool) :
    ((schema.styleSheet (classIn (sectionClasses style.toClass reserved schema.sectionIds)) root
      comments).rules.map (·.className)).Nodup := by
  let classOf := classIn (sectionClasses style.toClass reserved schema.sectionIds)
  show (root :: (schema.sections.map (schema.sectionRule classOf comments)).map
    (·.className)).Nodup
  rw [List.map_map, List.nodup_cons]
  constructor
  · intro again
    obtain ⟨sec, listed, same⟩ := List.mem_map.mp again
    refine classIn_notMem_reserved distinct style reserved listed ?_
    rwa [← same] at held
  · refine (List.Nodup.of_map _ distinct).map_on ?_
    intro sec listed other again same
    exact classIn_inj distinct style reserved again listed same

end Schema

namespace StyleSheet

/-- The nested sheets of a valid schema carry the rules of the flat one. The flat sheet writes every
rule and then every media rule, in order; the two others write nests of the same rules, in which
every media rule stands once, inside the rule of its class, after those that the flat sheet writes
before it for this class. -/
theorem nests_carry_flat {schema : Schema} {report : Report}
    (reported : schema.validate = .ok report) (valid : report.valid = true) (style : ClassStyle)
    {root : String} {reserved : List String} (held : root ∈ reserved) {comments : Bool}
    {s : StyleSheet}
    (sheet : schema.styleSheet (Schema.classIn
      (sectionClasses style.toClass reserved schema.sectionIds)) root comments = s) :
    s.css = flatSheet s.rules s.media ∧
      ∃ page nests, s.Nesting (page :: nests) ∧ s.scss = nestedSheet s.widths page nests ∧
        s.postcss = listedSheet s.widths (page :: nests) := by
  have sound := Schema.sound_of_reported reported valid
  have distinct := Schema.nodup_ruleClasses sound.sectionsDistinct style held comments
  rw [sheet] at distinct
  have rules : s.rules = schema.rootRule root comments :: schema.sections.map (schema.sectionRule
      (Schema.classIn (sectionClasses style.toClass reserved schema.sectionIds)) comments) := by
    rw [← sheet]
    rfl
  have known : ∀ pair ∈ s.mediaRules, pair.2.className ∈ s.rules.map (·.className) := by
    intro pair member
    obtain ⟨m, block, inside⟩ := List.mem_flatMap.mp member
    obtain ⟨r, listed, rfl⟩ := List.mem_map.mp inside
    rw [← sheet] at block
    obtain ⟨sec, listed, same⟩ := (Schema.mem_media block).2 r listed
    rw [rules, ← same]
    exact List.mem_map_of_mem (List.mem_cons_of_mem _ (List.mem_map_of_mem listed))
  refine ⟨?_, _, _, ?_, (scss_eq rules).trans (nestedText_eq _ _ _), ?_⟩
  · rw [← flatText_eq, ← sheet]
    exact Schema.css_styleSheet _ _ _ _
  · have made := nesting distinct known
    rwa [rules] at made
  · have made := s.postcss_eq.trans (listedText_eq _ _)
    rwa [rules] at made

/-- A page with a rule for all sections, one that comes back to the first of them, and one about a
section that is not there. -/
def regroupedPage : Schema where
  sections := [{ id := "hero", name := "Hero", type := "hero", layout := .flex },
    { id := "he ro", name := "Grid", type := "content", layout := .grid }]
  responsiveRules := [
    { breakpoint := "md", rules := [{ target := "*", gap := some 8 }] },
    { breakpoint := "lg", rules := [{ target := "footer", hidden := some true }] },
    { breakpoint := "sm", rules := [{ target := "hero", hidden := some true }] }]

def regroupedSheet : StyleSheet :=
  regroupedPage.styleSheet (Schema.classIn
    (sectionClasses ClassStyle.kebab.toClass ["page"] regroupedPage.sectionIds)) "page" true

theorem regroupedSheet_nests :
    regroupedSheet.mediaRules.map (fun pair => (pair.1.label, pair.2.className)) =
        [("md", "hero"), ("md", "he-ro"), ("sm", "hero")] ∧
      regroupedSheet.css = flatSheet regroupedSheet.rules regroupedSheet.media ∧
      ∃ page nests, regroupedSheet.Nesting (page :: nests) ∧
        regroupedSheet.scss = nestedSheet regroupedSheet.widths page nests ∧
        regroupedSheet.postcss = listedSheet regroupedSheet.widths (page :: nests) := by
  refine ⟨by decide, ?_⟩
  have reported : ∃ report, regroupedPage.validate = .ok report ∧ report.valid = true :=
    ⟨_, rfl, rfl⟩
  obtain ⟨report, reported, valid⟩ := reported
  exact nests_carry_flat reported valid .kebab List.mem_cons_self rfl

end StyleSheet

end DesignToCode
