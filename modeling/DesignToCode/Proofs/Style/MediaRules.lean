import DesignToCode.Schema.Validation
import DesignToCode.Proofs.Style.Widths

set_option autoImplicit false

namespace DesignToCode

open DesignToCode.Text

namespace Schema

theorem mem_changesOf {schema : Schema} {rule : ResponsiveRule} {change : ResponsiveChange}
    {sec : Section} (h : (change, sec) ∈ schema.changesOf rule) : sec ∈ schema.sections := by
  obtain ⟨other, -, pair⟩ := List.mem_flatMap.mp h
  obtain ⟨_, reached, same⟩ := List.mem_map.mp pair
  cases same
  unfold sectionsFor at reached
  split at reached
  · exact reached
  · exact List.mem_reverse.mp (List.mem_of_find?_eq_some (Option.mem_toList.mp reached))

/-- A rule declares for classes of sections only. -/
theorem exists_section_of_mem_mediaDeclarations {schema : Schema} {classOf : Section → String}
    {rule : ResponsiveRule} {entry : String × Declarations}
    (h : entry ∈ schema.mediaDeclarations classOf rule) :
    ∃ sec ∈ schema.sections, classOf sec = entry.1 := by
  have invariant (pairs : List (ResponsiveChange × Section))
      (known : ∀ pair ∈ pairs, pair.2 ∈ schema.sections) (made : List (String × Declarations))
      (held : ∀ e ∈ made, ∃ sec ∈ schema.sections, classOf sec = e.1) :
      ∀ e ∈ pairs.foldl (fun made pair =>
          declareMore made (classOf pair.2) (pair.1.declarations pair.2 schema)) made,
        ∃ sec ∈ schema.sections, classOf sec = e.1 := by
    induction pairs generalizing made with
    | nil => exact held
    | cons pair rest ih =>
      refine ih (fun p later => known p (List.mem_cons_of_mem pair later)) _ ?_
      intro e member
      rcases Fields.mem_of_mem_put member with own | before
      · exact ⟨pair.2, known pair List.mem_cons_self, own.symm⟩
      · exact held e before
  refine invariant _ (fun pair member => mem_changesOf member) [] (fun e none => ?_) entry h
  cases none

/-- The media rules of a sheet belong to classes that have a rule, and their widths are naturals. -/
theorem mem_media {schema : Schema} {classOf : Section → String} {root : String} {comments : Bool}
    {m : MediaBlock} (h : m ∈ (schema.styleSheet classOf root comments).media) :
    0 ≤ m.minWidth ∧ ∀ r ∈ m.rules, ∃ sec ∈ schema.sections, classOf sec = r.className := by
  obtain ⟨rule, -, built⟩ := List.mem_filterMap.mp h
  unfold mediaBlock? at built
  split at built
  · cases built
  · rename_i width _
    dsimp only at built
    split at built
    · cases built
    · cases built
      refine ⟨Int.natCast_nonneg width, ?_⟩
      intro r member
      obtain ⟨entry, kept, rfl⟩ := List.mem_map.mp member
      exact exists_section_of_mem_mediaDeclarations (List.mem_filter.mp kept).1

end Schema

namespace StyleSheet

/-- A media rule as it stands inside the rule of its class. -/
def innerBlock (head : String → String) (level : Nat) (name : String) (r : StyleRule) :
    List String :=
  ["", opening level (head name)] ++ declarationLines (level + 1) r.declarations ++ [closing level]

/-- The first line of a media rule that goes by a listed width. -/
def listedMedia (name : String) : String := s!"@media (--{name})"

theorem innerBlock_infix {s : StyleSheet} {m : MediaBlock} {r : StyleRule} (h : m ∈ s.media)
    (member : r ∈ m.rules) (head : String → String) (level : Nat) :
    innerBlock head level (widthName s.widths m) r <:+: s.innerLines head level r.className := by
  have pair : (m, r) ∈ s.mediaOf r.className :=
    List.mem_flatMap.mpr ⟨m, h, List.mem_map.mpr ⟨r, List.mem_filter.mpr ⟨member, by simp⟩, rfl⟩⟩
  rw [innerLines, List.flatMap_def]
  exact List.infix_of_mem_flatten (List.mem_map.mpr ⟨(m, r), pair, rfl⟩)

theorem nestedRule_infix {s : StyleSheet} {rule : StyleRule} (h : rule ∈ s.rules) :
    ∃ level, s.nestedRule level rule <:+: s.nestedRules := by
  unfold nestedRules
  split
  · rename_i none
    rw [none] at h
    cases h
  · rename_i root children held
    rw [held] at h
    rcases List.mem_cons.mp h with rfl | child
    · refine ⟨0, List.infix_append_of_infix_left (List.prefix_append _ _).isInfix⟩
    · refine ⟨1, List.infix_append_of_infix_left (List.infix_append_of_infix_right ?_)⟩
      have whole := List.infix_of_mem_flatten
        (List.mem_map.mpr ⟨rule, child, rfl⟩ :
          ("" :: s.nestedRule 1 rule ++ [closing 1]) ∈
            children.map fun child => "" :: s.nestedRule 1 child ++ [closing 1])
      rw [← List.flatMap_def] at whole
      exact List.IsInfix.trans ⟨[""], [closing 1], rfl⟩ whole

/-- The nested sheets define a name with this width and with no other. -/
def DefinedAs (widths : Widths) (name : String) (width : Int) : Prop :=
  ∀ other, (mapLine name other ∈ widthMap widths ↔ other = width) ∧
    (customLine name other ∈ customMedia widths ↔ other = width)

theorem DefinedAs.unique {widths : Widths} {name : String} {v w : Int}
    (first : DefinedAs widths name v) (second : DefinedAs widths name w) : v = w :=
  (second v).1.mp ((first v).1.mpr rfl)

theorem definedAs_of_lookup {s : StyleSheet} {name : String} {width : Int}
    (h : s.widths.lookup name = some width) : DefinedAs s.widths name width := by
  have clean := clean_of_mem_widths (mem_widths_iff.mpr h)
  intro other
  rw [mapLine_mem_iff clean, customLine_mem_iff clean, h, Option.some.injEq]
  exact ⟨eq_comm, eq_comm⟩

/-- Both names of a block are taken only if the label of an earlier block reads like the key of this
one with its width behind. -/
theorem Crowded.exists_key_eq {before : List MediaBlock} {m : MediaBlock}
    (natural : 0 ≤ m.minWidth) (naturals : ∀ b ∈ before, 0 ≤ b.minWidth) (h : Crowded before m) :
    ∃ b ∈ before, b.key = m.widthKey ∧ b.minWidth ≠ m.minWidth := by
  obtain ⟨other, found, differs⟩ := isTaken_iff.mp h.2
  rcases lookup_foldl_nameWidth found with empty | ⟨b, member, rfl, asked⟩
  · cases empty
  · refine ⟨b, member, ?_, differs⟩
    rcases asked with short | long
    · exact short.symm
    · have texts : m.widthKey.toList = b.widthKey.toList := by rw [long]
      have noDash {i : Int} (h : 0 ≤ i) : '-' ∉ i.repr.toList := by
        rw [Int.repr_eq_if, if_pos h]
        exact dash_notMem_repr _
      rw [MediaBlock.toList_widthKey, MediaBlock.toList_widthKey,
        mark_append_inj (noDash natural) (noDash (naturals b member)), String.toList_inj,
        String.toList_inj] at texts
      exact absurd (repr_int_injective texts.2).symm differs

/-- A media rule stands in both nested sheets under the name of its block. The name is defined
there, and with the width of the block exactly when one of the two names that the block asks for was
free or its own. -/
theorem mediaRule_ownWidth_iff {schema : Schema} {classOf : Section → String} {root : String}
    {comments : Bool} {s : StyleSheet} (sheet : schema.styleSheet classOf root comments = s)
    {before after : List MediaBlock} {m : MediaBlock} (split : s.media = before ++ m :: after) :
    (∀ r ∈ m.rules,
      (∃ level, innerBlock respond level (widthName s.widths m) r <:+: s.nestedRules) ∧
        ∃ rule ∈ s.rules,
          innerBlock listedMedia 1 (widthName s.widths m) r <:+: s.ruleWithMedia rule) ∧
      (∃ width, DefinedAs s.widths (widthName s.widths m) width) ∧
      (DefinedAs s.widths (widthName s.widths m) m.minWidth ↔ ¬ Crowded before m) ∧
      (Crowded before m → ∃ b ∈ before, b.key = m.widthKey ∧ b.minWidth ≠ m.minWidth) := by
  have block (b : MediaBlock) (h : b ∈ before ++ m :: after) :
      0 ≤ b.minWidth ∧ ∀ r ∈ b.rules, ∃ sec ∈ schema.sections, classOf sec = r.className := by
    rw [← split, ← sheet] at h
    exact Schema.mem_media h
  have here : m ∈ before ++ m :: after := List.mem_append_right _ List.mem_cons_self
  obtain ⟨width, found, own⟩ := lookup_widthName split
  refine ⟨?written, ⟨width, definedAs_of_lookup found⟩, ?own, ?crowded⟩
  case written =>
    intro r member
    obtain ⟨sec, listed, named⟩ := (block m here).2 r member
    have rule : schema.sectionRule classOf comments sec ∈ s.rules := by
      rw [← sheet]
      exact List.mem_cons_of_mem _ (List.mem_map.mpr ⟨sec, listed, rfl⟩)
    have inner (head : String → String) (level : Nat) := innerBlock_infix (s := s) (split ▸ here)
      member head level
    rw [← named] at inner
    constructor
    · obtain ⟨level, whole⟩ := nestedRule_infix rule
      exact ⟨level + 1, ((inner respond (level + 1)).trans (List.suffix_append _ _).isInfix).trans
        whole⟩
    · exact ⟨_, rule, (inner listedMedia 1).trans (List.infix_append _ _ _)⟩
  case own =>
    rw [← own]
    constructor
    · exact (definedAs_of_lookup found).unique
    · rintro rfl
      exact definedAs_of_lookup found
  case crowded =>
    intro crowded
    have naturals : ∀ b ∈ before, 0 ≤ b.minWidth := by
      intro b earlier
      exact (block b (List.mem_append_left _ earlier)).1
    exact crowded.exists_key_eq (block m here).1 naturals

/-- A page whose third rule finds both names of its block taken: its label by the second rule, its
label with the width behind by the first. -/
def crowdedPage : Schema where
  sections := [{ id := "hero", name := "Hero", type := "hero" }]
  responsiveRules := [
    { breakpoint := "md-900", minWidth := some 1000,
      rules := [{ target := "*", hidden := some true }] },
    { breakpoint := "md", rules := [{ target := "*", hidden := some false }] },
    { breakpoint := "md", minWidth := some 900,
      rules := [{ target := "*", layout := some .flex }] }]

def crowdedSheet : StyleSheet := crowdedPage.styleSheet (·.id) "page" false

theorem crowdedSheet_second_block : DefinedAs crowdedSheet.widths "md" 768 := by
  have split : crowdedSheet.media = [_] ++ _ :: [_] := rfl
  exact (mediaRule_ownWidth_iff rfl split).2.2.1.mpr (by decide)

/-- Of a schema without errors, a media rule may still go by the width of another block. -/
theorem not_forall_mediaRule_ownWidth :
    ¬ ∀ (schema : Schema) (report : Report), schema.validate = .ok report → report.valid = true →
      ∀ (classOf : Section → String) (root : String) (comments : Bool),
        ∀ m ∈ (schema.styleSheet classOf root comments).media,
          DefinedAs (schema.styleSheet classOf root comments).widths
            (widthName (schema.styleSheet classOf root comments).widths m) m.minWidth := by
  intro always
  have third : ⟨"md", 900, [⟨"hero", [("display", "flex"), ("flex-direction", "row"),
      ("gap", "16px")], none⟩]⟩ ∈ crowdedSheet.media := .tail _ (.tail _ (.head _))
  have own := always crowdedPage _ rfl rfl (·.id) "page" false _ third
  have written : mapLine "md-900" 900 ∈ widthMap crowdedSheet.widths := (own 900).1.mpr rfl
  revert written
  decide

end StyleSheet

end DesignToCode
