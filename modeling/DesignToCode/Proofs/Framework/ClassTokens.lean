import DesignToCode.Framework.Lowering
import DesignToCode.Proofs.Framework.Utilities
import DesignToCode.Proofs.Markup.Carriers
import DesignToCode.Proofs.Text.Words
import DesignToCode.Schema.Validation

set_option autoImplicit false

namespace DesignToCode

open DesignToCode.Text

/-- A kind of white space, such as that of markup: spaces and other blanks, if not all of them. -/
structure IsWhite (white : Char → Bool) : Prop where
  space : white ' ' = true
  blank : ∀ c, white c = true → isBlank c = true

theorem isWhite_isBlank : IsWhite isBlank := ⟨rfl, fun _ blank => blank⟩

/-- A text that white space does not part, and that is there at all. -/
def IsToken (white : Char → Bool) (name : String) : Prop :=
  name ≠ "" ∧ ∀ c ∈ name.toList, white c = false

instance (white : Char → Bool) (name : String) : Decidable (IsToken white name) :=
  @instDecidableAnd _ _ inferInstance (List.decidableBAll _ _)

/-- The words of the class attribute of an element. -/
def Node.classWords (white : Char → Bool) (node : Node) : List (List Char) :=
  wordsBy (!white ·) (" ".intercalate node.classes).toList

variable {white : Char → Bool}

theorem IsWhite.of_isBlank (kind : IsWhite white) {c : Char} (h : isBlank c = false) :
    white c = false := by
  cases found : white c with
  | false => rfl
  | true => exact absurd (kind.blank c found) (by simp [h])

theorem IsToken.of_isBlank {name : String} (kind : IsWhite white) (h : IsToken isBlank name) :
    IsToken white name :=
  ⟨h.1, fun c member => kind.of_isBlank (h.2 c member)⟩

/-- White space parts joined classes again exactly when each of them is one word. -/
theorem wordsBy_intercalate_iff (kind : IsWhite white) (names : List String) :
    wordsBy (!white ·) (" ".intercalate names).toList = names.map String.toList ↔
      ∀ name ∈ names, IsToken white name := by
  constructor
  · intro same name member
    have word : name.toList ∈ wordsBy (!white ·) (" ".intercalate names).toList :=
      same ▸ List.mem_map_of_mem member
    obtain ⟨given, clean⟩ := mem_wordsBy word
    refine ⟨?_, fun c inside => by simpa using clean c inside⟩
    rintro rfl
    exact given rfl
  · intro tokens
    have single {name : String} (token : IsToken white name) :
        wordsBy (!white ·) name.toList = [name.toList] := by
      refine wordsBy_of_all ?_ fun c inside => by simpa using token.2 c inside
      intro empty
      exact token.1 (String.toList_inj.mp (empty.trans String.toList_empty.symm))
    induction names with
    | nil => rfl
    | cons name rest ih =>
      obtain ⟨first, later⟩ := List.forall_mem_cons.mp tokens
      cases rest with
      | nil => simpa using single first
      | cons next more =>
        have joined : (" ".intercalate (name :: next :: more)).toList =
            name.toList ++ ' ' :: (" ".intercalate (next :: more)).toList := by
          simp
        have out : (fun c => !white c) ' ' = false := by simp [kind.space]
        rw [joined, wordsBy_append_gap out, single first, ih later]
        rfl

theorem isToken_append_iff {front : String} (first : IsToken white front) (back : String) :
    IsToken white (front ++ back) ↔ ∀ c ∈ back.toList, white c = false := by
  have given : front ++ back ≠ "" := by
    intro empty
    have nothing := congrArg String.toList empty
    rw [String.toList_append, String.toList_empty, List.append_eq_nil_iff] at nothing
    exact first.1 (String.toList_inj.mp (nothing.1.trans String.toList_empty.symm))
  rw [IsToken, String.toList_append, List.forall_mem_append, and_iff_right given,
    and_iff_right first.2]

namespace Tailwind

/-- A text that stays one word between brackets: inside, it has no white space but spaces. -/
def IsCompact (white : Char → Bool) (value : String) : Prop :=
  ∀ c ∈ trimmed value.toList, white c = true → c = ' '

instance (white : Char → Bool) (value : String) : Decidable (IsCompact white value) :=
  List.decidableBAll _ _

theorem isBlank_of_mem_repr_nat {n : Nat} : ∀ c ∈ n.repr.toList, isBlank c = false :=
  fun _ member => isBlank_of_isDigit (isDigit_of_mem_repr member)

theorem isBlank_of_mem_repr_int {i : Int} : ∀ c ∈ i.repr.toList, isBlank c = false := by
  intro c member
  rcases mem_repr_int member with rfl | digit
  · rfl
  · exact isBlank_of_isDigit digit

/-- Between the brackets stand the characters of a value, with an underscore for each space. -/
theorem forall_mem_arbitrary_iff (kind : IsWhite white) (value : String) :
    (∀ c ∈ (arbitrary value).toList, white c = false) ↔ IsCompact white value := by
  have mark {c : Char} (plain : isBlank c = false) : white c = false := kind.of_isBlank plain
  have each (c : Char) :
      white (if c = ' ' then '_' else c) = false ↔ (white c = true → c = ' ') := by
    by_cases space : c = ' '
    · simp [space, mark (c := '_') (by decide)]
    · simp [space]
  have chars : (arbitrary value).toList =
      '[' :: ((trimmed value.toList).map (fun c => if c = ' ' then '_' else c) ++ [']']) := by
    rw [arbitrary, String.toList_ofList, List.cons_append]
  rw [chars, List.forall_mem_cons, List.forall_mem_append, and_iff_right (mark (by decide)),
    List.forall_mem_map]
  simp only [each]
  exact and_iff_left (List.forall_mem_singleton.mpr (mark (by decide)))

theorem isBlank_of_mem_arbitrary {value : String} (clean : ∀ c ∈ value.toList, isBlank c = false) :
    ∀ c ∈ (arbitrary value).toList, isBlank c = false := by
  refine (forall_mem_arbitrary_iff isWhite_isBlank value).mpr ?_
  intro c member blank
  rw [trimmed_of_all clean] at member
  rw [clean c member] at blank
  cases blank

theorem isBlank_of_mem_pixels {n : Nat} : ∀ c ∈ (pixels n).toList, isBlank c = false := by
  have shape : (pixels n).toList = n.repr.toList ++ "px".toList := by simp [pixels]
  rw [shape, List.forall_mem_append]
  exact ⟨isBlank_of_mem_repr_nat, forall_mem_of_all (by decide)⟩

theorem isBlank_of_mem_spacing {gap : Nat} : ∀ c ∈ (spacing gap).toList, isBlank c = false := by
  unfold spacing spacingAs
  dsimp only
  split
  · exact isBlank_of_mem_repr_int
  · exact isBlank_of_mem_arbitrary isBlank_of_mem_pixels

theorem isToken_gapClass (gap : Nat) : IsToken isBlank (gapClass gap) :=
  (isToken_append_iff (by decide) _).mpr isBlank_of_mem_spacing

theorem isToken_columnsClass (count : Nat) : IsToken isBlank (columnsClass count) := by
  have shape : columnsClass count = "grid-cols-" ++ count.repr := by simp [columnsClass]
  rw [shape]
  exact (isToken_append_iff (by decide) _).mpr isBlank_of_mem_repr_nat

theorem isToken_directionClass (direction : Option String) :
    IsToken isBlank (directionClass direction) := by
  unfold directionClass
  split <;> decide

theorem isToken_stackClass (z : Int) : IsToken isBlank (stackClass z) := by
  unfold stackClass stackClassAs
  split
  · exact (isToken_append_iff (by decide) _).mpr isBlank_of_mem_repr_int
  · exact (isToken_append_iff (by decide) _).mpr (isBlank_of_mem_arbitrary isBlank_of_mem_repr_int)

theorem isToken_of_mem_layoutClasses {layout : Layout} {columns : Option Columns}
    {direction : Option String} {gap : Nat} {name : String}
    (h : name ∈ layoutClasses layout columns direction gap) : IsToken isBlank name := by
  cases layout with
  | grid =>
    simp only [layoutClasses, List.mem_cons, List.not_mem_nil, or_false] at h
    rcases h with rfl | rfl | rfl
    · decide
    · exact isToken_columnsClass _
    · exact isToken_gapClass gap
  | flex =>
    simp only [layoutClasses, List.mem_cons, List.not_mem_nil, or_false] at h
    rcases h with rfl | rfl | rfl
    · decide
    · exact isToken_directionClass direction
    · exact isToken_gapClass gap
  | block =>
    obtain rfl := List.mem_singleton.mp h
    decide

theorem isToken_of_mem_changeClasses {change : ResponsiveChange} {sec : Section} {schema : Schema}
    {name : String} (h : name ∈ changeClasses change sec schema) : IsToken isBlank name := by
  unfold changeClasses at h
  split at h
  · obtain rfl := List.mem_singleton.mp h
    decide
  split at h
  · exact isToken_of_mem_layoutClasses h
  rcases List.mem_append.mp h with h | gap
  · rcases List.mem_append.mp h with columns | direction
    · obtain ⟨n, -, rfl⟩ := Option.map_eq_some_iff.mp (Option.mem_toList.mp columns)
      exact isToken_columnsClass _
    · obtain ⟨d, -, rfl⟩ := Option.map_eq_some_iff.mp (Option.mem_toList.mp direction)
      exact isToken_directionClass _
  · obtain ⟨n, -, rfl⟩ := Option.map_eq_some_iff.mp (Option.mem_toList.mp gap)
    exact isToken_gapClass n

theorem isToken_widthMark {rule : ResponsiveRule} {width : Nat}
    (resolved : rule.resolvedMinWidth = some width) : IsToken isBlank (widthMark rule) := by
  rcases widthMark_cases resolved with ⟨known, mark⟩ | mark
  · have all : ∀ entry ∈ breakpoints, IsToken isBlank (entry.1 ++ ":") := by decide
    rw [mark]
    exact all _ known
  · have shape : s!"min-[{width}px]:" = "min-[" ++ (width.repr ++ "px]:") := by
      simp [String.append_assoc]
    rw [mark, shape, isToken_append_iff (by decide), String.toList_append, List.forall_mem_append]
    exact ⟨isBlank_of_mem_repr_nat, forall_mem_of_all (by decide)⟩

theorem isToken_of_mem_ruleClasses {rule : ResponsiveRule} {sec : Section} {schema : Schema}
    {name : String} (h : name ∈ ruleClasses schema sec rule) : IsToken isBlank name := by
  unfold ruleClasses at h
  cases resolved : rule.resolvedMinWidth with
  | none => simp [resolved] at h
  | some width =>
    rw [resolved, Option.isNone_some, if_neg Bool.false_ne_true] at h
    obtain ⟨change, -, inside⟩ := List.mem_flatMap.mp h
    obtain ⟨plain, member, rfl⟩ := List.mem_map.mp inside
    exact (isToken_append_iff (isToken_widthMark resolved) plain).mpr
      (isToken_of_mem_changeClasses member).2

theorem isBlank_of_staysInAddress {c : Char} (h : staysInAddress c = true) : isBlank c = false := by
  rcases Bool.or_eq_true_iff.mp h with letter | mark
  · exact of_ascii_table (P := fun c => isAsciiAlphanumeric c = true → isBlank c = false)
      (by decide) (toNat_lt_of_isAsciiAlphanumeric letter) letter
  · have all : ∀ c ∈ "_.-~:/?#@!$&()*+,;=%".toList, isBlank c = false :=
      forall_mem_of_all (by decide)
    exact all c (by simpa using mark)

theorem isBlank_of_mem_percentByte (b : UInt8) : ∀ c ∈ percentByte b, isBlank c = false := by
  have digit : ∀ n < 16, isBlank (hexDigit n).toUpper = false := by decide
  have digits : hexDigits 2 b.toNat =
      [hexDigit (b.toNat / 16 % 16), hexDigit (b.toNat % 16)] := rfl
  unfold percentByte
  rw [digits]
  simp only [List.map_cons, List.map_nil, List.forall_mem_cons]
  exact ⟨by decide, digit _ (Nat.mod_lt _ (by decide)), digit _ (Nat.mod_lt _ (by decide)),
    List.forall_mem_nil _⟩

/-- An address has no blanks once it is percent-encoded. -/
theorem isBlank_of_mem_classAddress (url : String) :
    ∀ c ∈ (classAddress url).toList, isBlank c = false := by
  unfold classAddress percentEncode percentEncoded
  rw [String.toList_ofList, List.forall_mem_flatMap]
  intro c _
  unfold percentChar
  split
  · rename_i stays
    exact List.forall_mem_singleton.mpr (isBlank_of_staysInAddress stays)
  · exact List.forall_mem_flatMap.mpr fun b _ => isBlank_of_mem_percentByte b

theorem isToken_imageClass (url : String) :
    IsToken isBlank ("bg-" ++ arbitrary s!"url('{classAddress url}')") := by
  refine (isToken_append_iff (by decide) _).mpr (isBlank_of_mem_arbitrary ?_)
  have shape : (s!"url('{classAddress url}')").toList =
      "url('".toList ++ ((classAddress url).toList ++ "')".toList) := by
    simp
  rw [shape, List.forall_mem_append, List.forall_mem_append]
  exact ⟨forall_mem_of_all (by decide), isBlank_of_mem_classAddress url,
    forall_mem_of_all (by decide)⟩

/-- A class of a value between brackets is one word exactly if the value stays one there. -/
theorem isToken_bracketed_iff (kind : IsWhite white) {front : String}
    (first : IsToken isBlank front) (value : String) :
    IsToken white (front ++ arbitrary value) ↔ IsCompact white value := by
  rw [isToken_append_iff (first.of_isBlank kind), forall_mem_arbitrary_iff kind]

/-- The texts of a background that come between brackets. -/
def bracketed : BackgroundStrategy.Paint → List String
  | .solid color => [color]
  | .gradient _ first last => [first, last]
  | .image _ => []

theorem isToken_gradientClass (direction : String) :
    IsToken isBlank ("bg-gradient-to-" ++ gradientEnd direction) := by
  refine (isToken_append_iff (by decide) _).mpr ?_
  unfold gradientEnd
  cases found : gradientEnds.lookup (lower (trim direction)) with
  | none => exact forall_mem_of_all (by decide)
  | some ending =>
    have all : ∀ entry ∈ gradientEnds, entry.2.toList.all (isBlank · = false) = true := by decide
    exact forall_mem_of_all (all _ (Fields.mem_of_lookup found))

theorem forall_isToken_paintClasses_iff (kind : IsWhite white) (paint : BackgroundStrategy.Paint) :
    (∀ name ∈ paintClasses paint, IsToken white name) ↔
      ∀ value ∈ bracketed paint, IsCompact white value := by
  cases paint with
  | solid color =>
    simp only [paintClasses, bracketed, List.forall_mem_singleton]
    exact isToken_bracketed_iff kind (by decide) color
  | gradient direction first last =>
    have direct := (isToken_gradientClass direction).of_isBlank kind
    simp only [paintClasses, bracketed, List.forall_mem_cons, List.not_mem_nil, false_imp_iff,
      implies_true, and_true]
    rw [and_iff_right direct, isToken_bracketed_iff kind (by decide),
      isToken_bracketed_iff kind (by decide)]
  | image url =>
    have closed : ∀ name ∈ ["bg-cover", "bg-center"], IsToken isBlank name := by decide
    refine iff_of_true ?_ (List.forall_mem_nil _)
    intro name member
    rcases List.mem_cons.mp member with rfl | later
    · exact (isToken_imageClass url).of_isBlank kind
    · exact (closed name later).of_isBlank kind

/-- The classes of the page are words exactly if the colors of its background stay words between
brackets. -/
theorem forall_isToken_rootClasses_iff (kind : IsWhite white) (schema : Schema) :
    (∀ name ∈ rootClasses schema, IsToken white name) ↔
      ∀ paint ∈ schema.backgroundStrategy.paint?, ∀ value ∈ bracketed paint,
        IsCompact white value := by
  have display : ∀ name ∈ (if schema.layoutStrategy.isGrid then ["grid"] else ["flex", "flex-col"]),
      IsToken isBlank name := by
    split <;> decide
  have alignment : ∀ name ∈ (alignments.lookup schema.layoutStrategy.alignment).toList,
      IsToken isBlank name := by
    intro name member
    have all : ∀ entry ∈ alignments, IsToken isBlank entry.2 := by decide
    exact all _ (Fields.mem_of_lookup (Option.mem_toList.mp member))
  have gap : ∀ name ∈ [gapClass schema.layoutStrategy.gap], IsToken isBlank name :=
    List.forall_mem_singleton.mpr (isToken_gapClass _)
  have plain {names : List String} (all : ∀ name ∈ names, IsToken isBlank name) :
      ∀ name ∈ names, IsToken white name :=
    fun name member => (all name member).of_isBlank kind
  have background : (∀ name ∈ backgroundClasses schema.backgroundStrategy, IsToken white name) ↔
      ∀ paint ∈ schema.backgroundStrategy.paint?, ∀ value ∈ bracketed paint,
        IsCompact white value := by
    unfold backgroundClasses
    cases schema.backgroundStrategy.paint? with
    | none => simp
    | some paint => simpa using forall_isToken_paintClasses_iff kind paint
  unfold rootClasses
  simp only [List.forall_mem_append]
  refine (and_iff_left (plain ?stacking)).trans ((and_iff_right
    ⟨⟨⟨plain display, plain gap⟩, plain alignment⟩, plain ?width⟩).trans background)
  case stacking =>
    split
    · exact List.forall_mem_nil _
    · simp only [List.forall_mem_cons]
      exact ⟨by decide, isToken_stackClass _, List.forall_mem_nil _⟩
  case width =>
    split
    · exact List.forall_mem_nil _
    · simp only [List.forall_mem_cons]
      refine ⟨by decide, by decide, ?_, List.forall_mem_nil _⟩
      exact (isToken_append_iff (by decide) _).mpr (isBlank_of_mem_arbitrary isBlank_of_mem_pixels)

/-- The classes of a section are words exactly if its color stays one between brackets and the
positions of its layers are words. -/
theorem forall_isToken_sectionClassList_iff (kind : IsWhite white) (schema : Schema)
    (sec : Section) :
    (∀ name ∈ sectionClassList schema sec, IsToken white name) ↔
      (∀ color ∈ schema.overrideOf sec, IsCompact white color) ∧
        ∀ layer ∈ schema.layersOf sec, IsToken white layer.position := by
  have base : ∀ name ∈ layoutClasses sec.layout sec.columns sec.direction (schema.gapOf sec),
      IsToken white name :=
    fun name member => (isToken_of_mem_layoutClasses member).of_isBlank kind
  have rules : ∀ name ∈ schema.responsiveRules.flatMap (ruleClasses schema sec),
      IsToken white name := by
    intro name member
    obtain ⟨rule, -, inside⟩ := List.mem_flatMap.mp member
    exact (isToken_of_mem_ruleClasses inside).of_isBlank kind
  have layer (l : LayerRule) :
      (∀ name ∈ layerClasses l, IsToken white name) ↔ IsToken white l.position := by
    have top : ∀ name ∈ (if l.staysAtTop then ["top-0"] else []), IsToken isBlank name := by
      split <;> decide
    rw [layerClasses, List.forall_mem_cons, List.forall_mem_append, List.forall_mem_singleton]
    refine and_iff_left ⟨fun name member => (top name member).of_isBlank kind, ?_⟩
    exact (isToken_stackClass l.zIndex).of_isBlank kind
  have color : (∀ name ∈ ((schema.overrideOf sec).map fun color => "bg-" ++ arbitrary color).toList,
      IsToken white name) ↔ ∀ color ∈ schema.overrideOf sec, IsCompact white color := by
    cases schema.overrideOf sec with
    | none => simp
    | some color => simpa using isToken_bracketed_iff kind (by decide) color
  unfold sectionClassList
  simp only [List.mem_eraseDups, List.forall_mem_append]
  rw [and_iff_left rules, and_iff_right base, color, List.forall_mem_flatMap]
  simp only [layer]

end Tailwind

namespace Framework

open Tailwind

variable {schema : Schema} {comments : Bool} {root : Node}

/-- The class attribute of the page is parted into its classes exactly if the colors of the
background have no white space but spaces inside; that of a section, exactly if its color has none
either and each position of its layers is one word. -/
theorem classWords_iff (kind : IsWhite white)
    (drawn : Framework.tailwind.tree schema comments = .ok root) :
    ∃ nodes, root = .element "div" [("data-schema-version", schema.info.schemaVersion)]
        (rootClasses schema) nodes none ∧
      (root.classWords white = (rootClasses schema).map String.toList ↔
        ∀ paint ∈ schema.backgroundStrategy.paint?, ∀ value ∈ bracketed paint,
          IsCompact white value) ∧
      List.Forall₂ (fun sec node =>
        node.attributes = [(Node.sectionAttribute, sec.id)] ∧
        node.classes = sectionClassList schema sec ∧
        (node.classWords white = (sectionClassList schema sec).map String.toList ↔
          (∀ color ∈ schema.overrideOf sec, IsCompact white color) ∧
            ∀ layer ∈ schema.layersOf sec, IsToken white layer.position))
        schema.sections nodes := by
  obtain ⟨nodes, sections, rfl⟩ := Schema.exists_of_page drawn
  refine ⟨nodes, rfl, ?_, sections.imp ?_⟩
  · exact (wordsBy_intercalate_iff kind _).trans (forall_isToken_rootClasses_iff kind schema)
  · intro sec node made
    obtain ⟨classes, attributes⟩ := Schema.classes_of_sectionNode made
    refine ⟨attributes, classes, ?_⟩
    rw [Node.classWords, classes]
    exact (wordsBy_intercalate_iff kind _).trans
      (forall_isToken_sectionClassList_iff kind schema sec)

/-- A page whose color has spaces inside, with a section that stays in its place. -/
def spacedPage (color position : String) : Schema where
  sections := [{ id := "top", name := "Top", type := "section" }]
  backgroundStrategy := { type := "solid", color := some color }
  layering := { layers := [{ target := "top", zIndex := 10, position := position }] }

theorem spacedPage_classWords :
    ∃ root, Framework.tailwind.tree (spacedPage " rgb(0, 0, 0) " "sticky") false = .ok root ∧
      root.classWords isBlank =
        ["flex", "flex-col", "gap-4", "items-stretch", "bg-[rgb(0,_0,_0)]"].map String.toList := by
  have drawn : Framework.tailwind.tree (spacedPage " rgb(0, 0, 0) " "sticky") false = .ok _ := rfl
  obtain ⟨nodes, -, page, -⟩ := classWords_iff isWhite_isBlank drawn
  refine ⟨_, drawn, (page.mpr ?_).trans (by decide)⟩
  intro paint given value inside
  obtain rfl := Option.some.inj (Option.mem_def.mp given)
  obtain rfl := List.mem_singleton.mp inside
  decide

/-- Of a schema without errors, the class attribute of the page need not be parted into its classes:
a tab in a color stays in its class. -/
theorem not_forall_classWords :
    ¬ ∀ (schema : Schema) (report : Report), schema.validate = .ok report → report.valid = true →
      ∀ (comments : Bool) (root : Node), Framework.tailwind.tree schema comments = .ok root →
        root.classWords isBlank = root.classes.map String.toList := by
  intro always
  have same := always (spacedPage "rgb(0,\t0, 0)" "sticky") _ rfl rfl false _ rfl
  revert same
  decide

end Framework

end DesignToCode
