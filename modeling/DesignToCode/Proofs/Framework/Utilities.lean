import Mathlib.Data.List.Basic
import DesignToCode.Framework.Tailwind
import DesignToCode.Proofs.Json.Fields
import DesignToCode.Proofs.Text.Decimal

set_option autoImplicit false

namespace DesignToCode.Tailwind

open DesignToCode.Text

/-- The number that a text holds in front of a given end. -/
def numberBefore? (ending cs : List Char) : Option Nat :=
  let digits := cs.takeWhile Char.isDigit
  if digits ≠ [] ∧ cs.dropWhile Char.isDigit = ending then some (Nat.ofDigitChars 10 digits 0)
  else none

/-- The steps of the scale: all up to twelve, then every second up to sixteen, every fourth up to
sixty-four, and three more. -/
def IsStep (n : Nat) : Prop :=
  n ≤ 12 ∨ n = 14 ∨ (n ≤ 64 ∧ n % 4 = 0) ∨ n = 72 ∨ n = 80 ∨ n = 96

instance (n : Nat) : Decidable (IsStep n) := inferInstanceAs (Decidable (_ ∨ _))

/-- The pixels of a distance: four for each step of the scale, or those between the brackets. -/
def distance? : List Char → Option Nat
  | '[' :: rest => numberBefore? "px]".toList rest
  | cs => ((numberBefore? [] cs).filter fun n => IsStep n).map (4 * ·)

/-- The classes that are words. -/
def words : List (String × String × String) := [
  ("grid", "display", "grid"),
  ("flex", "display", "flex"),
  ("block", "display", "block"),
  ("hidden", "display", "none"),
  ("flex-row", "flex-direction", "row"),
  ("flex-col", "flex-direction", "column")]

/-- The declaration that a class stands for. -/
def utility? (name : String) : Option (String × String) :=
  match name.toList.dropPrefix? "grid-cols-".toList, name.toList.dropPrefix? "gap-".toList with
  | some count, _ =>
    (numberBefore? [] count).map fun n =>
      ("grid-template-columns", s!"repeat({n}, minmax(0, 1fr))")
  | none, some distance => (distance? distance).map fun px => ("gap", s!"{px}px")
  | none, none => words.lookup name

/-- The widths of the framework that go by name. -/
def screens : List (String × Nat) :=
  [("sm", 640), ("md", 768), ("lg", 1024), ("xl", 1280), ("2xl", 1536)]

/-- The width that a mark stands for. -/
def width? (mark : String) : Option Nat :=
  match mark.toList.dropPrefix? "min-[".toList with
  | some rest => numberBefore? "px]:".toList rest
  | none => (screens.find? fun screen => mark == screen.1 ++ ":").map (·.2)

/-- A class behind the mark of a width. -/
def marked? (name : String) : Option (Nat × String × String) :=
  let mark := name.toList.takeWhile (· ≠ ':') ++ [':']
  (width? (String.ofList mark)).bind fun width =>
    (utility? (String.ofList (name.toList.drop mark.length))).map (width, ·)

theorem numberBefore?_repr (n : Nat) (ending : List Char)
    (apart : ending.head?.any Char.isDigit = false) :
    numberBefore? ending (n.repr.toList ++ ending) = some n := by
  have digits : ∀ c ∈ n.repr.toList, c.isDigit = true := fun c => isDigit_of_mem_repr
  have split : ending.takeWhile Char.isDigit = [] ∧ ending.dropWhile Char.isDigit = ending := by
    cases ending with
    | nil => exact ⟨rfl, rfl⟩
    | cons c rest =>
      have other : c.isDigit = false := apart
      exact ⟨by simp [other], by simp [other]⟩
  unfold numberBefore?
  dsimp only
  rw [List.takeWhile_append_of_pos digits, List.dropWhile_append_of_pos digits, split.1, split.2,
    List.append_nil, if_pos ⟨(repr_nat_digits n).1, rfl⟩, Nat.toList_repr,
    Nat.ofDigitChars_ten_toDigits]

theorem numberBefore?_nil_repr (n : Nat) : numberBefore? [] n.repr.toList = some n := by
  have read := numberBefore?_repr n [] rfl
  rwa [List.append_nil] at read

/-- A text behind a mark is what is left once the mark is dropped. -/
theorem dropPrefix?_toList_append (mark rest : String) :
    (mark ++ rest).toList.dropPrefix? mark.toList = some rest.toList := by
  rw [String.toList_append]
  exact List.dropPrefix?_append_of_beq _ BEq.rfl

theorem utility?_columnsClass (n : Nat) :
    utility? (columnsClass n) = some ("grid-template-columns", gridColumns n) := by
  have shape : columnsClass n = "grid-cols-" ++ n.repr := by simp [columnsClass]
  unfold utility?
  rw [shape, dropPrefix?_toList_append]
  dsimp only
  rw [numberBefore?_nil_repr]
  rfl

theorem utility?_directionClass (direction : Option String) :
    utility? (directionClass direction) = some ("flex-direction", flexDirection direction) := by
  unfold directionClass flexDirection
  split <;> rfl

/-- A value without blanks stands between the brackets as it is. -/
theorem toList_arbitrary {value : String} (h : ∀ c ∈ value.toList, isBlank c = false) :
    (arbitrary value).toList = '[' :: (value.toList ++ [']']) := by
  have kept : ∀ c ∈ value.toList, (if c = ' ' then '_' else c) = c := by
    intro c member
    refine if_neg ?_
    rintro rfl
    exact absurd (h ' ' member) (by decide)
  unfold arbitrary
  rw [trimmed_of_all h, List.map_congr_left kept, List.map_id', String.toList_ofList,
    List.cons_append]

theorem isBlank_of_isDigit {c : Char} (h : c.isDigit = true) : isBlank c = false := by
  simp only [Char.isDigit, Bool.and_eq_true, decide_eq_true_eq, ge_iff_le] at h
  have low : 48 ≤ c.toNat := h.1
  have high : c.toNat ≤ 57 := h.2
  simp only [isBlank, Bool.or_eq_false_iff, Bool.and_eq_false_iff, beq_eq_false_iff_ne,
    decide_eq_false_iff_not]
  omega

/-- Every step of the scale that has a class is a step of the framework's scale. -/
theorem isStep_of_mem_spacingSteps {i : Int} (h : i ∈ spacingSteps) : IsStep i.toNat := by
  have all : ∀ step ∈ spacingSteps, IsStep step.toNat := by decide
  exact all i h

theorem distance?_scale {n : Nat} (step : IsStep n) :
    distance? n.repr.toList = some (4 * n) := by
  have read : ((numberBefore? [] n.repr.toList).filter fun n => IsStep n).map (4 * ·) =
      some (4 * n) := by
    rw [numberBefore?_nil_repr]
    simp [step]
  unfold distance?
  split
  · rename_i rest bracket
    have digit : '[' ∈ n.repr.toList := by
      rw [bracket]
      exact List.mem_cons_self
    exact absurd (isDigit_of_mem_repr digit) (by decide)
  · exact read

theorem distance?_arbitrary (n : Nat) :
    distance? (arbitrary (n.repr ++ "px")).toList = some n := by
  have clean : ∀ c ∈ (n.repr ++ "px").toList, isBlank c = false := by
    intro c member
    rw [String.toList_append, List.mem_append] at member
    rcases member with digit | unit
    · exact isBlank_of_isDigit (isDigit_of_mem_repr digit)
    · have all : ("px".toList.all fun c => !isBlank c) = true := by decide
      simpa using List.all_eq_true.mp all c unit
  rw [toList_arbitrary clean, String.toList_append, List.append_assoc]
  exact numberBefore?_repr n "px]".toList rfl

theorem distance?_spacing (gap : Nat) : distance? (spacing gap).toList = some gap := by
  unfold spacing spacingAs
  dsimp only
  split
  · rename_i onScale
    have listed : ((gap / 4 : Nat) : Int) ∈ spacingSteps := by simpa using onScale.2
    have step : IsStep (gap / 4) := isStep_of_mem_spacingSteps listed
    have whole : 4 * (gap / 4) = gap := by omega
    have read := distance?_scale step
    rwa [whole] at read
  · exact distance?_arbitrary gap

theorem utility?_gapClass (gap : Nat) : utility? (gapClass gap) = some ("gap", pixels gap) := by
  have other : (gapClass gap).toList.dropPrefix? "grid-cols-".toList = none := by
    rw [gapClass, String.toList_append]
    rfl
  unfold utility?
  rw [other, gapClass, dropPrefix?_toList_append]
  dsimp only
  rw [distance?_spacing]
  rfl

/-- The classes of a layout are its declarations. -/
theorem map_utility?_layoutClasses (layout : Layout) (columns : Option Columns)
    (direction : Option String) (gap : Nat) :
    (layoutClasses layout columns direction gap).map utility? =
      (layoutDeclarations layout columns direction gap).map some := by
  cases layout with
  | grid =>
    have display : utility? "grid" = some ("display", "grid") := by rfl
    simp only [layoutClasses, layoutDeclarations, List.map_cons, List.map_nil, display,
      utility?_columnsClass, utility?_gapClass]
  | flex =>
    have display : utility? "flex" = some ("display", "flex") := by rfl
    simp only [layoutClasses, layoutDeclarations, List.map_cons, List.map_nil, display,
      utility?_directionClass, utility?_gapClass]
  | block => rfl

/-- The classes of a change are its declarations. -/
theorem map_utility?_changeClasses (c : ResponsiveChange) (sec : Section) (schema : Schema) :
    (changeClasses c sec schema).map utility? = (c.declarations sec schema).map some := by
  unfold changeClasses ResponsiveChange.declarations
  split
  · rfl
  split
  · exact map_utility?_layoutClasses _ _ _ _
  · have columns : ((c.columnsFor sec).map fun n => columnsClass n.count).toList.map utility? =
        ((c.columnsFor sec).map fun n =>
          ("grid-template-columns", gridColumns n.count)).toList.map some := by
      cases c.columnsFor sec with
      | none => rfl
      | some n => exact congrArg ([·]) (utility?_columnsClass n.count)
    have direction :
        ((c.directionFor sec).map fun d => directionClass (some d)).toList.map utility? =
        ((c.directionFor sec).map fun d =>
          ("flex-direction", flexDirection (some d))).toList.map some := by
      cases c.directionFor sec with
      | none => rfl
      | some d => exact congrArg ([·]) (utility?_directionClass (some d))
    have gap : ((c.gapFor sec).map gapClass).toList.map utility? =
        ((c.gapFor sec).map fun gap => ("gap", pixels gap)).toList.map some := by
      cases c.gapFor sec with
      | none => rfl
      | some gap => exact congrArg ([·]) (utility?_gapClass gap)
    simp only [List.map_append, columns, direction, gap]

theorem width?_pixels (n : Nat) : width? s!"min-[{n}px]:" = some n := by
  have shape : s!"min-[{n}px]:" = "min-[" ++ (n.repr ++ "px]:") := by simp [String.append_assoc]
  unfold width?
  rw [shape, dropPrefix?_toList_append]
  dsimp only
  rw [String.toList_append]
  exact numberBefore?_repr n "px]:".toList rfl

/-- The breakpoints that go by name are those of the framework. -/
theorem width?_of_mem_breakpoints {entry : String × Nat} (h : entry ∈ breakpoints) :
    width? (entry.1 ++ ":") = some entry.2 := by
  have all : ∀ entry ∈ breakpoints, width? (entry.1 ++ ":") = some entry.2 := by decide
  exact all entry h

/-- The mark of a rule is that of its breakpoint or that of its width. -/
theorem widthMark_cases {rule : ResponsiveRule} {width : Nat}
    (resolved : rule.resolvedMinWidth = some width) :
    (rule.breakpoint, width) ∈ breakpoints ∧ widthMark rule = rule.breakpoint ++ ":" ∨
      widthMark rule = s!"min-[{width}px]:" := by
  unfold widthMark
  rw [resolved]
  cases named : breakpoints.lookup rule.breakpoint with
  | none => exact .inr rfl
  | some usual =>
    dsimp only
    split
    · rename_i same
      subst same
      exact .inl ⟨Fields.mem_of_lookup named, rfl⟩
    · exact .inr rfl

/-- A mark stands for the width of its rule. -/
theorem width?_widthMark (rule : ResponsiveRule) :
    width? (widthMark rule) = rule.resolvedMinWidth := by
  cases resolved : rule.resolvedMinWidth with
  | none =>
    have mark : widthMark rule = "min-[Nonepx]:" := by
      unfold widthMark
      rw [resolved]
      cases breakpoints.lookup rule.breakpoint <;> rfl
    rw [mark]
    rfl
  | some width =>
    rcases widthMark_cases resolved with ⟨known, mark⟩ | mark
    · have read := width?_of_mem_breakpoints known
      rwa [← mark] at read
    · rw [mark]
      exact width?_pixels width

/-- A mark ends in its only colon. -/
theorem exists_toList_widthMark {rule : ResponsiveRule} {width : Nat}
    (resolved : rule.resolvedMinWidth = some width) :
    ∃ body, (widthMark rule).toList = body ++ [':'] ∧ ':' ∉ body := by
  rcases widthMark_cases resolved with ⟨known, mark⟩ | mark
  · have all : ∀ entry ∈ breakpoints, ':' ∉ entry.1.toList := by decide
    exact ⟨rule.breakpoint.toList, by rw [mark, String.toList_append]; rfl, all _ known⟩
  · refine ⟨"min-[".toList ++ width.repr.toList ++ "px]".toList, by simp [mark], ?_⟩
    intro colon
    rw [List.mem_append, List.mem_append] at colon
    rcases colon with (front | digit) | back
    · exact absurd front (by decide)
    · exact absurd (isDigit_of_mem_repr digit) (by decide)
    · exact absurd back (by decide)

theorem takeWhile_colon {body : List Char} (single : ':' ∉ body) (rest : List Char) :
    (body ++ ':' :: rest).takeWhile (· ≠ ':') = body := by
  have plain : ∀ c ∈ body, decide (c ≠ ':') = true := by
    intro c member
    exact decide_eq_true fun same => single (same ▸ member)
  rw [List.takeWhile_append_of_pos plain, List.takeWhile_cons_of_neg (by decide), List.append_nil]

theorem marked?_widthMark_append {rule : ResponsiveRule} {width : Nat}
    (resolved : rule.resolvedMinWidth = some width) (name : String) :
    marked? (widthMark rule ++ name) = (utility? name).map (width, ·) := by
  obtain ⟨body, mark, single⟩ := exists_toList_widthMark resolved
  have whole : (widthMark rule ++ name).toList = body ++ ':' :: name.toList := by
    rw [String.toList_append, mark, List.append_assoc, List.singleton_append]
  have read : width? (String.ofList (body ++ [':'])) = some width := by
    rw [← mark, String.ofList_toList, width?_widthMark, resolved]
  have behind : (body ++ ':' :: name.toList).drop (body ++ [':']).length = name.toList := by
    have joined : body ++ ':' :: name.toList = (body ++ [':']) ++ name.toList :=
      List.append_cons body ':' name.toList
    rw [joined]
    exact List.drop_left
  unfold marked?
  dsimp only
  rw [whole, takeWhile_colon single, read, Option.bind_some, behind, String.ofList_toList]

theorem map_marked?_map_widthMark {rule : ResponsiveRule} {width : Nat}
    (resolved : rule.resolvedMinWidth = some width) (names : List String) :
    (names.map fun name => widthMark rule ++ name).map marked? =
      (names.map utility?).map (Option.map fun d => (width, d)) := by
  induction names with
  | nil => rfl
  | cons name names ih =>
    simp only [List.map_cons, marked?_widthMark_append resolved, ih]

/-- The classes that a rule adds to a section are the declarations of its changes, from the width of
the rule on. -/
theorem map_marked?_ruleClasses (schema : Schema) (sec : Section) (rule : ResponsiveRule) :
    (ruleClasses schema sec rule).map marked? =
      rule.resolvedMinWidth.toList.flatMap fun width =>
        ((changesFor rule sec).flatMap (·.declarations sec schema)).map
          fun d => some (width, d) := by
  cases resolved : rule.resolvedMinWidth with
  | none =>
    unfold ruleClasses
    rw [resolved]
    rfl
  | some width =>
    have one (c : ResponsiveChange) :
        ((changeClasses c sec schema).map fun name => widthMark rule ++ name).map marked? =
          (c.declarations sec schema).map fun d => some (width, d) := by
      rw [map_marked?_map_widthMark resolved, map_utility?_changeClasses, List.map_map]
      rfl
    unfold ruleClasses
    rw [resolved]
    simp only [Option.isNone_some, Bool.false_eq_true, if_false, List.map_flatMap, one,
      Option.toList_some, List.flatMap_cons, List.flatMap_nil, List.append_nil]

/-- Read as declarations, the classes of any layout and of any change are those that the stylesheets
declare for them, one for one and in order; what stands before the classes of a rule is its width,
and from this width on its classes declare what its changes declare. -/
theorem utilities_eq_declarations (schema : Schema) (sec : Section) (c : ResponsiveChange)
    (rule : ResponsiveRule) (layout : Layout) (columns : Option Columns) (direction : Option String)
    (gap : Nat) :
    (layoutClasses layout columns direction gap).map utility? =
        (layoutDeclarations layout columns direction gap).map some ∧
      (changeClasses c sec schema).map utility? = (c.declarations sec schema).map some ∧
      width? (widthMark rule) = rule.resolvedMinWidth ∧
      (ruleClasses schema sec rule).map marked? =
        rule.resolvedMinWidth.toList.flatMap fun width =>
          ((changesFor rule sec).flatMap (·.declarations sec schema)).map fun d =>
            some (width, d) :=
  ⟨map_utility?_layoutClasses layout columns direction gap, map_utility?_changeClasses c sec schema,
    width?_widthMark rule, map_marked?_ruleClasses schema sec rule⟩

end DesignToCode.Tailwind
