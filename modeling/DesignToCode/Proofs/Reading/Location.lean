import DesignToCode.Proofs.Text.Decimal
import DesignToCode.Reading.Location
import DesignToCode.Text.Table.IdentifierPart

set_option autoImplicit false

namespace DesignToCode

open Text

namespace Step

/-- The characters with which a step begins that stands behind another one. -/
def isMark (c : Char) : Bool := c == '.' || c == '['

/-- A name is given and holds no mark. -/
def IsPlain : Step → Prop
  | key name => name ≠ "" ∧ ∀ c ∈ name.toList, isMark c = false
  | _ => True

/-- Letters and digits of any script and underscores are no marks. -/
theorem isPlain_of_word {name : String} (given : name ≠ "")
    (word : name.toList.all (Table.identifierPart.contains ·.toNat) = true) :
    (key name).IsPlain := by
  refine ⟨given, ?_⟩
  intro c member
  have part := List.all_eq_true.mp word c member
  rw [Bool.eq_false_iff]
  intro marked
  rw [isMark, Bool.or_eq_true, beq_iff_eq, beq_iff_eq] at marked
  rcases marked with rfl | rfl
  · exact absurd part (by decide)
  · exact absurd part (by decide)

/-- A place in a list. -/
def isIndex : Step → Bool
  | key _ => false
  | _ => true

theorem exists_key {step : Step} (named : ¬ step.isIndex = true) : ∃ name, step = key name := by
  cases step with
  | key name => exact ⟨name, rfl⟩
  | index i => exact absurd rfl named
  | flag b => exact absurd rfl named

/-- What is written for a step that stands behind another one. -/
def behind (step : Step) : List Char :=
  if step.isIndex then '[' :: (step.text.toList ++ [']']) else '.' :: step.text.toList

theorem behind_of_isIndex {step : Step} (indexed : step.isIndex = true) :
    step.behind = '[' :: (step.text.toList ++ [']']) :=
  if_pos indexed

theorem behind_key (name : String) : (key name).behind = '.' :: name.toList := rfl

theorem isMark_of_mem_head_behind {step : Step} {rest : List Char} :
    ∀ c ∈ (step.behind ++ rest).head?, isMark c = true := by
  intro c first
  cases step <;> cases first <;> rfl

theorem toList_follow_of_isIndex {step : Step} (indexed : step.isIndex = true) (path : String) :
    (step.follow path).toList = path.toList ++ step.behind := by
  cases step with
  | key name => cases indexed
  | index i => simp [follow, behind, isIndex, text]
  | flag b => simp [follow, behind, isIndex, text]

theorem toList_follow {path : String} (given : path ≠ "") (step : Step) :
    (step.follow path).toList = path.toList ++ step.behind := by
  by_cases indexed : step.isIndex = true
  · exact toList_follow_of_isIndex indexed path
  · obtain ⟨name, rfl⟩ := exists_key indexed
    simp [follow, behind_key, given]

theorem behind_ne_nil (step : Step) : step.behind ≠ [] := by
  cases step <;> exact List.cons_ne_nil _ _

theorem follow_ne_empty {path : String} (given : path ≠ "") (step : Step) :
    step.follow path ≠ "" := by
  intro empty
  have letters := toList_follow given step
  rw [empty] at letters
  exact behind_ne_nil step (List.append_eq_nil_iff.mp letters.symm).2

theorem closing_notMem_text {step : Step} (indexed : step.isIndex = true) :
    ']' ∉ step.text.toList := by
  cases step with
  | key name => cases indexed
  | index i => exact notMem_repr_int (by decide) (by decide) i
  | flag b => cases b <;> decide

/-- A truth value is spelled out, and no number holds letters. -/
theorem text_index_ne_flag (i : Int) (b : Bool) : (index i).text ≠ (flag b).text := by
  intro same
  have letter : 'e' ∈ (index i).text.toList := by
    rw [same]
    cases b <;> decide
  exact notMem_repr_int (by decide) (by decide) i letter

theorem text_inj_of_isIndex {s t : Step} (index_s : s.isIndex = true) (index_t : t.isIndex = true)
    (same : s.text = t.text) : s = t := by
  cases s with
  | key name => cases index_s
  | index i =>
    cases t with
    | key name => cases index_t
    | index j => exact congrArg index (repr_int_injective same)
    | flag b => exact absurd same (text_index_ne_flag i b)
  | flag a =>
    cases t with
    | key name => cases index_t
    | index j => exact absurd same.symm (text_index_ne_flag j a)
    | flag b =>
      revert same
      cases a <;> cases b <;> decide

/-- A name ends where the next mark stands. -/
theorem name_append_inj {a b : String} {x y : List Char} (plain_a : (key a).IsPlain)
    (plain_b : (key b).IsPlain) (marked_x : ∀ c ∈ x.head?, isMark c = true)
    (marked_y : ∀ c ∈ y.head?, isMark c = true) (same : a.toList ++ x = b.toList ++ y) :
    a = b ∧ x = y := by
  have unmarked {name : String} (plain : (key name).IsPlain) :
      ∀ c ∈ name.toList, (!isMark c) = true := by
    intro c member
    rw [plain.2 c member]
    rfl
  have ends {rest : List Char} (marked : ∀ c ∈ rest.head?, isMark c = true) :
      ∀ c ∈ rest.head?, (!isMark c) = false := by
    intro c first
    rw [marked c first]
    rfl
  rwa [run_append_inj (unmarked plain_a) (unmarked plain_b) (ends marked_x) (ends marked_y),
    String.toList_inj] at same

/-- What stands in brackets ends where they close. -/
theorem bracketed_append_inj {s t : Step} {x y : List Char} (index_s : s.isIndex = true)
    (index_t : t.isIndex = true) (same : s.behind ++ x = t.behind ++ y) : s = t ∧ x = y := by
  rw [behind_of_isIndex index_s, behind_of_isIndex index_t] at same
  simp only [List.cons_append, List.append_assoc, List.nil_append, List.cons.injEq, true_and]
    at same
  rw [append_mark_inj (closing_notMem_text index_s) (closing_notMem_text index_t),
    String.toList_inj] at same
  exact ⟨text_inj_of_isIndex index_s index_t same.1, same.2⟩

/-- An index and a name begin with different marks. -/
theorem bracketed_ne_name {s : Step} {x y : List Char} (indexed : s.isIndex = true)
    (name : String) : s.behind ++ x ≠ (key name).behind ++ y := by
  rw [behind_of_isIndex indexed, behind_key]
  intro same
  exact absurd (List.cons.inj same).1 (by decide)

/-- A step can be told from what stands behind it, if that is nothing or begins with a mark. -/
theorem behind_append_inj {s t : Step} {x y : List Char} (plain_s : s.IsPlain)
    (plain_t : t.IsPlain) (marked_x : ∀ c ∈ x.head?, isMark c = true)
    (marked_y : ∀ c ∈ y.head?, isMark c = true) (same : s.behind ++ x = t.behind ++ y) :
    s = t ∧ x = y := by
  by_cases index_s : s.isIndex = true
  · by_cases index_t : t.isIndex = true
    · exact bracketed_append_inj index_s index_t same
    · obtain ⟨b, rfl⟩ := exists_key index_t
      exact absurd same (bracketed_ne_name index_s b)
  · obtain ⟨a, rfl⟩ := exists_key index_s
    by_cases index_t : t.isIndex = true
    · exact absurd same.symm (bracketed_ne_name index_t a)
    · obtain ⟨b, rfl⟩ := exists_key index_t
      obtain ⟨rfl, rest⟩ :=
        name_append_inj plain_s plain_t marked_x marked_y (List.cons.inj same).2
      exact ⟨rfl, rest⟩

end Step

namespace Location

/-- The steps of a place, each as it is written behind another one. -/
def marked (location : Location) : List Char := location.flatMap Step.behind

theorem marked_cons (step : Step) (rest : Location) :
    marked (step :: rest) = step.behind ++ marked rest := rfl

theorem marked_cons_ne_nil (step : Step) (rest : Location) : marked (step :: rest) ≠ [] := by
  intro none
  exact step.behind_ne_nil (List.append_eq_nil_iff.mp none).1

theorem isMark_of_mem_head_marked (location : Location) :
    ∀ c ∈ location.marked.head?, Step.isMark c = true := by
  intro c first
  cases location with
  | nil => cases first
  | cons step rest => exact Step.isMark_of_mem_head_behind c first

/-- With a mark before every step a place can be read off step by step. -/
theorem marked_inj {a b : Location} (plain_a : ∀ s ∈ a, s.IsPlain) (plain_b : ∀ s ∈ b, s.IsPlain)
    (same : a.marked = b.marked) : a = b := by
  induction a generalizing b with
  | nil =>
    cases b with
    | nil => rfl
    | cons t more => exact absurd same.symm (marked_cons_ne_nil t more)
  | cons s rest ih =>
    cases b with
    | nil => exact absurd same (marked_cons_ne_nil s rest)
    | cons t more =>
      obtain ⟨first_a, later_a⟩ := List.forall_mem_cons.mp plain_a
      obtain ⟨first_b, later_b⟩ := List.forall_mem_cons.mp plain_b
      -- What follows the first steps is nothing or begins with a mark, so these are the same.
      obtain ⟨rfl, tails⟩ := Step.behind_append_inj first_a first_b
        (isMark_of_mem_head_marked rest) (isMark_of_mem_head_marked more) same
      rw [ih later_a later_b tails]

theorem toList_foldl_follow {path : String} (given : path ≠ "") (location : Location) :
    (location.foldl Step.follow path).toList = path.toList ++ location.marked := by
  induction location generalizing path with
  | nil => simp [marked]
  | cons step rest ih =>
    rw [List.foldl_cons, ih (Step.follow_ne_empty given step), Step.toList_follow given,
      marked_cons, List.append_assoc]

/-- A point before a text that begins with no mark. -/
def pointed : List Char → List Char
  | [] => []
  | c :: rest => if Step.isMark c then c :: rest else '.' :: c :: rest

/-- With the point put back, the text of a place has a mark before every step. -/
theorem pointed_text {location : Location} (plain : ∀ s ∈ location, s.IsPlain) :
    pointed (text location).toList = location.marked := by
  cases location with
  | nil => rfl
  | cons step rest =>
    have steps : text (step :: rest) = rest.foldl Step.follow (step.follow "") := rfl
    by_cases indexed : step.isIndex = true
    · have alone := Step.toList_follow_of_isIndex indexed ""
      have given : step.follow "" ≠ "" := by
        intro empty
        rw [empty] at alone
        exact step.behind_ne_nil alone.symm
      rw [steps, toList_foldl_follow given, alone, marked_cons, Step.behind_of_isIndex indexed]
      rfl
    · obtain ⟨name, rfl⟩ := Step.exists_key indexed
      obtain ⟨given, unmarked⟩ := plain (.key name) List.mem_cons_self
      have alone : (Step.key name).follow "" = name := rfl
      obtain ⟨c, more, letters⟩ :=
        List.exists_cons_of_ne_nil (mt String.toList_eq_nil_iff.mp given)
      rw [letters] at unmarked
      have begins : ¬ Step.isMark c = true := by
        rw [unmarked c List.mem_cons_self]
        exact Bool.false_ne_true
      rw [steps, alone, toList_foldl_follow given, marked_cons, Step.behind_key, letters]
      exact if_neg begins

/-- No two places have the same text, however long they are, if names are given and hold neither
points nor opening brackets. Indices may be any numbers or truth values. -/
theorem text_inj {a b : Location} (plain_a : ∀ s ∈ a, s.IsPlain) (plain_b : ∀ s ∈ b, s.IsPlain) :
    text a = text b ↔ a = b := by
  constructor
  · intro same
    apply marked_inj plain_a plain_b
    rw [← pointed_text plain_a, ← pointed_text plain_b, same]
  · intro same
    rw [same]

/-- A field of the third section. -/
def indexedField : Location := [.key "sections", .index 2, .key "min_width"]

/-- The same with a name of a digit in place of the number. -/
def namedField : Location := [.key "sections", .key "2", .key "min_width"]

theorem indexedField_text_ne :
    (∀ s ∈ indexedField, s.IsPlain) ∧ (∀ s ∈ namedField, s.IsPlain) ∧
      text indexedField ≠ text namedField := by
  have sections : (Step.key "sections").IsPlain := Step.isPlain_of_word (by decide) (by decide)
  have digit : (Step.key "2").IsPlain := Step.isPlain_of_word (by decide) (by decide)
  have width : (Step.key "min_width").IsPlain := Step.isPlain_of_word (by decide) (by decide)
  have indexed : ∀ s ∈ indexedField, s.IsPlain :=
    List.forall_mem_cons.mpr ⟨sections, List.forall_mem_cons.mpr ⟨trivial,
      List.forall_mem_singleton.mpr width⟩⟩
  have named : ∀ s ∈ namedField, s.IsPlain :=
    List.forall_mem_cons.mpr ⟨sections, List.forall_mem_cons.mpr ⟨digit,
      List.forall_mem_singleton.mpr width⟩⟩
  exact ⟨indexed, named, mt (text_inj indexed named).mp (by decide)⟩

example : text [.key "sections[2]"] = text [.key "sections", .index 2] := by decide

end Location

end DesignToCode
