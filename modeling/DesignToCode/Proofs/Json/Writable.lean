import DesignToCode.Json.Printer
import DesignToCode.Proofs.Json.Finite
import Mathlib.Logic.Basic

set_option autoImplicit false

namespace DesignToCode.Json

/-- No whole number inside has too many digits to be written. -/
def IsShort (v : Json) : Prop := ∀ i, Within (.int i) v → Numeral.isWritable i = true

theorem IsShort.within {u v : Json} (short : v.IsShort) (inside : Within u v) : u.IsShort :=
  fun i found => short i (found.trans inside)

theorem isShort_int_iff {i : Int} : IsShort (.int i) ↔ Numeral.isWritable i = true := by
  constructor
  · intro short
    exact short i (.whole _)
  · intro short j inside
    cases inside
    exact short

theorem isShort_arr_iff {items : List Json} : IsShort (.arr items) ↔ ∀ v ∈ items, v.IsShort := by
  simp only [IsShort, within_arr_iff, Json.int, reduceCtorEq, false_or]
  exact ⟨fun short v member i inner => short i ⟨v, member, inner⟩,
    fun each i ⟨v, member, inner⟩ => each v member i inner⟩

theorem isShort_obj_iff {fields : Fields} :
    IsShort (.obj fields) ↔ ∀ field ∈ fields, field.2.IsShort := by
  simp only [IsShort, within_obj_iff, Json.int, reduceCtorEq, false_or]
  exact ⟨fun short field member i inner => short i ⟨field, member, inner⟩,
    fun each i ⟨field, member, inner⟩ => each field member i inner⟩

theorem itemsHeight_le_iff {items : List Json} {bound : Nat} :
    itemsHeight items ≤ bound ↔ ∀ v ∈ items, v.height ≤ bound := by
  induction items with
  | nil => simp [itemsHeight]
  | cons v rest ih => rw [itemsHeight, Nat.max_le, ih, List.forall_mem_cons]

theorem fieldsHeight_le_iff {fields : Fields} {bound : Nat} :
    fieldsHeight fields ≤ bound ↔ ∀ field ∈ fields, field.2.height ≤ bound := by
  induction fields with
  | nil => simp [fieldsHeight]
  | cons entry rest ih => rw [fieldsHeight, Nat.max_le, ih, List.forall_mem_cons]

theorem height_pos (v : Json) : 0 < v.height := by
  cases v <;> simp [height]

theorem Within.height_le {u v : Json} (inside : Within u v) : u.height ≤ v.height := by
  induction inside with
  | whole => exact Nat.le_refl _
  | item member _ ih =>
    exact Nat.le_trans ih (Nat.le_succ_of_le (itemsHeight_le_iff.mp (Nat.le_refl _) _ member))
  | field member _ ih =>
    exact Nat.le_trans ih (Nat.le_succ_of_le (fieldsHeight_le_iff.mp (Nat.le_refl _) _ member))

mutual

theorem unwritableAt?_eq_none_iff (room : Nat) (v : Json) :
    unwritableAt? room v = none ↔ v.IsShort ∧ v.height ≤ room := by
  match room, v with
  | 0, v => simp [unwritableAt?, Nat.ne_of_gt v.height_pos]
  | room + 1, .num (.int i) =>
    have short : IsShort (.num (.int i)) ↔ _ := isShort_int_iff
    rw [short]
    simp [unwritableAt?, height]
  | room + 1, .arr items =>
    rw [unwritableAt?, unwritableItem?_eq_none_iff room items, isShort_arr_iff, height,
      Nat.add_le_add_iff_right, itemsHeight_le_iff]
    exact forall₂_and
  | room + 1, .obj fields =>
    rw [unwritableAt?, unwritableField?_eq_none_iff room fields, isShort_obj_iff, height,
      Nat.add_le_add_iff_right, fieldsHeight_le_iff]
    exact forall₂_and
  | room + 1, .null | room + 1, .bool _ | room + 1, .num (.real _) | room + 1, .str _ =>
    refine iff_of_true rfl ⟨fun i inside => ?_, Nat.le_add_left 1 room⟩
    cases inside

theorem unwritableItem?_eq_none_iff (room : Nat) (items : List Json) :
    unwritableItem? room items = none ↔ ∀ v ∈ items, v.IsShort ∧ v.height ≤ room := by
  match items with
  | [] => simp [unwritableItem?]
  | v :: rest =>
    rw [unwritableItem?, Option.or_eq_none_iff, unwritableAt?_eq_none_iff room v,
      unwritableItem?_eq_none_iff room rest, List.forall_mem_cons]

theorem unwritableField?_eq_none_iff (room : Nat) (fields : Fields) :
    unwritableField? room fields = none ↔
      ∀ field ∈ fields, field.2.IsShort ∧ field.2.height ≤ room := by
  match fields with
  | [] => simp [unwritableField?]
  | (key, v) :: rest =>
    rw [unwritableField?, Option.or_eq_none_iff, unwritableAt?_eq_none_iff room v,
      unwritableField?_eq_none_iff room rest, List.forall_mem_cons]

end

/-- A document can be shown exactly when its whole numbers are short enough and its values do not
stand too deep. -/
theorem unwritable?_eq_none_iff {v : Json} :
    v.unwritable? = none ↔ v.IsShort ∧ v.height ≤ depthLimit :=
  unwritableAt?_eq_none_iff depthLimit v

/-- What stands in a document that can be shown can be shown as well. -/
theorem unwritable?_eq_none_of_within {u v : Json} (inside : Within u v)
    (shown : v.unwritable? = none) : u.unwritable? = none := by
  rw [unwritable?_eq_none_iff] at shown ⊢
  exact ⟨shown.1.within inside, Nat.le_trans inside.height_le shown.2⟩

mutual

theorem height_finiteOnly (v : Json) : (finiteOnly v).height = v.height := by
  match v with
  | .num (.real x) =>
    rw [finiteOnly]
    split <;> rfl
  | .arr items => rw [finiteOnly, height, height, itemsHeight_finiteItems items]
  | .obj fields => rw [finiteOnly, height, height, fieldsHeight_finiteFields fields]
  | .null | .bool _ | .num (.int _) | .str _ => rfl

theorem itemsHeight_finiteItems (items : List Json) :
    itemsHeight (finiteItems items) = itemsHeight items := by
  match items with
  | [] => rfl
  | v :: rest =>
    rw [finiteItems, itemsHeight, itemsHeight, height_finiteOnly v, itemsHeight_finiteItems rest]

theorem fieldsHeight_finiteFields (fields : Fields) :
    fieldsHeight (finiteFields fields) = fieldsHeight fields := by
  match fields with
  | [] => rfl
  | (key, v) :: rest =>
    rw [finiteFields, fieldsHeight, fieldsHeight, height_finiteOnly v,
      fieldsHeight_finiteFields rest]

end

/-- Lists one inside the other around nothing. -/
def nested : Nat → Json
  | 0 => .null
  | lists + 1 => .arr [nested lists]

end DesignToCode.Json
