import DesignToCode.Proofs.Json.Fields

set_option autoImplicit false

namespace DesignToCode.Json

/-- A document is another one, or stands inside it at any depth. -/
inductive Within : Json → Json → Prop where
  | whole (v : Json) : Within v v
  | item {u v : Json} {items : List Json} : v ∈ items → Within u v → Within u (.arr items)
  | field {u v : Json} {key : String} {fields : Fields} :
      (key, v) ∈ fields → Within u v → Within u (.obj fields)

theorem Within.trans {u v w : Json} (inner : Within u v) (outer : Within v w) : Within u w := by
  induction outer with
  | whole => exact inner
  | item member _ ih => exact .item member ih
  | field member _ ih => exact .field member ih

/-- No number inside is infinite or not-a-number. -/
def IsFinite (v : Json) : Prop := ∀ x, Within (.num (.real x)) v → x.isFinite = true

theorem IsFinite.within {u v : Json} (finite : v.IsFinite) (inside : Within u v) : u.IsFinite :=
  fun x found => finite x (found.trans inside)

theorem within_of_lookup {fields : Fields} {key : String} {v : Json}
    (held : fields.lookup key = some v) : Within v (.obj fields) :=
  .field (Fields.mem_of_lookup held) (.whole v)

theorem within_arr_iff {u : Json} {items : List Json} :
    Within u (.arr items) ↔ u = .arr items ∨ ∃ v ∈ items, Within u v := by
  constructor
  · rintro (_ | ⟨member, inner⟩ | _)
    · exact .inl rfl
    · exact .inr ⟨_, member, inner⟩
  · rintro (rfl | ⟨v, member, inner⟩)
    · exact .whole _
    · exact .item member inner

theorem within_obj_iff {u : Json} {fields : Fields} :
    Within u (.obj fields) ↔ u = .obj fields ∨ ∃ field ∈ fields, Within u field.2 := by
  constructor
  · rintro (_ | _ | ⟨member, inner⟩)
    · exact .inl rfl
    · exact .inr ⟨_, member, inner⟩
  · rintro (rfl | ⟨field, member, inner⟩)
    · exact .whole _
    · exact .field member inner

theorem isFinite_real_iff {x : Binary64} : IsFinite (.num (.real x)) ↔ x.isFinite = true := by
  constructor
  · intro finite
    exact finite x (.whole _)
  · intro finite y inside
    cases inside
    exact finite

theorem isFinite_arr_iff {items : List Json} : IsFinite (.arr items) ↔ ∀ v ∈ items, v.IsFinite := by
  simp only [IsFinite, within_arr_iff, reduceCtorEq, false_or]
  exact ⟨fun finite v member x inner => finite x ⟨v, member, inner⟩,
    fun each x ⟨v, member, inner⟩ => each v member x inner⟩

theorem isFinite_obj_iff {fields : Fields} :
    IsFinite (.obj fields) ↔ ∀ field ∈ fields, field.2.IsFinite := by
  simp only [IsFinite, within_obj_iff, reduceCtorEq, false_or]
  exact ⟨fun finite field member x inner => finite x ⟨field, member, inner⟩,
    fun each x ⟨field, member, inner⟩ => each field member x inner⟩

mutual

theorem finiteOnly_eq_self_iff (v : Json) : finiteOnly v = v ↔ v.IsFinite := by
  match v with
  | .num (.real x) =>
    rw [isFinite_real_iff, finiteOnly]
    split <;> simp [*]
  | .arr items => rw [isFinite_arr_iff, finiteOnly, arr.injEq, finiteItems_eq_self_iff items]
  | .obj fields => rw [isFinite_obj_iff, finiteOnly, obj.injEq, finiteFields_eq_self_iff fields]
  | .null | .bool _ | .num (.int _) | .str _ =>
    refine iff_of_true rfl fun x inside => ?_
    cases inside

theorem finiteItems_eq_self_iff (items : List Json) :
    finiteItems items = items ↔ ∀ v ∈ items, v.IsFinite := by
  match items with
  | [] => simp [finiteItems]
  | v :: rest =>
    rw [finiteItems, List.cons.injEq, finiteOnly_eq_self_iff v, finiteItems_eq_self_iff rest,
      List.forall_mem_cons]

theorem finiteFields_eq_self_iff (fields : Fields) :
    finiteFields fields = fields ↔ ∀ field ∈ fields, field.2.IsFinite := by
  match fields with
  | [] => simp [finiteFields]
  | (key, v) :: rest =>
    rw [finiteFields, List.cons.injEq, Prod.mk.injEq, finiteOnly_eq_self_iff v,
      finiteFields_eq_self_iff rest, List.forall_mem_cons]
    simp only [true_and]

end

mutual

theorem isFinite_finiteOnly (v : Json) : (finiteOnly v).IsFinite := by
  match v with
  | .num (.real x) =>
    rw [finiteOnly]
    split
    · exact isFinite_real_iff.mpr ‹_›
    · intro y inside
      cases inside
  | .arr items => exact isFinite_arr_iff.mpr (isFinite_of_mem_finiteItems items)
  | .obj fields => exact isFinite_obj_iff.mpr (isFinite_of_mem_finiteFields fields)
  | .null | .bool _ | .num (.int _) | .str _ =>
    intro x inside
    cases inside

theorem isFinite_of_mem_finiteItems (items : List Json) :
    ∀ v ∈ finiteItems items, v.IsFinite := by
  match items with
  | [] => exact fun v none => absurd none List.not_mem_nil
  | v :: rest =>
    rw [finiteItems, List.forall_mem_cons]
    exact ⟨isFinite_finiteOnly v, isFinite_of_mem_finiteItems rest⟩

theorem isFinite_of_mem_finiteFields (fields : Fields) :
    ∀ field ∈ finiteFields fields, field.2.IsFinite := by
  match fields with
  | [] => exact fun field none => absurd none List.not_mem_nil
  | (key, v) :: rest =>
    rw [finiteFields, List.forall_mem_cons]
    exact ⟨isFinite_finiteOnly v, isFinite_of_mem_finiteFields rest⟩

end

/-- What was written once is written the same again. -/
theorem finiteFields_finiteFields (fields : Fields) :
    finiteFields (finiteFields fields) = finiteFields fields :=
  (finiteFields_eq_self_iff _).mpr (isFinite_of_mem_finiteFields fields)

end DesignToCode.Json
