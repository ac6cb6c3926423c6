import DesignToCode.Proofs.Text.Decimal
import DesignToCode.Schema.Ids

set_option autoImplicit false

namespace DesignToCode.IdCounter

open DesignToCode.Text

/-- The id of a kind, a slug and a number. -/
def idOf (kind slug : String) (number : Nat) : String := s!"{kind}-{slug}-{number}"

theorem toList_idOf (kind slug : String) (number : Nat) :
    (idOf kind slug number).toList =
      kind.toList ++ '-' :: (slug.toList ++ '-' :: number.repr.toList) := by
  simp [idOf]

theorem idOf_ne_empty (kind slug : String) (number : Nat) : idOf kind slug number ≠ "" := by
  intro empty
  have letters := congrArg String.toList empty
  rw [toList_idOf] at letters
  simp at letters

/-- Kinds hold no dash. -/
theorem idOf_inj {kind kind' slug slug' : String} {n n' : Nat} (plain : '-' ∉ kind.toList)
    (plain' : '-' ∉ kind'.toList) :
    idOf kind slug n = idOf kind' slug' n' ↔ kind = kind' ∧ slug = slug' ∧ n = n' := by
  rw [← String.toList_inj, toList_idOf, toList_idOf, append_mark_inj plain plain',
    mark_append_inj (dash_notMem_repr n) (dash_notMem_repr n'), String.toList_inj,
    String.toList_inj, String.toList_inj]
  constructor
  · rintro ⟨rfl, rfl, numbers⟩
    exact ⟨rfl, rfl, repr_nat_injective numbers⟩
  · rintro ⟨rfl, rfl, rfl⟩
    exact ⟨rfl, rfl, rfl⟩

/-- Ids for kinds and types in a row. -/
def issueEach (c : IdCounter) : List (String × String) → List String
  | [] => []
  | (kind, type) :: rest =>
    (c.next kind type).1 :: issueEach (c.next kind type).2 rest

theorem length_issueEach (c : IdCounter) (calls : List (String × String)) :
    (c.issueEach calls).length = calls.length := by
  induction calls generalizing c with
  | nil => rfl
  | cons call rest ih => rw [issueEach, List.length_cons, List.length_cons, ih]

/-- Every id of a row has a number above those that its kind and slug had before. -/
theorem mem_issueEach {c : IdCounter} {id : String} {calls : List (String × String)}
    (h : id ∈ c.issueEach calls) :
    ∃ call ∈ calls, ∃ number, id = idOf call.1 (slug call.2) number ∧
      c.number call.1 (slug call.2) ≤ number := by
  induction calls generalizing c with
  | nil => cases h
  | cons call rest ih =>
    rcases List.mem_cons.mp h with rfl | later
    · exact ⟨call, List.mem_cons_self, _, rfl, Nat.le_refl _⟩
    · obtain ⟨other, listed, number, rfl, above⟩ := ih later
      refine ⟨other, List.mem_cons_of_mem call listed, number, rfl, Nat.le_trans ?_ above⟩
      exact Nat.succ_le_succ List.count_le_count_cons

/-- No id is given out twice, as the number of a kind and a slug goes up with each. -/
theorem nodup_issueEach {calls : List (String × String)}
    (plain : ∀ call ∈ calls, '-' ∉ call.1.toList) (c : IdCounter) :
    (c.issueEach calls).Nodup := by
  induction calls generalizing c with
  | nil => exact List.nodup_nil
  | cons call rest ih =>
    obtain ⟨first, others⟩ := List.forall_mem_cons.mp plain
    rw [issueEach, List.nodup_cons]
    refine ⟨?_, ih others _⟩
    intro again
    obtain ⟨other, listed, number, same, above⟩ := mem_issueEach again
    obtain ⟨kinds, slugs, rfl⟩ := (idOf_inj first (others other listed)).mp same
    rw [← kinds, ← slugs, number_next] at above
    omega

theorem nextAll_eq_issueEach (c : IdCounter) (kind : String) (types : List String) :
    c.nextAll kind types = c.issueEach (types.map (Prod.mk kind)) := by
  induction types generalizing c with
  | nil => rfl
  | cons type rest ih => exact congrArg _ (ih _)

theorem ne_empty_of_mem_nextAll {c : IdCounter} {kind id : String} {types : List String}
    (h : id ∈ c.nextAll kind types) : id ≠ "" := by
  rw [nextAll_eq_issueEach] at h
  obtain ⟨call, -, number, rfl, -⟩ := mem_issueEach h
  exact idOf_ne_empty _ _ number

/-- The counter after ids for a list of types. -/
def issueAll (c : IdCounter) (kind : String) (types : List String) : IdCounter :=
  types.foldl (fun c type => (c.next kind type).2) c

theorem number_issueAll_of_ne {kind other : String} (differ : other ≠ kind) (c : IdCounter)
    (types : List String) (slug : String) :
    (c.issueAll other types).number kind slug = c.number kind slug := by
  induction types generalizing c with
  | nil => rfl
  | cons type rest ih =>
    refine (ih _).trans ?_
    simp [number, next, differ]

/-- The ids of a kind follow from the numbers of that kind alone. -/
theorem nextAll_congr {kind : String} {c c' : IdCounter}
    (same : ∀ slug, c.number kind slug = c'.number kind slug) (types : List String) :
    c.nextAll kind types = c'.nextAll kind types := by
  induction types generalizing c c' with
  | nil => rfl
  | cons type rest ih =>
    have later (slug : String) :
        (c.next kind type).2.number kind slug = (c'.next kind type).2.number kind slug := by
      have before := Nat.succ.inj (same slug)
      simp only [next, number, List.count_cons, before]
    rw [nextAll, nextAll, ih later]
    simp only [next, same]

theorem nodup_nextAll {kind : String} (plain : '-' ∉ kind.toList) (c : IdCounter)
    (types : List String) : (c.nextAll kind types).Nodup := by
  rw [nextAll_eq_issueEach]
  refine nodup_issueEach ?_ c
  simpa using fun _ _ => plain

end DesignToCode.IdCounter
