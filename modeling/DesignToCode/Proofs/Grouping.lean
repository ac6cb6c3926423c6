import Mathlib.Data.List.Induction
import Mathlib.Data.List.Nodup
import Mathlib.Data.List.Perm.Basic
import Mathlib.Tactic.Common

set_option autoImplicit false

namespace DesignToCode

variable {α κ : Type} [BEq κ]

/-- Induction that takes away all items of the first key at once. -/
theorem induction_on_key (key : α → κ) {motive : List α → Prop} (nil : motive [])
    (cons : ∀ a rest, motive (rest.filter fun b => !(key b == key a)) → motive (a :: rest)) :
    ∀ items, motive items
  | [] => nil
  | a :: rest => cons a rest (induction_on_key key nil cons _)
termination_by items => items.length
decreasing_by
  have bound := List.length_filter_le (fun b => !(key b == key a)) rest
  rw [List.length_cons]
  omega

/-- Items with those of one key together, where the first of them stands. -/
def clustered (key : α → κ) (items : List α) : List α :=
  (items.map key).eraseDups.flatMap fun k => items.filter (key · == k)

/-- The keys behind the first one are those of the items without its own. -/
theorem eraseDups_map_cons (key : α → κ) (a : α) (rest : List α) :
    ((a :: rest).map key).eraseDups =
      key a :: ((rest.filter fun b => !(key b == key a)).map key).eraseDups := by
  rw [List.map_cons, List.eraseDups_cons, List.filter_map]
  rfl

/-- No item of another key stands between two of one key. -/
def Together (key : α → κ) (items : List α) : Prop :=
  ∀ a b c, [a, b, c].Sublist items → key a = key c → key b = key a

/-- The items of a list, each where it first stands in the list. -/
structure IsFirsts (items firsts : List κ) : Prop where
  mem_iff : ∀ a, a ∈ firsts ↔ a ∈ items
  ordered : firsts.Pairwise fun a b => items.idxOf a < items.idxOf b

theorem IsFirsts.nodup {items firsts : List κ} (h : IsFirsts items firsts) : firsts.Nodup := by
  refine h.ordered.imp ?_
  rintro a b before rfl
  exact Nat.lt_irrefl _ before

variable [LawfulBEq κ] {key : α → κ}

/-- Items behind a list do not change where those of the list first stand. -/
theorem IsFirsts.ordered_append {items firsts : List κ} (h : IsFirsts items firsts)
    (more : List κ) :
    firsts.Pairwise fun a b => (items ++ more).idxOf a < (items ++ more).idxOf b := by
  refine List.Pairwise.imp_of_mem ?_ h.ordered
  intro a b member member_other before
  rwa [List.idxOf_append_of_mem ((h.mem_iff a).mp member),
    List.idxOf_append_of_mem ((h.mem_iff b).mp member_other)]

theorem IsFirsts.append_of_mem {items firsts : List κ} (h : IsFirsts items firsts) {a : κ}
    (there : a ∈ firsts) : IsFirsts (items ++ [a]) firsts := by
  refine ⟨fun b => ?_, h.ordered_append [a]⟩
  rw [List.mem_append, List.mem_singleton, ← h.mem_iff, or_iff_left_of_imp]
  rintro rfl
  exact there

theorem IsFirsts.append_of_notMem {items firsts : List κ} (h : IsFirsts items firsts) {a : κ}
    (new : a ∉ firsts) : IsFirsts (items ++ [a]) (firsts ++ [a]) := by
  refine ⟨fun b => by rw [List.mem_append, List.mem_append, h.mem_iff], ?_⟩
  rw [List.pairwise_append]
  refine ⟨h.ordered_append [a], List.pairwise_singleton _ a, ?_⟩
  intro b member c last
  obtain rfl := List.mem_singleton.mp last
  have there := (h.mem_iff b).mp member
  have absent : c ∉ items := fun there => new ((h.mem_iff c).mpr there)
  rw [List.idxOf_append_of_mem there, List.idxOf_append_of_notMem absent]
  have early := List.idxOf_lt_length_of_mem there
  omega

theorem isFirsts_eraseDups (items : List κ) : IsFirsts items items.eraseDups := by
  induction items using List.reverseRecOn with
  | nil => exact ⟨fun _ => Iff.rfl, List.Pairwise.nil⟩
  | append_singleton items a ih =>
    rw [List.eraseDups_append]
    by_cases there : a ∈ items
    · have none : [a].removeAll items = [] := by simp [List.removeAll, there]
      rw [none, List.eraseDups_nil, List.append_nil]
      exact ih.append_of_mem (List.mem_eraseDups.mpr there)
    · have one : [a].removeAll items = [a] := by simp [List.removeAll, there]
      rw [one]
      exact ih.append_of_notMem (List.mem_eraseDups.not.mpr there)

theorem eraseDups_of_nodup {items : List κ} (distinct : items.Nodup) : items.eraseDups = items := by
  induction items with
  | nil => rfl
  | cons a rest ih =>
    rw [List.nodup_cons] at distinct
    have others : rest.filter (fun b => !b == a) = rest := by
      rw [List.filter_eq_self]
      rintro b member
      have differs : b ≠ a := fun same => distinct.1 (same ▸ member)
      simp [differs]
    rw [List.eraseDups_cons, others, ih distinct.2]

/-- Without the items of one key, those of any other key are the same. -/
theorem filter_key_others {j k : κ} (other : j ≠ k) (items : List α) :
    (items.filter fun a => !(key a == k)).filter (key · == j) = items.filter (key · == j) := by
  rw [List.filter_filter]
  refine List.filter_congr fun a _ => ?_
  by_cases own : key a = j
  · simp [own, other]
  · simp [own]

/-- Taken apart by keys that are all different, items are the same but for their order. -/
theorem perm_flatMap_filter {keys : List κ} (distinct : keys.Nodup) {items : List α}
    (known : ∀ a ∈ items, key a ∈ keys) :
    (keys.flatMap fun k => items.filter (key · == k)).Perm items := by
  induction keys generalizing items with
  | nil =>
    obtain rfl :=
      List.eq_nil_iff_forall_not_mem.mpr fun a member => List.not_mem_nil (known a member)
    rfl
  | cons k rest ih =>
    obtain ⟨absent, distinct⟩ := List.nodup_cons.mp distinct
    let others := items.filter fun a => !(key a == k)
    have later : ∀ a ∈ others, key a ∈ rest := by
      intro a held
      obtain ⟨member, other⟩ := List.mem_filter.mp held
      exact (List.mem_cons.mp (known a member)).resolve_left (by simpa using other)
    have same : ∀ j ∈ rest, items.filter (key · == j) = others.filter (key · == j) := by
      intro j member
      refine (filter_key_others ?_ items).symm
      rintro rfl
      exact absent member
    rw [List.flatMap_cons, List.flatMap_congr same]
    exact ((ih distinct later).append_left _).trans (List.filter_append_perm _ _)

/-- Of a key that comes behind the first one, all items come behind the first one. -/
theorem filter_cons_later {k : κ} {a : α} {rest : List α}
    (later : k ∈ ((rest.filter fun b => !(key b == key a)).map key).eraseDups) :
    (a :: rest).filter (key · == k) =
      (rest.filter fun b => !(key b == key a)).filter (key · == k) := by
  have other : k ≠ key a := by
    obtain ⟨b, member, rfl⟩ := List.mem_map.mp (List.mem_eraseDups.mp later)
    simpa using (List.mem_filter.mp member).2
  rw [filter_key_others other, List.filter_cons_of_neg (by simpa using other.symm)]

theorem clustered_cons (key : α → κ) (a : α) (rest : List α) :
    clustered key (a :: rest) =
      a :: rest.filter (key · == key a) ++
        clustered key (rest.filter fun b => !(key b == key a)) := by
  have first : (a :: rest).filter (key · == key a) = a :: rest.filter (key · == key a) :=
    List.filter_cons_of_pos (by simp)
  unfold clustered
  rw [eraseDups_map_cons, List.flatMap_cons, first]
  exact congrArg _ (List.flatMap_congr fun k later => filter_cons_later later)

/-- Items of the first key come before all others if they stand together. -/
theorem filter_append_others {a : α} {rest : List α} (together : Together key (a :: rest)) :
    rest.filter (key · == key a) ++ rest.filter (fun b => !(key b == key a)) = rest := by
  induction rest with
  | nil => rfl
  | cons b rest ih =>
    by_cases same : key b = key a
    · have tail : Together key (a :: rest) := by
        intro x y z inside
        exact together x y z (inside.trans ((List.sublist_cons_self b rest).cons_cons a))
      rw [List.filter_cons_of_pos (by simpa using same),
        List.filter_cons_of_neg (by simpa using same), List.cons_append, ih tail]
    · have none : rest.filter (key · == key a) = [] := by
        refine List.filter_eq_nil_iff.mpr fun c member again => same ?_
        have inside : [a, b, c].Sublist (a :: b :: rest) :=
          ((List.singleton_sublist.mpr member).cons_cons b).cons_cons a
        exact together a b c inside (beq_iff_eq.mp again).symm
      have all : rest.filter (fun b => !(key b == key a)) = rest := by
        refine List.filter_eq_self.mpr fun c member => ?_
        simpa using List.filter_eq_nil_iff.mp none c member
      rw [List.filter_cons_of_neg (by simpa using same), none,
        List.filter_cons_of_pos (by simpa using same), all, List.nil_append]

theorem clustered_of_together {items : List α} (together : Together key items) :
    clustered key items = items := by
  induction items using induction_on_key key with
  | nil => rfl
  | cons a rest ih =>
    have others : Together key (rest.filter fun b => !(key b == key a)) := by
      intro x y z inside
      exact together x y z
        (inside.trans (List.filter_sublist.trans (List.sublist_cons_self a rest)))
    rw [clustered_cons, ih others, List.cons_append, filter_append_others together]

end DesignToCode
