import Mathlib.Data.List.Nodup
import Mathlib.Data.List.Perm.Subperm
import DesignToCode.Proofs.Json.Fields
import DesignToCode.Proofs.Style.ClassName
import DesignToCode.Style.Sheet

set_option autoImplicit false

namespace DesignToCode

open DesignToCode.Text

/-- A search for a name that is not taken, from a first name on, and through the numbered names from
a position on if that is taken: it ends in the last of these three. -/
inductive Search (taken : String → Prop) (numbered : Nat → String) : String → Nat → String → Prop
  | free {first : String} {position : Nat} :
      ¬ taken first → Search taken numbered first position first
  | next {first found : String} {position : Nat} :
      taken first → Search taken numbered (numbered position) (position + 1) found →
        Search taken numbered first position found

namespace Search

variable {taken : String → Prop} {numbered : Nat → String} {first found : String} {position : Nat}

theorem not_taken (h : Search taken numbered first position found) : ¬ taken found := by
  induction h with
  | free free => exact free
  | next _ _ ih => exact ih

theorem eq_of_free (h : Search taken numbered first position found) (free : ¬ taken first) :
    found = first := by
  cases h with
  | free => rfl
  | next held _ => exact absurd held free

/-- What is found is the first name or a numbered one. -/
theorem eq_or_exists (h : Search taken numbered first position found) :
    found = first ∨ ∃ n, position ≤ n ∧ found = numbered n := by
  induction h with
  | free _ => exact .inl rfl
  | next _ _ ih =>
    rcases ih with rfl | ⟨n, later, rfl⟩
    · exact .inr ⟨_, Nat.le_refl _, rfl⟩
    · exact .inr ⟨n, by omega, rfl⟩

end Search

variable {numbered : Nat → String}

/-- Of numbered names that are all different, one among the next is free. -/
theorem exists_free (distinct : ∀ m n, numbered m = numbered n → m = n) (taken : List String)
    (position : Nat) :
    ∃ n, position ≤ n ∧ n ≤ position + taken.length ∧ numbered n ∉ taken := by
  by_contra none
  simp only [not_exists, not_and, not_not] at none
  let names := (List.range' position (taken.length + 1)).map numbered
  have different : names.Nodup := List.Nodup.map (fun m n => distinct m n) List.nodup_range'
  have held : names ⊆ taken := by
    intro name member
    obtain ⟨n, within, rfl⟩ := List.mem_map.mp member
    rw [List.mem_range'_1] at within
    exact none n within.1 (by omega)
  have few := (different.subperm held).length_le
  simp only [names, List.length_map, List.length_range'] at few
  omega

/-- Bounded tries are enough once one of the names that are tried is free. -/
theorem search_firstFree {taken : List String} {tries position : Nat}
    (free : ∃ n, position ≤ n ∧ n ≤ position + tries ∧ numbered n ∉ taken) :
    Search (· ∈ taken) numbered (numbered position) (position + 1)
      (firstFree taken numbered tries position) := by
  induction tries generalizing position with
  | zero =>
    obtain ⟨n, low, high, free⟩ := free
    obtain rfl : n = position := by omega
    exact .free free
  | succ tries ih =>
    rw [firstFree]
    split
    · rename_i held
      have here : numbered position ∈ taken := by simpa using held
      refine .next here (ih ?_)
      obtain ⟨n, low, high, free⟩ := free
      have other : n ≠ position := by
        rintro rfl
        exact free here
      exact ⟨n, by omega, by omega, free⟩
    · rename_i unused
      exact .free (by simpa using unused)

namespace ClassStyle

variable (style : ClassStyle)

theorem search_freeClass (taken : List String) (position : Nat) (id : String) :
    Search (· ∈ taken) (fun n => style.toClass s!"{id}-{n}") (style.toClass id) position
      (freeClass style.toClass taken position id) := by
  unfold freeClass
  split
  · rename_i held
    refine .next (by simpa using held) (search_firstFree ?_)
    exact exists_free (fun m n => style.toClass_numbered_inj id) taken position
  · rename_i unused
    exact .free (by simpa using unused)

theorem isName_of_search {taken : String → Prop} {id found : String} {position : Nat}
    (h : Search taken (fun n => style.toClass s!"{id}-{n}") (style.toClass id) position found) :
    style.IsName found := by
  rcases h.eq_or_exists with rfl | ⟨n, -, rfl⟩
  · exact style.isName_toClass id
  · exact style.isName_toClass _

/-- Every id has its class, in order. -/
theorem ids_assignClasses (taken : List String) (position : Nat) (ids : List String) :
    (assignClasses style.toClass taken position ids).map (·.1) = ids := by
  induction ids generalizing taken position with
  | nil => rfl
  | cons id rest ih => exact congrArg (id :: ·) (ih _ _)

/-- The search of each id, with the classes before it taken as well. -/
theorem search_assignClasses {taken : List String} {position : Nat} {ids : List String}
    {earlier later : ClassMap} {id name : String}
    (h : assignClasses style.toClass taken position ids = earlier ++ (id, name) :: later) :
    Search (fun x => x ∈ taken ∨ x ∈ earlier.map (·.2)) (fun n => style.toClass s!"{id}-{n}")
      (style.toClass id) (position + earlier.length) name := by
  induction ids generalizing taken position earlier with
  | nil => simp [assignClasses] at h
  | cons first rest ih =>
    cases earlier with
    | nil =>
      obtain ⟨rfl, rfl⟩ := Prod.mk.inj (List.cons.inj h).1
      simpa using style.search_freeClass taken position first
    | cons entry earlier =>
      obtain ⟨head, tail⟩ := List.cons.inj h
      have found := ih tail
      have same : (fun x => x ∈ freeClass style.toClass taken position first :: taken ∨
            x ∈ earlier.map (·.2)) =
          fun x => x ∈ taken ∨ x ∈ (entry :: earlier).map (·.2) := by
        funext x
        rw [← head, List.map_cons, List.mem_cons, List.mem_cons, or_assoc, or_left_comm]
      rw [same, Nat.add_right_comm] at found
      exact found

theorem notMem_of_mem_assignClasses {taken : List String} {position : Nat} {ids : List String}
    {entry : String × String} (h : entry ∈ assignClasses style.toClass taken position ids) :
    entry.2 ∉ taken ∧ style.IsName entry.2 := by
  obtain ⟨earlier, later, same⟩ := List.append_of_mem h
  have found := style.search_assignClasses same
  exact ⟨fun held => found.not_taken (.inl held), style.isName_of_search found⟩

theorem nodup_assignClasses (taken : List String) (position : Nat) (ids : List String) :
    ((assignClasses style.toClass taken position ids).map (·.2)).Nodup := by
  induction ids generalizing taken position with
  | nil => exact List.nodup_nil
  | cons id rest ih =>
    rw [assignClasses, List.map_cons, List.nodup_cons]
    constructor
    · intro again
      obtain ⟨entry, member, same⟩ := List.mem_map.mp again
      exact (style.notMem_of_mem_assignClasses member).1 (same ▸ List.mem_cons_self)
    · exact ih _ _

/-- With ids that are all different, the map is the list of the ids with their classes. -/
theorem sectionClasses_of_nodup {ids : List String} (distinct : ids.Nodup)
    (reserved : List String) :
    sectionClasses style.toClass reserved ids = assignClasses style.toClass reserved 1 ids :=
  Fields.ofPairs_of_nodup (by rwa [style.ids_assignClasses])

end ClassStyle

namespace Schema

variable {schema : Schema} {sec : Section}

/-- Every section has its class in the map that is made for the sections. -/
theorem mem_sectionClasses (distinct : schema.sectionIds.Nodup) (style : ClassStyle)
    (reserved : List String) (listed : sec ∈ schema.sections) :
    (sec.id, classIn (sectionClasses style.toClass reserved schema.sectionIds) sec) ∈
      assignClasses style.toClass reserved 1 schema.sectionIds := by
  rw [style.sectionClasses_of_nodup distinct]
  have named : ((assignClasses style.toClass reserved 1 schema.sectionIds).map (·.1)).Nodup := by
    rwa [style.ids_assignClasses]
  have known : sec.id ∈ (assignClasses style.toClass reserved 1 schema.sectionIds).map (·.1) := by
    rw [style.ids_assignClasses]
    exact List.mem_map_of_mem listed
  obtain ⟨⟨_, name⟩, member, rfl⟩ := List.mem_map.mp known
  rwa [classIn, (Fields.mem_iff_lookup named).mp member]

/-- The class of a section is a name, even if another section has the same id. -/
theorem isName_classIn (style : ClassStyle) (reserved : List String)
    (listed : sec ∈ schema.sections) :
    style.IsName (classIn (sectionClasses style.toClass reserved schema.sectionIds) sec) := by
  have found : (sectionClasses style.toClass reserved schema.sectionIds).lookup sec.id =
      (assignClasses style.toClass reserved 1 schema.sectionIds).reverse.lookup sec.id :=
    Fields.lookup_ofPairs _ _
  have known : sec.id ∈
      (assignClasses style.toClass reserved 1 schema.sectionIds).reverse.map (·.1) := by
    rw [List.map_reverse, style.ids_assignClasses, List.mem_reverse]
    exact List.mem_map_of_mem listed
  unfold classIn
  rw [found]
  cases same : (assignClasses style.toClass reserved 1 schema.sectionIds).reverse.lookup sec.id with
  | none => exact absurd known (Fields.lookup_eq_none_iff.mp same)
  | some name =>
    have member := List.mem_reverse.mp (Fields.mem_of_lookup same)
    exact (style.notMem_of_mem_assignClasses member).2

theorem classIn_notMem_reserved (distinct : schema.sectionIds.Nodup) (style : ClassStyle)
    (reserved : List String) (listed : sec ∈ schema.sections) :
    classIn (sectionClasses style.toClass reserved schema.sectionIds) sec ∉ reserved :=
  (style.notMem_of_mem_assignClasses (mem_sectionClasses distinct style reserved listed)).1

/-- Different sections have different classes. -/
theorem classIn_inj (distinct : schema.sectionIds.Nodup) (style : ClassStyle)
    (reserved : List String) {other : Section} (listed : sec ∈ schema.sections)
    (again : other ∈ schema.sections)
    (same : classIn (sectionClasses style.toClass reserved schema.sectionIds) other =
      classIn (sectionClasses style.toClass reserved schema.sectionIds) sec) : other = sec := by
  have entries := List.inj_on_of_nodup_map (style.nodup_assignClasses reserved 1 schema.sectionIds)
    (mem_sectionClasses distinct style reserved again)
    (mem_sectionClasses distinct style reserved listed) same
  exact List.inj_on_of_nodup_map distinct again listed (congrArg Prod.fst entries)

end Schema

/-- Sections whose ids are all different have classes that are all different. None of them is
reserved and each is a name. The class of a section is where its search ends when the reserved names
and the classes of earlier sections are taken: at the class of its own id if that is free. -/
theorem sectionClasses_fresh (style : ClassStyle) (reserved : List String) {ids : List String}
    (distinct : ids.Nodup) :
    (sectionClasses style.toClass reserved ids).map (·.1) = ids ∧
      ((sectionClasses style.toClass reserved ids).map (·.2)).Nodup ∧
      (∀ name ∈ (sectionClasses style.toClass reserved ids).map (·.2),
        name ∉ reserved ∧ style.IsName name) ∧
      ∀ earlier id name later,
        sectionClasses style.toClass reserved ids = earlier ++ (id, name) :: later →
          Search (fun x => x ∈ reserved ∨ x ∈ earlier.map (·.2))
              (fun n => style.toClass s!"{id}-{n}") (style.toClass id) (earlier.length + 1) name ∧
            (style.toClass id ∉ reserved → style.toClass id ∉ earlier.map (·.2) →
              name = style.toClass id) := by
  rw [style.sectionClasses_of_nodup distinct]
  refine ⟨style.ids_assignClasses _ _ _, style.nodup_assignClasses _ _ _, ?names, ?searches⟩
  case names =>
    intro name member
    obtain ⟨entry, inside, rfl⟩ := List.mem_map.mp member
    exact style.notMem_of_mem_assignClasses inside
  case searches =>
    intro earlier id name later same
    have found := style.search_assignClasses same
    rw [Nat.add_comm] at found
    refine ⟨found, ?_⟩
    intro unreserved unused
    exact found.eq_of_free (not_or.mpr ⟨unreserved, unused⟩)

/-- Ids that come to the same class, one whose class is reserved, one with a class that looks like a
numbered one, and one without a character of its own. -/
theorem crowded_sectionClasses :
    ["a_b", "a b", "a-b-2", "page", "é", "1st"].Nodup ∧
      sectionClasses ClassStyle.kebab.toClass ["page", "a-b"]
          ["a_b", "a b", "a-b-2", "page", "é", "1st"] =
        [("a_b", "a_b"), ("a b", "a-b-2"), ("a-b-2", "a-b-2-3"), ("page", "page-4"),
          ("é", "section"), ("1st", "s-1st")] ∧
      Search (fun x => x ∈ ["page", "a-b"] ∨ x ∈ ["a_b", "a-b-2"])
        (fun n => ClassStyle.kebab.toClass s!"a-b-2-{n}") (ClassStyle.kebab.toClass "a-b-2") 3
        "a-b-2-3" := by
  have distinct : ["a_b", "a b", "a-b-2", "page", "é", "1st"].Nodup := by decide
  have made : sectionClasses ClassStyle.kebab.toClass ["page", "a-b"]
          ["a_b", "a b", "a-b-2", "page", "é", "1st"] =
        [("a_b", "a_b"), ("a b", "a-b-2"), ("a-b-2", "a-b-2-3"), ("page", "page-4"),
          ("é", "section"), ("1st", "s-1st")] := by decide
  refine ⟨distinct, made, ?_⟩
  obtain ⟨-, -, -, searches⟩ := sectionClasses_fresh .kebab ["page", "a-b"] distinct
  exact (searches [("a_b", "a_b"), ("a b", "a-b-2")] _ _ _ made).1

end DesignToCode
