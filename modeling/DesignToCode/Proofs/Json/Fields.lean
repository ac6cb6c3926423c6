import DesignToCode.Json.Basic

set_option autoImplicit false

namespace DesignToCode.Fields

variable {α : Type}

theorem lookup_append (fields more : List (String × α)) (key : String) :
    (fields ++ more).lookup key = (fields.lookup key).or (more.lookup key) := by
  induction fields with
  | nil => rfl
  | cons head rest ih =>
    obtain ⟨k, v⟩ := head
    by_cases h : key = k
    · simp [h]
    · simp [List.lookup_cons, beq_false_of_ne h, ih]

theorem lookup_insert_of_ne {front back : List (String × α)} {key other : String} (value : α)
    (ne : other ≠ key) :
    (front ++ (key, value) :: back).lookup other = (front ++ back).lookup other := by
  rw [lookup_append, lookup_append, List.lookup_cons, beq_false_of_ne ne]

theorem lookup_putNew (fields : List (String × α)) (key other : String) (value : α) :
    (putNew fields key value).lookup other =
      (fields.lookup other).or (if other = key then some value else none) := by
  unfold putNew
  split
  · rename_i present
    by_cases h : other = key
    · subst h
      obtain ⟨v, found⟩ := Option.isSome_iff_exists.mp present
      simp [found]
    · simp [h]
  · rw [lookup_append]
    by_cases h : other = key
    · simp [h]
    · simp [h, List.lookup_cons, beq_false_of_ne h]

/-- Taking fields away does not change what is found under the keys that stay. -/
theorem lookup_filter {keep : String → Bool} {key : String} (kept : keep key = true)
    (fields : List (String × α)) :
    (fields.filter fun entry => keep entry.1).lookup key = fields.lookup key := by
  induction fields with
  | nil => rfl
  | cons head rest ih =>
    obtain ⟨k, v⟩ := head
    by_cases same : key = k
    · subst same
      simp [kept]
    · cases stays : keep k <;> simp [stays, List.lookup_cons, beq_false_of_ne same, ih]

theorem mem_of_lookup {fields : List (String × α)} {key : String} {value : α}
    (h : fields.lookup key = some value) : (key, value) ∈ fields := by
  induction fields with
  | nil => cases h
  | cons head rest ih =>
    obtain ⟨k, v⟩ := head
    rw [List.lookup_cons] at h
    by_cases same : key = k
    · subst same
      simp at h
      simp [h]
    · rw [beq_false_of_ne same] at h
      exact List.mem_cons_of_mem _ (ih h)

theorem mem_of_mem_put {fields : List (String × α)} {key : String} {value : α}
    {entry : String × α} (h : entry ∈ put fields key value) :
    entry.1 = key ∨ entry ∈ fields := by
  induction fields with
  | nil => exact .inl (congrArg Prod.fst (List.mem_singleton.mp h))
  | cons head rest ih =>
    rw [put] at h
    split at h
    · rcases List.mem_cons.mp h with rfl | later
      · exact .inl rfl
      · exact .inr (List.mem_cons_of_mem head later)
    · rcases List.mem_cons.mp h with rfl | later
      · exact .inr List.mem_cons_self
      · exact (ih later).imp id (List.mem_cons_of_mem head)

theorem lookup_eq_none_iff {fields : List (String × α)} {key : String} :
    fields.lookup key = none ↔ key ∉ fields.map (·.1) := by
  induction fields with
  | nil => simp
  | cons head rest ih =>
    obtain ⟨k, v⟩ := head
    by_cases h : key = k
    · simp [h]
    · simp [List.lookup_cons, beq_false_of_ne h, ih, h]

/-- With keys that are all different, a field is there exactly when it is found. -/
theorem mem_iff_lookup {fields : List (String × α)} (distinct : (fields.map (·.1)).Nodup)
    {key : String} {value : α} : (key, value) ∈ fields ↔ fields.lookup key = some value := by
  refine ⟨?_, mem_of_lookup⟩
  intro member
  induction fields with
  | nil => cases member
  | cons head rest ih =>
    obtain ⟨k, v⟩ := head
    simp only [List.map_cons, List.nodup_cons] at distinct
    rcases List.mem_cons.mp member with first | later
    · cases first
      simp
    · have other : key ≠ k := by
        rintro rfl
        exact distinct.1 (List.mem_map_of_mem later)
      rw [List.lookup_cons, beq_false_of_ne other]
      exact ih distinct.2 later

theorem nodup_putNew {fields : List (String × α)} (distinct : (fields.map (·.1)).Nodup)
    (key : String) (value : α) : ((putNew fields key value).map (·.1)).Nodup := by
  unfold putNew
  split
  · exact distinct
  · rename_i absent
    have fresh : key ∉ fields.map (·.1) :=
      lookup_eq_none_iff.mp (Option.not_isSome_iff_eq_none.mp absent)
    rw [List.map_append, List.map_singleton, List.nodup_append]
    refine ⟨distinct, by simp, ?_⟩
    rintro a ha b hb rfl
    obtain rfl : a = key := by simpa using hb
    exact fresh ha

theorem put_of_notMem {fields : List (String × α)} {key : String} (absent : key ∉ fields.map (·.1))
    (value : α) : put fields key value = fields ++ [(key, value)] := by
  induction fields with
  | nil => rfl
  | cons head rest ih =>
    obtain ⟨k, v⟩ := head
    rw [List.map_cons, List.mem_cons, not_or] at absent
    rw [put, if_neg fun same => absent.1 same.symm, ih absent.2]
    rfl

theorem nodup_put {fields : List (String × α)} (distinct : (fields.map (·.1)).Nodup) (key : String)
    (value : α) : ((put fields key value).map (·.1)).Nodup := by
  induction fields with
  | nil => exact List.nodup_cons.mpr ⟨List.not_mem_nil, List.nodup_nil⟩
  | cons head rest ih =>
    obtain ⟨k, v⟩ := head
    obtain ⟨absent, distinct⟩ := List.nodup_cons.mp distinct
    rw [put]
    split
    · rename_i same
      subst same
      exact List.nodup_cons.mpr ⟨absent, distinct⟩
    · rename_i other
      refine List.nodup_cons.mpr ⟨?_, ih distinct⟩
      intro present
      obtain ⟨entry, member, same⟩ := List.mem_map.mp present
      rcases mem_of_mem_put member with put | before
      · exact other (same.symm.trans put)
      · exact absent (same ▸ List.mem_map_of_mem before)

theorem nodup_putAll {fields : List (String × α)} (distinct : (fields.map (·.1)).Nodup)
    (more : List (String × α)) : ((putAll fields more).map (·.1)).Nodup := by
  induction more generalizing fields with
  | nil => exact distinct
  | cons pair rest ih => exact ih (nodup_put distinct pair.1 pair.2)

theorem putAll_ne_nil {fields : List (String × α)} (some : fields ≠ [])
    (more : List (String × α)) : putAll fields more ≠ [] := by
  induction more generalizing fields with
  | nil => exact some
  | cons pair rest ih =>
    refine ih ?_
    cases fields with
    | nil => exact absurd rfl some
    | cons head tail =>
      show put (head :: tail) pair.1 pair.2 ≠ []
      rw [put]
      split <;> exact List.cons_ne_nil _ _

/-- Of several later fields with one key, the last one counts. -/
theorem lookup_putAll (fields more : List (String × α)) (key : String) :
    (putAll fields more).lookup key = (more.reverse.lookup key).or (fields.lookup key) := by
  induction more generalizing fields with
  | nil => rfl
  | cons pair rest ih =>
    obtain ⟨k, value⟩ := pair
    have first : (put fields k value).lookup key =
        ([(k, value)].lookup key).or (fields.lookup key) := by
      by_cases same : key = k
      · simp [same, lookup_put_self]
      · simp [lookup_put_of_ne fields value same, List.lookup_cons, beq_false_of_ne same]
    have tail := ih (put fields k value)
    rw [first, ← Option.or_assoc, ← lookup_append, ← List.reverse_cons] at tail
    exact tail

/-- Of several fields with one key, the last one counts. -/
theorem lookup_ofPairs (pairs : List (String × α)) (key : String) :
    (ofPairs pairs).lookup key = pairs.reverse.lookup key := by
  have all := lookup_putAll [] pairs key
  rwa [List.lookup_nil, Option.or_none] at all

/-- Fields whose keys are all different stay as they are. -/
theorem ofPairs_of_nodup {pairs : List (String × α)} (distinct : (pairs.map (·.1)).Nodup) :
    ofPairs pairs = pairs := by
  have more (made rest : List (String × α)) (distinct : ((made ++ rest).map (·.1)).Nodup) :
      rest.foldl (fun fields pair => put fields pair.1 pair.2) made = made ++ rest := by
    induction rest generalizing made with
    | nil => simp
    | cons pair rest ih =>
      rw [List.append_cons] at distinct
      have absent : pair.1 ∉ made.map (·.1) := by
        intro present
        rw [List.map_append, List.map_append, List.append_assoc] at distinct
        exact (List.nodup_append.mp distinct).2.2 _ present _ (by simp) rfl
      rw [List.foldl_cons, put_of_notMem absent, ih _ distinct, ← List.append_cons]
  exact more [] pairs distinct

end DesignToCode.Fields
