import DesignToCode.Style.ClassName
import DesignToCode.Proofs.Text.Decimal
import DesignToCode.Proofs.Text.Words

set_option autoImplicit false

namespace DesignToCode

open DesignToCode.Text

theorem isNameChar_of_mem_dashGaps {cs : List Char} {c : Char} (h : c ∈ dashGaps cs) :
    isNameChar c = true := by
  induction cs with
  | nil => cases h
  | cons d rest ih =>
    unfold dashGaps at h
    split at h
    · rename_i kept
      rcases List.mem_cons.mp h with rfl | later
      · exact kept
      · exact ih later
    · split at h
      · rcases List.mem_cons.mp h with rfl | later
        · decide
        · exact ih later
      · exact ih h

theorem mem_of_mem_stripDashes {cs : List Char} {c : Char} (h : c ∈ stripDashes cs) : c ∈ cs := by
  simp only [stripDashes, List.mem_reverse] at h
  have inner := (List.dropWhile_sublist _).mem h
  exact (List.dropWhile_sublist _).mem (List.mem_reverse.mp inner)

theorem isNameChar_of_mem_nameChars {s : String} {c : Char} (h : c ∈ nameChars s) :
    isNameChar c = true :=
  isNameChar_of_mem_dashGaps (mem_of_mem_stripDashes h)

theorem isNameChar_of_mem_repr {i : Int} {c : Char} (h : c ∈ i.repr.toList) :
    isNameChar c = true := by
  rcases mem_repr_int h with rfl | digit
  · decide
  · simp [isNameChar, isAsciiAlphanumeric, isAsciiDigit_of_isDigit digit]

theorem stripDashes_head {cs rest : List Char} {c : Char} (h : stripDashes cs = c :: rest) :
    c ≠ '-' := by
  have front : stripDashes cs <+: cs.dropWhile (· = '-') := by
    rw [stripDashes, ← List.reverse_suffix, List.reverse_reverse]
    exact List.dropWhile_suffix _
  rw [h] at front
  obtain ⟨more, same⟩ := front
  have head := List.head?_dropWhile_not (· = '-') cs
  rw [← same] at head
  simpa using head

/-- The two ways in which an id comes to a class. -/
inductive ClassStyle where
  | kebab
  | camel
  deriving DecidableEq, Repr

namespace ClassStyle

def toClass : ClassStyle → String → String
  | kebab => kebabClass
  | camel => camelClass

/-- What a name of the style may begin with. -/
def isFirst : ClassStyle → Char → Bool
  | kebab, c => isAsciiLetter c || c = '_'
  | camel, c => isAsciiLetter c

/-- What a name of the style may go on with. -/
def isLater : ClassStyle → Char → Bool
  | kebab, c => isNameChar c
  | camel, c => isAsciiAlphanumeric c

def IsName (style : ClassStyle) (name : String) : Prop :=
  ∃ first rest, name.toList = first :: rest ∧ style.isFirst first = true ∧
    ∀ c ∈ rest, style.isLater c = true

instance (style : ClassStyle) (name : String) : Decidable (style.IsName name) :=
  match h : name.toList with
  | [] => isFalse (by rintro ⟨_, _, same, -⟩; rw [h] at same; cases same)
  | first :: rest =>
    decidable_of_iff (style.isFirst first = true ∧ rest.all style.isLater = true) (by
      rw [List.all_eq_true]
      constructor
      · intro both
        exact ⟨first, rest, h, both⟩
      · rintro ⟨_, _, same, both⟩
        rw [h] at same
        cases same
        exact both)

end ClassStyle

theorem isName_kebabClass (id : String) : ClassStyle.kebab.IsName (kebabClass id) := by
  unfold kebabClass
  cases name : nameChars id with
  | nil => exact (by decide : ClassStyle.kebab.IsName namelessClass)
  | cons c rest =>
    have chars : ∀ d ∈ c :: rest, isNameChar d = true := fun d member =>
      isNameChar_of_mem_nameChars (s := id) (name ▸ member)
    have start : c ≠ '-' := stripDashes_head name
    simp only [List.isEmpty_cons, Bool.false_eq_true, if_false]
    split
    · refine ⟨'s', '-' :: c :: rest, String.toList_ofList, by decide, ?_⟩
      exact List.forall_mem_cons.mpr ⟨by decide, chars⟩
    · rename_i noDigit
      refine ⟨c, rest, String.toList_ofList, ?_, (List.forall_mem_cons.mp chars).2⟩
      have here := chars c List.mem_cons_self
      have noDigit' : isAsciiDigit c = false := by simpa [startsWithDigit] using noDigit
      simpa [isNameChar, isAsciiAlphanumeric, noDigit', start, ClassStyle.isFirst] using here

theorem isName_camelClass (id : String) : ClassStyle.camel.IsName (camelClass id) := by
  unfold camelClass
  cases words : wordsBy isAsciiAlphanumeric id.toList with
  | nil => exact (by decide : ClassStyle.camel.IsName namelessClass)
  | cons word more =>
    have kept (w : List Char) (member : w ∈ word :: more) : w ≠ [] ∧ ∀ c ∈ w,
        isAsciiAlphanumeric c = true := mem_wordsBy (words ▸ member)
    obtain ⟨c, rest, rfl⟩ := List.exists_cons_of_ne_nil (kept word List.mem_cons_self).1
    have first := List.forall_mem_cons.mp (kept (c :: rest) List.mem_cons_self).2
    have later : ∀ d ∈ rest.map Char.toLower ++ more.flatMap capitalized,
        isAsciiAlphanumeric d = true := by
      intro d member
      rcases List.mem_append.mp member with small | capital
      · obtain ⟨e, inside, rfl⟩ := List.mem_map.mp small
        exact (isAsciiAlphanumeric_forms (first.2 e inside)).1
      · obtain ⟨w, listed, inside⟩ := List.mem_flatMap.mp capital
        have all := (kept w (List.mem_cons_of_mem _ listed)).2
        cases w with
        | nil => cases inside
        | cons e tail =>
          rcases List.mem_cons.mp inside with rfl | behind
          · exact (isAsciiAlphanumeric_forms (all e List.mem_cons_self)).2
          · exact all d (List.mem_cons_of_mem e behind)
    have head := (isAsciiAlphanumeric_forms first.1).1
    simp only [List.map_cons, List.cons_append]
    split
    · refine ⟨'s', _, String.toList_ofList, by decide, ?_⟩
      exact List.forall_mem_cons.mpr ⟨head, later⟩
    · rename_i noDigit
      refine ⟨c.toLower, _, String.toList_ofList, ?_, later⟩
      have noDigit' : isAsciiDigit c.toLower = false := by simpa [startsWithDigit] using noDigit
      simpa [isAsciiAlphanumeric, noDigit', ClassStyle.isFirst] using head

theorem ClassStyle.isName_toClass (style : ClassStyle) (id : String) :
    style.IsName (style.toClass id) := by
  cases style with
  | kebab => exact isName_kebabClass id
  | camel => exact isName_camelClass id

theorem dashGaps_of_all {cs : List Char} (names : ∀ c ∈ cs, isNameChar c = true) :
    dashGaps cs = cs := by
  induction cs with
  | nil => rfl
  | cons c rest ih =>
    rw [List.forall_mem_cons] at names
    rw [dashGaps, if_pos names.1, ih names.2]

theorem dashGaps_append_dash (cs rest : List Char) :
    dashGaps (cs ++ '-' :: rest) = dashGaps cs ++ '-' :: dashGaps rest := by
  have dash : isNameChar '-' = true := by decide
  induction cs with
  | nil => simp [dashGaps, dash]
  | cons c more ih =>
    have head : (more ++ '-' :: rest).head?.all isNameChar = more.head?.all isNameChar := by
      cases more with
      | nil => simpa using dash
      | cons d _ => rfl
    rw [List.cons_append, dashGaps, dashGaps, head, ih]
    split
    · rfl
    · split <;> rfl

theorem dropWhile_dash_append {cs : List Char} (given : cs ≠ []) (plain : '-' ∉ cs)
    (rest : List Char) : (cs ++ rest).dropWhile (· = '-') = cs ++ rest := by
  obtain ⟨first, more, rfl⟩ := List.exists_cons_of_ne_nil given
  have start : first ≠ '-' := by
    rintro rfl
    exact plain List.mem_cons_self
  rw [List.cons_append, List.dropWhile_cons_of_neg (by simpa using start)]

/-- Text without dashes that stands behind a dash is kept, and has no say in what is kept before. -/
theorem stripDashes_append_dash {ds : List Char} (given : ds ≠ []) (plain : '-' ∉ ds)
    (cs : List Char) :
    stripDashes (cs ++ '-' :: ds) = (cs ++ ['-']).dropWhile (· = '-') ++ ds := by
  have start : (cs ++ '-' :: ds).dropWhile (· = '-') =
      (cs ++ ['-']).dropWhile (· = '-') ++ ds := by
    rw [List.append_cons cs '-' ds, List.dropWhile_append]
    split
    · rename_i gone
      have whole := dropWhile_dash_append given plain []
      rw [List.append_nil] at whole
      rw [List.isEmpty_iff.mp gone, whole, List.nil_append]
    · rfl
  have given' : ds.reverse ≠ [] := by simpa using given
  have plain' : '-' ∉ ds.reverse := by simpa using plain
  rw [stripDashes, start, List.reverse_append, dropWhile_dash_append given' plain',
    List.reverse_append, List.reverse_reverse, List.reverse_reverse]

theorem startsWithDigit_append {ds : List Char} (given : ds ≠ [])
    (digits : ∀ d ∈ ds, isAsciiDigit d = true) (cs : List Char) :
    startsWithDigit (cs ++ ds) = (cs.isEmpty || startsWithDigit cs) := by
  cases cs with
  | nil =>
    obtain ⟨first, more, rfl⟩ := List.exists_cons_of_ne_nil given
    simpa [startsWithDigit] using digits first List.mem_cons_self
  | cons c more => simp [startsWithDigit]

theorem exists_kebabClass_front (id : String) :
    ∃ front, ∀ n : Nat, kebabClass s!"{id}-{n}" = String.ofList (front ++ n.repr.toList) := by
  let front := (dashGaps id.toList ++ ['-']).dropWhile (· = '-')
  refine ⟨if front.isEmpty || startsWithDigit front then 's' :: '-' :: front else front, ?_⟩
  intro n
  obtain ⟨given, digits⟩ := repr_nat_digits n
  have names : ∀ c ∈ n.repr.toList, isNameChar c = true := fun c member => by
    simp [isNameChar, isAsciiAlphanumeric, digits c member]
  have made : nameChars s!"{id}-{n}" = front ++ n.repr.toList := by
    have letters : (s!"{id}-{n}").toList = id.toList ++ '-' :: n.repr.toList := by simp
    rw [nameChars, letters, dashGaps_append_dash, dashGaps_of_all names,
      stripDashes_append_dash given (dash_notMem_repr n)]
  have some : (front ++ n.repr.toList).isEmpty = false := by simp
  simp only [kebabClass, made, some, Bool.false_eq_true, if_false,
    startsWithDigit_append given digits]
  split <;> rfl

theorem map_toLower_digits {ds : List Char} (digits : ∀ c ∈ ds, isAsciiDigit c = true) :
    ds.map Char.toLower = ds := by
  rw [List.map_congr_left fun c member => (forms_of_isAsciiDigit (digits c member)).1, List.map_id']

theorem capitalized_digits {ds : List Char} (digits : ∀ c ∈ ds, isAsciiDigit c = true) :
    capitalized ds = ds := by
  cases ds with
  | nil => rfl
  | cons c rest => rw [capitalized, (forms_of_isAsciiDigit (digits c List.mem_cons_self)).2]

/-- Words in one, each but the first with a capital. -/
def camelWords : List (List Char) → List Char
  | [] => []
  | first :: rest => first.map Char.toLower ++ rest.flatMap capitalized

theorem exists_camelClass_front (id : String) :
    ∃ front, ∀ n : Nat, camelClass s!"{id}-{n}" = String.ofList (front ++ n.repr.toList) := by
  let front := camelWords (wordsBy isAsciiAlphanumeric id.toList)
  refine ⟨if front.isEmpty || startsWithDigit front then 's' :: front else front, ?_⟩
  intro n
  obtain ⟨given, digits⟩ := repr_nat_digits n
  have gap : isAsciiAlphanumeric '-' = false := by decide
  have inside : ∀ c ∈ n.repr.toList, isAsciiAlphanumeric c = true := fun c member => by
    simp [isAsciiAlphanumeric, digits c member]
  have letters : (s!"{id}-{n}").toList = id.toList ++ '-' :: n.repr.toList := by simp
  have words : wordsBy isAsciiAlphanumeric (s!"{id}-{n}").toList =
      wordsBy isAsciiAlphanumeric id.toList ++ [n.repr.toList] := by
    rw [letters, wordsBy_append_gap gap, wordsBy_of_all given inside]
  have number := startsWithDigit_append given digits front
  unfold camelClass
  rw [words]
  cases found : wordsBy isAsciiAlphanumeric id.toList with
  | nil =>
    simp only [front, camelWords, found, List.nil_append, List.isEmpty_nil, Bool.true_or, if_true]
      at number ⊢
    simp only [map_toLower_digits digits, List.flatMap_nil, List.append_nil, number, if_true]
    rfl
  | cons word more =>
    simp only [front, camelWords, found] at number ⊢
    simp only [List.cons_append, List.flatMap_append, List.flatMap_cons, List.flatMap_nil,
      List.append_nil, capitalized_digits digits, ← List.append_assoc, number]
    split <;> rfl

/-- The classes of an id with different numbers differ: behind what the id comes to, whatever it is,
stands the number. -/
theorem ClassStyle.toClass_numbered_inj (style : ClassStyle) (id : String) {m n : Nat}
    (h : style.toClass s!"{id}-{m}" = style.toClass s!"{id}-{n}") : m = n := by
  have front : ∃ front, ∀ k : Nat, style.toClass s!"{id}-{k}" =
      String.ofList (front ++ k.repr.toList) := by
    cases style with
    | kebab => exact exists_kebabClass_front id
    | camel => exact exists_camelClass_front id
  obtain ⟨front, made⟩ := front
  rw [made, made, String.ofList_inj, List.append_cancel_left_eq, String.toList_inj] at h
  exact repr_nat_injective h

end DesignToCode
