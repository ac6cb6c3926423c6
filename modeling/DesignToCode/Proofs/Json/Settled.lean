import DesignToCode.Proofs.Json.Strings

set_option autoImplicit false

namespace DesignToCode.Json

open DesignToCode.Text

/-- A text that does not go on with a number that stands in front of it. -/
def Ends (cs : List Char) : Prop :=
  ∀ c ∈ cs.head?, isAsciiDigit c = false ∧ c ∉ ['.', 'e', 'E']

/-- Each grave accent of a text stands between two quotation marks of its line. -/
def Quoted (cs : List Char) : Prop :=
  ∀ front back, cs = front ++ '\x60' :: back →
    (∃ x y, front = x ++ '\x22' :: y ∧ '\n' ∉ y) ∧ ∃ x y, back = x ++ '\x22' :: y ∧ '\n' ∉ x

/-- What a reader settles on does not depend on more of the text than it has taken, nor on its fuel
where that is enough for what it takes: two steps for each character and `spare` more. -/
inductive Settled {α : Type} (reader : Nat → List Char → Read α) (spare : Nat) (cs : List Char) :
    Read α → Prop
  | ok {a : α} {taken rest : List Char} (given : taken ≠ []) (quoted : Quoted taken)
      (same : cs = taken ++ rest)
      (again : ∀ fuel other, 2 * taken.length + spare ≤ fuel → Ends other →
        reader fuel (taken ++ other) = .ok (a, other)) :
      Settled reader spare cs (.ok (a, rest))
  | tooDeep {inner : Container} {taken rest : List Char} (given : taken ≠ [])
      (quoted : Quoted taken) (same : cs = taken ++ rest)
      (again : ∀ fuel other, 2 * taken.length + spare ≤ fuel →
        reader fuel (taken ++ other) = .error (.tooDeep inner)) :
      Settled reader spare cs (.error (.tooDeep inner))
  | tooManyDigits {run : List Char} (inside : run <:+: cs)
      (digits : ∀ c ∈ run, isAsciiDigit c = true)
      (long : Numeral.digitLimit < run.length) :
      Settled reader spare cs (.error (.tooManyDigits run.length))
  | at {defect : Defect} {place : Nat} : Settled reader spare cs (.error (.at defect place))

/-- A reader that goes on behind another one settles on what it comes to, and it only reads on where
the text does not go on with a number. -/
structure SettledBehind {α : Type} (reader : Nat → List Char → Read α) (spare : Nat)
    (cs : List Char)
    (result : Read α) : Prop where
  settled : Settled reader spare cs result
  ends : Ends cs ∨ ∃ defect place, result = .error (.at defect place)

theorem Quoted.of_notMem {cs : List Char} (none : '\x60' ∉ cs) : Quoted cs := by
  rintro front back rfl
  simp at none

theorem Quoted.append {front back : List Char} (first : Quoted front) (second : Quoted back) :
    Quoted (front ++ back) := by
  intro x y same
  rcases List.append_eq_append_iff.mp same with ⟨more, rfl, later⟩ | ⟨more, shape, later⟩
  · obtain ⟨⟨v, w, rfl, before⟩, behind⟩ := second more y later
    exact ⟨⟨front ++ v, w, by simp, before⟩, behind⟩
  · cases more with
    | nil =>
      obtain ⟨⟨v, w, same, _⟩, behind⟩ := second [] y later.symm
      simp at same
    | cons c more =>
      obtain ⟨rfl, rfl⟩ := List.cons.inj later
      obtain ⟨before, v, w, rfl, behind⟩ := first x more shape
      exact ⟨before, v, w ++ back, by simp, behind⟩

/-- No grave accent starts a line. -/
theorem Quoted.ne_break {cs : List Char} (quoted : Quoted cs) (front back : List Char) :
    cs ≠ front ++ '\n' :: '\x60' :: back := by
  intro same
  obtain ⟨⟨x, y, shape, oneLine⟩, -⟩ := quoted (front ++ ['\n']) back (by simpa using same)
  rcases List.append_eq_append_iff.mp shape with ⟨more, -, last⟩ | ⟨more, -, last⟩
  · cases more with
    | nil => exact absurd (List.cons.inj last).1 (by decide)
    | cons c more => simp at last
  · cases more with
    | nil => exact absurd (List.cons.inj last).1 (by decide)
    | cons c more =>
      obtain ⟨-, rfl⟩ := List.cons.inj last
      simp at oneLine

theorem Quoted.of_body {body : List Char} (oneLine : '\n' ∉ body) :
    Quoted ('\x22' :: (body ++ ['\x22'])) := by
  intro front back same
  cases front with
  | nil => exact absurd (List.cons.inj same).1 (by decide)
  | cons c front =>
    obtain ⟨rfl, behind⟩ := List.cons.inj same
    rcases List.append_eq_append_iff.mp behind with ⟨more, rfl, later⟩ | ⟨more, rfl, later⟩
    · cases more with
      | nil => exact absurd (List.cons.inj later).1 (by decide)
      | cons d more => simp at later
    · cases more with
      | nil => exact absurd (List.cons.inj later).1 (by decide)
      | cons d more =>
        obtain ⟨rfl, rfl⟩ := List.cons.inj later
        simp only [List.mem_append, List.mem_cons, not_or] at oneLine
        exact ⟨⟨[], front, rfl, oneLine.1⟩, more, [], rfl, oneLine.2.2⟩

namespace Settled

variable {α β : Type} {reader other : Nat → List Char → Read α} {spare more : Nat}
  {cs rest : List Char} {result : Read α}

/-- A reader that takes a few characters, none of them a grave accent, at once. -/
theorem leaf {a : α} (taken : List Char) (given : taken ≠ []) (plain : '\x60' ∉ taken)
    (again : ∀ fuel other, spare < fuel → Ends other →
      reader fuel (taken ++ other) = .ok (a, other)) :
    Settled reader spare (taken ++ rest) (.ok (a, rest)) := by
  refine .ok given (.of_notMem plain) rfl ?_
  intro fuel other enough ends
  have := List.length_pos_iff.mpr given
  exact again fuel other (by omega) ends

/-- A reader that reads some characters and then goes on as another one does. -/
theorem lift {more : Nat} (steps : Nat) (front : List Char) (plain : '\x60' ∉ front)
    (enough : more + steps ≤ 2 * front.length + spare) (h : Settled other more cs result)
    (same : ∀ fuel text, text.head? = cs.head? →
      reader (fuel + steps) (front ++ text) = other fuel text) :
    Settled reader spare (front ++ cs) result := by
  have goesOn {taken rest : List Char} (given : taken ≠ []) (split : cs = taken ++ rest)
      {fuel : Nat}
      (fed : 2 * (front ++ taken).length + spare ≤ fuel) (text : List Char) :
      ∃ left, 2 * taken.length + more ≤ left ∧
        reader fuel (front ++ taken ++ text) = other left (taken ++ text) := by
    have head : (taken ++ text).head? = cs.head? := by
      cases taken with
      | nil => exact absurd rfl given
      | cons c taken => rw [split]; rfl
    rw [List.length_append] at fed
    refine ⟨fuel - steps, by omega, ?_⟩
    rw [← same _ _ head, Nat.sub_add_cancel (by omega), List.append_assoc]
  cases h with
  | ok given quoted split again =>
    refine .ok (List.append_ne_nil_of_right_ne_nil front given)
      ((Quoted.of_notMem plain).append quoted) (by rw [split, List.append_assoc]) ?_
    intro fuel text fed ends
    obtain ⟨left, enough, goes⟩ := goesOn given split fed text
    rw [goes, again left text enough ends]
  | tooDeep given quoted split again =>
    refine .tooDeep (List.append_ne_nil_of_right_ne_nil front given)
      ((Quoted.of_notMem plain).append quoted) (by rw [split, List.append_assoc]) ?_
    intro fuel text fed
    obtain ⟨left, enough, goes⟩ := goesOn given split fed text
    rw [goes, again left text enough]
  | tooManyDigits inside digits long =>
    exact .tooManyDigits (inside.trans (List.suffix_append front cs).isInfix) digits long
  | «at» => exact .at

theorem map (f : α → β) (h : Settled reader spare cs result) :
    Settled (fun fuel cs => (reader fuel cs).andThen fun a rest => .ok (f a, rest)) spare cs
      (result.andThen fun a rest => .ok (f a, rest)) := by
  cases h with
  | ok given quoted split again =>
    refine .ok given quoted split ?_
    intro fuel text enough ends
    rw [again fuel text enough ends]
    rfl
  | tooDeep given quoted split again =>
    refine .tooDeep given quoted split ?_
    intro fuel text enough
    rw [again fuel text enough]
    rfl
  | tooManyDigits inside digits long => exact .tooManyDigits inside digits long
  | «at» => exact .at

end Settled

theorem Ends.congr {cs text : List Char} (h : Ends cs) (same : text.head? = cs.head?) :
    Ends text := by
  unfold Ends
  rwa [same]

theorem ends_nil : Ends [] := nofun

theorem ends_cons {c : Char} (plain : isAsciiDigit c = false ∧ c ∉ ['.', 'e', 'E'])
    (rest : List Char) : Ends (c :: rest) := by
  rintro _ ⟨⟩
  exact plain

theorem takeWhile_append_skipSpace (cs : List Char) : cs.takeWhile isSpace ++ skipSpace cs = cs :=
  List.takeWhile_append_dropWhile

theorem isSpace_cases {c : Char} (h : isSpace c = true) : c ∈ [' ', '\t', '\n', '\r'] := by
  simpa [isSpace, or_assoc] using h

theorem notMem_of_space {cs : List Char} (all : ∀ c ∈ cs, isSpace c = true) : '\x60' ∉ cs :=
  fun member => absurd (all _ member) (by decide)

theorem quoted_of_space {cs : List Char} (all : ∀ c ∈ cs, isSpace c = true) : Quoted cs :=
  .of_notMem (notMem_of_space all)

theorem ends_of_skipSpace {cs : List Char} (h : Ends (skipSpace cs)) : Ends cs := by
  cases cs with
  | nil => exact h
  | cons c rest =>
    cases space : isSpace c with
    | false => rwa [skipSpace, List.dropWhile_cons_of_neg (by simp [space])] at h
    | true =>
      have plain : ∀ c ∈ [' ', '\t', '\n', '\r'],
          isAsciiDigit c = false ∧ c ∉ ['.', 'e', 'E'] := forall_mem_of_all (by decide)
      exact ends_cons (plain c (isSpace_cases space)) rest

/-- What stands behind white space, in front of a text that does not go on with it. -/
theorem skipSpace_append {space : List Char} (all : ∀ c ∈ space, isSpace c = true)
    {text : List Char} (ends : ∀ c ∈ text.head?, isSpace c = false) :
    skipSpace (space ++ text) = text := by
  rw [skipSpace, List.dropWhile_append_of_pos all]
  cases text with
  | nil => rfl
  | cons c rest => exact List.dropWhile_cons_of_neg (by simp [ends c rfl])

theorem isSpace_of_mem_head_skipSpace {cs : List Char} :
    ∀ c ∈ (skipSpace cs).head?, isSpace c = false := by
  intro c first
  have := List.head?_dropWhile_not isSpace cs
  rw [skipSpace] at first
  simp_all

namespace Settled

variable {α β : Type} {reader other : Nat → List Char → Read α} {spare : Nat}
  {cs rest : List Char} {result : Read α}

theorem behindSpace (h : Settled reader spare (skipSpace cs) result) :
    Settled (fun fuel cs => reader fuel (skipSpace cs)) spare cs result := by
  have all := List.all_eq_true.mp (List.all_takeWhile (p := isSpace) (l := cs))
  rw [← takeWhile_append_skipSpace cs]
  refine lift 0 _ (notMem_of_space all) (by omega) h ?_
  intro fuel text same
  rw [skipSpace_append all (same ▸ isSpace_of_mem_head_skipSpace)]
  rfl

/-- A reader that goes on behind what another one has read, where that is not changed by it. -/
theorem andThen (next : Nat → α → List Char → Read β) (behind : α → List Char → Read β)
    (first : Settled reader spare cs result)
    (second : ∀ a rest, SettledBehind (fun fuel => next fuel a) (spare + 2) rest (behind a rest)) :
    Settled (fun fuel cs => (reader fuel cs).andThen (next fuel)) spare cs
      (result.andThen behind) := by
  cases first with
  | @ok a taken rest given quoted split again =>
    obtain ⟨later, ends⟩ := second a rest
    have pays : 2 ≤ 2 * taken.length := by
      have := List.length_pos_iff.mpr given
      omega
    have goesOn {more : List Char} (nonempty : more ≠ []) {tail : List Char}
        (begins : rest = more ++ tail) (ends : Ends rest) {fuel : Nat}
        (fed : 2 * (taken ++ more).length + spare ≤ fuel) (text : List Char) :
        (reader fuel (taken ++ more ++ text)).andThen (next fuel) = next fuel a (more ++ text) := by
      have head : (more ++ text).head? = rest.head? := by
        cases more with
        | nil => exact absurd rfl nonempty
        | cons c more => rw [begins]; rfl
      rw [List.length_append] at fed
      rw [List.append_assoc, again fuel _ (by omega) (ends.congr head)]
      rfl
    change Settled _ _ _ (behind a rest)
    generalize behind a rest = outcome at later ends
    cases later with
    | @ok b more tail nonempty quotedToo begins further =>
      have ends := ends.resolve_right nofun
      refine .ok (List.append_ne_nil_of_left_ne_nil given more) (quoted.append quotedToo)
        (by rw [split, begins, List.append_assoc]) ?_
      intro fuel text fed stops
      rw [goesOn nonempty begins ends fed]
      rw [List.length_append] at fed
      exact further fuel text (by omega) stops
    | @tooDeep inner more tail nonempty quotedToo begins further =>
      have ends := ends.resolve_right nofun
      refine .tooDeep (List.append_ne_nil_of_left_ne_nil given more) (quoted.append quotedToo)
        (by rw [split, begins, List.append_assoc]) ?_
      intro fuel text fed
      rw [goesOn nonempty begins ends fed]
      rw [List.length_append] at fed
      exact further fuel text (by omega)
    | tooManyDigits inside digits long =>
      refine .tooManyDigits (inside.trans ?_) digits long
      rw [split]
      exact (List.suffix_append taken rest).isInfix
    | «at» => exact .at
  | tooDeep given quoted split again =>
    refine .tooDeep given quoted split ?_
    intro fuel text enough
    rw [again fuel text enough]
    rfl
  | tooManyDigits inside digits long => exact .tooManyDigits inside digits long
  | «at» => exact .at

end Settled

theorem SettledBehind.behindSpace {α : Type} {reader : Nat → List Char → Read α} {spare : Nat}
    {cs : List Char} {result : Read α} (h : SettledBehind reader spare (skipSpace cs) result) :
    SettledBehind (fun fuel cs => reader fuel (skipSpace cs)) spare cs result where
  settled := h.settled.behindSpace
  ends := h.ends.imp_left ends_of_skipSpace

end DesignToCode.Json
