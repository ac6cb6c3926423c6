import DesignToCode.Proofs.Json.Numbers

set_option autoImplicit false

namespace DesignToCode.Json

open DesignToCode.Text

/-- A text between quotation marks. -/
def quotedText (cs : List Char) : Read (List Nat) :=
  match cs with
  | '\x22' :: rest => stringBody cs.length rest
  | cs => halt .noName cs

theorem settled_quotedText (spare : Nat) (cs : List Char) :
    Settled (fun _ => quotedText) spare cs (quotedText cs) := by
  unfold quotedText
  split
  · rename_i rest
    cases read : stringBody ('\x22' :: rest).length rest with
    | error stop =>
      obtain ⟨defect, place, rfl⟩ := exists_at_of_stringBody read
      exact .at
    | ok result =>
      obtain ⟨codes, behind⟩ := result
      obtain ⟨body, rfl, inner⟩ := exists_body_of_stringBody read
      refine .ok (List.cons_ne_nil _ _) (.of_body inner.oneLine) (by simp) ?_
      intro fuel text _ _
      have := inner.again (body ++ '\x22' :: text).length.succ text
      simpa using this
  · exact .at

/-- What stands behind a value in an object. -/
def nextMember (fuel room : Nat) (name : Word) (v : Coded) (cs : List Char) :
    Read (List (Word × Coded)) :=
  match cs with
  | '\x7d' :: rest => .ok ([(name, v)], rest)
  | ',' :: rest =>
    (members fuel room (skipSpace rest)).andThen fun more rest => .ok ((name, v) :: more, rest)
  | here => halt .noComma here

/-- What stands behind a name in an object. -/
def memberValue (fuel room : Nat) (name : Word) (cs : List Char) : Read (List (Word × Coded)) :=
  match cs with
  | ':' :: rest =>
    (value fuel room (skipSpace rest)).andThen fun v rest =>
      nextMember fuel room name v (skipSpace rest)
  | here => halt .noColon here

/-- What stands behind a value in an array. -/
def nextElement (fuel room : Nat) (v : Coded) (cs : List Char) : Read (List Coded) :=
  match cs with
  | ']' :: rest => .ok ([v], rest)
  | ',' :: rest =>
    (elements fuel room (skipSpace rest)).andThen fun more rest => .ok (v :: more, rest)
  | here => halt .noComma here

/-- What stands behind an opening brace. -/
def object (fuel room : Nat) (cs : List Char) : Read Coded :=
  match cs with
  | '\x7d' :: rest => .ok (.obj [], rest)
  | inner =>
    (members fuel room inner).andThen fun pairs rest => .ok (.obj (Fields.ofPairs pairs), rest)

/-- What stands behind an opening bracket. -/
def array (fuel room : Nat) (cs : List Char) : Read Coded :=
  match cs with
  | ']' :: rest => .ok (.arr [], rest)
  | inner => (elements fuel room inner).andThen fun values rest => .ok (.arr values, rest)

theorem members_succ (fuel room : Nat) (cs : List Char) :
    members (fuel + 1) room cs =
      (quotedText cs).andThen fun codes rest =>
        memberValue fuel room (Word.ofCodes codes) (skipSpace rest) := by
  unfold quotedText
  split
  · rfl
  · rename_i other
    rw [members]
    · rfl
    · exact other

theorem elements_succ (fuel room : Nat) (cs : List Char) :
    elements (fuel + 1) room cs =
      (value fuel room cs).andThen fun v rest => nextElement fuel room v (skipSpace rest) := by
  rw [elements]
  rfl

theorem value_text (fuel room : Nat) (rest : List Char) :
    value (fuel + 1) room ('\x22' :: rest) =
      (quotedText ('\x22' :: rest)).andThen
        fun codes rest => .ok (.str (.ofCodes codes), rest) := by
  rw [value]
  rfl

theorem value_object (fuel room : Nat) (rest : List Char) :
    value (fuel + 1) (room + 1) ('\x7b' :: rest) = object fuel room (skipSpace rest) := by
  rw [value]
  rfl

theorem value_array (fuel room : Nat) (rest : List Char) :
    value (fuel + 1) (room + 1) ('[' :: rest) = array fuel room (skipSpace rest) := by
  rw [value]
  rfl

section Steps

variable {α β : Type} {reader : Nat → List Char → Read α} {spare fuel room : Nat} {cs : List Char}

theorem ends_of_mark {c : Char} (mark : c ∈ [',', ':', ']', '\x7d']) (rest : List Char) :
    Ends (c :: rest) := by
  have plain : ∀ c ∈ [',', ':', ']', '\x7d'], isAsciiDigit c = false ∧ c ∉ ['.', 'e', 'E'] :=
    forall_mem_of_all (by decide)
  exact ends_cons (plain c mark) rest

theorem settled_nextElement
    (later : ∀ cs, Settled (fun fuel => elements fuel room) 2 cs (elements fuel room cs))
    (v : Coded) :
    SettledBehind (fun fuel => nextElement fuel room v) 3 cs (nextElement fuel room v cs) := by
  unfold nextElement
  split
  · refine ⟨.leaf [']'] (by simp) (by decide) fun _ _ _ _ => rfl, .inl (ends_of_mark (by decide) _)⟩
  · rename_i rest
    refine ⟨?_, .inl (ends_of_mark (by decide) _)⟩
    exact .lift 0 [','] (by decide) (by simp)
      ((later (skipSpace rest)).behindSpace.map (v :: ·)) fun _ _ _ => rfl
  · exact ⟨.at, .inr ⟨_, _, rfl⟩⟩

theorem settled_nextMember
    (later : ∀ cs, Settled (fun fuel => members fuel room) 1 cs (members fuel room cs))
    (name : Word) (v : Coded) :
    SettledBehind (fun fuel => nextMember fuel room name v) 3 cs
      (nextMember fuel room name v cs) := by
  unfold nextMember
  split
  · refine ⟨.leaf ['\x7d'] (by simp) (by decide) fun _ _ _ _ => rfl,
      .inl (ends_of_mark (by decide) _)⟩
  · rename_i rest
    refine ⟨?_, .inl (ends_of_mark (by decide) _)⟩
    exact .lift 0 [','] (by decide) (by simp)
      ((later (skipSpace rest)).behindSpace.map ((name, v) :: ·)) fun _ _ _ => rfl
  · exact ⟨.at, .inr ⟨_, _, rfl⟩⟩

theorem settled_memberValue
    (inner : ∀ cs, Settled (fun fuel => value fuel room) 1 cs (value fuel room cs))
    (later : ∀ cs, Settled (fun fuel => members fuel room) 1 cs (members fuel room cs))
    (name : Word) :
    SettledBehind (fun fuel => memberValue fuel room name) 2 cs
      (memberValue fuel room name cs) := by
  unfold memberValue
  split
  · rename_i rest
    refine ⟨?_, .inl (ends_of_mark (by decide) _)⟩
    have body := (inner (skipSpace rest)).behindSpace.andThen
      (fun fuel v rest => nextMember fuel room name v (skipSpace rest))
      (fun v rest => nextMember fuel room name v (skipSpace rest))
      fun v _ => (settled_nextMember later name v).behindSpace
    exact .lift 0 [':'] (by decide) (by simp) body fun _ _ _ => rfl
  · exact ⟨.at, .inr ⟨_, _, rfl⟩⟩

theorem settled_members
    (inner : ∀ cs, Settled (fun fuel => value fuel room) 1 cs (value fuel room cs))
    (later : ∀ cs, Settled (fun fuel => members fuel room) 1 cs (members fuel room cs)) :
    Settled (fun fuel => members fuel room) 1 cs (members (fuel + 1) room cs) := by
  have body := (settled_quotedText 0 cs).andThen
    (fun fuel codes rest =>
      memberValue fuel room (Word.ofCodes codes) (skipSpace rest))
    (fun codes rest =>
      memberValue fuel room (Word.ofCodes codes) (skipSpace rest))
    fun _ _ => (settled_memberValue inner later _).behindSpace
  rw [members_succ]
  exact .lift 1 [] (by simp) (by simp) body fun fuel text _ => members_succ fuel room text

theorem settled_elements
    (inner : ∀ cs, Settled (fun fuel => value fuel room) 1 cs (value fuel room cs))
    (later : ∀ cs, Settled (fun fuel => elements fuel room) 2 cs (elements fuel room cs)) :
    Settled (fun fuel => elements fuel room) 2 cs (elements (fuel + 1) room cs) := by
  have body := (inner cs).andThen
    (fun fuel v rest => nextElement fuel room v (skipSpace rest))
    (fun v rest => nextElement fuel room v (skipSpace rest))
    fun v _ => (settled_nextElement later v).behindSpace
  rw [elements_succ]
  exact .lift 1 [] (by simp) (by simp) body fun fuel text _ => elements_succ fuel room text

theorem settled_object
    (inner : ∀ cs, Settled (fun fuel => members fuel room) 1 cs (members fuel room cs)) :
    Settled (fun fuel => object fuel room) 2 cs (object fuel room cs) := by
  unfold object
  split
  · exact .leaf ['\x7d'] (by simp) (by decide) fun _ _ _ _ => rfl
  · rename_i other
    refine .lift 0 [] (by simp) (by simp)
      ((inner cs).map fun pairs => Coded.obj (Fields.ofPairs pairs)) ?_
    intro fuel text same
    rw [List.nil_append]
    split
    · obtain ⟨rest, rfl⟩ := List.head?_eq_some_iff.mp same.symm
      exact (other rest rfl).elim
    · rfl

theorem settled_array
    (inner : ∀ cs, Settled (fun fuel => elements fuel room) 2 cs (elements fuel room cs)) :
    Settled (fun fuel => array fuel room) 2 cs (array fuel room cs) := by
  unfold array
  split
  · exact .leaf [']'] (by simp) (by decide) fun _ _ _ _ => rfl
  · rename_i other
    refine .lift 0 [] (by simp) (by simp) ((inner cs).map Coded.arr) ?_
    intro fuel text same
    rw [List.nil_append]
    split
    · obtain ⟨rest, rfl⟩ := List.head?_eq_some_iff.mp same.symm
      exact (other rest rfl).elim
    · rfl

/-- Where a number may start: none of the other values does. -/
def startsNumber (cs : List Char) : Prop :=
  ∃ c rest, (cs = c :: rest ∨ cs = '-' :: c :: rest) ∧ isAsciiDigit c = true

theorem value_number (h : startsNumber cs) :
    value (fuel + 1) room cs = (number cs).andThen fun n rest => .ok (.num n, rest) := by
  obtain ⟨c, rest, shape, digit⟩ := h
  have other : c ∉ ['\x22', '\x7b', '[', 'n', 't', 'f', 'N', 'I', '-'] := by
    intro member
    have none : ∀ c ∈ ['\x22', '\x7b', '[', 'n', 't', 'f', 'N', 'I', '-'], isAsciiDigit c = false :=
      forall_mem_of_all (by decide)
    rw [none c member] at digit
    cases digit
  rcases shape with rfl | rfl
  · rw [value] <;> simp_all
  · rw [value] <;> simp_all

theorem startsNumber_of_number {n : Number} {rest : List Char} (read : number cs = .ok (n, rest)) :
    startsNumber cs := by
  rw [number_eq] at read
  cases found : wholePart? (unsigned cs) with
  | none =>
    rw [found] at read
    cases read
  | some parts =>
    obtain ⟨given, digits, split, -⟩ := wholePart?_eq_some found
    obtain ⟨c, more, shape⟩ := List.exists_cons_of_ne_nil given
    have digit : isAsciiDigit c = true := digits c (by rw [shape]; exact List.mem_cons_self)
    rw [shape, List.cons_append] at split
    refine ⟨c, more ++ parts.2, ?_, digit⟩
    unfold unsigned at split
    split at split
    · rename_i sign
      obtain ⟨tail, rfl⟩ := List.head?_eq_some_iff.mp sign
      exact .inr (congrArg ('-' :: ·) split)
    · exact .inl split

theorem number_ne_tooDeep {inner : Container} : number cs ≠ .error (.tooDeep inner) := by
  intro read
  rw [number_eq] at read
  cases found : wholePart? (unsigned cs) with
  | none =>
    rw [found] at read
    cases read
  | some parts =>
    rw [found] at read
    dsimp only at read
    cases outcome : numberOf (cs.head? = some '-') parts.1 (optionalPart fractionPart? parts.2).1
        (optionalPart exponentPart? (optionalPart fractionPart? parts.2).2).1 with
    | ok n =>
      rw [outcome] at read
      cases read
    | error stop =>
      obtain ⟨rfl, -⟩ := numberOf_eq_error outcome
      rw [outcome] at read
      cases read

theorem settled_value_number :
    Settled (fun fuel => value fuel room) 1 cs
      ((number cs).andThen fun n rest => .ok (.num n, rest)) := by
  have settled := settled_number 1 cs
  cases read : number cs with
  | error stop =>
    rw [read] at settled
    cases settled with
    | tooDeep => exact absurd read number_ne_tooDeep
    | tooManyDigits inside digits long => exact .tooManyDigits inside digits long
    | «at» => exact .at
  | ok result =>
    rw [read] at settled
    cases settled with
    | ok given quoted split again =>
      refine .ok given quoted split ?_
      intro fuel text enough ends
      obtain ⟨fuel, rfl⟩ := Nat.exists_eq_add_one.mpr (by omega : 0 < fuel)
      have behind := again _ text enough ends
      rw [value_number (startsNumber_of_number behind), behind]
      rfl

/-- A bracket that may not be opened. -/
theorem settled_noRoom {inner : Container} (c : Char) (plain : c ≠ '\x60')
    (step : ∀ fuel text, value (fuel + 1) 0 (c :: text) = .error (.tooDeep inner))
    (rest : List Char) :
    Settled (fun fuel => value fuel 0) 1 (c :: rest) (.error (.tooDeep inner)) := by
  refine .tooDeep (List.cons_ne_nil c []) (.of_notMem (by simpa using plain.symm)) rfl ?_
  intro fuel text enough
  obtain ⟨fuel, rfl⟩ := Nat.exists_eq_add_one.mpr (by omega : 0 < fuel)
  exact step fuel text

/-- A word that stands for a value. -/
theorem settled_word {v : Coded} (word : List Char) (plain : word ≠ [] ∧ '\x60' ∉ word)
    (step : ∀ fuel text, value (fuel + 1) room (word ++ text) = .ok (v, text)) (rest : List Char) :
    Settled (fun fuel => value fuel room) 1 (word ++ rest) (.ok (v, rest)) := by
  refine .leaf word plain.1 plain.2 ?_
  intro fuel text enough _
  obtain ⟨fuel, rfl⟩ := Nat.exists_eq_add_one.mpr (by omega : 0 < fuel)
  exact step fuel text

theorem settled_value
    (inner : ∀ room cs, Settled (fun fuel => members fuel room) 1 cs (members fuel room cs))
    (items : ∀ room cs, Settled (fun fuel => elements fuel room) 2 cs (elements fuel room cs)) :
    Settled (fun fuel => value fuel room) 1 cs (value (fuel + 1) room cs) := by
  rw [value.eq_def]
  dsimp only
  split
  · rename_i rest
    refine .lift 1 [] (by simp) (by simp)
      ((settled_quotedText 0 _).map fun codes => Coded.str (.ofCodes codes)) ?_
    intro fuel text same
    obtain ⟨more, rfl⟩ := List.head?_eq_some_iff.mp same
    exact value_text fuel room more
  · rename_i rest
    split
    · exact settled_noRoom '\x7b' (by decide) (fun _ _ => rfl) rest
    · rename_i room
      exact .lift 1 ['\x7b'] (by decide) (by simp) (settled_object (inner room)).behindSpace
        fun fuel text _ => value_object fuel room text
  · rename_i rest
    split
    · exact settled_noRoom '[' (by decide) (fun _ _ => rfl) rest
    · rename_i room
      exact .lift 1 ['['] (by decide) (by simp) (settled_array (items room)).behindSpace
        fun fuel text _ => value_array fuel room text
  · exact settled_word "null".toList (by decide) (fun _ _ => rfl) _
  · exact settled_word "true".toList (by decide) (fun _ _ => rfl) _
  · exact settled_word "false".toList (by decide) (fun _ _ => rfl) _
  · exact settled_word "NaN".toList (by decide) (fun _ _ => rfl) _
  · exact settled_word "Infinity".toList (by decide) (fun _ _ => rfl) _
  · exact settled_word "-Infinity".toList (by decide) (fun _ _ => rfl) _
  · exact settled_value_number

/-- Each of the readers settles on what it comes to. -/
theorem settled (fuel : Nat) :
    (∀ room cs, Settled (fun fuel => value fuel room) 1 cs (value fuel room cs)) ∧
      (∀ room cs, Settled (fun fuel => members fuel room) 1 cs (members fuel room cs)) ∧
        ∀ room cs, Settled (fun fuel => elements fuel room) 2 cs (elements fuel room cs) := by
  induction fuel with
  | zero => exact ⟨fun _ _ => .at, fun _ _ => .at, fun _ _ => .at⟩
  | succ fuel ih =>
    obtain ⟨values, pairs, items⟩ := ih
    exact ⟨fun room _ => settled_value pairs items,
      fun room _ => settled_members (values room) (pairs room),
      fun room _ => settled_elements (values room) (items room)⟩

end Steps

theorem Settled.suffix {α : Type} {reader : Nat → List Char → Read α} {spare : Nat}
    {cs rest : List Char} {a : α} (h : Settled reader spare cs (.ok (a, rest))) : rest <:+ cs := by
  cases h with
  | ok given quoted split again => exact ⟨_, split.symm⟩

theorem skipSpace_suffix (cs : List Char) : skipSpace cs <:+ cs := List.dropWhile_suffix isSpace

/-- The fields of an object are followed by its closing brace. -/
theorem brace_of_members {fuel room : Nat} {cs rest : List Char} {pairs : List (Word × Coded)}
    (read : members fuel room cs = .ok (pairs, rest)) : '\x7d' :: rest <:+ cs := by
  induction fuel generalizing cs pairs with
  | zero => cases read
  | succ fuel ih =>
    rw [members_succ] at read
    obtain ⟨codes, afterName, name, read⟩ := Read.andThen_eq_ok read
    have nameEnd : afterName <:+ cs := (name ▸ settled_quotedText 0 cs).suffix
    unfold memberValue at read
    split at read
    · rename_i start colon
      obtain ⟨v, afterValue, inner, read⟩ := Read.andThen_eq_ok read
      have valueEnd : afterValue <:+ cs := by
        have within := (inner ▸ (settled fuel).1 room (skipSpace start)).suffix
        have begins : start <:+ afterName :=
          (colon ▸ List.suffix_cons ':' start).trans (skipSpace_suffix afterName)
        exact (within.trans (skipSpace_suffix start)).trans (begins.trans nameEnd)
      unfold nextMember at read
      split at read
      · rename_i behind brace
        cases read
        exact (brace ▸ skipSpace_suffix afterValue).trans valueEnd
      · rename_i behind comma
        obtain ⟨more, tail, later, same⟩ := Read.andThen_eq_ok read
        cases same
        have begins : behind <:+ afterValue :=
          (comma ▸ List.suffix_cons ',' behind).trans (skipSpace_suffix afterValue)
        exact (ih later).trans ((skipSpace_suffix behind).trans (begins.trans valueEnd))
      · cases read
    · cases read

/-- An object stands between braces. -/
theorem braces_of_value {fuel room : Nat} {cs rest : List Char} {fields : List (Word × Coded)}
    (read : value fuel room cs = .ok (.obj fields, rest)) :
    ∃ inner, cs = '\x7b' :: inner ∧ '\x7d' :: rest <:+ inner := by
  cases fuel with
  | zero => cases read
  | succ fuel =>
    rw [value.eq_def] at read
    dsimp only at read
    split at read
    · obtain ⟨codes, behind, -, same⟩ := Read.andThen_eq_ok read
      cases same
    · rename_i inner
      refine ⟨inner, rfl, ?_⟩
      split at read
      · cases read
      · split at read
        · rename_i behind brace
          cases read
          exact brace ▸ skipSpace_suffix inner
        · obtain ⟨pairs, behind, found, same⟩ := Read.andThen_eq_ok read
          cases same
          exact (brace_of_members found).trans (skipSpace_suffix inner)
    · split at read
      · cases read
      · split at read
        · cases read
        · obtain ⟨values, behind, -, same⟩ := Read.andThen_eq_ok read
          cases same
    · cases read
    · cases read
    · cases read
    · cases read
    · cases read
    · cases read
    · obtain ⟨n, behind, -, same⟩ := Read.andThen_eq_ok read
      cases same

end DesignToCode.Json
