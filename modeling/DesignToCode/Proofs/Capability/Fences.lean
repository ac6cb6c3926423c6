import DesignToCode.Proofs.Capability.Blocks
import Mathlib.Data.List.Infix

set_option autoImplicit false

namespace DesignToCode.Extraction

open DesignToCode.Text
open DesignToCode.Json (Quoted Ends IsText isSpace)

/-- A text with a document in a fenced block, behind some words and in front of others. -/
def reply (front doc back : List Char) : List Char :=
  front ++ (fence ++ (label ++ '\n' :: (doc ++ '\n' :: (fence ++ back))))

/-- A text without its last line where that is a fence. -/
def unclosed (cs : List Char) : List Char :=
  let body := pieces '\n' cs
  List.intercalate ['\n'] (if body.getLast?.any (trimmed · == fence) then body.dropLast else body)

/-- What is left behind the block of a text that starts with it. -/
def remainder (back : List Char) : List Char := trimEnd (unclosed (trimEnd back))

/-- Whether the words behind a block leave its document the one that is found, although they stand
behind a fence and in no block: the first block that they make up with this fence holds the document
too, or it holds none, and there is no closing brace in them. -/
def Harmless (v : Json.Coded) (rest : List Char) : Prop :=
  match firstDocument (block? (fence ++ rest)).toList with
  | .ok none => '\x7d' ∉ rest
  | found => found = .ok (some v)

/-- No whole number of a text has too many digits. -/
def HasShortNumbers (cs : List Char) : Prop :=
  ∀ run, run <:+: cs → (∀ c ∈ run, isAsciiDigit c = true) → run.length ≤ Numeral.digitLimit

/-- A text that is refused since too many arrays and objects are open in it at once. -/
def NestsTooDeep (cs : List Char) : Prop := ∃ inner, Json.parse cs = .error (.tooDeep inner)

/-- Where something is told, its document is the first one among the places that may hold one. -/
theorem document_str {cs : List Char} (given : cs ≠ []) :
    document (.str (String.ofList cs)) = firstDocument (candidates (unfenced (trimmed cs))) := by
  have some : (String.ofList cs).isEmpty = false := by
    rw [Bool.eq_false_iff]
    intro empty
    exact given (by simpa using congrArg String.toList (String.isEmpty_iff.mp empty))
  rw [document, some, if_neg Bool.false_ne_true, ofText, String.toList_ofList]

theorem reply_ne_nil (front doc back : List Char) : reply front doc back ≠ [] :=
  List.append_ne_nil_of_right_ne_nil front nofun

theorem trimmed_reply (front doc back : List Char) :
    trimmed (reply front doc back) = reply (trimStart front) doc (trimEnd back) := by
  have start : trimStart (reply front doc back) = reply (trimStart front) doc back :=
    trimStart_append_cons (by decide) front _
  have split (front back : List Char) : reply front doc back =
      front ++ (fence ++ (label ++ '\n' :: (doc ++ ['\n', '\x60', '\x60']))) ++ '\x60' :: back := by
    simp [reply, fence]
  rw [trimmed, start, split, trimEnd_append_cons (by decide), ← split]

theorem unfenced_reply (doc back : List Char) :
    unfenced (reply [] doc back) = trimmed (unclosed (doc ++ '\n' :: (fence ++ back))) := by
  have opens : fence.isPrefixOf (reply [] doc back) = true :=
    List.isPrefixOf_iff_prefix.mpr (List.prefix_append fence _)
  have lines : pieces '\n' (reply [] doc back) =
      (fence ++ label) :: pieces '\n' (doc ++ '\n' :: (fence ++ back)) := by
    have first : pieces '\n' (fence ++ label) = [fence ++ label] := pieces_of_notMem (by decide)
    rw [reply, List.nil_append, ← List.append_assoc, pieces_append, first]
    rfl
  rw [unfenced, if_pos opens, lines]
  rfl

theorem unclosed_append (front rest : List Char) :
    unclosed (front ++ '\n' :: rest) = front ++ unclosed ('\n' :: rest) := by
  have given := pieces_ne_nil '\n' rest
  have last (first : List (List Char)) :
      (first ++ pieces '\n' rest).getLast? = (pieces '\n' rest).getLast? := by
    rw [List.getLast?_append, List.getLast?_eq_some_getLast given]
    rfl
  have joined (more : List (List Char)) :
      List.intercalate ['\n'] (pieces '\n' front ++ more) =
        front ++ List.intercalate ['\n'] ([] :: more) := by
    rw [intercalate_append (pieces_ne_nil '\n' front), intercalate_pieces]
  have opened : pieces '\n' ('\n' :: rest) = [[]] ++ pieces '\n' rest := pieces_append [] rest
  unfold unclosed
  dsimp only
  rw [pieces_append, opened, last, last]
  split
  · rw [List.dropLast_append_of_ne_nil given, List.dropLast_append_of_ne_nil given, joined]
    rfl
  · exact joined _

section Reading

variable {lead text tail : List Char} {fields : List (Json.Word × Json.Coded)}

theorem exists_braces (h : IsText text (.obj fields)) :
    ∃ inner, text = '\x7b' :: (inner ++ ['\x7d']) := by
  have read := h.again _ [] (Nat.le_refl _) Json.ends_nil
  obtain ⟨inner, shape, front, rfl⟩ := Json.braces_of_value read
  exact ⟨front, by simpa using shape⟩

/-- With nothing behind it, a document is freed of its fences and of the space around it. -/
theorem unfenced_reply_nil (before : ∀ c ∈ lead, isSpace c = true) (h : IsText text (.obj fields))
    (behind : ∀ c ∈ tail, isSpace c = true) :
    unfenced (reply [] (lead ++ (text ++ tail)) []) = text := by
  obtain ⟨inner, rfl⟩ := exists_braces h
  have none : unclosed ('\n' :: fence) = [] := by decide
  have lines : lead ++ ('\x7b' :: (inner ++ ['\x7d']) ++ tail) =
      lead ++ '\x7b' :: (inner ++ '\x7d' :: tail) := by
    simp
  rw [unfenced_reply, List.append_nil, unclosed_append, none, List.append_nil, lines,
    trimmed_append_cons (isBlank_of_space before) (by decide),
    trimEnd_of_blanks (isBlank_of_space behind)]

/-- With other lines behind it, a document keeps its closing fence. -/
theorem unfenced_reply_cons (before : ∀ c ∈ lead, isSpace c = true) (h : IsText text (.obj fields))
    (rest : List Char) :
    unfenced (reply [] (lead ++ (text ++ tail)) ('\n' :: rest)) =
      text ++ (tail ++ '\n' :: (fence ++ trimEnd (unclosed ('\n' :: rest)))) := by
  obtain ⟨inner, rfl⟩ := exists_braces h
  have split (back : List Char) :
      '\x7b' :: (inner ++ ['\x7d']) ++ (tail ++ '\n' :: (fence ++ back)) =
        '\x7b' :: ((inner ++ '\x7d' :: (tail ++ ['\n', '\x60', '\x60'])) ++ '\x60' :: back) := by
    simp [fence]
  have lines : lead ++ ('\x7b' :: (inner ++ ['\x7d']) ++ tail) ++ '\n' :: (fence ++ '\n' :: rest) =
      lead ++ ('\x7b' :: (inner ++ ['\x7d']) ++ (tail ++ '\n' :: fence)) ++ '\n' :: rest := by
    simp
  have closed : lead ++ ('\x7b' :: (inner ++ ['\x7d']) ++ (tail ++ '\n' :: fence)) ++
      unclosed ('\n' :: rest) =
        lead ++ ('\x7b' :: (inner ++ ['\x7d']) ++
          (tail ++ '\n' :: (fence ++ unclosed ('\n' :: rest)))) := by
    simp
  rw [unfenced_reply, lines, unclosed_append, closed, split,
    trimmed_append_cons (isBlank_of_space before) (by decide), split]

theorem noSpace : ∀ c ∈ ([] : List Char), isSpace c = true := List.forall_mem_nil _

/-- Behind the text of a value and a fence nothing can be read any more. -/
theorem exists_malformed (h : IsText text (.obj fields)) (behind : ∀ c ∈ tail, isSpace c = true)
    (rest : List Char) :
    ∃ position, Json.parse (text ++ (tail ++ '\n' :: (fence ++ rest))) =
      .error (.malformed .extraData position) := by
  have space : ∀ c ∈ tail ++ ['\n'], isSpace c = true :=
    List.forall_mem_append.mpr ⟨behind, List.forall_mem_singleton.mpr rfl⟩
  have skip : Json.skipSpace (tail ++ '\n' :: (fence ++ rest)) = fence ++ rest := by
    have solid : ∀ c ∈ (fence ++ rest).head?, isSpace c = false := by
      rintro _ ⟨⟩
      rfl
    simpa using Json.skipSpace_append space solid
  have ends : Ends (tail ++ '\n' :: (fence ++ rest)) := by
    refine Json.ends_of_skipSpace ?_
    rw [skip]
    exact Json.ends_cons (by decide) _
  have read := h.parse_append noSpace ends
  rw [skip, if_neg (by simp [fence])] at read
  exact ⟨_, read⟩

theorem parse_of_isText (h : IsText text (.obj fields)) : Json.parse text = .ok (.obj fields) := by
  have read := h.parse_append noSpace Json.ends_nil
  simpa [Json.skipSpace] using read

/-- Behind a document that has its closing fence, any closing brace spoils what stands between the
outermost braces. -/
theorem firstDocument_braced? (h : IsText text (.obj fields))
    (behind : ∀ c ∈ tail, isSpace c = true)
    (rest : List Char) :
    firstDocument (braced? (text ++ (tail ++ '\n' :: (fence ++ rest)))).toList =
      if '\x7d' ∈ rest then .ok none else .ok (some (.obj fields)) := by
  obtain ⟨inner, shape⟩ := exists_braces h
  have split (back : List Char) : text ++ back = '\x7b' :: (inner ++ '\x7d' :: back) := by
    simp [shape]
  split
  · rename_i member
    obtain ⟨front, back, rfl, plain⟩ := exists_last_append member
    obtain ⟨position, read⟩ := exists_malformed h behind (front ++ ['\x7d'])
    have last : braced? (text ++ (tail ++ '\n' :: (fence ++ (front ++ '\x7d' :: back)))) =
        some (text ++ (tail ++ '\n' :: (fence ++ (front ++ ['\x7d'])))) := by
      have := braced?_append (inner ++ '\x7d' :: (tail ++ '\n' :: (fence ++ front))) plain
      simpa [split] using this
    rw [last, Option.toList_some, firstDocument_of_malformed read]
    rfl
  · rename_i absent
    have plain : '\x7d' ∉ tail ++ '\n' :: (fence ++ rest) := by
      have space : '\x7d' ∉ tail := fun member => absurd (behind _ member) (by decide)
      simp [space, absent, fence]
    rw [split, braced?_append inner plain, ← shape, Option.toList_some,
      firstDocument_of_parse (parse_of_isText h)]

/-- What is found in a document with its closing fence and the words behind it. -/
theorem firstDocument_behind (h : IsText text (.obj fields)) (behind : ∀ c ∈ tail, isSpace c = true)
    (rest : List Char) :
    firstDocument (candidates (text ++ (tail ++ '\n' :: (fence ++ rest)))) =
        .ok (some (.obj fields)) ↔ Harmless (.obj fields) rest := by
  obtain ⟨position, whole⟩ := exists_malformed h behind rest
  have blocks : block? (text ++ (tail ++ '\n' :: (fence ++ rest))) = block? (fence ++ rest) := by
    have space : ∀ c ∈ tail ++ ['\n'], isSpace c = true :=
      List.forall_mem_append.mpr ⟨behind, List.forall_mem_singleton.mpr rfl⟩
    have := block?_of_quoted (h.quoted.append (Json.quoted_of_space space)) (fence ++ rest)
    simpa using this
  rw [candidates, List.cons_append, firstDocument_of_malformed whole, firstDocument_append, blocks,
    firstDocument_braced? h behind, Harmless]
  cases firstDocument (block? (fence ++ rest)).toList with
  | error refusal => rfl
  | ok found =>
    cases found with
    | some v => rfl
    | none => by_cases brace : '\x7d' ∈ rest <;> simp [brace]

/-- A text that starts with the block has its document found exactly if what is left behind the
block does no harm. -/
theorem firstDocument_reply_nil (before : ∀ c ∈ lead, isSpace c = true)
    (h : IsText text (.obj fields)) (behind : ∀ c ∈ tail, isSpace c = true) {back : List Char}
    (ends : back = [] ∨ back.head? = some '\n') :
    firstDocument (candidates (unfenced (reply [] (lead ++ (text ++ tail)) (trimEnd back)))) =
        .ok (some (.obj fields)) ↔ Harmless (.obj fields) (remainder back) := by
  unfold remainder
  cases shape : trimEnd back with
  | nil =>
    have none : Harmless (.obj fields) [] := by
      have noBlock : block? (fence ++ []) = Option.none := by decide
      rw [Harmless, noBlock]
      exact List.not_mem_nil
    rw [unfenced_reply_nil before h behind]
    exact iff_of_true (firstDocument_of_parse (parse_of_isText h) _) none
  | cons c rest =>
    have lineEnd : c = '\n' := by
      obtain ⟨more, split⟩ := trimEnd_isPrefix back
      rw [shape] at split
      rw [← split] at ends
      simpa using ends
    subst lineEnd
    rw [unfenced_reply_cons before h]
    exact firstDocument_behind h behind _

/-- No reader goes on from one line to a fence on the next. -/
theorem exists_append_of_quoted {front back taken rest : List Char}
    (last : front.getLast? = some '\n')
    (quoted : Quoted taken) (same : front ++ (fence ++ back) = taken ++ rest) :
    ∃ more, front = taken ++ more := by
  obtain ⟨start, rfl⟩ := List.getLast?_eq_some_iff.mp last
  rcases List.append_eq_append_iff.mp same with ⟨more, rfl, later⟩ | ⟨more, shape, -⟩
  · cases more with
    | nil => exact ⟨[], by simp⟩
    | cons c more =>
      have mark : '\x60' = c := (List.cons.inj later).1
      exact absurd (by simp [← mark]) (quoted.ne_break start more)
  · exact ⟨more, shape⟩

/-- Words up to a line break nest too deep exactly if they do so in front of a fence. -/
theorem nestsTooDeep_iff {front : List Char} (last : front.getLast? = some '\n')
    (back : List Char) : NestsTooDeep (front ++ (fence ++ back)) ↔ NestsTooDeep front := by
  constructor
  · rintro ⟨inner, read⟩
    obtain ⟨taken, rest, same, quoted, -, again⟩ := Json.exists_of_parse_tooDeep read
    obtain ⟨more, rfl⟩ := exists_append_of_quoted last quoted same
    exact ⟨inner, again more⟩
  · rintro ⟨inner, read⟩
    obtain ⟨taken, rest, rfl, -, -, again⟩ := Json.exists_of_parse_tooDeep read
    rw [List.append_assoc]
    exact ⟨inner, again _⟩

/-- A line that starts with a fence makes a text no document. -/
theorem exists_refusal {front back : List Char} (last : front.getLast? = some '\n')
    (short : HasShortNumbers (front ++ (fence ++ back))) :
    NestsTooDeep (front ++ (fence ++ back)) ∨
      ∃ defect position, Json.parse (front ++ (fence ++ back)) =
        .error (.malformed defect position) := by
  cases read : Json.parse (front ++ (fence ++ back)) with
  | ok v =>
    obtain ⟨lead, text, tail, same, before, behind, h⟩ := Json.exists_text_of_parse read
    have quoted : Quoted (lead ++ (text ++ tail)) :=
      (Json.quoted_of_space before).append (h.quoted.append (Json.quoted_of_space behind))
    obtain ⟨more, longer⟩ := exists_append_of_quoted last (same ▸ quoted) (List.append_nil _).symm
    have := congrArg List.length longer
    simp [fence] at this
  | error refusal =>
    cases refusal with
    | malformed defect position => exact .inr ⟨defect, position, rfl⟩
    | tooDeep inner => exact .inl ⟨inner, read⟩
    | tooManyDigits n =>
      obtain ⟨run, inside, digits, long⟩ := Json.exists_of_parse_tooManyDigits read
      exact absurd (short run inside digits) (by omega)

/-- Behind words of its own, a block holds the first document but for the words themselves. -/
theorem block?_reply {front : List Char} (preamble : IsPreamble front)
    (before : ∀ c ∈ lead, isSpace c = true) (h : IsText text (.obj fields))
    (behind : ∀ c ∈ tail, isSpace c = true) (back : List Char) :
    ∃ inside, block? (reply front (lead ++ (text ++ tail)) back) = some inside ∧
      Json.parse inside = .ok (.obj fields) := by
  have solid : ∀ c ∈ text.head?, isBlank c = false := by
    obtain ⟨inner, rfl⟩ := exists_braces h
    rintro _ ⟨⟩
    decide
  have skip := Json.skipSpace_eq_nil_iff.mpr behind
  have ends : Ends tail := Json.ends_of_skipSpace (skip.symm ▸ Json.ends_nil)
  obtain ⟨left, space, blocks⟩ := exists_block?_of_isText before h solid behind back
  refine ⟨left ++ (text ++ tail), ?_, ?_⟩
  · rw [reply, block?_of_isPreamble preamble, blocks]
  · rw [h.parse_append space ends, if_pos skip]

/-- Behind words of its own, the document of a block is found unless the words nest too deep. -/
theorem firstDocument_reply_cons {front : List Char} (preamble : IsPreamble front)
    (given : front ≠ []) (before : ∀ c ∈ lead, isSpace c = true) (h : IsText text (.obj fields))
    (behind : ∀ c ∈ tail, isSpace c = true) {back : List Char}
    (short : HasShortNumbers (reply front (lead ++ (text ++ tail)) back)) :
    firstDocument (candidates (unfenced (reply front (lead ++ (text ++ tail)) back))) =
        .ok (some (.obj fields)) ↔ ¬NestsTooDeep front := by
  have last := preamble.ends.resolve_left given
  have closed : unfenced (reply front (lead ++ (text ++ tail)) back) =
      reply front (lead ++ (text ++ tail)) back := by
    rw [unfenced, reply, preamble.not_isPrefixOf given]
    rfl
  obtain ⟨inside, found, read⟩ := block?_reply preamble before h behind back
  have deep : NestsTooDeep (reply front (lead ++ (text ++ tail)) back) ↔ NestsTooDeep front :=
    nestsTooDeep_iff last _
  rw [closed, candidates, List.cons_append, found, Option.toList_some, List.singleton_append,
    ← deep]
  rcases exists_refusal last short with ⟨inner, refused⟩ | ⟨defect, position, refused⟩
  · have refused : Json.parse (reply front (lead ++ (text ++ tail)) back) = _ := refused
    rw [firstDocument_of_tooDeep refused]
    refine iff_of_false ?_ fun none => none ⟨inner, refused⟩
    rintro ⟨⟩
  · have refused : Json.parse (reply front (lead ++ (text ++ tail)) back) = _ := refused
    rw [firstDocument_of_malformed refused, firstDocument_of_parse read]
    refine iff_of_true rfl ?_
    rintro ⟨inner, tooDeep⟩
    cases refused.symm.trans tooDeep

end Reading

/-- The object of a fenced block is what is found in a text, whatever words without a fence stand
before it and whatever lines stand behind it, exactly if
- behind words that are more than blanks, these words do not nest too deep to be read, and
- with nothing or blanks alone before the block, what is left of the lines behind it does no
  harm. -/
theorem document_reply_iff {front doc back : List Char} {fields : List (Json.Word × Json.Coded)}
    (read : Json.parse doc = .ok (.obj fields)) (preamble : IsPreamble front)
    (ends : back = [] ∨ back.head? = some '\n')
    (short : HasShortNumbers (reply front doc back)) :
    document (.str (String.ofList (reply front doc back))) = .ok (some (.obj fields)) ↔
      if trimStart front = [] then Harmless (.obj fields) (remainder back)
      else ¬NestsTooDeep (trimStart front) := by
  obtain ⟨lead, text, tail, rfl, before, behind, h⟩ := Json.exists_text_of_parse read
  rw [document_str (reply_ne_nil _ _ _), trimmed_reply]
  split
  · rename_i blank
    rw [blank]
    exact firstDocument_reply_nil before h behind ends
  · rename_i words
    refine firstDocument_reply_cons (preamble.of_suffix (trimStart_suffix front)) words before
      h behind ?_
    intro run inside digits
    rw [← trimmed_reply] at inside
    exact short run (inside.trans (trimmed_isInfix _)) digits

/-- A small object, and lines with a fenced block of their own. -/
def smallObject : List Char := "\x7b\"a\": 1\x7d".toList

def secondBlock : List Char := "\nand\n```json\n\x7b\"b\": 2\x7d\n```".toList

theorem parse_smallObject : Json.parse smallObject = .ok (.obj [("a", .num (.int 1))]) := by
  have written : smallObject = ['\x7b', '\x22', 'a', '\x22', ':', ' ', '1', '\x7d'] := by decide
  rw [written]
  rfl

theorem noFence_of_notMem {cs : List Char} (plain : '\x60' ∉ cs) : ¬fence <:+: cs :=
  fun inside => plain (inside.subset (by decide))

/-- In a text of no more characters than a number may have digits no number is too long. -/
theorem hasShortNumbers_of_length {cs : List Char} (few : cs.length ≤ Numeral.digitLimit) :
    HasShortNumbers cs :=
  fun _ inside _ => inside.length_le.trans few

theorem introducedReply_document :
    document (.str (String.ofList
        (reply "Here is the layout:\n".toList smallObject secondBlock))) =
      .ok (some (.obj [("a", .num (.int 1))])) := by
  have refused : Json.parse "Here is the layout:\n".toList = .error (.malformed .noValue 0) := by
    rfl
  have words : trimStart "Here is the layout:\n".toList = "Here is the layout:\n".toList := by
    decide
  have preamble : IsPreamble "Here is the layout:\n".toList :=
    ⟨noFence_of_notMem (by decide), by decide⟩
  refine (document_reply_iff parse_smallObject preamble (by decide)
    (hasShortNumbers_of_length (by decide))).mpr ?_
  rw [words, if_neg (by decide)]
  rintro ⟨inner, deep⟩
  cases refused.symm.trans deep

/-- Behind a fence, the words between two blocks make up a block of their own, which is no document.
-/
theorem not_harmless_secondBlock (v : Json.Coded) : ¬Harmless v (remainder secondBlock) := by
  have block : block? (fence ++ remainder secondBlock) = some "and".toList := by decide
  have refused : Json.parse "and".toList = .error (.malformed .noValue 0) := by rfl
  have brace : '\x7d' ∈ remainder secondBlock := by decide
  rw [Harmless, block, Option.toList_some, firstDocument_of_malformed refused]
  exact fun absent => absent brace

theorem not_forall_document_reply :
    ¬∀ (front doc back : List Char) (fields : List (Json.Word × Json.Coded)),
      Json.parse doc = .ok (.obj fields) → IsPreamble front →
      back = [] ∨ back.head? = some '\n' →
      HasShortNumbers (reply front doc back) →
      document (.str (String.ofList (reply front doc back))) = .ok (some (.obj fields)) := by
  intro all
  have preamble : IsPreamble [] := ⟨noFence_of_notMem List.not_mem_nil, .inl rfl⟩
  have found := all [] smallObject secondBlock _ parse_smallObject preamble (by decide)
    (hasShortNumbers_of_length (by decide))
  obtain ⟨lead, text, tail, same, before, behind, h⟩ := Json.exists_text_of_parse parse_smallObject
  rw [document_str (reply_ne_nil _ _ _), trimmed_reply, same] at found
  exact not_harmless_secondBlock _
    ((firstDocument_reply_nil before h behind (by decide)).mp found)

end DesignToCode.Extraction
