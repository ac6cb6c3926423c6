import DesignToCode.Style.Printer
import DesignToCode.Proofs.Json.Fields
import DesignToCode.Proofs.Style.ClassName

set_option autoImplicit false

namespace DesignToCode

open DesignToCode.Text

namespace MediaBlock

theorem isNameChar_of_mem_key {m : MediaBlock} {c : Char} (h : c ∈ m.key.toList) :
    isNameChar c = true := by
  simp only [key] at h
  split at h
  · simp only [String.toList_append, toString_string, Int.toString_eq_repr, List.mem_append] at h
    rcases h with word | number
    · exact List.all_eq_true.mp (by decide) c word
    · exact isNameChar_of_mem_repr number
  · exact isNameChar_of_mem_nameChars (by simpa using h)

theorem toList_widthKey (m : MediaBlock) :
    m.widthKey.toList = m.key.toList ++ '-' :: m.minWidth.repr.toList := by
  simp [widthKey]

theorem isNameChar_of_mem_widthKey {m : MediaBlock} {c : Char} (h : c ∈ m.widthKey.toList) :
    isNameChar c = true := by
  rw [toList_widthKey, List.mem_append, List.mem_cons] at h
  rcases h with name | rfl | number
  · exact isNameChar_of_mem_key name
  · decide
  · exact isNameChar_of_mem_repr number

end MediaBlock

namespace StyleSheet

/-- Whether a name stands for another width already. -/
def isTaken (widths : Widths) (name : String) (width : Int) : Bool :=
  (widths.lookup name).any (· != width)

theorem isTaken_iff {widths : Widths} {name : String} {width : Int} :
    isTaken widths name width = true ↔
      ∃ other, widths.lookup name = some other ∧ other ≠ width := by
  cases found : widths.lookup name <;> simp [isTaken, found]

/-- A block takes its key, unless that stands for another width. -/
theorem nameWidth_eq (widths : Widths) (m : MediaBlock) :
    nameWidth widths m =
      Fields.putNew widths (if isTaken widths m.key m.minWidth then m.widthKey else m.key)
        m.minWidth := by
  cases found : widths.lookup m.key with
  | none => simp [nameWidth, isTaken, found]
  | some other =>
    by_cases same : other = m.minWidth
    · simp [nameWidth, isTaken, found, same]
    · simp [nameWidth, isTaken, found, same]

theorem lookup_nameWidth_of_some {widths : Widths} {name : String} {width : Int} (m : MediaBlock)
    (h : widths.lookup name = some width) : (nameWidth widths m).lookup name = some width := by
  rw [nameWidth_eq, Fields.lookup_putNew, h]
  rfl

/-- A name keeps its width whatever blocks follow. -/
theorem lookup_foldl_of_some {widths : Widths} {name : String} {width : Int}
    (blocks : List MediaBlock) (h : widths.lookup name = some width) :
    (blocks.foldl nameWidth widths).lookup name = some width := by
  induction blocks generalizing widths with
  | nil => exact h
  | cons m rest ih => exact ih (lookup_nameWidth_of_some m h)

theorem nodup_foldl_nameWidth {widths : Widths} (distinct : (widths.map (·.1)).Nodup)
    (blocks : List MediaBlock) : ((blocks.foldl nameWidth widths).map (·.1)).Nodup := by
  induction blocks generalizing widths with
  | nil => exact distinct
  | cons m rest ih =>
    rw [List.foldl_cons, nameWidth_eq]
    exact ih (Fields.nodup_putNew distinct _ _)

theorem nodup_widths (s : StyleSheet) : (s.widths.map (·.1)).Nodup :=
  nodup_foldl_nameWidth (show (([] : Widths).map (·.1)).Nodup from List.nodup_nil) s.media

theorem mem_widths_iff {s : StyleSheet} {name : String} {width : Int} :
    (name, width) ∈ s.widths ↔ s.widths.lookup name = some width :=
  Fields.mem_iff_lookup s.nodup_widths

/-- The names of the blocks before a block, as they are when its turn comes. -/
def widthsBefore (before : List MediaBlock) : Widths := ({ media := before } : StyleSheet).widths

theorem widths_split {s : StyleSheet} {before after : List MediaBlock} {m : MediaBlock}
    (split : s.media = before ++ m :: after) :
    s.widths = after.foldl nameWidth (nameWidth (widthsBefore before) m) := by
  rw [widths, split, List.foldl_append, List.foldl_cons]
  rfl

/-- Both names that a block asks for stand for other widths when its turn comes. -/
def Crowded (before : List MediaBlock) (m : MediaBlock) : Prop :=
  isTaken (widthsBefore before) m.key m.minWidth = true ∧
    isTaken (widthsBefore before) m.widthKey m.minWidth = true

instance (before : List MediaBlock) (m : MediaBlock) : Decidable (Crowded before m) :=
  inferInstanceAs (Decidable (_ ∧ _))

/-- A block whose key is not taken is found under its key. -/
theorem widthName_of_free {s : StyleSheet} {before after : List MediaBlock} {m : MediaBlock}
    (split : s.media = before ++ m :: after)
    (free : isTaken (widthsBefore before) m.key m.minWidth = false) :
    widthName s.widths m = m.key ∧ s.widths.lookup m.key = some m.minWidth := by
  have found : s.widths.lookup m.key = some m.minWidth := by
    rw [widths_split split]
    apply lookup_foldl_of_some
    rw [nameWidth_eq, free, Fields.lookup_putNew]
    cases before : (widthsBefore before).lookup m.key with
    | none => simp
    | some other => simpa [isTaken, before] using free
  refine ⟨?_, found⟩
  simp [widthName, mem_widths_iff, found]

/-- Any other block is found under its key with the width behind, which may be taken too. -/
theorem widthName_of_taken {s : StyleSheet} {before after : List MediaBlock} {m : MediaBlock}
    (split : s.media = before ++ m :: after)
    (taken : isTaken (widthsBefore before) m.key m.minWidth = true) :
    widthName s.widths m = m.widthKey ∧
      s.widths.lookup m.widthKey =
        some (((widthsBefore before).lookup m.widthKey).getD m.minWidth) := by
  constructor
  · obtain ⟨other, found, differs⟩ := isTaken_iff.mp taken
    have kept : s.widths.lookup m.key = some other := by
      rw [widths_split split]
      exact lookup_foldl_of_some after (lookup_nameWidth_of_some m found)
    simp [widthName, mem_widths_iff, kept, differs]
  · rw [widths_split split]
    apply lookup_foldl_of_some
    rw [nameWidth_eq, taken, Fields.lookup_putNew]
    cases (widthsBefore before).lookup m.widthKey <;> simp

/-- Whatever name a block writes, it is defined; its width is that of the block unless both of its
names were taken. -/
theorem lookup_widthName {s : StyleSheet} {before after : List MediaBlock} {m : MediaBlock}
    (split : s.media = before ++ m :: after) :
    ∃ width, s.widths.lookup (widthName s.widths m) = some width ∧
      (width = m.minWidth ↔ ¬ Crowded before m) := by
  cases taken : isTaken (widthsBefore before) m.key m.minWidth with
  | false =>
    obtain ⟨name, found⟩ := widthName_of_free split taken
    exact ⟨m.minWidth, by rw [name, found], by simp [Crowded, taken]⟩
  | true =>
    obtain ⟨name, found⟩ := widthName_of_taken split taken
    refine ⟨_, by rw [name, found], ?_⟩
    cases held : (widthsBefore before).lookup m.widthKey with
    | none => simp [Crowded, isTaken, held]
    | some other =>
      simp only [Crowded, taken, true_and]
      simp [isTaken, held]

/-- Every name stands for the width of a block that asked for it. -/
theorem lookup_foldl_nameWidth {widths : Widths} {blocks : List MediaBlock} {name : String}
    {width : Int} (h : (blocks.foldl nameWidth widths).lookup name = some width) :
    widths.lookup name = some width ∨
      ∃ b ∈ blocks, b.minWidth = width ∧ (name = b.key ∨ name = b.widthKey) := by
  induction blocks generalizing widths with
  | nil => exact .inl h
  | cons m rest ih =>
    rcases ih h with now | ⟨b, member, asked⟩
    · rw [nameWidth_eq, Fields.lookup_putNew] at now
      cases before : widths.lookup name with
      | some other =>
        left
        simpa [before] using now
      | none =>
        right
        rw [before, Option.none_or] at now
        obtain ⟨asked, own⟩ := Option.ite_none_right_eq_some.mp now
        refine ⟨m, List.mem_cons_self, Option.some.inj own, ?_⟩
        split at asked
        · exact .inr asked
        · exact .inl asked
    · exact .inr ⟨b, List.mem_cons_of_mem m member, asked⟩

/-- The line of the width map that defines a name. -/
def mapLine (name : String) (width : Int) : String := s!"  \"{name}\": {width}px,"

/-- The line of the list of widths that defines a name. -/
def customLine (name : String) (width : Int) : String :=
  s!"@custom-media --{name} (min-width: {width}px);"

/-- A name that cannot hold the mark behind it, and the number behind that, can be told from a line
that holds both. -/
theorem line_inj {front between back name other : List Char} {mark : Char} {v w : Int}
    (absent : mark ∉ name) (absent' : mark ∉ other) :
    front ++ (name ++ mark :: (between ++ (v.repr.toList ++ back))) =
        front ++ (other ++ mark :: (between ++ (w.repr.toList ++ back))) ↔
      name = other ∧ v = w := by
  rw [List.append_cancel_left_eq, append_mark_inj absent absent', List.append_cancel_left_eq,
    List.append_cancel_right_eq, String.toList_inj]
  constructor
  · rintro ⟨rfl, numbers⟩
    exact ⟨rfl, repr_int_injective numbers⟩
  · rintro ⟨rfl, rfl⟩
    exact ⟨rfl, rfl⟩

theorem toList_line (front name between back : String) (width : Int) :
    (front ++ name ++ between ++ width.repr ++ back).toList =
      front.toList ++ (name.toList ++ (between.toList ++ (width.repr.toList ++ back.toList))) := by
  simp only [String.toList_append, List.append_assoc]

theorem toList_mapLine (name : String) (width : Int) :
    (mapLine name width).toList =
      "  \"".toList ++ (name.toList ++ '\x22' :: (": ".toList ++
        (width.repr.toList ++ "px,".toList))) :=
  toList_line "  \"" name "\": " "px," width

theorem toList_customLine (name : String) (width : Int) :
    (customLine name width).toList =
      "@custom-media --".toList ++ (name.toList ++ ' ' :: ("(min-width: ".toList ++
        (width.repr.toList ++ "px);".toList))) :=
  toList_line "@custom-media --" name " (min-width: " "px);" width

/-- A name of the characters that names hold. -/
def Clean (name : String) : Prop := ∀ c ∈ name.toList, isNameChar c = true

theorem Clean.notMem {name : String} (clean : Clean name) (c : Char) (h : isNameChar c = false) :
    c ∉ name.toList := fun member => by
  rw [clean c member] at h
  cases h

theorem mapLine_inj {name other : String} {v w : Int} (clean : Clean name) (clean' : Clean other) :
    mapLine name v = mapLine other w ↔ name = other ∧ v = w := by
  rw [← String.toList_inj, toList_mapLine, toList_mapLine,
    line_inj (clean.notMem _ (by decide)) (clean'.notMem _ (by decide)), String.toList_inj]

theorem customLine_inj {name other : String} {v w : Int} (clean : Clean name)
    (clean' : Clean other) : customLine name v = customLine other w ↔ name = other ∧ v = w := by
  rw [← String.toList_inj, toList_customLine, toList_customLine,
    line_inj (clean.notMem _ (by decide)) (clean'.notMem _ (by decide)), String.toList_inj]

theorem clean_of_mem_widths {s : StyleSheet} {name : String} {width : Int}
    (h : (name, width) ∈ s.widths) : Clean name := by
  rcases lookup_foldl_nameWidth (mem_widths_iff.mp h) with empty | ⟨b, -, -, rfl | rfl⟩
  · cases empty
  · exact fun _ => MediaBlock.isNameChar_of_mem_key
  · exact fun _ => MediaBlock.isNameChar_of_mem_widthKey

/-- No other line of the width map could be read as the definition of a name. -/
theorem mapLine_ne_frame {name line : String} {width : Int}
    (h : line ∈ ["$breakpoints: (", ");", "", opening 0 "@mixin respond($name)",
      opening 1 "@media (min-width: map.get($breakpoints, $name))", "    @content;", closing 1,
      closing 0, ""]) : mapLine name width ≠ line := by
  intro same
  have start : line.toList.take 3 = [' ', ' ', '\x22'] := by
    rw [← same, toList_mapLine]
    rfl
  clear same
  revert line
  decide

/-- A line of the map defines a name exactly as the map has it. -/
theorem mapLine_mem_iff {s : StyleSheet} {name : String} {width : Int} (clean : Clean name) :
    mapLine name width ∈ widthMap s.widths ↔ s.widths.lookup name = some width := by
  rw [← mem_widths_iff]
  constructor
  · intro h
    unfold widthMap at h
    split at h
    · cases h
    · rw [List.append_assoc, List.mem_append, List.mem_append] at h
      rcases h with first | middle | last
      · exact absurd (List.mem_singleton.mp first) (mapLine_ne_frame List.mem_cons_self)
      · obtain ⟨w, member, same⟩ := List.mem_map.mp middle
        obtain ⟨rfl, rfl⟩ := (mapLine_inj (clean_of_mem_widths member) clean).mp same
        exact member
      · exact absurd rfl (mapLine_ne_frame (List.mem_cons_of_mem _ last))
  · intro h
    have present : s.widths.isEmpty = false := List.isEmpty_eq_false_iff_exists_mem.mpr ⟨_, h⟩
    rw [widthMap, present]
    have line : mapLine name width ∈ s.widths.map fun w => mapLine w.1 w.2 :=
      List.mem_map.mpr ⟨(name, width), h, rfl⟩
    exact List.mem_append_left _ (List.mem_append_right _ line)

/-- A line of the list of widths defines a name exactly as the map has it. -/
theorem customLine_mem_iff {s : StyleSheet} {name : String} {width : Int} (clean : Clean name) :
    customLine name width ∈ customMedia s.widths ↔ s.widths.lookup name = some width := by
  rw [← mem_widths_iff]
  constructor
  · intro h
    unfold customMedia at h
    split at h
    · cases h
    · rcases List.mem_append.mp h with line | last
      · obtain ⟨w, member, same⟩ := List.mem_map.mp line
        obtain ⟨rfl, rfl⟩ := (customLine_inj (clean_of_mem_widths member) clean).mp same
        exact member
      · have empty : (customLine name width).toList = "".toList := by
          rw [List.mem_singleton.mp last]
        rw [toList_customLine] at empty
        cases empty
  · intro h
    have present : s.widths.isEmpty = false := List.isEmpty_eq_false_iff_exists_mem.mpr ⟨_, h⟩
    rw [customMedia, present]
    have line : customLine name width ∈ s.widths.map fun w => customLine w.1 w.2 :=
      List.mem_map.mpr ⟨(name, width), h, rfl⟩
    exact List.mem_append_left _ line

end StyleSheet

end DesignToCode
