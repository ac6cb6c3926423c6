import DesignToCode.Proofs.Grouping
import DesignToCode.Proofs.Pipeline.CodeRuns

set_option autoImplicit false

namespace DesignToCode.Framework

open DesignToCode.Text

/-- The entries of a request: none, a string alone, or those of a list. -/
inductive Asks : Json → List Json → Prop
  | nothing : Asks .null []
  | text (s : String) : Asks (.str s) [.str s]
  | listed (entries : List Json) : Asks (.arr entries) entries

/-- A text without the blanks around it, in small letters. -/
def plain? : Json → Option String
  | .str s => some (Text.lower (trim s))
  | _ => none

/-- An entry that is the name of a framework but for its case and the blanks around it. -/
def IsSupported (entry : Json) : Prop := ∃ name ∈ names, plain? entry = some name

instance (entry : Json) : Decidable (IsSupported entry) :=
  inferInstanceAs (Decidable (∃ name ∈ names, plain? entry = some name))

/-- The names that a request settles on. -/
structure Settles (entries : List Json) (asked : List String) : Prop where
  given : asked ≠ []
  distinct : asked.Nodup
  supported : ∀ name ∈ asked, name ∈ names
  firsts : IsFirsts (entries.filterMap plain?) asked
  again : ∀ settings fallback, request settings (.strings asked) fallback = .ok asked

variable {settings : RunSettings} {targets : Json} {entries : List Json} {fallback : String}

theorem entries?_of_asks (asks : Asks targets entries) : entries? targets = .ok entries := by
  cases asks <;> rfl

theorem nameOf?_eq_some_iff {entry : Json} {name : String} :
    nameOf? entry = some name ↔ plain? entry = some name ∧ name ∈ names := by
  unfold nameOf? plain?
  split
  · rw [Option.ite_none_right_eq_some, List.contains_iff_mem, Option.some.injEq]
    constructor
    · rintro ⟨known, rfl⟩
      exact ⟨rfl, known⟩
    · rintro ⟨rfl, known⟩
      exact ⟨known, rfl⟩
  · simp

theorem isNone_nameOf?_iff {entry : Json} :
    (nameOf? entry).isNone = true ↔ ¬ IsSupported entry := by
  rw [Option.isNone_iff_eq_none, Option.eq_none_iff_forall_ne_some, IsSupported]
  simp only [ne_eq, nameOf?_eq_some_iff, not_exists, not_and]
  exact forall_congr' fun name => imp_not_comm

/-- Of an entry that is supported, the name is its plain text. -/
theorem nameOf?_of_isSupported {entry : Json} (supported : IsSupported entry) :
    nameOf? entry = plain? entry := by
  obtain ⟨name, known, plain⟩ := supported
  rw [plain]
  exact nameOf?_eq_some_iff.mpr ⟨plain, known⟩

theorem request_of_none (none : entries? targets = .ok []) :
    request settings targets fallback = .ok [defaultName settings fallback] := by
  rw [request, none]

theorem filter_isNone_nameOf? (entries : List Json) :
    (entries.filter fun entry => (nameOf? entry).isNone) =
      entries.filter fun entry => ¬ IsSupported entry := by
  refine List.filter_congr fun entry _ => ?_
  rw [Bool.eq_iff_iff, isNone_nameOf?_iff, decide_eq_true_iff]

theorem request_of_refused (listed : entries? targets = .ok entries)
    (refused : ¬ ∀ entry ∈ entries, IsSupported entry) :
    request settings targets fallback =
      .error (.unsupported (entries.filter fun entry => ¬ IsSupported entry)) := by
  have some : (entries.filter fun entry => ¬ IsSupported entry) ≠ [] := by
    rw [ne_eq, List.filter_eq_nil_iff]
    simpa using refused
  rw [request, listed]
  cases entries with
  | nil => exact absurd rfl some
  | cons first rest =>
    dsimp only
    rw [filter_isNone_nameOf?]
    split
    · rename_i none
      exact absurd none some
    · rfl

theorem request_of_supported (listed : entries? targets = .ok entries) (given : entries ≠ [])
    (supported : ∀ entry ∈ entries, IsSupported entry) :
    request settings targets fallback = .ok (entries.filterMap plain?).eraseDups := by
  have none : (entries.filter fun entry => ¬ IsSupported entry) = [] := by
    rw [List.filter_eq_nil_iff]
    simpa using supported
  have plain : entries.filterMap nameOf? = entries.filterMap plain? :=
    List.filterMap_congr fun entry member => nameOf?_of_isSupported (supported entry member)
  rw [request, listed]
  cases entries with
  | nil => exact absurd rfl given
  | cons first rest =>
    dsimp only
    rw [filter_isNone_nameOf?, none, plain]

theorem settles_of_supported (given : entries ≠ [])
    (supported : ∀ entry ∈ entries, IsSupported entry) :
    Settles entries (entries.filterMap plain?).eraseDups := by
  have firsts := isFirsts_eraseDups (entries.filterMap plain?)
  have known : ∀ name ∈ (entries.filterMap plain?).eraseDups, name ∈ names := by
    intro name member
    obtain ⟨entry, listed, plain⟩ := List.mem_filterMap.mp ((firsts.mem_iff name).mp member)
    obtain ⟨other, named, same⟩ := supported entry listed
    rwa [Option.some.inj (plain.symm.trans same)]
  have some : (entries.filterMap plain?).eraseDups ≠ [] := by
    obtain ⟨first, rest, rfl⟩ := List.exists_cons_of_ne_nil given
    obtain ⟨name, -, plain⟩ := supported first List.mem_cons_self
    refine List.ne_nil_of_mem ((firsts.mem_iff name).mpr ?_)
    exact List.mem_filterMap.mpr ⟨first, List.mem_cons_self, plain⟩
  refine ⟨some, firsts.nodup, known, firsts, fun settings fallback => ?_⟩
  rw [request_strings some known, eraseDups_of_nodup firsts.nodup]

/-- A single name asks for itself exactly if it is the name of a framework. -/
theorem request_single_iff {name : String} :
    (∀ settings fallback, request settings (.strings [name]) fallback = .ok [name]) ↔
      name ∈ names := by
  constructor
  · intro again
    have asked := again {} ""
    have listed : entries? (.strings [name]) = .ok [.str name] := rfl
    by_cases supported : ∀ entry ∈ [Json.str name], IsSupported entry
    · have given : [Json.str name] ≠ [] := List.cons_ne_nil _ _
      have settled := settles_of_supported given supported
      rw [request_of_supported listed given supported] at asked
      rw [Except.ok.inj asked] at settled
      exact settled.supported name List.mem_cons_self
    · rw [request_of_refused listed supported] at asked
      cases asked
  · intro known settings fallback
    rw [request_strings (List.cons_ne_nil _ _) (by simpa using known)]
    rfl

/-- A request for nothing, for one text or for a list of entries. If it has entries, it is refused
with those that are not supported, in order, if there are any; or else it settles on the names of
its entries. If it has none, it gets the default as it is, which is not empty if the one that is set
is not, and asks for itself exactly if it is supported. -/
theorem request_of_asks (asks : Asks targets entries) (settings : RunSettings)
    (fallback : String) :
    (entries ≠ [] →
      (∃ refused, refused ≠ [] ∧ refused = (entries.filter fun entry => ¬ IsSupported entry) ∧
          request settings targets fallback = .error (.unsupported refused) ∧
          (RequestRefusal.failure refused).kind = .input ∧
          (RequestRefusal.failure refused).details.lookup "unsupported" =
            some (.strings (refused.map Json.text))) ∨
        (∀ entry ∈ entries, IsSupported entry) ∧
          ∃ asked, request settings targets fallback = .ok asked ∧ Settles entries asked) ∧
      (entries = [] →
        request settings targets fallback = .ok [defaultName settings fallback] ∧
          (settings.defaultTarget ≠ "" → defaultName settings fallback ≠ "") ∧
          ((∀ other again, request other (.strings [defaultName settings fallback]) again =
            .ok [defaultName settings fallback]) ↔ defaultName settings fallback ∈ names)) := by
  have listed := entries?_of_asks asks
  constructor
  · intro given
    by_cases supported : ∀ entry ∈ entries, IsSupported entry
    · exact .inr ⟨supported, _, request_of_supported listed given supported,
        settles_of_supported given supported⟩
    · refine .inl ⟨_, ?_, rfl, request_of_refused listed supported, rfl, rfl⟩
      rw [ne_eq, List.filter_eq_nil_iff]
      simpa using supported
  · rintro rfl
    refine ⟨request_of_none listed, fun set => ?_, request_single_iff⟩
    unfold defaultName
    split
    · exact set
    · rename_i given
      simpa using given

/-- Names in other spellings, one of them twice. -/
def spelledNames : List Json := [.str "\u2003CSS", .str "tailwind\t", .str "css"]

theorem spelledNames_settle :
    Asks (.arr spelledNames) spelledNames ∧ spelledNames ≠ [] ∧
      ∃ asked, request {} (.arr spelledNames) "" = .ok asked ∧ Settles spelledNames asked ∧
        asked = ["css", "tailwind"] := by
  have given : spelledNames ≠ [] := List.cons_ne_nil _ _
  refine ⟨.listed _, given, ?_⟩
  rcases (request_of_asks (.listed spelledNames) {} "").1 given with
    ⟨refused, some, listed, -⟩ | ⟨-, asked, made, settles⟩
  · exact absurd (listed.trans (by decide)) some
  · have supported : ∀ entry ∈ spelledNames, IsSupported entry := by decide +kernel
    have names : (spelledNames.filterMap plain?).eraseDups = ["css", "tailwind"] := by
      decide +kernel
    have same := made.symm.trans
      (request_of_supported (entries?_of_asks (.listed _)) given supported)
    exact ⟨asked, made, settles, (Except.ok.inj same).trans names⟩

/-- A request without entries may come to what is no name of a framework, as the default is not
looked at. -/
theorem not_forall_request_supported :
    ¬ ∀ (settings : RunSettings) (targets : Json) (entries : List Json) (fallback : String),
      Asks targets entries →
        request settings targets fallback =
            .error (.unsupported (entries.filter fun entry => ¬ IsSupported entry)) ∨
          ∃ asked, request settings targets fallback = .ok asked ∧ asked ≠ [] ∧ asked.Nodup ∧
            (∀ name ∈ asked, name ∈ names) ∧
            ∀ again, request settings (.strings asked) again = .ok asked := by
  intro always
  rcases always {} .null [] "bogus" .nothing with refused | ⟨asked, made, -, -, supported, -⟩
  · cases refused
  · obtain rfl : ["bogus"] = asked := Except.ok.inj made
    exact absurd (supported "bogus" List.mem_cons_self) (by decide)

end DesignToCode.Framework
