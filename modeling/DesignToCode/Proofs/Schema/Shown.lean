import DesignToCode.Proofs.Json.Writable
import DesignToCode.Proofs.Schema.Gate

set_option autoImplicit false

namespace DesignToCode

namespace Report

variable {r s : Report} {values more : List Json}

/-- The messages of a report show these documents, in order; it is broken off at the first of them
that cannot be shown. -/
def Shows (r : Report) (values : List Json) : Prop := r.broken = values.findSome? Json.unwritable?

theorem shows_empty : Shows {} [] := rfl

theorem shows_error (rule : Rule) (path message : String) : Shows (error rule path message) [] :=
  rfl

theorem shows_showing (r : Report) (values : List Json) : Shows (r.showing values) values := rfl

namespace Shows

theorem append (first : r.Shows values) (second : s.Shows more) :
    (r ++ s).Shows (values ++ more) := by
  rw [Shows, broken_append, first, second, List.findSome?_append]

/-- A part that shows nothing. -/
theorem append_nil (first : r.Shows values) (second : s.Shows []) : (r ++ s).Shows values := by
  rw [← List.append_nil values]
  exact first.append second

theorem each {α : Type} {check : Nat → α → Report} {f : α → List Json}
    (one : ∀ i a, (check i a).Shows (f a)) (i : Nat) (items : List α) :
    (each check i items).Shows (items.flatMap f) := by
  induction items generalizing i with
  | nil => exact shows_empty
  | cons a rest ih => exact (one i a).append (ih (i + 1))

theorem each_nil {α : Type} {check : Nat → α → Report} (one : ∀ i a, (check i a).Shows [])
    (i : Nat) (items : List α) : (Report.each check i items).Shows [] := by
  have all := each one i items
  rwa [List.flatMap_eq_nil_iff.mpr fun _ _ => rfl] at all

theorem broken_eq_none_iff (h : r.Shows values) :
    r.broken = none ↔ ∀ v ∈ values, v.unwritable? = none := by
  rw [h, List.findSome?_eq_none_iff]

end Shows

end Report

namespace Validation

open Report

/-- The fields of a field that is an object. -/
def fieldsOf (fields : Fields) (key : String) : Fields :=
  match fields.lookup key with
  | some (.obj inner) => inner
  | _ => []

theorem fieldsOf_of_lookup {fields inner : Fields} {key : String}
    (held : fields.lookup key = some (.obj inner)) : fieldsOf fields key = inner := by
  rw [fieldsOf, held]

theorem fieldsOf_of_other {fields : Fields} {key : String}
    (other : ∀ inner, fields.lookup key ≠ some (.obj inner)) : fieldsOf fields key = [] := by
  unfold fieldsOf
  split
  · rename_i inner held
    exact absurd held (other inner)
  · rfl

def namesVersion (v : Json) : Bool := !(Version.ofJson v matches .ok none)

def shownInfo (about : Fields) : List Json :=
  ((about.lookup "schemaVersion").filter (!namesVersion ·)).toList ++
    ((about.lookup "confidenceLevel").filter (!isConfidence ·)).toList

def refersTo (known : List String) : Json → Bool
  | .str ref => known.contains ref
  | _ => true

def layoutOf (sec : Fields) : Json := (sec.lookup "layout").getD (.str Layout.block.name)

def ownerOf (sec : Fields) : Json := (sec.lookup "id").getD .null

def shownSection (known : List String) : Json → List Json
  | .obj sec =>
    [layoutOf sec].filter (!isLayout ·) ++
      ((itemsOf sec "components").filter (!refersTo known ·)).map fun _ => ownerOf sec
  | _ => []

def shownRule (previous : Option Int) (rule : Fields) : List Json :=
  match width? rule with
  | none => [breakpointOf rule]
  | some width =>
    if previous.any (width.value < ·) then [breakpointOf rule, width.told] else []

def shownRules (previous : Option Int) : List Json → List Json
  | [] => []
  | .obj rule :: rest =>
    shownRule previous rule ++ shownRules (((width? rule).map (·.value)).or previous) rest
  | _ :: rest => shownRules previous rest

def shownLayer (known : List String) (v : Json) : List Json :=
  if (targetOf? v).any known.contains then [] else [targetShown v]

/-- The documents that messages about the fields of a document show, in order. -/
def shownValues (fields : Fields) : List Json :=
  let components := ids (itemsOf fields "components")
  let sectionIds := ids (itemsOf fields "sections")
  shownInfo (fieldsOf fields "meta") ++
    (itemsOf fields "sections").flatMap (shownSection components) ++
    shownRules none (itemsOf fields "responsiveRules") ++
    (itemsOf (fieldsOf fields "layering") "layers").flatMap (shownLayer (sectionIds ++ components))

theorem shows_unless {c : Prop} [Decidable c] {r : Report} {values : List Json}
    (h : r.Shows values) : Shows (if c then {} else r) (if c then [] else values) := by
  by_cases here : c
  · simpa [here] using shows_empty
  · simpa [here] using h

theorem shows_unless_error {c : Prop} [Decidable c] (rule : Rule) (path message : String) :
    Shows (if c then {} else error rule path message) [] := by
  split <;> rfl

theorem shows_topLevel (fields : Fields) : (topLevel fields).Shows [] := by
  refine Shows.each_nil (fun _ entry => ?_) 0 requiredFields
  unfold requiredField
  split
  · rfl
  · exact shows_unless_error _ _ _

theorem shows_versionOf {about : Fields} {version : Report}
    (found : versionOf about = .ok version) :
    version.Shows ((about.lookup "schemaVersion").filter (!namesVersion ·)).toList := by
  unfold versionOf at found
  split at found
  · rename_i absent
    cases found
    rw [absent]
    exact shows_empty
  · rename_i v held
    obtain ⟨version?, parsed, rfl⟩ := Except.map_eq_ok_iff.mp found
    rw [held, Option.filter_some, namesVersion, parsed]
    cases version? with
    | none => exact shows_showing _ _
    | some version => exact shows_unless_error _ _ _

theorem shows_inputTypes (about : Fields) : (inputTypes about).Shows [] := by
  unfold inputTypes
  split
  · rfl
  · rfl
  · refine Shows.each_nil (fun i v => ?_) 0 _
    unfold inputType
    split
    · exact shows_unless_error _ _ _
    · rfl
  · rfl

theorem shows_targetsFrom (seen : List String) (i : Nat) (values : List Json) :
    (targetsFrom seen i values).Shows [] := by
  induction values generalizing seen i with
  | nil => rfl
  | cons v rest ih =>
    cases v with
    | str s =>
      refine Shows.append_nil ?_ (ih (s :: seen) (i + 1))
      unfold target
      split
      · rfl
      · split <;> rfl
    | _ => exact (shows_error _ _ _).append_nil (ih seen (i + 1))

theorem shows_targets (about : Fields) : (targets about).Shows [] := by
  unfold targets
  split
  · rfl
  · rfl
  · exact shows_targetsFrom [] 0 _
  · rfl

theorem shows_confidence (about : Fields) :
    (confidence about).Shows
      ((about.lookup "confidenceLevel").filter (!isConfidence ·)).toList := by
  unfold confidence
  split
  · rename_i absent
    rw [absent]
    exact shows_empty
  · rename_i v held
    rw [held, Option.filter_some]
    cases isConfidence v
    · exact shows_showing _ _
    · exact shows_empty

theorem shows_info {fields : Fields} {about : Report} (described : info fields = .ok about) :
    about.Shows (shownInfo (fieldsOf fields "meta")) := by
  unfold info at described
  split at described
  · rename_i m held
    obtain ⟨version, found, rfl⟩ := Except.map_eq_ok_iff.mp described
    have missing : (missingInfo m).Shows [] :=
      Shows.each_nil (fun _ _ => shows_unless_error _ _ _) 0 requiredInfo
    rw [fieldsOf_of_lookup held]
    exact (((missing.append (shows_versionOf found)).append_nil (shows_inputTypes m)).append_nil
      (shows_targets m)).append (shows_confidence m)
  · rename_i other
    cases described
    rw [fieldsOf_of_other other]
    exact shows_empty

theorem shows_componentsFrom (seen : List String) (i : Nat) (items : List Json) :
    (componentsFrom seen i items).Shows [] := by
  induction items generalizing seen i with
  | nil => rfl
  | cons v rest ih =>
    rw [componentsFrom_cons]
    refine Shows.append_nil ?_ (ih _ (i + 1))
    unfold componentAt
    split
    · split
      · rfl
      · split <;> rfl
    · rfl

theorem shows_references (known : List String) (i : Nat) (sec : Fields) :
    (references known i sec).Shows
      (((itemsOf sec "components").filter (!refersTo known ·)).map fun _ => ownerOf sec) := by
  have one (j : Nat) (v : Json) : (reference known (ownerOf sec) i j v).Shows
      (if refersTo known v then [] else [ownerOf sec]) := by
    cases v with
    | str ref => exact shows_unless (shows_showing _ _)
    | _ => rfl
  have all (refs : List Json) :
      (refs.flatMap fun v => if refersTo known v then [] else [ownerOf sec]) =
        (refs.filter (!refersTo known ·)).map fun _ => ownerOf sec := by
    induction refs with
    | nil => rfl
    | cons v rest ih =>
      rw [List.flatMap_cons, List.filter_cons, ih]
      cases refersTo known v <;> rfl
  unfold references
  split
  · rename_i absent
    rw [itemsOf_of_other (by simp [absent])]
    exact shows_empty
  · rename_i refs held
    rw [itemsOf_of_lookup held, ← all]
    exact Shows.each one 0 refs
  · rename_i v other held
    rw [itemsOf_of_other fun refs same => other refs (Option.some.inj (held.symm.trans same))]
    exact shows_error _ _ _

theorem shows_sectionAt (known seen : List String) (i : Nat) (v : Json) :
    (sectionAt known seen i v).Shows (shownSection known v) := by
  cases v with
  | obj sec =>
    have id : (sectionId seen i sec).Shows [] := by
      unfold sectionId
      split
      · rfl
      · split <;> rfl
    have layout : (sectionLayout i sec).Shows ([layoutOf sec].filter (!isLayout ·)) := by
      unfold sectionLayout
      show Shows (if isLayout (layoutOf sec) then _ else _) _
      rw [List.filter_singleton]
      cases isLayout (layoutOf sec)
      · exact shows_showing _ _
      · exact shows_empty
    exact (id.append layout).append (shows_references known i sec)
  | _ => rfl

theorem shows_sectionsFrom (known seen : List String) (i : Nat) (items : List Json) :
    (sectionsFrom known seen i items).Shows (items.flatMap (shownSection known)) := by
  induction items generalizing seen i with
  | nil => rfl
  | cons v rest ih =>
    rw [sectionsFrom_cons, List.flatMap_cons]
    exact (shows_sectionAt known seen i v).append (ih _ (i + 1))

theorem shows_sections (fields : Fields) :
    (sections fields).Shows ((itemsOf fields "sections").flatMap
      (shownSection (ids (itemsOf fields "components")))) := by
  unfold sections
  split
  · rename_i items held
    rw [itemsOf_of_lookup held]
    refine Shows.append_nil ?_ (Shows.each_nil (fun _ id => ?_) 0 _)
    · cases items with
      | nil => rfl
      | cons first rest => exact shows_sectionsFrom _ [] 0 _
    · split <;> rfl
  · rename_i other
    rw [itemsOf_of_other other]
    exact shows_empty

theorem shows_ruleWidth (previous : Option Int) (i : Nat) (rule : Fields) :
    (ruleWidth previous i rule).Shows (shownRule previous rule) := by
  unfold ruleWidth shownRule
  cases width? rule with
  | none => exact shows_showing _ _
  | some width =>
    cases previous with
    | none => exact shows_empty
    | some before =>
      simp only [Option.any_some, decide_eq_true_eq]
      split
      · exact shows_showing _ _
      · exact shows_empty

theorem shows_changes (known : List String) (i : Nat) (rule : Fields) :
    (changes known i rule).Shows [] := by
  unfold changes
  split
  · rfl
  · refine Shows.each_nil (fun j v => ?_) 0 _
    unfold change
    split
    · rfl
    · split <;> rfl
  · rfl

theorem shows_rulesFrom (known : List String) (previous : Option Int) (i : Nat)
    (items : List Json) : (rulesFrom known previous i items).Shows (shownRules previous items) := by
  induction items generalizing previous i with
  | nil => rfl
  | cons v rest ih =>
    rw [rulesFrom_cons]
    cases v with
    | obj rule =>
      exact ((shows_ruleWidth previous i rule).append_nil (shows_changes known i rule)).append
        (ih _ (i + 1))
    | _ => exact (shows_error _ _ _).append (ih previous (i + 1))

theorem shows_layer (known : List String) (i : Nat) (v : Json) :
    (layer known i v).Shows (shownLayer known v) := by
  unfold layer shownLayer
  cases targetOf? v with
  | none => exact shows_showing _ _
  | some name => exact shows_unless (shows_showing _ _)

theorem shows_layers (known : List String) (fields : Fields) :
    (layers known fields).Shows
      ((itemsOf (fieldsOf fields "layering") "layers").flatMap (shownLayer known)) := by
  unfold layers
  split
  · rename_i layering held
    rw [fieldsOf_of_lookup held]
    exact Shows.each (shows_layer known) 0 _
  · rename_i other
    rw [fieldsOf_of_other other]
    exact shows_empty

theorem shows_overrides (known : List String) (fields : Fields) :
    (overrides known fields).Shows [] := by
  unfold overrides
  split
  · split
    · refine Shows.each_nil (fun _ entry => ?_) 0 _
      split <;> rfl
    · rfl
  · rfl

/-- All rules together show what each of them shows. -/
theorem shows_gathered {fields : Fields} {about : Report} (described : info fields = .ok about) :
    (gathered fields about).Shows (shownValues fields) := by
  have assumptions (items : List Json) : (each assumption 0 items).Shows [] := by
    refine Shows.each_nil (fun i v => ?_) 0 items
    unfold assumption
    split <;> rfl
  have ambiguities (items : List Json) : (each ambiguity 0 items).Shows [] :=
    Shows.each_nil (fun _ _ => shows_unless_error _ _ _) 0 items
  exact ((((((((shows_topLevel fields).append (shows_info described)).append_nil
    (shows_componentsFrom [] 0 _)).append (shows_sections fields)).append_nil
    (assumptions _)).append_nil (ambiguities _)).append (shows_rulesFrom _ none 0 _)).append
    (shows_layers _ fields)).append_nil (shows_overrides _ fields)

section

variable {fields : Fields} (writable : (Json.obj fields).unwritable? = none)

include writable

theorem writable_lookup_getD {absent : Json} (default : absent.unwritable? = none) (key : String) :
    ((fields.lookup key).getD absent).unwritable? = none := by
  cases held : fields.lookup key with
  | none => exact default
  | some v => exact Json.unwritable?_eq_none_of_within (Json.within_of_lookup held) writable

theorem writable_fieldsOf (key : String) :
    (Json.obj (fieldsOf fields key)).unwritable? = none := by
  unfold fieldsOf
  split
  · rename_i inner held
    exact Json.unwritable?_eq_none_of_within (Json.within_of_lookup held) writable
  · rfl

theorem writable_of_mem_itemsOf {key : String} {v : Json} (member : v ∈ itemsOf fields key) :
    v.unwritable? = none := by
  obtain ⟨values, held, member⟩ := mem_itemsOf_iff.mp member
  have inside : Json.Within v (.obj fields) :=
    (Json.Within.item member (.whole v)).trans (Json.within_of_lookup held)
  exact Json.unwritable?_eq_none_of_within inside writable

theorem writable_of_mem_shownInfo {v : Json} (member : v ∈ shownInfo fields) :
    v.unwritable? = none := by
  have given {key : String} {passes : Json → Bool}
      (held : v ∈ ((fields.lookup key).filter passes).toList) : v.unwritable? = none := by
    obtain ⟨there, -⟩ := Option.filter_eq_some_iff.mp (Option.mem_toList.mp held)
    exact Json.unwritable?_eq_none_of_within (Json.within_of_lookup there) writable
  rcases List.mem_append.mp member with version | confidence
  · exact given version
  · exact given confidence

/-- A width is that of a breakpoint, or it stands in the rule. -/
theorem writable_told {width : Width} (found : width? fields = some width) :
    width.told.unwritable? = none := by
  unfold width? at found
  split at found
  · split at found
    · obtain ⟨w, resolved, rfl⟩ := Option.map_eq_some_iff.mp found
      obtain ⟨n, listed, same⟩ := Option.bind_eq_some_iff.mp resolved
      obtain rfl := Option.some.inj same
      have named : ∀ entry ∈ breakpoints, (Json.int entry.2).unwritable? = none := by decide
      exact named _ (Fields.mem_of_lookup listed)
    · cases found
  · rename_i i given
    cases found
    have own := @writable_lookup_getD _ writable .null rfl "minWidth"
    rwa [given] at own
  · cases found
    rfl
  · cases found

theorem writable_of_mem_shownRule {previous : Option Int} {v : Json}
    (member : v ∈ shownRule previous fields) : v.unwritable? = none := by
  have breakpoint : (breakpointOf fields).unwritable? = none := writable_lookup_getD writable rfl _
  unfold shownRule at member
  split at member
  · rw [List.mem_singleton.mp member, breakpoint]
  · rename_i width found
    split at member
    · rcases List.mem_cons.mp member with rfl | second
      · exact breakpoint
      · rw [List.mem_singleton.mp second, writable_told writable found]
    · cases member

end

theorem writable_of_mem_shownSection {known : List String} {sec v : Json}
    (writable : sec.unwritable? = none) (member : v ∈ shownSection known sec) :
    v.unwritable? = none := by
  cases sec with
  | obj fields =>
    rcases List.mem_append.mp member with layout | owner
    · rw [List.mem_singleton.mp (List.mem_of_mem_filter layout)]
      exact writable_lookup_getD writable (Json.unwritable?_str _) _
    · obtain ⟨_, -, rfl⟩ := List.mem_map.mp owner
      exact writable_lookup_getD writable rfl _
  | _ => cases member

theorem writable_of_mem_shownRules {previous : Option Int} {items : List Json}
    (writable : ∀ rule ∈ items, rule.unwritable? = none) {v : Json}
    (member : v ∈ shownRules previous items) : v.unwritable? = none := by
  induction items generalizing previous with
  | nil => cases member
  | cons rule rest ih =>
    obtain ⟨first, later⟩ := List.forall_mem_cons.mp writable
    cases rule with
    | obj fields =>
      rcases List.mem_append.mp member with here | behind
      · exact writable_of_mem_shownRule first here
      · exact ih later behind
    | _ => exact ih later member

/-- Of a document that can be shown in whole, whatever messages show can be shown. -/
theorem writable_of_mem_shown {fields : Fields} (writable : (Json.obj fields).unwritable? = none) :
    ∀ v ∈ shownValues fields, v.unwritable? = none := by
  intro v member
  simp only [shownValues, List.mem_append, or_assoc] at member
  rcases member with info | sections | rules | layers
  · exact writable_of_mem_shownInfo (writable_fieldsOf writable "meta") info
  · obtain ⟨sec, listed, held⟩ := List.mem_flatMap.mp sections
    exact writable_of_mem_shownSection (writable_of_mem_itemsOf writable listed) held
  · exact writable_of_mem_shownRules (fun _ => writable_of_mem_itemsOf writable) rules
  · obtain ⟨layer, listed, held⟩ := List.mem_flatMap.mp layers
    have whole := writable_of_mem_itemsOf (writable_fieldsOf writable "layering") listed
    unfold shownLayer at held
    split at held
    · cases held
    · rw [List.mem_singleton.mp held]
      unfold targetShown
      split
      · exact writable_lookup_getD whole rfl _
      · rfl

theorem exists_validate_obj_iff {fields : Fields} :
    (∃ report, validate (.obj fields) = .ok report) ↔
      (∃ about, info fields = .ok about) ∧ ∀ v ∈ shownValues fields, v.unwritable? = none := by
  constructor
  · rintro ⟨report, reported⟩
    obtain ⟨about, described, whole, -⟩ := validate_obj_eq_ok_iff.mp reported
    exact ⟨⟨about, described⟩, (shows_gathered described).broken_eq_none_iff.mp whole⟩
  · rintro ⟨⟨about, described⟩, writable⟩
    have whole := (shows_gathered described).broken_eq_none_iff.mpr writable
    exact ⟨_, validate_obj_eq_ok_iff.mpr ⟨about, described, whole, rfl⟩⟩

end Validation

end DesignToCode
