import DesignToCode.Proofs.Schema.Seen
import DesignToCode.Proofs.Schema.Shown
import DesignToCode.Proofs.Text.Decimal

set_option autoImplicit false

namespace DesignToCode

open Validation Report Reader

/-- What was found and where, without the message. -/
def Issue.place (i : Issue) : Rule × String := (i.rule, i.path)

/-- The places of the warnings, in order. -/
def Report.places (r : Report) : List (Rule × String) := r.warnings.map Issue.place

theorem Report.isPart_places : IsPart places where
  empty := rfl
  append r s := by
    unfold places
    rw [warnings_append, List.map_append]

@[simp] theorem Report.places_append (r s : Report) : (r ++ s).places = r.places ++ s.places :=
  isPart_places.append r s

theorem Report.forall_mem_places_each {α : Type} {check : Nat → α → Report} {items : List α}
    {P : Rule × String → Prop}
    (each_holds : ∀ i, ∀ a ∈ items, ∀ place ∈ (check i a).places, P place) (i : Nat) :
    ∀ place ∈ (each check i items).places, P place := by
  induction items generalizing i with
  | nil =>
    intro place none
    cases none
  | cons a rest ih =>
    intro place member
    rw [each, places_append, List.mem_append] at member
    rcases member with first | later
    · exact each_holds i a List.mem_cons_self place first
    · exact ih (fun j b listed => each_holds j b (List.mem_cons_of_mem a listed)) (i + 1)
        place later

theorem ResponsiveRule.rule_of_mem_changesReport {known : List String} {i : Nat}
    {r : ResponsiveRule} {place : Rule × String} (h : place ∈ (r.changesReport known i).places) :
    place.1 = .responsiveTargetUnknown := by
  have single (j : Nat) (v : Json) :
      ∀ found ∈ (change known i j v).places, found.1 = .responsiveTargetUnknown := by
    unfold change
    intro found here
    split at here
    · cases here
    · split at here
      · cases here
      · rw [List.mem_singleton.mp here]
        rfl
  exact forall_mem_places_each (fun j v _ => single j v) 0 place h

def breakpointPath (i : Nat) : String := s!"responsiveRules[{i}].breakpoint"

theorem breakpointPath_injective {i j : Nat} (h : breakpointPath i = breakpointPath j) : i = j := by
  have texts := congrArg String.toList h
  unfold breakpointPath at texts
  rw [String.toList_append, String.toList_append, String.toList_append, String.toList_append,
    List.append_left_inj, List.append_right_inj, String.toList_inj] at texts
  exact Text.repr_nat_injective texts

/-- For each width, whether it is smaller than the one before it. -/
def descents (previous : Option Int) : List Int → List Bool
  | [] => []
  | width :: rest => previous.any (width < ·) :: descents (some width) rest

theorem length_descents (previous : Option Int) (widths : List Int) :
    (descents previous widths).length = widths.length := by
  induction widths generalizing previous with
  | nil => rfl
  | cons width rest ih => rw [descents, List.length_cons, List.length_cons, ih]

/-- The places of the warnings about rules, each of which is narrower than the one before it or
not. -/
def rulePlaces (known : List String) : Nat → List (Bool × ResponsiveRule) → List (Rule × String)
  | _, [] => []
  | i, (narrower, r) :: rest =>
    (if narrower then [(.breakpointOrder, breakpointPath i)] else []) ++
      (r.changesReport known i).places ++ rulePlaces known (i + 1) rest

theorem le_of_mem_rulePlaces {known : List String} {i k : Nat}
    {pairs : List (Bool × ResponsiveRule)}
    (h : (.breakpointOrder, breakpointPath k) ∈ rulePlaces known i pairs) : i ≤ k := by
  induction pairs generalizing i with
  | nil => cases h
  | cons pair rest ih =>
    obtain ⟨narrower, r⟩ := pair
    rw [rulePlaces, List.mem_append, List.mem_append] at h
    rcases h with (own | change) | later
    · split at own
      · have same : breakpointPath k = breakpointPath i :=
          congrArg Prod.snd (List.mem_singleton.mp own)
        have := breakpointPath_injective same
        omega
      · cases own
    · cases r.rule_of_mem_changesReport change
    · have := ih later
      omega

/-- Whether the first rule is narrower than the one before it can be told from the places. -/
theorem mem_rulePlaces_cons_iff {known : List String} {i : Nat} {narrower : Bool}
    {r : ResponsiveRule} {rest : List (Bool × ResponsiveRule)} :
    (.breakpointOrder, breakpointPath i) ∈ rulePlaces known i ((narrower, r) :: rest) ↔
      narrower = true := by
  rw [rulePlaces, List.mem_append, List.mem_append]
  constructor
  · rintro ((own | change) | later)
    · by_contra wider
      rw [if_neg wider] at own
      cases own
    · cases r.rule_of_mem_changesReport change
    · have := le_of_mem_rulePlaces later
      omega
  · intro narrow
    rw [if_pos narrow]
    exact .inl (.inl List.mem_cons_self)

theorem rule_of_mem_rulePlaces {known : List String} {i : Nat}
    {pairs : List (Bool × ResponsiveRule)} {place : Rule × String}
    (h : place ∈ rulePlaces known i pairs) :
    place.1 = .breakpointOrder ∨ place.1 = .responsiveTargetUnknown := by
  induction pairs generalizing i with
  | nil => cases h
  | cons pair rest ih =>
    obtain ⟨narrower, r⟩ := pair
    rw [rulePlaces, List.mem_append, List.mem_append] at h
    rcases h with (own | change) | later
    · split at own
      · rw [List.mem_singleton.mp own]
        exact .inl rfl
      · cases own
    · exact .inr (r.rule_of_mem_changesReport change)
    · exact ih later

theorem rulePlaces_inj {known : List String} {rules : List ResponsiveRule}
    {first second : List Bool}
    (length_first : first.length = rules.length) (length_second : second.length = rules.length)
    {i : Nat}
    (same : rulePlaces known i (first.zip rules) = rulePlaces known i (second.zip rules)) :
    first = second := by
  induction rules generalizing first second i with
  | nil => rw [List.length_eq_zero_iff.mp length_first, List.length_eq_zero_iff.mp length_second]
  | cons r rest ih =>
    obtain ⟨b, bs, rfl⟩ := List.exists_cons_of_length_eq_add_one length_first
    obtain ⟨c, cs, rfl⟩ := List.exists_cons_of_length_eq_add_one length_second
    rw [List.zip_cons_cons, List.zip_cons_cons] at same
    -- Only a narrower first rule is warned about under its own number.
    have heads : b = c := by
      rw [Bool.eq_iff_iff, ← mem_rulePlaces_cons_iff, ← mem_rulePlaces_cons_iff, same]
    subst heads
    rw [rulePlaces, rulePlaces, List.append_cancel_left_eq] at same
    rw [ih (Nat.succ.inj length_first) (Nat.succ.inj length_second) same]

theorem places_ruleWidth {previous : Option Int} {i : Nat} {fields : Fields} {width : Int}
    (found : widthOf? (.obj fields) = some width) :
    (ruleWidth previous i fields).places =
      if previous.any (width < ·) then [(.breakpointOrder, breakpointPath i)] else [] := by
  obtain ⟨w, here, rfl⟩ := Option.map_eq_some_iff.mp found
  rw [ruleWidth, here]
  cases previous with
  | none => rfl
  | some before =>
    simp only [Option.any_some, decide_eq_true_eq]
    split <;> rfl

theorem places_rulesFrom (known : List String) {items : List Json} {rules : List ResponsiveRule}
    (all : List.Forall₂ (fun v r => ResponsiveRule.read v = .ok r) items rules)
    (widths : ∀ v ∈ items, (widthOf? v).isSome = true) (previous : Option Int) (i : Nat) :
    (rulesFrom known previous i items).places =
      rulePlaces known i ((descents previous (items.filterMap widthOf?)).zip rules) := by
  induction all generalizing previous i with
  | nil => rfl
  | @cons v r items rules first rest ih =>
    obtain ⟨width, found⟩ := Option.isSome_iff_exists.mp (widths v List.mem_cons_self)
    obtain ⟨fields, rfl, -⟩ := ResponsiveRule.read_eq_ok_iff.mp first
    have later := ih (fun w member => widths w (List.mem_cons_of_mem _ member)) (some width) (i + 1)
    rw [rulesFrom_cons, places_append, found, Option.some_or, later,
      List.filterMap_cons_some found, descents, List.zip_cons_cons, rulePlaces, ruleAt,
      places_append, places_ruleWidth found, ResponsiveRule.changes_of_read first]

theorem rule_of_mem_layers {known : List String} {i : Nat} {items : List Json}
    {place : Rule × String} (h : place ∈ (each (layer known) i items).places) :
    place.1 = .layeringTargetUnknown := by
  refine forall_mem_places_each (P := fun place => place.1 = .layeringTargetUnknown)
    (fun j v _ => ?_) i place h
  intro found here
  have unknown (here : found ∈ (layer.unknown j v).places) : found.1 = .layeringTargetUnknown := by
    rw [List.mem_singleton.mp here]
    rfl
  unfold layer at here
  split at here
  · split at here
    · cases here
    · exact unknown here
  · exact unknown here

/-- The sections with an override, under the written name of the overrides. -/
def writtenOverrides (background : Fields) : List String :=
  (fieldsOf background "sectionOverrides").map (·.1)

/-- The places of the warnings about overrides of these sections. -/
def overridePlaces (known ids : List String) : List (Rule × String) :=
  (ids.filter (!known.contains ·)).map fun id =>
    (.overrideUnknown, s!"backgroundStrategy.sectionOverrides.{id}")

/-- What is found at one override. -/
def overrideAt (known : List String) (entry : String × Json) : Report :=
  if known.contains entry.1 then {}
  else
    warning .overrideUnknown s!"backgroundStrategy.sectionOverrides.{entry.1}"
      s!"background override for unknown section '{entry.1}'"

theorem overrides_of_lookup {known : List String} {fields background : Fields}
    (held : fields.lookup "backgroundStrategy" = some (.obj background)) :
    overrides known fields =
      each (fun _ => overrideAt known) 0 (fieldsOf background "sectionOverrides") := by
  simp only [overrides, held, fieldsOf]
  cases background.lookup "sectionOverrides" with
  | none => rfl
  | some v => cases v <;> rfl

theorem rule_of_mem_overridePlaces {known ids : List String} {place : Rule × String}
    (h : place ∈ overridePlaces known ids) : place.1 = .overrideUnknown := by
  obtain ⟨id, -, rfl⟩ := List.mem_map.mp h
  rfl

theorem places_overrides (known : List String) {fields background : Fields}
    (held : fields.lookup "backgroundStrategy" = some (.obj background)) :
    (overrides known fields).places = overridePlaces known (writtenOverrides background) := by
  rw [overrides_of_lookup held, overridePlaces, writtenOverrides, List.filter_map, List.map_map]
  refine isPart_places.each_eq_map_filter (fun _ entry _ => ?_) 0
  unfold overrideAt
  rw [Function.comp_apply]
  split <;> rfl

theorem filter_append_overridePlaces {known ids : List String} {front : List (Rule × String)}
    (other : ∀ place ∈ front, place.1 ≠ .overrideUnknown) :
    (front ++ overridePlaces known ids).filter (·.1 = .overrideUnknown) =
      overridePlaces known ids := by
  have none : front.filter (·.1 = .overrideUnknown) = [] := by
    rw [List.filter_eq_nil_iff]
    intro place member
    simpa using other place member
  have all : (overridePlaces known ids).filter (·.1 = .overrideUnknown) =
      overridePlaces known ids := by
    rw [List.filter_eq_self]
    intro place member
    simpa using rule_of_mem_overridePlaces member
  rw [List.filter_append, none, all, List.nil_append]

/-- Overrides have a rule of their own, so they can be told from what stands before them. -/
theorem append_overridePlaces_inj {known a b : List String} {front back : List (Rule × String)}
    (front_other : ∀ place ∈ front, place.1 ≠ .overrideUnknown)
    (back_other : ∀ place ∈ back, place.1 ≠ .overrideUnknown)
    (same : front ++ overridePlaces known a = back ++ overridePlaces known b) :
    front = back ∧ overridePlaces known a = overridePlaces known b := by
  have last : overridePlaces known a = overridePlaces known b := by
    rw [← filter_append_overridePlaces front_other, same, filter_append_overridePlaces back_other]
  rw [last, List.append_cancel_right_eq] at same
  exact ⟨same, last⟩

end DesignToCode
