import DesignToCode.Proofs.Schema.Findings
import DesignToCode.Proofs.Schema.Reported

set_option autoImplicit false

namespace DesignToCode

open Validation Report

/-- An object among the components has a text as its id. -/
def HasComponent (fields : Fields) (id : String) : Prop :=
  ∃ values component, fields.lookup "components" = some (.arr values) ∧
    .obj component ∈ values ∧ component.lookup "id" = some (.str id) ∧ id ≠ ""

/-- What a section names at a position is a text, but no component. -/
def Dangles (fields : Fields) (i j : Nat) : Prop :=
  ∃ items sec refs ref, fields.lookup "sections" = some (.arr items) ∧
    items[i]? = some (.obj sec) ∧ sec.lookup "components" = some (.arr refs) ∧
    refs[j]? = some (.str ref) ∧ ¬ HasComponent fields ref

def referencePath (place : Nat × Nat) : String :=
  s!"sections[{place.1}].components[{place.2}]"

/-- The gate tells of every dangling reference once, at its place. -/
def TellsDangling (fields : Fields) : Prop :=
  ∃ report, validate (.obj fields) = .ok report ∧
    ∃ places : List (Nat × Nat), places.Nodup ∧
      (∀ i j, (i, j) ∈ places ↔ Dangles fields i j) ∧
      (report.errors.filter fun issue => issue.rule = .danglingReference).map (·.path) =
        places.map referencePath

variable {fields : Fields}

theorem mem_ids_components_iff {id : String} :
    id ∈ ids (itemsOf fields "components") ↔ HasComponent fields id := by
  unfold ids HasComponent
  rw [List.mem_filterMap]
  constructor
  · rintro ⟨v, member, found⟩
    obtain ⟨values, held, member⟩ := mem_itemsOf_iff.mp member
    cases v with
    | obj component => exact ⟨values, component, held, member, id?_eq_some_iff.mp found⟩
    | _ => cases found
  · rintro ⟨values, component, held, member, found⟩
    exact ⟨.obj component, mem_itemsOf_iff.mpr ⟨values, held, member⟩, id?_eq_some_iff.mpr found⟩

/-- The entries of the list that a section names components by. -/
def referencesOf : Json → List Json
  | .obj sec => itemsOf sec "components"
  | _ => []

/-- The positions at which a section names an unknown component. -/
def danglingPositions (known : List String) (v : Json) : List Nat :=
  ((referencesOf v).zipIdx.filter fun entry => !refersTo known entry.1).map (·.2)

/-- The positions of all sections, each with that of the section. -/
def danglingPlaces (known : List String) (i : Nat) (items : List Json) : List (Nat × Nat) :=
  (items.zipIdx i).flatMap fun entry => (danglingPositions known entry.1).map (entry.2, ·)

theorem pairwise_lt_zipIdx {α : Type} (items : List α) (i : Nat) :
    (items.zipIdx i).Pairwise fun a b => a.2 < b.2 := by
  have positions : ((items.zipIdx i).map Prod.snd).Pairwise (· < ·) := by
    rw [List.zipIdx_map_snd]
    exact List.pairwise_lt_range'
  exact List.pairwise_map.mp positions

theorem danglingPositions_nodup (known : List String) (v : Json) :
    (danglingPositions known v).Nodup := by
  unfold danglingPositions
  rw [List.Nodup, List.pairwise_map]
  refine ((pairwise_lt_zipIdx _ 0).filter _).imp ?_
  intro a b before
  exact Nat.ne_of_lt before

theorem danglingPlaces_nodup (known : List String) (i : Nat) (items : List Json) :
    (danglingPlaces known i items).Nodup := by
  unfold danglingPlaces
  rw [List.Nodup, List.pairwise_flatMap]
  constructor
  · intro entry _
    exact List.pairwise_map.mpr
      ((danglingPositions_nodup known entry.1).imp fun other same => other (Prod.mk.inj same).2)
  · refine (pairwise_lt_zipIdx items i).imp ?_
    intro a b before first here second there same
    obtain ⟨_, -, rfl⟩ := List.mem_map.mp here
    obtain ⟨_, -, rfl⟩ := List.mem_map.mp there
    exact Nat.ne_of_lt before (Prod.mk.inj same).1

theorem mem_danglingPlaces_iff {known : List String} {items : List Json} {i j : Nat} :
    (i, j) ∈ danglingPlaces known 0 items ↔
      ∃ sec ref, items[i]? = some (.obj sec) ∧
        (itemsOf sec "components")[j]? = some (.str ref) ∧ ref ∉ known := by
  have places : (i, j) ∈ danglingPlaces known 0 items ↔
      ∃ v, items[i]? = some v ∧ ∃ entry, (referencesOf v)[j]? = some entry ∧
        refersTo known entry = false := by
    simp [danglingPlaces, danglingPositions, List.mem_zipIdx_iff_getElem?]
  rw [places]
  constructor
  · rintro ⟨v, there, entry, listed, unknown⟩
    cases v with
    | obj sec =>
      cases entry with
      | str ref => exact ⟨sec, ref, there, listed, by simpa [refersTo] using unknown⟩
      | _ => cases unknown
    | _ => cases listed
  · rintro ⟨sec, ref, there, listed, unknown⟩
    exact ⟨_, there, _, listed, by simpa [refersTo] using unknown⟩

theorem mem_danglingPlaces_sections_iff {i j : Nat} :
    (i, j) ∈ danglingPlaces (ids (itemsOf fields "components")) 0 (itemsOf fields "sections") ↔
      Dangles fields i j := by
  simp only [mem_danglingPlaces_iff, mem_ids_components_iff]
  constructor
  · rintro ⟨sec, ref, there, listed, unknown⟩
    obtain ⟨items, held, there⟩ := getElem?_itemsOf_iff.mp there
    obtain ⟨refs, named, listed⟩ := getElem?_itemsOf_iff.mp listed
    exact ⟨items, sec, refs, ref, held, there, named, listed, unknown⟩
  · rintro ⟨items, sec, refs, ref, held, there, named, listed, unknown⟩
    exact ⟨sec, ref, getElem?_itemsOf_iff.mpr ⟨items, held, there⟩,
      getElem?_itemsOf_iff.mpr ⟨refs, named, listed⟩, unknown⟩

/-- The places of the dangling references that are found. -/
def danglingPaths (r : Report) : List String :=
  (r.errorsUnder [.danglingReference]).map (·.path)

theorem isPart_danglingPaths : IsPart danglingPaths :=
  ⟨rfl, fun r s => by rw [danglingPaths, (isPart_errorsUnder _).append, List.map_append]; rfl⟩

theorem danglingPaths_of_findsOnly {own : List Rule} {r : Report} (only : FindsOnly own r)
    (apart : .danglingReference ∉ own) : danglingPaths r = [] := by
  have none : r.errorsUnder [.danglingReference] = [] := by
    apply only.errorsUnder_eq_nil
    intro rule member here
    rw [List.mem_singleton.mp here] at member
    exact apart member
  rw [danglingPaths, none]
  rfl

theorem danglingPaths_reference (known : List String) (owner : Json) (i j : Nat) (v : Json) :
    danglingPaths (reference known owner i j v) =
      if refersTo known v then [] else [referencePath (i, j)] := by
  cases v with
  | str ref => by_cases listed : ref ∈ known <;> simp [reference, refersTo, listed] <;> rfl
  | _ => rfl

theorem danglingPaths_references (known : List String) (i : Nat) (sec : Fields) :
    danglingPaths (references known i sec) =
      (danglingPositions known (.obj sec)).map fun j => referencePath (i, j) := by
  change _ = (((itemsOf sec "components").zipIdx.filter fun entry =>
    !refersTo known entry.1).map (·.2)).map fun j => referencePath (i, j)
  unfold references
  split
  · rename_i absent
    rw [itemsOf_of_other (by simp [absent])]
    rfl
  · rename_i refs held
    rw [itemsOf_of_lookup held, List.map_map]
    exact isPart_danglingPaths.each_eq_map_filter_zipIdx
      (fun j ref => danglingPaths_reference known _ i j ref) 0
  · rename_i v other held
    rw [itemsOf_of_other fun refs same => other refs (Option.some.inj (held.symm.trans same))]
    rfl

theorem danglingPaths_sectionAt (known seen : List String) (i : Nat) (v : Json) :
    danglingPaths (sectionAt known seen i v) =
      (danglingPositions known v).map fun j => referencePath (i, j) := by
  cases v with
  | obj sec =>
    have id := danglingPaths_of_findsOnly (findsOnly_sectionId seen i sec) (by decide)
    have layout := danglingPaths_of_findsOnly (findsOnly_sectionLayout i sec) (by decide)
    rw [sectionAt, isPart_danglingPaths.append, isPart_danglingPaths.append, id, layout]
    exact danglingPaths_references known i sec
  | _ => rfl

/-- The ids that were seen before have no part in it. -/
theorem danglingPaths_sectionsFrom (known seen : List String) (i : Nat) (items : List Json) :
    danglingPaths (sectionsFrom known seen i items) =
      (danglingPlaces known i items).map referencePath := by
  induction items generalizing seen i with
  | nil => rfl
  | cons v rest ih =>
    have later : danglingPlaces known i (v :: rest) =
        (danglingPositions known v).map (i, ·) ++ danglingPlaces known (i + 1) rest := rfl
    rw [sectionsFrom_cons, isPart_danglingPaths.append, danglingPaths_sectionAt, ih, later,
      List.map_append, List.map_map]
    rfl

theorem danglingPaths_sections (fields : Fields) :
    danglingPaths (sections fields) =
      (danglingPlaces (ids (itemsOf fields "components")) 0 (itemsOf fields "sections")).map
        referencePath := by
  unfold sections
  split
  · rename_i items held
    have warned : FindsOnly [] (unreferenced items (itemsOf fields "components")) :=
      findsOnly_of_errors (errors_unreferenced items _)
    rw [isPart_danglingPaths.append, danglingPaths_of_findsOnly warned List.not_mem_nil,
      List.append_nil, itemsOf_of_lookup held]
    cases items with
    | nil => rfl
    | cons first rest => exact danglingPaths_sectionsFrom _ [] 0 (first :: rest)
  · rename_i other
    rw [itemsOf_of_other other]
    rfl

/-- Every dangling reference is told of once, unless the version stops the gate or a message that
cannot be written. -/
theorem tellsDangling_iff :
    TellsDangling fields ↔
      (∀ text, (Json.obj fields).GivesVersion text → Version.Fits text) ∧
        ∀ v ∈ (Json.obj fields).told, v.unwritable? = none := by
  rw [← exists_ok_validate_iff]
  constructor
  · rintro ⟨report, reported, -⟩
    exact ⟨report, reported⟩
  · rintro ⟨report, reported⟩
    refine ⟨report, reported, _, danglingPlaces_nodup _ 0 _,
      fun _ _ => mem_danglingPlaces_sections_iff, ?_⟩
    have found : danglingPaths report = danglingPaths (sections fields) :=
      congrArg (List.map Issue.path) (errorsUnder_danglingReference reported)
    rw [← danglingPaths_sections, ← found, danglingPaths, errorsUnder]
    simp

/-- A page whose version cannot be looked at, with a section that names a component it has not. -/
def halfPage : Schema where
  info := { schemaVersion := longVersion (Numeral.digitLimit + 1), frameworkTarget := ["css"] }
  sections := [{ id := "top", name := "Top", type := "hero", components := ["title"] }]

/-- Not every dangling reference is told of. -/
theorem halfPage_not_tellsDangling :
    Dangles halfPage.stored 0 0 ∧ ¬ TellsDangling halfPage.stored := by
  constructor
  · refine ⟨_, _, ["title"].map .str, "title", rfl, rfl, rfl, rfl, ?_⟩
    rintro ⟨values, component, held, member, -⟩
    have none : halfPage.stored.lookup "components" = some (.arr []) := rfl
    cases none.symm.trans held
    cases member
  · rintro ⟨report, reported, -⟩
    obtain ⟨fits, -⟩ := exists_ok_validate_iff.mp ⟨report, reported⟩
    exact not_fits_longVersion (fits _ ⟨_, _, rfl, rfl, rfl⟩)

end DesignToCode
