import DesignToCode.Proofs.Analysis.Pass
import DesignToCode.Proofs.Analysis.Placement
import DesignToCode.Proofs.Except
import DesignToCode.Proofs.Json.Fields
import DesignToCode.Proofs.Schema.Builder

set_option autoImplicit false

namespace DesignToCode

open DesignToCode.Text

theorem Layout.name_inj {l m : Layout} : l.name = m.name ↔ l = m := by
  cases l <;> cases m <;> decide

namespace Assembly

def Draft.section (d : Draft) : Section :=
  let layout := (layout? d.hint).getD .block
  { id := d.id
    name := d.hint.name
    type := d.hint.type
    layout := layout
    components := d.components
    columns := columnsOf d.hint layout
    direction := directionOf d.hint layout
    gap := none }

theorem layoutName_eq (hint : SectionHint) :
    layoutName hint = ((layout? hint).getD .block).name := by
  have named : ∀ entry ∈ Layout.named, entry.1 = entry.2.name := by decide
  unfold layoutName layout?
  dsimp only
  cases found : Layout.named.lookup (lower (trim (hint.layout.getD ""))) with
  | none => rfl
  | some l => exact named (lower (trim (hint.layout.getD "")), l) (Fields.mem_of_lookup found)

theorem read_clampColumns (i : Int) :
    Columns.read (.int (min (max i 1) 12)) = .ok (clampColumns i) := by
  have low : ¬ min (max i 1) 12 < 1 := by omega
  have high : ¬ 12 < min (max i 1) 12 := by omega
  simp [Columns.read, Reader.integer, Json.int, Reading.andThen, low, high, clampColumns]

/-- Every draft is a section: its layout has a name, and its columns were brought into range. -/
theorem Draft.read_toJson (d : Draft) : Section.read d.toJson = .ok d.section := by
  rw [Section.read_eq_ok_iff]
  dsimp only [Draft.toJson, Draft.section]
  rw [layoutName_eq]
  -- The layout is a computed word: left open, it would be unfolded by every `rfl` below.
  generalize (layout? d.hint).getD .block = layout
  refine ⟨_, rfl, rfl, rfl, rfl, ?layout, ?components, ?columns, ?direction, rfl⟩
  case layout =>
    rw [Reader.defaulted_of_lookup _ rfl, Reader.member_str layout.lookup_name, Reading.under_ok]
  case components =>
    rw [Reader.defaulted_of_lookup _ rfl, Reader.tuple_strings, Reading.under_ok]
  case columns =>
    rw [Reader.defaulted_of_lookup _ rfl]
    simp only [Layout.name_inj, columnsOf]
    split
    · cases d.hint.columns with
      | none => rfl
      | some i =>
        show Reading.under _ (some <$> Columns.read (.int (min (max i 1) 12))) = _
        rw [read_clampColumns]
        rfl
    · rfl
  case direction =>
    rw [Reader.defaulted_of_lookup _ rfl]
    simp only [Layout.name_inj, directionOf]
    split
    · cases d.hint.direction.filter fun way => way == "row" || way == "column" with
      | none => rfl
      | some way => rfl
    · rfl

namespace Pass

variable {p : Pass}

theorem change_eq {f : Builder → Except Builder.Refusal Builder} {b : Builder}
    (h : f p.builder = .ok b) : p.change f = .ok { p with builder := b } := by
  rw [change, h]

theorem note_eq (isOpen : p.builder.isSealed = false) (a : Ambiguity) :
    p.note a = .ok { p with
      builder := { p.builder with ambiguities := p.builder.ambiguities ++ [a] } } := by
  apply change_eq
  rw [Builder.addAmbiguity_of_open isOpen]
  rfl

theorem assume_eq (isOpen : p.builder.isSealed = false) {texts : List String}
    (held : p.builder.assumptions = texts.map .str) (text : String) :
    p.assume text = .ok { p with
      builder := { p.builder with assumptions := (Builder.addText texts text).map .str } } :=
  change_eq (Builder.addAssumption_of_open isOpen held text)

theorem claim_eq (isOpen : p.builder.isSealed = false) (hint : SectionHint) (id : String) :
    p.claim hint id = .ok { p with
      builder := { p.builder with
        ambiguities := p.builder.ambiguities ++
          (if (p.ids.lookup hint.key).isSome then [hint] else []).map duplicateKey }
      ids := Fields.putNew p.ids hint.key id } := by
  unfold claim Fields.putNew
  split
  · exact note_eq isOpen _
  · rw [List.map_nil, List.append_nil]

/-- The texts that are held once the sections without a layout were told. -/
def withDefaults (texts : List String) (hints : List SectionHint) : List String :=
  ((defaultedLayouts hints).map defaultedLayout).foldl Builder.addText texts

theorem defaultedLayouts_cons (hint : SectionHint) (rest : List SectionHint) :
    defaultedLayouts (hint :: rest) = defaultedLayouts [hint] ++ defaultedLayouts rest :=
  List.filter_append [hint] rest

theorem withDefaults_cons (texts : List String) (hint : SectionHint) (rest : List SectionHint) :
    withDefaults texts (hint :: rest) = withDefaults (withDefaults texts [hint]) rest := by
  rw [withDefaults, defaultedLayouts_cons, List.map_append, List.foldl_append]
  rfl

theorem checkLayout_eq (isOpen : p.builder.isSealed = false) {texts : List String}
    (held : p.builder.assumptions = texts.map .str) (hint : SectionHint) :
    p.checkLayout hint = .ok { p with
      builder := { p.builder with assumptions := (withDefaults texts [hint]).map .str }
      defaultedCount := p.defaultedCount + (defaultedLayouts [hint]).length } := by
  unfold checkLayout withDefaults defaultedLayouts
  cases named : layout? hint with
  | none =>
    refine (assume_eq (by exact isOpen) (by exact held) _).trans ?_
    simp [named]
  | some layout => simp [named, ← held]

theorem placeSection_eq (isOpen : p.builder.isSealed = false) {texts : List String}
    (held : p.builder.assumptions = texts.map .str) (hint : SectionHint) :
    p.placeSection hint = .ok { p with
      builder := { p.builder with
        ids := (p.builder.ids.next "sec" hint.type).2
        assumptions := (withDefaults texts [hint]).map .str
        ambiguities := p.builder.ambiguities ++
          (if (p.ids.lookup hint.key).isSome then [hint] else []).map duplicateKey }
      ids := Fields.putNew p.ids hint.key (p.builder.ids.next "sec" hint.type).1
      drafts := p.drafts ++ [{ hint, id := (p.builder.ids.next "sec" hint.type).1 }]
      defaultedCount := p.defaultedCount + (defaultedLayouts [hint]).length } := by
  unfold placeSection
  dsimp only [issue, Builder.nextId]
  rw [claim_eq (by exact isOpen), Except.ok_bind, checkLayout_eq (by exact isOpen) (by exact held),
    Except.ok_bind]

/-- The keys that were seen once one more is used. -/
def seenWith (seen : List String) (key : String) : List String :=
  if seen.contains key then seen else key :: seen

theorem reusedKeys_cons (seen : List String) (hint : SectionHint) (rest : List SectionHint) :
    reusedKeys seen (hint :: rest) =
      (if seen.contains hint.key then [hint] else []) ++
        reusedKeys (seenWith seen hint.key) rest := by
  rw [reusedKeys, seenWith]
  split <;> rfl

theorem contains_seenWith {seen : List String} {ids : List (String × String)}
    (known : ∀ key, seen.contains key = (ids.lookup key).isSome) (first id key : String) :
    (seenWith seen first).contains key = ((Fields.putNew ids first id).lookup key).isSome := by
  rw [Fields.lookup_putNew, Option.isSome_or, ← known, seenWith]
  split
  · rename_i again
    by_cases same : key = first
    · rw [same, again]
      rfl
    · simp [same]
  · by_cases same : key = first
    · simp [same]
    · simp [same]

/-- Sections with the ids that a counter gives. -/
def sectionsFrom (c : IdCounter) (hints : List SectionHint) : List Placed :=
  List.zipWith Placed.mk hints (c.nextAll "sec" (hints.map (·.type)))

/-- The sections that keys lead to: the first of each key. -/
def claimAll (ids : List (String × String)) (placed : List Placed) : List (String × String) :=
  placed.foldl (fun ids s => Fields.putNew ids s.hint.key s.id) ids

theorem lookup_claimAll (placed : List Placed) (ids : List (String × String)) (key : String) :
    (claimAll ids placed).lookup key = (ids.lookup key).or (sectionId? placed key) := by
  induction placed generalizing ids with
  | nil => simp [claimAll, sectionId?]
  | cons s rest ih =>
    refine (ih _).trans ?_
    rw [Fields.lookup_putNew, Option.or_assoc, sectionId?, sectionId?, List.find?_cons]
    by_cases same : key = s.hint.key
    · simp [same]
    · simp [same, beq_false_of_ne (Ne.symm same)]

def draftsOf (placed : List Placed) : List Draft := placed.map fun s => ⟨s.hint, s.id, []⟩

/-- Hints are placed after those before: `seen` are the keys that the pass knows already. -/
theorem foldlM_placeSection (hints : List SectionHint) (texts seen : List String)
    (isOpen : p.builder.isSealed = false) (held : p.builder.assumptions = texts.map .str)
    (known : ∀ key, seen.contains key = (p.ids.lookup key).isSome) :
    hints.foldlM placeSection p = .ok { p with
      builder := { p.builder with
        ids := p.builder.ids.issueAll "sec" (hints.map (·.type))
        assumptions := (withDefaults texts hints).map .str
        ambiguities := p.builder.ambiguities ++ (reusedKeys seen hints).map duplicateKey }
      ids := claimAll p.ids (sectionsFrom p.builder.ids hints)
      drafts := p.drafts ++ draftsOf (sectionsFrom p.builder.ids hints)
      defaultedCount := p.defaultedCount + (defaultedLayouts hints).length } := by
  induction hints generalizing p texts seen with
  | nil =>
    simp [reusedKeys, defaultedLayouts, withDefaults, sectionsFrom, draftsOf, claimAll,
      IdCounter.issueAll, ← held, pure, Except.pure]
  | cons hint rest ih =>
    rw [List.foldlM_cons, placeSection_eq isOpen held, Except.ok_bind]
    refine (ih _ _ (by exact isOpen) rfl (contains_seenWith known hint.key _)).trans ?_
    rw [reusedKeys_cons, defaultedLayouts_cons hint rest, withDefaults_cons texts hint rest, known]
    simp [IdCounter.issueAll, claimAll, sectionsFrom, draftsOf, IdCounter.nextAll, Nat.add_assoc]

variable {placed : List Placed}

/-- Components with the ids that a counter gives. -/
def componentsFrom (c : IdCounter) (hints : List ComponentHint) : List PlacedComponent :=
  List.zipWith PlacedComponent.mk hints (c.nextAll "cmp" (hints.map (·.type)))

/-- A draft with its components among some more. -/
def give (placed : List Placed) (components : List PlacedComponent) (d : Draft) : Draft :=
  { d with components := d.components ++ componentsOf placed components d.id }

theorem give_nil (d : Draft) : give placed [] d = d := by
  simp [give, componentsOf]

theorem give_give (c : PlacedComponent) (components : List PlacedComponent) (d : Draft) :
    give placed components (give placed [c] d) = give placed (c :: components) d := by
  have parts := List.filter_append (p := fun c => sectionId? placed c.hint.sectionKey == some d.id)
    [c] components
  simp only [give, componentsOf, List.append_assoc, ← List.map_append, ← parts]
  rfl

theorem ids_give (components : List PlacedComponent) (drafts : List Draft) :
    (drafts.map (give placed components)).map (·.id) = drafts.map (·.id) := by
  rw [List.map_map]
  rfl

/-- The section of a key is always a draft, so the component finds it. -/
theorem own_eq (isOpen : p.builder.isSealed = false)
    (leads : ∀ key, p.ids.lookup key = sectionId? placed key)
    (drafted : p.drafts.map (·.id) = placed.map (·.id)) (hint : ComponentHint) (id : String) :
    p.own hint id = .ok { p with
      builder := { p.builder with
        ambiguities := p.builder.ambiguities ++ (orphans placed [hint]).map orphan }
      drafts := p.drafts.map (give placed [⟨hint, id⟩])
      orphanCount := p.orphanCount + (orphans placed [hint]).length } := by
  unfold own
  rw [leads]
  cases found : sectionId? placed hint.sectionKey with
  | none =>
    have none (d : Draft) : give placed [⟨hint, id⟩] d = d := by
      simp [give, componentsOf, found]
    rw [List.map_congr_left fun d _ => none d, List.map_id']
    refine (note_eq (by exact isOpen) _).trans ?_
    simp [orphans, found]
  | some owner =>
    have there : p.drafts.any (·.id == owner) = true := by
      have member := mem_of_sectionId? found
      rw [← drafted] at member
      obtain ⟨d, inside, same⟩ := List.mem_map.mp member
      exact List.any_eq_true.mpr ⟨d, inside, by simp [same]⟩
    have given (d : Draft) :
        (if d.id = owner then { d with components := d.components ++ [id] } else d) =
          give placed [⟨hint, id⟩] d := by
      by_cases same : d.id = owner
      · simp [give, componentsOf, found, same]
      · simp [give, componentsOf, found, same, Ne.symm same]
    simp only [there, if_true, given]
    simp [orphans, found]

theorem placeComponent_eq (isOpen : p.builder.isSealed = false)
    (leads : ∀ key, p.ids.lookup key = sectionId? placed key)
    (drafted : p.drafts.map (·.id) = placed.map (·.id)) (hint : ComponentHint) :
    p.placeComponent hint = .ok { p with
      builder := { p.builder with
        ids := (p.builder.ids.next "cmp" hint.type).2
        components := p.builder.components ++
          [PlacedComponent.component ⟨hint, (p.builder.ids.next "cmp" hint.type).1⟩]
        ambiguities := p.builder.ambiguities ++ (orphans placed [hint]).map orphan }
      drafts := p.drafts.map (give placed [⟨hint, (p.builder.ids.next "cmp" hint.type).1⟩])
      orphanCount := p.orphanCount + (orphans placed [hint]).length } := by
  unfold placeComponent
  dsimp only [issue, Builder.nextId]
  rw [change_eq (Builder.change_of_open (by exact isOpen) _), Except.ok_bind,
    own_eq (by exact isOpen) (by exact leads) (by exact drafted)]
  rfl

theorem orphans_cons (hint : ComponentHint) (rest : List ComponentHint) :
    orphans placed (hint :: rest) = orphans placed [hint] ++ orphans placed rest :=
  List.filter_append [hint] rest

theorem foldlM_placeComponent (hints : List ComponentHint) (isOpen : p.builder.isSealed = false)
    (leads : ∀ key, p.ids.lookup key = sectionId? placed key)
    (drafted : p.drafts.map (·.id) = placed.map (·.id)) :
    hints.foldlM placeComponent p = .ok { p with
      builder := { p.builder with
        ids := p.builder.ids.issueAll "cmp" (hints.map (·.type))
        components := p.builder.components ++
          (componentsFrom p.builder.ids hints).map PlacedComponent.component
        ambiguities := p.builder.ambiguities ++ (orphans placed hints).map orphan }
      drafts := p.drafts.map (give placed (componentsFrom p.builder.ids hints))
      orphanCount := p.orphanCount + (orphans placed hints).length } := by
  induction hints generalizing p with
  | nil =>
    have same : p.drafts.map (give placed []) = p.drafts := by
      rw [List.map_congr_left fun d _ => give_nil d, List.map_id']
    simp [orphans, componentsFrom, IdCounter.issueAll, pure, Except.pure, same]
  | cons hint rest ih =>
    have still := (@ids_give placed
      [⟨hint, (p.builder.ids.next "cmp" hint.type).1⟩] p.drafts).trans drafted
    rw [List.foldlM_cons, placeComponent_eq isOpen leads drafted, Except.ok_bind]
    refine (ih (by exact isOpen) (by exact leads) (by exact still)).trans ?_
    rw [orphans_cons hint rest]
    simp [IdCounter.issueAll, componentsFrom, IdCounter.nextAll, Nat.add_assoc, give_give]

theorem addSection_eq (isOpen : p.builder.isSealed = false) (d : Draft) :
    p.addSection d = .ok { p with
      builder := { p.builder with sections := p.builder.sections ++ [d.section] } } := by
  unfold addSection
  rw [Draft.read_toJson]
  exact change_eq (Builder.change_of_open isOpen _)

theorem foldlM_addSection (drafts : List Draft) (isOpen : p.builder.isSealed = false) :
    drafts.foldlM addSection p = .ok { p with
      builder := { p.builder with
        sections := p.builder.sections ++ drafts.map Draft.section } } := by
  induction drafts generalizing p with
  | nil => simp [pure, Except.pure]
  | cons d rest ih =>
    rw [List.foldlM_cons, addSection_eq isOpen, Except.ok_bind]
    refine (ih (by exact isOpen)).trans ?_
    simp

theorem ids_draftsOf (placed : List Placed) :
    (draftsOf placed).map (·.id) = placed.map (·.id) := by
  rw [draftsOf, List.map_map]
  rfl

theorem sections_draftsOf (placed : List Placed) (components : List PlacedComponent) :
    ((draftsOf placed).map (give placed components)).map Draft.section =
      placed.map (Placed.section placed components) := by
  rw [draftsOf, List.map_map, List.map_map]
  rfl

/-- Sections take no ids from components. -/
theorem componentsFrom_issueAll (sections : List SectionHint) (hints : List ComponentHint) :
    componentsFrom (IdCounter.issueAll {} "sec" (sections.map (·.type))) hints =
      placeComponents hints := by
  rw [componentsFrom, IdCounter.nextAll_congr fun slug =>
    IdCounter.number_issueAll_of_ne (by decide) {} _ slug]
  rfl

theorem structural_eq (vision : VisionOutput) (inputTypes : List InputType)
    (targets : List Json) :
    structural vision { builder := { inputTypes, targets } } = .ok {
      builder := {
        inputTypes, targets
        ids := (IdCounter.issueAll {} "sec" (vision.sections.map (·.type))).issueAll "cmp"
          (vision.componentHints.map (·.type))
        sections := (placeSections vision.sections).map
          (Placed.section (placeSections vision.sections) (placeComponents vision.componentHints))
        components := (placeComponents vision.componentHints).map PlacedComponent.component
        assumptions := (withDefaults [] vision.sections).map .str
        ambiguities := (reusedKeys [] vision.sections).map duplicateKey ++
          (orphans (placeSections vision.sections) vision.componentHints).map orphan }
      ids := claimAll [] (placeSections vision.sections)
      drafts := (draftsOf (placeSections vision.sections)).map
        (give (placeSections vision.sections) (placeComponents vision.componentHints))
      defaultedCount := (defaultedLayouts vision.sections).length
      orphanCount := (orphans (placeSections vision.sections) vision.componentHints).length } := by
  have leads (key : String) : (claimAll [] (placeSections vision.sections)).lookup key =
      sectionId? (placeSections vision.sections) key := lookup_claimAll _ [] key
  have drafted := ids_draftsOf (placeSections vision.sections)
  unfold structural
  rw [foldlM_placeSection _ [] [] rfl rfl fun _ => rfl, Except.ok_bind,
    foldlM_placeComponent _ (by rfl) leads (by exact drafted), Except.ok_bind,
    foldlM_addSection _ (by rfl)]
  dsimp only
  rw [componentsFrom_issueAll, ← sections_draftsOf]
  simp only [List.nil_append, Nat.zero_add]
  rfl

end Pass

end Assembly

end DesignToCode
