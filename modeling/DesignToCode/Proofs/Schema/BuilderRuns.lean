import Mathlib.Data.Set.List
import DesignToCode.Proofs.Grouping
import DesignToCode.Proofs.Schema.Builder
import DesignToCode.Proofs.Schema.Ids

set_option autoImplicit false

namespace DesignToCode.Builder

open Reader

inductive Operation where
  | nextId (kind type : String)
  | addSection (sec : Section)
  | addComponent (c : Component)
  | addAssumption (assumption : Json)
  | addAmbiguity (type description assumption : Json)
  | setPolicies (policies : Policies)
  | build (confidence : Confidence)

inductive Answer where
  | id (id : String)
  | done
  | ambiguity (a : Ambiguity)
  | schema (s : Schema)
  | refused (refusal : Refusal)

/-- A change that is refused leaves the builder as it is. -/
def settled (b : Builder) : Except Refusal Builder → Answer × Builder
  | .ok made => (.done, made)
  | .error refusal => (.refused refusal, b)

/-- What a call answers, and the builder after it. -/
def step (b : Builder) : Operation → Answer × Builder
  | .nextId kind type => (.id (b.nextId kind type).1, (b.nextId kind type).2)
  | .addSection sec => b.settled (b.addSection sec)
  | .addComponent c => b.settled (b.addComponent c)
  | .addAssumption assumption => b.settled (b.addAssumption assumption)
  | .addAmbiguity type description assumption =>
    match b.addAmbiguity type description assumption with
    | .ok (a, made) => (.ambiguity a, made)
    | .error refusal => (.refused refusal, b)
  | .setPolicies policies => b.settled (b.setPolicies policies)
  | .build confidence =>
    match b.build confidence with
    | (.ok s, made) => (.schema s, made)
    | (.error refusal, made) => (.refused refusal, made)

def after (b : Builder) (ops : List Operation) : Builder := ops.foldl (fun b op => (b.step op).2) b

def answers (b : Builder) : List Operation → List Answer
  | [] => []
  | op :: rest => (b.step op).1 :: (b.step op).2.answers rest

/-- A builder as it is made. -/
def start (types : List InputType) (targets : List Json) : Builder :=
  { inputTypes := types, targets := targets }

/-- The ambiguity that three documents make, if they are texts. -/
def ambiguityOf? : Json → Json → Json → Option Ambiguity
  | .str type, .str description, .str assumption => some ⟨type, description, assumption⟩
  | _, _, _ => none

namespace Operation

def isBuild : Operation → Bool
  | .build _ => true
  | _ => false

/-- The kind and the type that an id is asked for. -/
def call? : Operation → Option (String × String)
  | .nextId kind type => some (kind, type)
  | _ => none

def section? : Operation → Option Section
  | .addSection sec => some sec
  | _ => none

def component? : Operation → Option Component
  | .addComponent c => some c
  | _ => none

def assumption? : Operation → Option Json
  | .addAssumption assumption => some assumption
  | _ => none

def ambiguity? : Operation → Option Ambiguity
  | .addAmbiguity type description assumption => ambiguityOf? type description assumption
  | _ => none

def policies? : Operation → Option Policies
  | .setPolicies policies => some policies
  | _ => none

end Operation

def Answer.id? : Answer → Option String
  | .id issued => some issued
  | _ => none

/-- The calls before the builder is first built. -/
def taken (ops : List Operation) : List Operation := ops.takeWhile fun op => !op.isBuild

/-- The last value that calls set a policy to, or the one that it has from the start. -/
def lastSet {α : Type} (policy : Policies → Option α) (start : α) (ops : List Operation) : α :=
  (ops.filterMap fun op => op.policies?.bind policy).getLast?.getD start

/-- A builder that has taken just these calls. -/
structure Holds (types : List InputType) (targets : List Json) (ops : List Operation)
    (b : Builder) : Prop where
  types : b.inputTypes = types
  targets : b.targets = targets
  sections : b.sections = ops.filterMap Operation.section?
  components : b.components = ops.filterMap Operation.component?
  assumptions : b.assumptions = (ops.filterMap Operation.assumption?).foldl noted []
  ambiguities : b.ambiguities = ops.filterMap Operation.ambiguity?
  layout : b.layoutStrategy = lastSet Policies.layout {} ops
  background : b.backgroundStrategy = lastSet Policies.background {} ops
  layering : b.layering = lastSet Policies.layering {} ops
  responsive : b.responsiveRules = lastSet Policies.responsive [] ops

/-- Parts are only ever added behind those that are there. -/
structure Grows (b later : Builder) : Prop where
  sections : b.sections <+: later.sections
  components : b.components <+: later.components
  assumptions : b.assumptions <+: later.assumptions
  ambiguities : b.ambiguities <+: later.ambiguities

variable {types : List InputType} {targets : List Json} {ops : List Operation} {b : Builder}
  {op : Operation}

/-- What a call that does not build makes of an open builder. -/
structure Takes (op : Operation) (b later : Builder) : Prop where
  types : later.inputTypes = b.inputTypes
  targets : later.targets = b.targets
  sections : later.sections = b.sections ++ op.section?.toList
  components : later.components = b.components ++ op.component?.toList
  assumptions : later.assumptions = op.assumption?.toList.foldl noted b.assumptions
  ambiguities : later.ambiguities = b.ambiguities ++ op.ambiguity?.toList
  layout : later.layoutStrategy = (op.policies?.bind Policies.layout).getD b.layoutStrategy
  background :
    later.backgroundStrategy = (op.policies?.bind Policies.background).getD b.backgroundStrategy
  layering : later.layering = (op.policies?.bind Policies.layering).getD b.layering
  responsive :
    later.responsiveRules = (op.policies?.bind Policies.responsive).getD b.responsiveRules
  isOpen : later.isSealed = false

/-- Three documents make an ambiguity exactly if they are texts. -/
theorem readAmbiguity_eq_ok_iff {type description assumption : Json} {a : Ambiguity} :
    Ambiguity.read
        (.obj [("type", type), ("description", description), ("assumption", assumption)]) = .ok a ↔
      type = .str a.type ∧ description = .str a.description ∧ assumption = .str a.assumption := by
  have description? : List.lookup "description"
      [("type", type), ("description", description), ("assumption", assumption)] =
        some description := rfl
  have assumption? : List.lookup "assumption"
      [("type", type), ("description", description), ("assumption", assumption)] =
        some assumption := rfl
  simp only [Ambiguity.read, record, Reading.seq_eq_ok_iff, Reading.map_eq_ok_iff,
    required_string_eq_ok_iff, List.lookup_cons_self, description?, assumption?]
  constructor
  · rintro ⟨_, _, ⟨_, _, ⟨_, type, rfl⟩, description, rfl⟩, assumption, rfl⟩
    exact ⟨Option.some.inj type, Option.some.inj description, Option.some.inj assumption⟩
  · rintro ⟨rfl, rfl, rfl⟩
    exact ⟨_, _, ⟨_, _, ⟨_, rfl, rfl⟩, rfl, rfl⟩, rfl, rfl⟩

theorem ambiguityOf?_eq_some_iff {type description assumption : Json} {a : Ambiguity} :
    ambiguityOf? type description assumption = some a ↔
      type = .str a.type ∧ description = .str a.description ∧ assumption = .str a.assumption := by
  unfold ambiguityOf?
  split
  · cases a
    simp
  · rename_i other
    constructor
    · intro none
      cases none
    · rintro ⟨rfl, rfl, rfl⟩
      exact (other _ _ _ rfl rfl rfl).elim

theorem takes_step (isOpen : b.isSealed = false) (other : op.isBuild = false) :
    Takes op b (b.step op).2 := by
  have same {α : Type} (items : List α) : items = items ++ none.toList :=
    (List.append_nil items).symm
  cases op with
  | nextId kind type =>
    exact ⟨rfl, rfl, same _, same _, rfl, same _, rfl, rfl, rfl, rfl, isOpen⟩
  | addSection sec =>
    rw [step, addSection, change_of_open isOpen]
    exact ⟨rfl, rfl, rfl, same _, rfl, same _, rfl, rfl, rfl, rfl, isOpen⟩
  | addComponent c =>
    rw [step, addComponent, change_of_open isOpen]
    exact ⟨rfl, rfl, same _, rfl, rfl, same _, rfl, rfl, rfl, rfl, isOpen⟩
  | addAssumption assumption =>
    rw [step, addAssumption_noted isOpen]
    exact ⟨rfl, rfl, same _, same _, rfl, same _, rfl, rfl, rfl, rfl, isOpen⟩
  | addAmbiguity type description assumption =>
    rw [step, addAmbiguity, if_neg (Bool.eq_false_iff.mp isOpen)]
    cases read : Ambiguity.read (.obj
        [("type", type), ("description", description), ("assumption", assumption)]) with
    | ok a =>
      have texts := ambiguityOf?_eq_some_iff.mpr (readAmbiguity_eq_ok_iff.mp read)
      refine ⟨rfl, rfl, same _, same _, rfl, ?_, rfl, rfl, rfl, rfl, isOpen⟩
      rw [Operation.ambiguity?, texts]
      rfl
    | faulty faults =>
      -- A call that is refused must count for nothing.
      have texts : ambiguityOf? type description assumption = none := by
        rw [Option.eq_none_iff_forall_ne_some]
        intro a texts
        cases read.symm.trans (readAmbiguity_eq_ok_iff.mpr (ambiguityOf?_eq_some_iff.mp texts))
      refine ⟨rfl, rfl, same _, same _, rfl, ?_, rfl, rfl, rfl, rfl, isOpen⟩
      rw [Operation.ambiguity?, texts]
      exact same _
  | setPolicies policies =>
    rw [step, setPolicies, change_of_open isOpen]
    exact ⟨rfl, rfl, same _, same _, rfl, same _, rfl, rfl, rfl, rfl, isOpen⟩
  | build confidence => cases other

/-- A sealed builder refuses every call but those for ids. -/
theorem step_of_sealed (isSealed : b.isSealed = true) (other : op.call? = none) :
    b.step op = (.refused .isSealed, b) := by
  cases op with
  | nextId kind type => cases other
  | addSection sec => rw [step, addSection, change_isSealed isSealed, settled]
  | addComponent c => rw [step, addComponent, change_isSealed isSealed, settled]
  | addAssumption assumption => rw [step, addAssumption, change_isSealed isSealed, settled]
  | addAmbiguity type description assumption => rw [step, addAmbiguity, if_pos isSealed]
  | setPolicies policies => rw [step, setPolicies, change_isSealed isSealed, settled]
  | build confidence => rw [step, build, if_pos isSealed]

/-- Once a builder is built, all that a call may change is which ids come next. -/
theorem exists_step_eq (closes : b.isSealed = true ∨ op.isBuild = true) :
    ∃ ids, (b.step op).2 = { b with ids, isSealed := true } := by
  cases isSealed : b.isSealed with
  | true =>
    cases issued : op.call? with
    | none =>
      rw [step_of_sealed isSealed issued, ← isSealed]
      exact ⟨b.ids, rfl⟩
    | some call =>
      cases op with
      | nextId kind type =>
        rw [step, nextId, ← isSealed]
        exact ⟨_, rfl⟩
      | _ => cases issued
  | false =>
    rw [isSealed] at closes
    have isBuild := closes.resolve_left Bool.false_ne_true
    cases op with
    | build confidence =>
      rw [step, build, if_neg (Bool.eq_false_iff.mp isSealed)]
      refine ⟨b.ids, ?_⟩
      cases b.assembled confidence <;> rfl
    | _ => cases isBuild

/-- A call that is refused changes nothing, unless it builds. -/
theorem step_of_refused {refusal : Refusal} (other : op.isBuild = false)
    (refused : (b.step op).1 = .refused refusal) : (b.step op).2 = b := by
  have unsettled {made : Except Refusal Builder}
      (refused : (b.settled made).1 = .refused refusal) : (b.settled made).2 = b := by
    cases made with
    | ok made => cases refused
    | error => rfl
  cases op with
  | nextId kind type => cases refused
  | addSection sec => exact unsettled refused
  | addComponent c => exact unsettled refused
  | addAssumption assumption => exact unsettled refused
  | addAmbiguity type description assumption =>
    rw [step] at refused ⊢
    split at refused
    · cases refused
    · rfl
  | setPolicies policies => exact unsettled refused
  | build confidence => cases other

theorem step_build_eq_iff (isOpen : b.isSealed = false) {confidence : Confidence} {s : Schema} :
    (b.step (.build confidence)).1 = .schema s ↔ MadeUpOf b confidence s := by
  rw [← assembled_eq_ok_iff, step, build, if_neg (Bool.eq_false_iff.mp isOpen)]
  cases b.assembled confidence <;> simp

theorem filterMap_snoc {α : Type} (f : Operation → Option α) :
    (ops ++ [op]).filterMap f = ops.filterMap f ++ (f op).toList := by
  rw [List.filterMap_append]
  cases given : f op <;> simp [given]

theorem lastSet_append {α : Type} (policy : Policies → Option α) (start : α) :
    lastSet policy start (ops ++ [op]) =
      (op.policies?.bind policy).getD (lastSet policy start ops) := by
  rw [lastSet, lastSet, filterMap_snoc, List.getLast?_append]
  cases op.policies?.bind policy <;> rfl

theorem Holds.append (h : Holds types targets ops b) {later : Builder} (takes : Takes op b later) :
    Holds types targets (ops ++ [op]) later where
  types := takes.types.trans h.types
  targets := takes.targets.trans h.targets
  sections := by rw [takes.sections, h.sections, filterMap_snoc]
  components := by rw [takes.components, h.components, filterMap_snoc]
  assumptions := by rw [takes.assumptions, h.assumptions, filterMap_snoc, List.foldl_append]
  ambiguities := by rw [takes.ambiguities, h.ambiguities, filterMap_snoc]
  layout := by rw [takes.layout, h.layout, lastSet_append]
  background := by rw [takes.background, h.background, lastSet_append]
  layering := by rw [takes.layering, h.layering, lastSet_append]
  responsive := by rw [takes.responsive, h.responsive, lastSet_append]

/-- A call is taken if it does not build and comes before the builder is built. -/
theorem holds_step (h : Holds types targets ops b) (op : Operation) :
    Holds types targets (if b.isSealed || op.isBuild then ops else ops ++ [op]) (b.step op).2 ∧
      (b.step op).2.isSealed = (b.isSealed || op.isBuild) := by
  by_cases closes : b.isSealed = true ∨ op.isBuild = true
  · obtain ⟨ids, made⟩ := exists_step_eq closes
    rw [← Bool.or_eq_true] at closes
    rw [if_pos closes, closes, made]
    exact ⟨⟨h.types, h.targets, h.sections, h.components, h.assumptions, h.ambiguities, h.layout,
      h.background, h.layering, h.responsive⟩, rfl⟩
  · rw [← Bool.or_eq_true] at closes
    rw [if_neg closes]
    rw [Bool.not_eq_true, Bool.or_eq_false_iff] at closes
    obtain ⟨isOpen, other⟩ := closes
    have takes := takes_step isOpen other
    refine ⟨h.append takes, ?_⟩
    rw [takes.isOpen, isOpen, other, Bool.or_false]

theorem prefix_foldl_noted (assumptions more : List Json) :
    assumptions <+: more.foldl noted assumptions := by
  induction more generalizing assumptions with
  | nil => exact List.prefix_rfl
  | cons assumption rest ih =>
    refine List.IsPrefix.trans ?_ (ih (noted assumptions assumption))
    unfold noted
    split
    · exact List.prefix_rfl
    · exact List.prefix_append assumptions [assumption]

theorem grows_step (b : Builder) (op : Operation) : Grows b (b.step op).2 := by
  by_cases closes : b.isSealed = true ∨ op.isBuild = true
  · obtain ⟨ids, made⟩ := exists_step_eq closes
    rw [made]
    exact ⟨List.prefix_rfl, List.prefix_rfl, List.prefix_rfl, List.prefix_rfl⟩
  · rw [not_or, Bool.not_eq_true, Bool.not_eq_true] at closes
    obtain ⟨isOpen, other⟩ := closes
    have takes := takes_step isOpen other
    constructor
    · rw [takes.sections]
      exact List.prefix_append _ _
    · rw [takes.components]
      exact List.prefix_append _ _
    · rw [takes.assumptions]
      exact prefix_foldl_noted _ _
    · rw [takes.ambiguities]
      exact List.prefix_append _ _

theorem after_append (b : Builder) (ops more : List Operation) :
    b.after (ops ++ more) = (b.after ops).after more :=
  List.foldl_append

theorem grows_after (b : Builder) (ops : List Operation) : Grows b (b.after ops) := by
  induction ops generalizing b with
  | nil => exact ⟨List.prefix_rfl, List.prefix_rfl, List.prefix_rfl, List.prefix_rfl⟩
  | cons op rest ih =>
    have first := grows_step b op
    have later := ih (b.step op).2
    exact ⟨first.sections.trans later.sections, first.components.trans later.components,
      first.assumptions.trans later.assumptions, first.ambiguities.trans later.ambiguities⟩

theorem taken_snoc : taken (ops ++ [op]) =
    if ops.any Operation.isBuild || op.isBuild then taken ops else taken ops ++ [op] := by
  induction ops with
  | nil => cases builds : op.isBuild <;> simp [taken, builds]
  | cons first rest ih =>
    unfold taken at ih ⊢
    cases builds : first.isBuild with
    | true => simp [builds]
    | false =>
      rw [List.cons_append, List.takeWhile_cons_of_pos, List.takeWhile_cons_of_pos, ih,
        List.any_cons, builds, Bool.false_or]
      · split <;> rfl
      · simp [builds]
      · simp [builds]

/-- A builder holds what calls gave before the first that builds, and is sealed by that one. -/
theorem holds_after (types : List InputType) (targets : List Json) (ops : List Operation) :
    Holds types targets (taken ops) ((start types targets).after ops) ∧
      ((start types targets).after ops).isSealed = ops.any Operation.isBuild := by
  -- Whether the last call is taken depends on the seal, so the two go together.
  induction ops using List.reverseRecOn with
  | nil => exact ⟨⟨rfl, rfl, rfl, rfl, rfl, rfl, rfl, rfl, rfl, rfl⟩, rfl⟩
  | append_singleton ops op ih =>
    obtain ⟨holds, isSealed⟩ := ih
    rw [taken_snoc, List.any_append, List.any_cons, List.any_nil, Bool.or_false, ← isSealed,
      after_append]
    exact holds_step holds op

def IsString (v : Json) : Prop := ∃ text, .str text = v

theorem same_iff {v w : Json} (h : IsString v) (h' : IsString w) : v.same w = true ↔ v = w := by
  obtain ⟨s, rfl⟩ := h
  obtain ⟨t, rfl⟩ := h'
  simp [Json.same]

open Classical in
/-- Strings are noted where they first stand, unless they are empty. -/
theorem isFirsts_foldl_noted {offers : List Json} (strings : ∀ v ∈ offers, IsString v) :
    IsFirsts (offers.filter Json.isGiven) (offers.foldl noted []) := by
  induction offers using List.reverseRecOn with
  | nil => exact ⟨fun _ => Iff.rfl, List.Pairwise.nil⟩
  | append_singleton offers v ih =>
    rw [List.forall_mem_append, List.forall_mem_singleton] at strings
    obtain ⟨earlier, string⟩ := strings
    specialize ih earlier
    rw [List.filter_append, List.foldl_append, List.foldl_cons, List.foldl_nil]
    cases given : v.isGiven with
    | false =>
      rw [noted, given, List.filter_cons_of_neg (by simp [given]), List.filter_nil,
        List.append_nil]
      exact ih
    | true =>
      have there : (offers.foldl noted []).any v.same = true ↔ v ∈ offers.foldl noted [] := by
        rw [List.any_eq_true]
        constructor
        · rintro ⟨w, member, same⟩
          have listed := List.mem_of_mem_filter ((ih.mem_iff w).mp member)
          rwa [(same_iff string (earlier w listed)).mp same]
        · exact fun member => ⟨v, member, (same_iff string string).mpr rfl⟩
      rw [noted, given, List.filter_cons_of_pos given, List.filter_nil, Bool.not_true,
        Bool.false_or]
      split
      · rename_i known
        exact ih.append_of_mem (there.mp known)
      · rename_i new
        exact ih.append_of_notMem fun member => new (there.mpr member)

theorem exists_texts_iff {values : List Json} :
    (∃ texts : List String, texts.map .str = values) ↔ ∀ v ∈ values, IsString v :=
  Set.ext_iff.mp (Set.range_list_map Json.str) values

theorem exists_madeUpOf_iff (confidence : Confidence) :
    (∃ s, MadeUpOf b confidence s) ↔
      (∀ v ∈ b.targets, IsString v) ∧ ∀ v ∈ b.assumptions, IsString v := by
  rw [← exists_texts_iff, ← exists_texts_iff]
  constructor
  · rintro ⟨s, made⟩
    exact ⟨⟨_, made.targets⟩, _, made.assumptions⟩
  · rintro ⟨⟨targets, asked⟩, assumptions, held⟩
    exact ⟨_, madeUpOf_schemaOf confidence asked held⟩

open Classical in
/-- What calls make of a builder. It holds what they give before it is first built; it is built into
the schema of its parts; and from then on it refuses every call but those for ids. -/
structure Accumulates (types : List InputType) (targets : List Json) (ops : List Operation)
    (b : Builder) : Prop where
  holds : Holds types targets (taken ops) b
  grows : ∀ more, Grows b (b.after more)
  /-- Assumptions that are given as strings are noted where they first stand. -/
  firsts : (∀ v ∈ (taken ops).filterMap Operation.assumption?, IsString v) →
    (∀ v ∈ b.assumptions, IsString v ∧ v.isGiven = true) ∧ b.assumptions.Nodup ∧
      IsFirsts (((taken ops).filterMap Operation.assumption?).filter Json.isGiven) b.assumptions
  isSealed_iff : b.isSealed = true ↔ ∃ op ∈ ops, op.isBuild = true
  schema_iff : b.isSealed = false → ∀ confidence s,
    (b.step (.build confidence)).1 = .schema s ↔ MadeUpOf b confidence s
  exists_schema_iff : b.isSealed = false → ∀ confidence,
    (∃ s, (b.step (.build confidence)).1 = .schema s) ↔
      (∀ v ∈ targets, IsString v) ∧ ∀ v ∈ b.assumptions, IsString v
  refuses : b.isSealed = true → ∀ op : Operation, op.call? = none →
    b.step op = (.refused .isSealed, b)
  unchanged : ∀ (op : Operation) refusal, op.isBuild = false →
    (b.step op).1 = .refused refusal → (b.step op).2 = b

open Classical in
/-- A builder accumulates whatever calls give, in any order and number. -/
theorem accumulates (types : List InputType) (targets : List Json) (ops : List Operation) :
    Accumulates types targets ops ((start types targets).after ops) := by
  obtain ⟨holds, isSealed⟩ := holds_after types targets ops
  generalize (start types targets).after ops = b at holds isSealed ⊢
  refine ⟨holds, grows_after b, fun strings => ?_, ?_, fun isOpen _ _ => step_build_eq_iff isOpen,
    fun isOpen confidence => ?_, fun isSealed _ => step_of_sealed isSealed,
    fun _ _ => step_of_refused⟩
  · have firsts := isFirsts_foldl_noted strings
    rw [← holds.assumptions] at firsts
    refine ⟨fun v member => ?_, firsts.nodup, firsts⟩
    obtain ⟨offered, given⟩ := List.mem_filter.mp ((firsts.mem_iff v).mp member)
    exact ⟨strings v offered, given⟩
  · rw [isSealed, List.any_eq_true]
  · simp only [step_build_eq_iff isOpen]
    rw [exists_madeUpOf_iff, holds.targets]

/-- An assumption twice and an empty one, an ambiguity that is refused, and a policy set twice. -/
def repeatingRun : List Operation :=
  [.addAssumption (.str "A"), .addSection { id := "sec-hero-1", name := "Hero", type := "hero" },
    .addAssumption (.str ""), .nextId "sec" "hero", .addAssumption (.str "B"),
    .addAmbiguity (.str "color") .null (.str "blue"), .addAssumption (.str "A"),
    .setPolicies { layering := some { zIndex := 2 } },
    .setPolicies { layering := some { zIndex := 3 } }]

theorem repeatingRun_accumulates :
    let b := (start [.image] [.str "css"]).after repeatingRun
    let later := (start [.image] [.str "css"]).after (repeatingRun ++ [.build .low])
    b.assumptions.Nodup ∧
      (∃ s, (b.step (.build .low)).1 = .schema s ∧
        s.info.frameworkTarget.map Json.str = [.str "css"] ∧
        s.assumptions.map Json.str = [.str "A", .str "B"] ∧
        s.sections.map (·.id) = ["sec-hero-1"] ∧ s.layering.zIndex = 3 ∧ s.ambiguities = []) ∧
      later.step (.addAssumption (.str "C")) = (.refused .isSealed, later) := by
  intro b later
  have run := accumulates [.image] [.str "css"] repeatingRun
  have built := accumulates [.image] [.str "css"] (repeatingRun ++ [.build .low])
  have isOpen : b.isSealed = false := rfl
  have held : b.assumptions = [.str "A", .str "B"] := rfl
  have offers : (taken repeatingRun).filterMap Operation.assumption? =
      ["A", "", "B", "A"].map Json.str := rfl
  refine ⟨(run.firsts ?_).2.1, ?_, built.refuses ?_ _ rfl⟩
  · intro v offered
    rw [offers] at offered
    obtain ⟨text, -, rfl⟩ := List.mem_map.mp offered
    exact ⟨text, rfl⟩
  · have texts := And.intro (exists_texts_iff.mp ⟨["css"], rfl⟩)
      (exists_texts_iff.mp ⟨["A", "B"], held.symm⟩)
    obtain ⟨s, answered⟩ := (run.exists_schema_iff isOpen .low).mpr texts
    have made := (run.schema_iff isOpen .low s).mp answered
    refine ⟨s, answered, made.targets, made.assumptions.trans held, ?_, ?_, made.ambiguities⟩
    · rw [made.sections]
      rfl
    · rw [made.layering]
      rfl
  · exact built.isSealed_iff.mpr ⟨.build .low, by simp, rfl⟩

theorem ids_step (other : op.call? = none) :
    (b.step op).1.id? = none ∧ (b.step op).2.ids = b.ids := by
  cases isSealed : b.isSealed with
  | true =>
    rw [step_of_sealed isSealed other]
    exact ⟨rfl, rfl⟩
  | false =>
    have unsealed := Bool.eq_false_iff.mp isSealed
    cases op with
    | nextId kind type => cases other
    | addSection sec =>
      rw [step, addSection, change_of_open isSealed]
      exact ⟨rfl, rfl⟩
    | addComponent c =>
      rw [step, addComponent, change_of_open isSealed]
      exact ⟨rfl, rfl⟩
    | addAssumption assumption =>
      rw [step, addAssumption, change_of_open isSealed]
      refine ⟨rfl, ?_⟩
      rw [settled]
      split <;> rfl
    | addAmbiguity type description assumption =>
      rw [step, addAmbiguity, if_neg unsealed]
      cases Ambiguity.read _ <;> exact ⟨rfl, rfl⟩
    | setPolicies policies =>
      rw [step, setPolicies, change_of_open isSealed]
      exact ⟨rfl, rfl⟩
    | build confidence =>
      rw [step, build, if_neg unsealed]
      cases b.assembled confidence <;> exact ⟨rfl, rfl⟩

/-- Among other calls, ids come as they come in a row. -/
theorem filterMap_id?_answers (b : Builder) (ops : List Operation) :
    (b.answers ops).filterMap Answer.id? = b.ids.issueEach (ops.filterMap Operation.call?) := by
  induction ops generalizing b with
  | nil => rfl
  | cons op rest ih =>
    cases asked : op.call? with
    | none =>
      obtain ⟨none, same⟩ := ids_step (b := b) asked
      rw [answers, List.filterMap_cons_none none, List.filterMap_cons_none asked, ih, same]
    | some call =>
      cases op with
      | nextId kind type =>
        cases asked
        exact congrArg (List.cons _) (ih _)
      | _ => cases asked

/-- Every call for an id of a section or a component is answered by one, and no two of these ids are
the same, whatever the types and whatever other calls come between. -/
theorem nodup_ids (b : Builder) {ops : List Operation}
    (kinds : ∀ call ∈ ops.filterMap Operation.call?, call.1 = "sec" ∨ call.1 = "cmp") :
    ((b.answers ops).filterMap Answer.id?).length = (ops.filterMap Operation.call?).length ∧
      ((b.answers ops).filterMap Answer.id?).Nodup := by
  rw [filterMap_id?_answers]
  refine ⟨IdCounter.length_issueEach _ _, IdCounter.nodup_issueEach ?_ _⟩
  intro call asked
  rcases kinds call asked with kind | kind <;> rw [kind] <;> decide

/-- Types that come to the same slug, and one whose slug ends as an id does. -/
def similarTypes : List Operation :=
  [.nextId "sec" "Card", .nextId "cmp" "card", .nextId "sec" "card!", .build .low,
    .nextId "sec" "card-1", .nextId "sec" "(card) 1"]

theorem similarTypes_differ :
    (∀ call ∈ similarTypes.filterMap Operation.call?, call.1 = "sec" ∨ call.1 = "cmp") ∧
      ((start [.image] []).answers similarTypes).filterMap Answer.id? =
        ["sec-card-1", "cmp-card-1", "sec-card-2", "sec-card-1-1", "sec-card-1-2"] ∧
      (((start [.image] []).answers similarTypes).filterMap Answer.id?).Nodup := by
  have kinds : ∀ call ∈ similarTypes.filterMap Operation.call?,
      call.1 = "sec" ∨ call.1 = "cmp" := by decide
  exact ⟨kinds, rfl, (nodup_ids _ kinds).2⟩

end DesignToCode.Builder
