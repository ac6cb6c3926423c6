import DesignToCode.Analysis.Assembly
import DesignToCode.Schema.Builder

set_option autoImplicit false

namespace DesignToCode

open DesignToCode.Text

namespace Assembly

/-- A section that still gets components. -/
structure Draft where
  hint : SectionHint
  id : String
  components : List String := []

/-- The layout that a hint names, or the layout of a section that names none. -/
def layoutName (hint : SectionHint) : String :=
  let name := lower (trim (hint.layout.getD ""))
  if (Layout.named.lookup name).isSome then name else Layout.block.name

def Draft.toJson (d : Draft) : Json :=
  let layout := layoutName d.hint
  .obj [
    ("id", .str d.id),
    ("name", .str d.hint.name),
    ("type", .str d.hint.type),
    ("layout", .str layout),
    ("columns", .ofOption .int
      (if layout = Layout.grid.name then d.hint.columns.map fun i => min (max i 1) 12 else none)),
    ("direction", .ofOption .str
      (if layout = Layout.flex.name then
        d.hint.direction.filter fun way => way == "row" || way == "column"
      else none)),
    ("components", .strings d.components)]

/-- Why a pass stops: a part is refused, or a component belongs to a section without a draft. -/
inductive Stop where
  | refused (refusal : Builder.Refusal)
  | noDraft (id : String)

structure Pass where
  builder : Builder
  ids : List (String × String) := []
  drafts : List Draft := []
  defaultedCount : Nat := 0
  orphanCount : Nat := 0
  droppedCount : Nat := 0
  referenceCount : Nat := 0

namespace Pass

def change (p : Pass) (f : Builder → Except Builder.Refusal Builder) : Except Stop Pass :=
  match f p.builder with
  | .ok builder => .ok { p with builder }
  | .error refusal => .error (.refused refusal)

def note (p : Pass) (a : Ambiguity) : Except Stop Pass :=
  p.change fun b =>
    (b.addAmbiguity (.str a.type) (.str a.description) (.str a.assumption)).map (·.2)

def assume (p : Pass) (text : String) : Except Stop Pass := p.change (·.addAssumption (.str text))

/-- The next id of a kind, from the builder. -/
def issue (p : Pass) (kind type : String) : String × Pass :=
  let (id, builder) := p.builder.nextId kind type
  (id, { p with builder })

/-- The first section of a key is the one that the key leads to. -/
def claim (p : Pass) (hint : SectionHint) (id : String) : Except Stop Pass :=
  if (p.ids.lookup hint.key).isSome then p.note (duplicateKey hint)
  else .ok { p with ids := Fields.putNew p.ids hint.key id }

def checkLayout (p : Pass) (hint : SectionHint) : Except Stop Pass :=
  if (layout? hint).isSome then .ok p
  else assume { p with defaultedCount := p.defaultedCount + 1 } (defaultedLayout hint)

def placeSection (p : Pass) (hint : SectionHint) : Except Stop Pass := do
  let (id, p) := p.issue "sec" hint.type
  let p ← p.claim hint id
  let p ← p.checkLayout hint
  .ok { p with drafts := p.drafts ++ [{ hint, id }] }

/-- A component goes to the draft of the section that its key leads to. -/
def own (p : Pass) (hint : ComponentHint) (id : String) : Except Stop Pass :=
  match p.ids.lookup hint.sectionKey with
  | none => note { p with orphanCount := p.orphanCount + 1 } (orphan hint)
  | some owner =>
    if p.drafts.any (·.id == owner) then
      .ok { p with drafts := p.drafts.map fun d =>
        if d.id = owner then { d with components := d.components ++ [id] } else d }
    else .error (.noDraft owner)

def placeComponent (p : Pass) (hint : ComponentHint) : Except Stop Pass := do
  let (id, p) := p.issue "cmp" hint.type
  let p ← p.change (·.addComponent ⟨id, hint.name, hint.type, hint.attributes⟩)
  p.own hint id

def addSection (p : Pass) (d : Draft) : Except Stop Pass :=
  match Section.read d.toJson with
  | .ok sec => p.change (·.addSection sec)
  | .faulty faults => .error (.refused (.faulty faults))

/-- The section that a key leads to. A key that leads to none is told. -/
def resolve (p : Pass) (what key : String) : Except Stop (Option String × Pass) := do
  let p := { p with referenceCount := p.referenceCount + 1 }
  match p.ids.lookup key with
  | some id => .ok (some id, p)
  | none =>
    let p ← note { p with droppedCount := p.droppedCount + 1 } (unresolved what key)
    .ok (none, p)

/-- An item with its key turned into an id. One without a key is kept as it is. -/
def carryOne {α : Type} (what : String) (key : α → Option String) (rename : α → String → α)
    (p : Pass) (a : α) : Except Stop (Option α × Pass) :=
  match key a with
  | none => .ok (some a, p)
  | some k => (p.resolve what k).map fun found => (found.1.map (rename a), found.2)

def carry {α : Type} (what : String) (key : α → Option String) (rename : α → String → α) :
    Pass → List α → Except Stop (List α × Pass)
  | p, [] => .ok ([], p)
  | p, a :: rest => do
    let (kept, p) ← carryOne what key rename p a
    let (more, p) ← carry what key rename p rest
    .ok (kept.toList ++ more, p)

def changeKey (c : ResponsiveChange) : Option String :=
  if c.target = everySection then none else some c.target

def carryRule (p : Pass) (rule : ResponsiveRule) : Except Stop (Option ResponsiveRule × Pass) :=
  if rule.resolvedMinWidth.isNone then do
    let p ← note { p with droppedCount := p.droppedCount + 1 } (unknownBreakpoint rule)
    .ok (none, p)
  else do
    let (changes, p) ←
      carry (changeKind rule) changeKey (fun c id => { c with target := id }) p rule.rules
    .ok (some { rule with rules := changes }, p)

def carryRules : Pass → List ResponsiveRule → Except Stop (List ResponsiveRule × Pass)
  | p, [] => .ok ([], p)
  | p, rule :: rest => do
    let (kept, p) ← carryRule p rule
    let (more, p) ← carryRules p rest
    .ok (kept.toList ++ more, p)

/-- Sections and components. -/
def structural (vision : VisionOutput) (p : Pass) : Except Stop Pass := do
  let p ← vision.sections.foldlM placeSection p
  let p ← vision.componentHints.foldlM placeComponent p
  p.drafts.foldlM addSection p

def policies (reasoning : ReasoningOutput) (p : Pass) : Except Stop Pass := do
  let background := reasoning.backgroundStrategy
  let layering := reasoning.layering
  let (overrides, p) ←
    carry overrideKind (some ·.1) (fun entry id => (id, entry.2)) p background.sectionOverrides
  let (layers, p) ←
    carry layerKind (some ·.target) (fun l id => { l with target := id }) p layering.layers
  let (rules, p) ← carryRules p reasoning.responsiveRules
  p.change (·.setPolicies {
    layout := some reasoning.layoutStrategy
    background := some { background with sectionOverrides := overrides }
    layering := some { layering with layers := layers }
    responsive := some rules })

def describe (p : Pass) : Except Stop Pass :=
  if p.builder.inputTypes.contains .text then .ok p else p.assume noDescription

def remarks (reasoning : ReasoningOutput) (p : Pass) : Except Stop Pass := do
  let p ← p.describe
  let p ← reasoning.assumptions.foldlM assume p
  ((ranked reasoning.ambiguities).map RankedAmbiguity.ambiguity).foldlM note p

def signals (vision : VisionOutput) (reasoning : ReasoningOutput) (p : Pass) : Signals where
  visionConfidence := .real vision.confidence
  reasoningConfidence := reasoning.confidence.map .real
  structuralItems := vision.sections.length + vision.componentHints.length + p.referenceCount
  defaultedLayouts := p.defaultedCount
  orphanedComponents := p.orphanCount
  droppedReferences := p.droppedCount
  responsiveAmbiguities := reasoning.ambiguities.countP (·.type == "responsive")

/-- The schema of the builder, with the confidence that follows from what was noted. -/
def close (vision : VisionOutput) (reasoning : ReasoningOutput) (p : Pass) :
    Except Stop Assembled :=
  let signals := p.signals vision reasoning
  match (p.builder.build (Quality.overallConfidence signals p.builder.ambiguities.length)).1 with
  | .ok schema => .ok ⟨schema, signals⟩
  | .error refusal => .error (.refused refusal)

def run (vision : VisionOutput) (reasoning : ReasoningOutput) (inputTypes : List InputType)
    (targets : List String) : Except Stop Assembled :=
  structural vision { builder := { inputTypes, targets := targets.map .str } } >>=
    policies reasoning >>= remarks reasoning >>= close vision reasoning

end Pass

end Assembly

end DesignToCode
