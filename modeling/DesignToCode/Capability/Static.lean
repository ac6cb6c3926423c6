import DesignToCode.Capability.Reply

set_option autoImplicit false

/-!
A capability whose calls always tell the same, so that runs can be tried without inference. What it
tells by default is a page of three sections.
-/
namespace DesignToCode

namespace Static

def header : SectionHint where
  key := "s1"
  name := "Header"
  type := "header"
  layout := some "flex"
  direction := some "row"

def hero : SectionHint where
  key := "s2"
  name := "Hero"
  type := "hero"
  layout := some "block"

def features : SectionHint where
  key := "s3"
  name := "Features"
  type := "features"
  layout := some "grid"
  columns := some 1

def card (name text : String) : ComponentHint :=
  ⟨features.key, name, "card", [("text", .str text)]⟩

def vision : VisionOutput where
  sections := [header, hero, features]
  componentHints := [
    ⟨header.key, "Logo", "text", [("text", .str "Acme")]⟩,
    ⟨header.key, "Main nav", "nav", [("items", .strings ["Home", "Pricing", "About"])]⟩,
    ⟨hero.key, "Headline", "heading", [("text", .str "Build faster"), ("level", .int 1)]⟩,
    ⟨hero.key, "Get started", "button", [("label", .str "Get started")]⟩,
    card "Feature one" "Fast",
    card "Feature two" "Simple",
    card "Feature three" "Reliable"]
  confidence := .ofDecimal false 9 (-1)

def columns (count : Fin 12) : Columns := ⟨count + 1, by omega, by omega⟩

def reasoning : ReasoningOutput where
  layoutStrategy := {
    approach := "flex"
    reasoning := "Sections stack vertically; features use a card grid."
    maxWidth := some 1200
    gap := 32
    alignment := "center" }
  backgroundStrategy := {
    type := "solid"
    color := some "#FFFFFF"
    sectionOverrides := [(hero.key, "#F5F7FF")] }
  layering := { layers := [⟨header.key, 50, "sticky"⟩] }
  responsiveRules := [
    { breakpoint := "md", rules := [{ target := features.key, columns := some (columns 1) }] },
    { breakpoint := "lg", rules := [{ target := features.key, columns := some (columns 2) }] }]
  ambiguities := [{
    type := "layout"
    description := "Feature cards could be a carousel or a static grid."
    assumption := "Static grid."
    rank := 1 }]
  assumptions := ["Header stays visible while scrolling."]
  confidence := some (.ofDecimal false 85 (-2))

/-- A document that does not read makes its call fail. -/
def reply {α β : Type} (ofRead : α → β) : Reading α → Reply β
  | .ok a => .made (ofRead a)
  | .faulty faults => .raised (.unreadable faults)

end Static

def Capability.static (vision : Reply VisionMade) (reasoning : Reply ReasoningOutput) :
    Capability where
  name := some "static"
  kind := "StaticCapability"
  vision := fun _ => vision
  reason := fun _ _ _ => reasoning

end DesignToCode
