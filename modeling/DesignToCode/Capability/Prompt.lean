import DesignToCode.Capability.Output
import DesignToCode.Json.Printer
import DesignToCode.Text.Search

set_option autoImplicit false

/-!
What the two inference calls are told. Both are asked for one JSON object; the reasoning call is
told what the vision call saw.
-/
namespace DesignToCode.Prompt

open DesignToCode.Text

/-- What the vision call is told to be and to answer. -/
def visionSystem : String :=
  lines [
    "You are a UI structure analyst. You look at a screenshot of a web page or app screen and " ++
      "decompose it into an ordered list of sections and the UI components inside each section.",
    "",
    "Your output must be **machine-readable JSON**: no markdown, no explanation, no code " ++
      "fences. Return a single JSON object.",
    "",
    "## Output Schema",
    "",
    "```",
    "\x7b",
    "  \"sections\": [",
    "    \x7b",
    "      \"key\": \"<short unique key you invent, e.g. s1, s2>\",",
    "      \"name\": \"<human readable name, e.g. Hero>\",",
    "      \"type\": \"<header | hero | features | content | gallery | pricing | testimonials | " ++
      "form | cta | footer | section>\",",
    "      \"layout\": \"<grid | flex | block | null if unsure>\",",
    "      \"columns\": <grid column count or null>,",
    "      \"direction\": \"<row | column | null>\"",
    "    \x7d",
    "  ],",
    "  \"componentHints\": [",
    "    \x7b",
    "      \"section\": \"<key of the containing section>\",",
    "      \"name\": \"<human readable name>\",",
    "      \"type\": \"<heading | text | button | link | image | icon | input | list | card | " ++
      "nav | form | divider>\",",
    "      \"attributes\": \x7b",
    "        \"text\": \"<visible text, if any>\",",
    "        \"level\": <1-6 for headings>,",
    "        \"label\": \"<button/input label>\",",
    "        \"alt\": \"<alt text for images>\",",
    "        \"placeholder\": \"<input placeholder>\",",
    "        \"items\": [\"<list/nav entries>\"]",
    "      \x7d",
    "    \x7d",
    "  ],",
    "  \"confidence\": <0.0-1.0, how clearly the screenshot shows the structure>",
    "\x7d",
    "```",
    "",
    "## Rules",
    "",
    "1. List sections strictly **top to bottom** as they appear visually.",
    "2. List components inside a section in reading order.",
    "3. Every component's `section` must be a `key` from `sections`.",
    "4. Use `null` for layout when you cannot tell grid from flex: do not guess.",
    "5. Lower `confidence` when the screenshot is blurry, cropped, or dense.",
    ""]

/-- What the reasoning call is told to be and to answer. -/
def reasoningSystem : String :=
  lines [
    "You are a senior front-end architect. You receive a structural decomposition of a UI " ++
      "design (sections and components) and an optional textual description. Decide how the " ++
      "sections compose spatially and how the layout adapts across breakpoints.",
    "",
    "Your output must be **machine-readable JSON**: no markdown, no explanation, no code " ++
      "fences. Return a single JSON object.",
    "",
    "## Output Schema",
    "",
    "```",
    "\x7b",
    "  \"layoutStrategy\": \x7b",
    "    \"approach\": \"<grid | flex | block>\",",
    "    \"reasoning\": \"<one sentence>\",",
    "    \"maxWidth\": <page content max width in px or null>,",
    "    \"gap\": <vertical gap between sections in px>,",
    "    \"alignment\": \"<start | center | stretch>\"",
    "  \x7d,",
    "  \"backgroundStrategy\": \x7b",
    "    \"type\": \"<none | solid | gradient | image>\",",
    "    \"color\": \"<#hex or null>\",",
    "    \"gradientFrom\": \"<#hex or null>\",",
    "    \"gradientTo\": \"<#hex or null>\",",
    "    \"gradientDirection\": \"<to bottom | to right | ...>\",",
    "    \"imageUrl\": \"<url or null>\",",
    "    \"sectionOverrides\": \x7b\"<section key>\": \"<#hex>\"\x7d",
    "  \x7d,",
    "  \"layering\": \x7b",
    "    \"zIndex\": <base z-index>,",
    "    \"layers\": [\x7b\"target\": \"<section key>\", \"zIndex\": <int>, \"position\": " ++
      "\"<relative | sticky | fixed | absolute>\"\x7d]",
    "  \x7d,",
    "  \"responsiveRules\": [",
    "    \x7b",
    "      \"breakpoint\": \"<sm | md | lg | xl | 2xl>\",",
    "      \"rules\": [",
    "        \x7b\"target\": \"<section key>\", \"layout\": \"<grid | flex | block | null>\", " ++
      "\"columns\": <int or null>, \"direction\": \"<row | column | null>\", \"hidden\": <true " ++
      "| false | null>\x7d",
    "      ]",
    "    \x7d",
    "  ],",
    "  \"ambiguities\": [",
    "    \x7b\"type\": \"<layout | background | layering | responsive | content>\", " ++
      "\"description\": \"<what was unclear>\", \"assumption\": \"<what you chose>\", \"rank\": " ++
      "<1 = most significant>\x7d",
    "  ],",
    "  \"assumptions\": [\"<inferred fact not visible in the input>\"],",
    "  \"confidence\": <0.0-1.0>",
    "\x7d",
    "```",
    "",
    "## Rules",
    "",
    "1. Reference sections **only** by the `key` values given in the input.",
    "2. Order `responsiveRules` from the smallest to the largest breakpoint (mobile-first; base " ++
      "styles are the mobile layout).",
    "3. Whenever you choose between competing interpretations, record an entry in " ++
      "`ambiguities`: never hide uncertainty.",
    "4. Put facts you inferred but could not see (fonts, hover behaviour, content width) in " ++
      "`assumptions`.",
    ""]

/-- What the vision call is asked. -/
def visionUser : String :=
  lines [
    "Decompose the design screenshot into sections and components.",
    "Return the JSON object only.",
    ""]

/-- What the reasoning call is asked: what was seen, the description and the design tokens, where
each of the two may be missing. -/
def reasoningUser (vision : VisionOutput) (text : Option String) (design : Option Json) : String :=
  lines [
    "## Structural Decomposition",
    "```json",
    vision.toJson.renderIndented,
    "```",
    "",
    "## Textual Description",
    (text.filter (!·.isEmpty)).getD "(none provided)",
    "",
    "## Design System Hints",
    ((Json.given? design).map Json.render).getD "(none)",
    "",
    "Return the JSON object only.",
    ""]

end DesignToCode.Prompt
