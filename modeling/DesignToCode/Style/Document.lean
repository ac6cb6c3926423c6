import DesignToCode.Style.Sheet

set_option autoImplicit false

namespace DesignToCode

/-- A declaration is the pair of its property and its value. -/
def StyleRule.toJson (r : StyleRule) : Json :=
  .obj [
    ("selector", .str r.className),
    ("declarations", .list (fun d => .strings [d.1, d.2]) r.declarations),
    ("comment", .ofOption .str r.comment)]

def MediaBlock.toJson (m : MediaBlock) : Json :=
  .obj [
    ("label", .str m.label),
    ("min_width", .int m.minWidth),
    ("rules", .list StyleRule.toJson m.rules)]

def StyleSheet.toJson (s : StyleSheet) : Json :=
  .obj [
    ("rules", .list StyleRule.toJson s.rules),
    ("media", .list MediaBlock.toJson s.media)]

end DesignToCode
