import DesignToCode.Image.Source
import DesignToCode.Proofs.Except

set_option autoImplicit false

namespace DesignToCode

open DesignToCode.Text

/-- The image is told to be none that is accepted. -/
def ImageRefusal.IsInput : ImageRefusal → Prop
  | .rejected failure => failure.kind = .input
  | .badValue _ | .badAddress _ => False

/-- A source that is no address of the web. -/
def ImageSource.IsInline : ImageSource → Prop
  | .text s => isWebUrl (trimmed s.toList) = false
  | .bytes _ | .other => True

variable {limits : ImageLimits} {e : ImageRefusal}

theorem isInput_of_checkSize {size : Int} (h : checkSize limits size = .error e) : e.IsInput := by
  unfold checkSize at h
  split at h
  · cases h
    rfl
  · cases h

theorem isInput_of_imageOf {data : List UInt8} {declared : String} {origin : ImageOrigin}
    (h : imageOf limits data declared origin = .error e) : e.IsInput := by
  simp only [imageOf] at h
  split at h
  · cases h
    rfl
  · split at h
    · cases h
      rfl
    · split at h
      · cases h
        rfl
      · split at h
        · cases h
          rfl
        · cases h

theorem isInput_of_fromDataUrl {value : List Char} (h : fromDataUrl limits value = .error e) :
    e.IsInput := by
  unfold fromDataUrl at h
  split at h
  · cases h
    rfl
  · rcases Except.bind_eq_error_iff.mp h with large | ⟨_, -, h⟩
    · exact isInput_of_checkSize large
    · split at h
      · cases h
        rfl
      · exact isInput_of_imageOf h

/-- Nothing that a request holds itself is refused otherwise than as its input. -/
theorem isInput_of_loadImage {download : String → Download} {source : ImageSource}
    (inline : source.IsInline) (h : loadImage limits download source = .error e) : e.IsInput := by
  cases source with
  | bytes data =>
    rcases Except.bind_eq_error_iff.mp h with large | ⟨_, -, h⟩
    · exact isInput_of_checkSize large
    · exact isInput_of_imageOf h
  | other =>
    cases h
    rfl
  | text s =>
    have noUrl : isWebUrl (trimmed s.toList) = false := inline
    simp only [loadImage, noUrl] at h
    split at h
    · cases h
      rfl
    · split at h
      · exact isInput_of_fromDataUrl h
      · cases h
        rfl

end DesignToCode
