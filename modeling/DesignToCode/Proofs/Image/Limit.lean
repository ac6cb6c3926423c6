import DesignToCode.Image.Source
import DesignToCode.Proofs.Except
import DesignToCode.Proofs.Text.Base64

set_option autoImplicit false

namespace DesignToCode

open DesignToCode.Text

theorem checkSize_eq_ok_iff {limits : ImageLimits} {size : Int} {u : Unit} :
    checkSize limits size = .ok u ↔ size ≤ limits.maxBytes := by
  simp only [checkSize]
  split
  · simp; omega
  · simp; omega

/-- What it takes to make an image out of bytes. -/
theorem imageOf_eq_ok_iff {limits : ImageLimits} {data : List UInt8} {declared : String}
    {origin : ImageOrigin} {image : Image} :
    imageOf limits data declared origin = .ok image ↔
      data ≠ [] ∧ ImageType.sniff data = some image.type ∧
        image.type.mime ∈ limits.accepted ∧
        (startsWith (canonicalMime declared) "image/" = true →
          canonicalMime declared = image.type.mime) ∧
        image.data = data ∧ image.origin = origin := by
  obtain ⟨held, type, from_⟩ := image
  constructor
  · intro h
    simp only [imageOf] at h
    split at h
    · cases h
    · rename_i present
      split at h
      · cases h
      · rename_i sniffed
        split at h
        · cases h
        · rename_i accepted
          split at h
          · cases h
          · rename_i agrees
            cases h
            refine ⟨by simpa using present, sniffed, by simpa using accepted, ?_, rfl, rfl⟩
            simpa using agrees
  · rintro ⟨present, sniffed, accepted, agrees, rfl, rfl⟩
    have agreed : (startsWith (canonicalMime declared) "image/" &&
        canonicalMime declared != type.mime) = false := by
      simpa using agrees
    simp [imageOf, present, sniffed, accepted, agreed]

theorem data_of_imageOf {limits : ImageLimits} {data : List UInt8} {declared : String}
    {origin : ImageOrigin} {image : Image} (h : imageOf limits data declared origin = .ok image) :
    data ≠ [] ∧ image.data = data := by
  obtain ⟨present, -, -, -, held, -⟩ := imageOf_eq_ok_iff.mp h
  exact ⟨present, held⟩

theorem mem_accepted_iff {limits : ImageLimits} {mime : String} :
    mime ∈ limits.accepted ↔
      mime ∈ (if limits.acceptedTypes.isEmpty then usualImageTypes else limits.acceptedTypes).map
        canonicalMime := by
  simp [ImageLimits.accepted]

/-- The estimate is one byte too small for a text with pads that are not needed, and otherwise
never too small. -/
theorem estimateSize_of_decode? {payload : List Char} {data : List UInt8}
    (h : Base64.decode? (trimmed payload) = some data) :
    if Base64.Overpadded (trimmed payload) then
      estimateSize payload + 1 = data.length ∧ data.length = 3 * ((trimmed payload).length / 4)
    else (data.length : Int) ≤ estimateSize payload := by
  have estimated : estimateSize payload =
      ((trimmed payload).length * 3 / 4 : Nat) - (Base64.lastPads (trimmed payload) : Nat) := rfl
  obtain ⟨groups, ending, more, body, clean, whole, ends, size⟩ := Base64.shaped_of_decode? h
  rw [estimated, body, size]
  cases ends with
  | pads count =>
    rw [Base64.lastPads_pads clean]
    simp only [Base64.overpadded_pads_iff clean whole, List.length_append, List.length_replicate]
    split
    · omega
    · omega
  | one a b first second =>
    have needed : ¬ Base64.Overpadded (groups ++ [a, b, Base64.pad, Base64.pad]) :=
      Base64.not_overpadded_of_last [a, b] (by simp [clean, first.symm, second.symm]) whole
        (by simp) rfl
    have two : Base64.lastPads (groups ++ [a, b, Base64.pad, Base64.pad]) = 2 := by
      simp [Base64.lastPads]
    rw [if_neg needed, two, List.length_append]
    simp only [List.length_cons, List.length_nil]
    omega
  | two a b c first second third =>
    have needed : ¬ Base64.Overpadded (groups ++ [a, b, c, Base64.pad]) :=
      Base64.not_overpadded_of_last [a, b, c]
        (by simp [clean, first.symm, second.symm, third.symm]) whole (by simp) rfl
    have single : Base64.lastPads (groups ++ [a, b, c, Base64.pad]) = 1 := by
      simp [Base64.lastPads, third]
    rw [if_neg needed, single, List.length_append]
    simp only [List.length_cons, List.length_nil]
    omega

theorem bytes_within {limits : ImageLimits} {download : String → Download} {data : List UInt8}
    {image : Image} (h : loadImage limits download (.bytes data) = .ok image) :
    (image.size : Int) ≤ limits.maxBytes := by
  simp only [loadImage, Except.bind_eq_ok_iff, checkSize_eq_ok_iff] at h
  obtain ⟨_, within, made⟩ := h
  rw [Image.size, (data_of_imageOf made).2]
  exact within

theorem fromDataUrl_eq_ok_iff {limits : ImageLimits} {value : List Char} {image : Image} :
    fromDataUrl limits value = .ok image ↔
      ∃ header payload data, dataUrlParts? value = some (header, payload) ∧
        estimateSize payload ≤ limits.maxBytes ∧ Base64.decode? (trimmed payload) = some data ∧
        imageOf limits data (declaredType header) .inline = .ok image := by
  constructor
  · intro h
    simp only [fromDataUrl] at h
    split at h
    · cases h
    · rename_i header payload parts
      simp only [Except.bind_eq_ok_iff, checkSize_eq_ok_iff] at h
      obtain ⟨_, within, h⟩ := h
      split at h
      · cases h
      · rename_i data decoded
        exact ⟨header, payload, data, parts, within, decoded, h⟩
  · rintro ⟨header, payload, data, parts, within, decoded, made⟩
    simp only [fromDataUrl, parts, Except.bind_eq_ok_iff, checkSize_eq_ok_iff]
    exact ⟨(), within, by rw [decoded]; exact made⟩

/-- What was collected is within the limit, unless there was nothing to collect. -/
theorem collect_within {limits : ImageLimits} {received : Nat} {chunks : List (List UInt8)}
    {data : List UInt8} (h : collect limits received chunks = .ok data) :
    data = [] ∨ ((received + data.length : Nat) : Int) ≤ limits.maxBytes := by
  induction chunks generalizing received data with
  | nil =>
    cases h
    exact .inl rfl
  | cons chunk rest ih =>
    simp only [collect, Except.bind_eq_ok_iff, checkSize_eq_ok_iff, pure, Except.pure,
      Except.ok.injEq] at h
    obtain ⟨_, within, more, later, rfl⟩ := h
    right
    rcases ih later with rfl | further
    · simpa using within
    · rw [List.length_append]
      omega

/-- An answer is made into an image only out of what was collected of it. -/
theorem fromResponse_eq_ok {limits : ImageLimits} {url : String} {r : Response} {image : Image}
    (h : fromResponse limits url r = .ok image) :
    ∃ data declared, collect limits 0 r.body.chunks = .ok data ∧
      imageOf limits data declared .url = .ok image := by
  have body : fromBody limits url r = .ok image := by
    unfold fromResponse at h
    split at h
    · cases h
    · split at h
      · cases h
      · split at h
        · cases h
        · obtain ⟨_, -, made⟩ := Except.bind_eq_ok_iff.mp h
          exact made
  obtain ⟨data, collected, made⟩ := Except.bind_eq_ok_iff.mp body
  split at made
  · cases made
  · exact ⟨data, _, collected, made⟩

theorem fromUrl_within {limits : ImageLimits} {url : String} {download : Download} {image : Image}
    (h : fromUrl limits url download = .ok image) : (image.size : Int) ≤ limits.maxBytes := by
  simp only [fromUrl] at h
  split at h
  · cases h
  · split at h
    · split at h
      · obtain ⟨data, declared, collected, made⟩ := fromResponse_eq_ok h
        obtain ⟨present, held⟩ := data_of_imageOf made
        rcases collect_within collected with empty | within
        · exact absurd empty present
        · rw [Image.size, held]
          simpa using within
      · cases h
    · cases h
    · cases h

/-- The text in base 64 that a data address holds, without the blanks around it. -/
def ImageSource.payload? : ImageSource → Option (List Char)
  | .text s =>
    let value := trimmed s.toList
    if isDataUrl value then (dataUrlParts? value).map fun parts => trimmed parts.2 else none
  | _ => none

theorem loadImage_of_dataUrl {limits : ImageLimits} (download : String → Download) {s : String}
    (named : isDataUrl (trimmed s.toList) = true) :
    loadImage limits download (.text s) = fromDataUrl limits (trimmed s.toList) := by
  have present : (trimmed s.toList).isEmpty = false := by
    cases value : trimmed s.toList with
    | nil =>
      rw [value] at named
      cases named
    | cons c rest => rfl
  simp [loadImage, named, present]

/-- A type that is accepted when no types are named. -/
theorem jpeg_mem_accepted (maxBytes : Int) :
    ImageType.jpeg.mime ∈ ({ maxBytes := maxBytes } : ImageLimits).accepted := by
  rw [mem_accepted_iff]
  change ImageType.jpeg.mime ∈ usualImageTypes.map canonicalMime
  decide

/-- An image that is loaded is within the limit, unless it comes in base 64 with pads that are not
needed and what they hide is the one byte above the limit. -/
theorem size_le_maxBytes_iff {limits : ImageLimits} {download : String → Download}
    {source : ImageSource} {image : Image} (h : loadImage limits download source = .ok image) :
    (image.size : Int) ≤ limits.maxBytes + 1 ∧
      ((image.size : Int) ≤ limits.maxBytes ↔
        ¬ ∃ payload, source.payload? = some payload ∧ Base64.Overpadded payload ∧
          limits.maxBytes + 1 = 3 * (payload.length / 4 : Nat)) := by
  cases source with
  | bytes data =>
    have within := bytes_within h
    exact ⟨by omega, by simpa [ImageSource.payload?] using within⟩
  | other => cases h
  | text s =>
    simp only [loadImage] at h
    split at h
    · cases h
    · split at h
      · rename_i dataUrl
        obtain ⟨header, payload, data, parts, within, decoded, made⟩ := fromDataUrl_eq_ok_iff.mp h
        have estimated := estimateSize_of_decode? decoded
        simp only [ImageSource.payload?, dataUrl, if_true, parts, Option.map_some,
          Option.some.injEq, exists_eq_left']
        rw [Image.size, (data_of_imageOf made).2]
        split at estimated
        · rename_i hidden
          simp only [hidden, true_and]
          omega
        · rename_i fits
          simp only [fits, false_and, not_false_eq_true, iff_true]
          omega
      · rename_i noDataUrl
        split at h
        · have within := fromUrl_within h
          exact ⟨by omega, by simpa [ImageSource.payload?, noDataUrl] using within⟩
        · cases h

/-- Four bytes with the two pads that they need, at a limit of four. -/
theorem padded_jpeg_within :
    let limits : ImageLimits := { maxBytes := 4 }
    let source := ImageSource.text "data:image/jpeg;base64,/9j/AA=="
    let image : Image := ⟨[0xff, 0xd8, 0xff, 0], .jpeg, .inline⟩
    loadImage limits (fun _ => .broken) source = .ok image ∧
      (image.size : Int) ≤ limits.maxBytes + 1 ∧
      ((image.size : Int) ≤ limits.maxBytes ↔
        ¬ ∃ payload, source.payload? = some payload ∧ Base64.Overpadded payload ∧
          limits.maxBytes + 1 = 3 * (payload.length / 4 : Nat)) := by
  intro limits source image
  have made : imageOf limits image.data "image/jpeg" .inline = .ok image :=
    imageOf_eq_ok_iff.mpr ⟨by decide, by decide, jpeg_mem_accepted 4, by decide, rfl, rfl⟩
  have loaded : loadImage limits (fun _ => .broken) source = .ok image := by
    rw [loadImage_of_dataUrl _ (by decide), fromDataUrl_eq_ok_iff]
    exact ⟨"data:image/jpeg;base64".toList, "/9j/AA==".toList, image.data, by decide, by decide,
      by decide, made⟩
  exact ⟨loaded, size_le_maxBytes_iff loaded⟩

/-- Three bytes with a pad that they do not need pass a limit of two. -/
theorem overpadded_jpeg_exceeds :
    let limits : ImageLimits := { maxBytes := 2 }
    let image : Image := ⟨[0xff, 0xd8, 0xff], .jpeg, .inline⟩
    loadImage limits (fun _ => .broken) (.text "data:image/jpeg;base64,/9j/=") = .ok image ∧
      ¬ (image.size : Int) ≤ limits.maxBytes := by
  intro limits image
  have made : imageOf limits image.data "image/jpeg" .inline = .ok image :=
    imageOf_eq_ok_iff.mpr ⟨by decide, by decide, jpeg_mem_accepted 2, by decide, rfl, rfl⟩
  refine ⟨?_, by decide⟩
  rw [loadImage_of_dataUrl _ (by decide), fromDataUrl_eq_ok_iff]
  exact ⟨"data:image/jpeg;base64".toList, "/9j/=".toList, image.data, by decide, by decide,
    by decide, made⟩

end DesignToCode
