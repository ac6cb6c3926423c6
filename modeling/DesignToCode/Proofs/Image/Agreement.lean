import DesignToCode.Proofs.Image.Escape
import DesignToCode.Proofs.Image.Limit
import DesignToCode.Proofs.Text.Base64Encoding

set_option autoImplicit false

namespace DesignToCode

open DesignToCode.Text

/-- An address that holds bytes in base 64 and declares a type for them. -/
def dataUrl (declared : String) (data : List UInt8) : String :=
  dataScheme ++ declared ++ ";base64," ++ String.ofList (Base64.encode data)

/-- A declaration that does not speak against bytes: if it is that of an image, then of the type
that their content is of, if it is of one. -/
def Suits (declared : String) (data : List UInt8) : Prop :=
  ∀ type, ImageType.sniff data = some type →
    startsWith (canonicalMime declared) "image/" = true → canonicalMime declared = type.mime

variable {limits : ImageLimits} {data : List UInt8} {declared : String}

theorem suits_of_canonical {type : ImageType} (sniffed : ImageType.sniff data = some type)
    (named : canonicalMime declared = type.mime) : Suits declared data := by
  intro other found _
  cases sniffed.symm.trans found
  exact named

theorem suits_of_not_image (silent : startsWith (canonicalMime declared) "image/" = false) :
    Suits declared data := by
  intro type _ image
  cases silent.symm.trans image

theorem imageOf_of_suits (suits : Suits declared data) (origin : ImageOrigin) :
    imageOf limits data declared origin = imageOf limits data "" origin := by
  have silent : startsWith (canonicalMime "") "image/" = false := by decide
  unfold imageOf
  cases sniffed : ImageType.sniff data with
  | none => rfl
  | some type =>
    have agrees : (startsWith (canonicalMime declared) "image/" &&
        canonicalMime declared != type.mime) = false := by
      simpa using suits type sniffed
    simp [agrees, silent]

theorem imageOf_eq_map (origin : ImageOrigin) :
    imageOf limits data declared origin =
      (imageOf limits data declared .inline).map fun image => { image with origin } := by
  unfold imageOf
  split
  · rfl
  · split
    · rfl
    · dsimp only
      split
      · rfl
      · split <;> rfl

/-- The estimate is exact for what was written without needless pads. -/
theorem estimateSize_encode (data : List UInt8) :
    estimateSize (Base64.encode data) = data.length := by
  have estimated : estimateSize (Base64.encode data) =
      ((trimmed (Base64.encode data)).length * 3 / 4 : Nat) -
        (Base64.lastPads (trimmed (Base64.encode data)) : Nat) := rfl
  rw [estimated, Base64.trimmed_encode, Base64.length_encode, Base64.lastPads_encode]
  omega

/-- What stands before the comma of an address that holds its data. -/
def dataHeader (declared : String) : List Char :=
  dataScheme.toList ++ declared.toList ++ ";base64".toList

theorem toList_dataUrl :
    (dataUrl declared data).toList = dataHeader declared ++ ',' :: Base64.encode data := by
  have mark : ";base64,".toList = ";base64".toList ++ [','] := by decide
  simp [dataUrl, dataHeader, mark]

theorem trimmed_dataUrl :
    trimmed (dataUrl declared data).toList = (dataUrl declared data).toList := by
  have scheme : ∀ c ∈ dataScheme.toList, isBlank c = false := by
    have visible : dataScheme.toList.all (!isBlank ·) = true := by decide
    simpa using visible
  have payload : ∀ c ∈ ',' :: Base64.encode data, isBlank c = false := by
    rw [List.forall_mem_cons]
    exact ⟨by decide, fun c member => Base64.isBlank_of_mem_encode member⟩
  rw [toList_dataUrl, dataHeader, List.append_assoc dataScheme.toList]
  exact trimmed_append ⟨by decide, by simp⟩ ⟨scheme, payload⟩ _

theorem isDataUrl_dataUrl : isDataUrl (trimmed (dataUrl declared data).toList) = true := by
  rw [trimmed_dataUrl, toList_dataUrl, dataHeader, isDataUrl, List.isPrefixOf_iff_prefix,
    List.append_assoc, List.append_assoc]
  exact List.prefix_append _ _

theorem dataUrlParts?_dataUrl (clean : ',' ∉ declared.toList) :
    dataUrlParts? (dataUrl declared data).toList =
      some (dataHeader declared, Base64.encode data) := by
  have header : ',' ∉ dataHeader declared := by
    have scheme : ',' ∉ dataScheme.toList := by decide
    simp [dataHeader, scheme, clean]
  have opens : dataScheme.toList.isPrefixOf (dataHeader declared) = true := by
    rw [dataHeader, List.isPrefixOf_iff_prefix, List.append_assoc]
    exact List.prefix_append _ _
  have marked : occurs ";base64".toList (dataHeader declared) = true := by
    have found := occurs_append (dataScheme.toList ++ declared.toList) ";base64".toList []
    rwa [List.append_nil] at found
  rw [dataUrlParts?, toList_dataUrl, cut_append header]
  simp only [opens, marked, Bool.and_self, if_true]

/-- Parameters do not count for the type that is declared. -/
theorem canonicalMime_declaredType :
    canonicalMime (declaredType (dataHeader declared)) = canonicalMime declared := by
  have ended : declaredType (dataHeader declared) =
      String.ofList (declared.toList.takeWhile (· != ';')) := by
    have dropped : (dataHeader declared).drop dataScheme.length =
        declared.toList ++ ";base64".toList := by
      rw [dataHeader, List.append_assoc]
      rfl
    have mark : (";base64".toList).takeWhile (· != ';') = [] := by decide
    rw [declaredType, dropped, List.takeWhile_append, mark, List.append_nil]
    split
    · rename_i all
      rw [(List.takeWhile_prefix _).eq_of_length all]
    · rfl
  rw [ended, canonicalMime, canonicalMime, String.toList_ofList, List.takeWhile_idem]

theorem fromDataUrl_dataUrl (clean : ',' ∉ declared.toList) (suits : Suits declared data)
    (download : String → Download) :
    fromDataUrl limits (dataUrl declared data).toList =
      loadImage limits download (.bytes data) := by
  have suiting : Suits (declaredType (dataHeader declared)) data := by
    rwa [Suits, canonicalMime_declaredType]
  rw [fromDataUrl, dataUrlParts?_dataUrl clean]
  simp only [estimateSize_encode, Base64.trimmed_encode, Base64.decode?_encode,
    imageOf_of_suits suiting]
  rfl

/-- Chunks are taken as long as all of them together are within the limit. -/
theorem collect_of_within {received : Nat} {chunks : List (List UInt8)}
    (within : ((received + chunks.flatten.length : Nat) : Int) ≤ limits.maxBytes) :
    collect limits received chunks = .ok chunks.flatten := by
  induction chunks generalizing received with
  | nil => rfl
  | cons chunk rest ih =>
    rw [List.flatten_cons, List.length_append] at within
    have first : checkSize limits (received + chunk.length : Nat) = .ok () :=
      checkSize_eq_ok_iff.mpr (by omega)
    rw [collect, first, Except.ok_bind, ih (by omega)]
    rfl

theorem flatten_of_collect {received : Nat} {chunks : List (List UInt8)}
    (h : collect limits received chunks = .ok data) : chunks.flatten = data := by
  induction chunks generalizing received data with
  | nil =>
    cases h
    rfl
  | cons chunk rest ih =>
    simp only [collect, Except.bind_eq_ok_iff, pure, Except.pure, Except.ok.injEq] at h
    obtain ⟨_, -, more, later, rfl⟩ := h
    rw [List.flatten_cons, ih later]

/-- An answer that holds bytes, in any chunks, announces no other length and declares no other type
of image. -/
structure Response.Delivers (r : Response) (data : List UInt8) : Prop where
  taken : r.status = 200
  whole : r.body.chunks.flatten = data
  unbroken : r.body.isBroken = false
  announced : ∀ text, r.headers.lookup "content-length" = some text →
    Numeral.int text.toList = .ok data.length
  declared : Suits ((r.headers.lookup "content-type").getD "") data

/-- The body of an answer that names no coding. -/
theorem Response.body_of_plain {r : Response}
    (plain : r.headers.lookup "content-encoding" = none) : r.body = ⟨r.chunks, false⟩ := by
  rw [Response.body, plain]
  rfl

namespace Response.Delivers

variable {r : Response} {url : String} {image : Image}

theorem announcedLength (delivers : r.Delivers data) :
    announcedLength r.headers = .ok none ∨ announcedLength r.headers = .ok (some data.length) := by
  unfold DesignToCode.announcedLength
  cases given : r.headers.lookup "content-length" with
  | none => exact .inl rfl
  | some text =>
    dsimp only
    split
    · exact .inl rfl
    · rw [delivers.announced text given]
      exact .inr rfl

theorem checkAnnounced (delivers : r.Delivers data) (within : data.length ≤ limits.maxBytes) :
    checkAnnounced limits r.headers = .ok () := by
  unfold DesignToCode.checkAnnounced
  rcases delivers.announcedLength with silent | told
  · rw [silent]
    rfl
  · rw [told]
    exact checkSize_eq_ok_iff.mpr within

theorem settles (delivers : r.Delivers data) : Settles (fromResponse limits url r) := by
  rw [settles_fromResponse_of_status delivers.taken, ← exists_announcedLength_iff]
  rcases delivers.announcedLength with silent | told
  · exact ⟨none, silent⟩
  · exact ⟨some data.length, told⟩

/-- The answer is taken for an image exactly when the bytes are. -/
theorem fromResponse_eq_ok_iff (delivers : r.Delivers data) (download : String → Download) :
    fromResponse limits url r = .ok image ↔
      ∃ own, loadImage limits download (.bytes data) = .ok own ∧
        image = { own with origin := .url } := by
  have body : imageOf limits data ((r.headers.lookup "content-type").getD "") .url =
      (imageOf limits data "" .inline).map fun own => { own with origin := .url } := by
    rw [imageOf_of_suits delivers.declared, imageOf_eq_map]
  rw [fromResponse_of_status delivers.taken]
  constructor
  · intro h
    obtain ⟨_, -, h⟩ := Except.bind_eq_ok_iff.mp h
    obtain ⟨held, collected, h⟩ := Except.bind_eq_ok_iff.mp h
    obtain rfl : data = held := delivers.whole.symm.trans (flatten_of_collect collected)
    rw [delivers.unbroken, if_neg (by simp), body, Except.map_eq_ok_iff] at h
    obtain ⟨own, made, rfl⟩ := h
    -- what is empty passes any limit, but no image is made of it
    have within : (data.length : Int) ≤ limits.maxBytes := by
      rcases collect_within collected with empty | within
      · exact absurd empty (data_of_imageOf made).1
      · simpa using within
    refine ⟨own, ?_, rfl⟩
    have fits : checkSize limits data.length = .ok () := checkSize_eq_ok_iff.mpr within
    rw [loadImage, fits, Except.ok_bind, made]
  · rintro ⟨own, loaded, rfl⟩
    obtain ⟨_, fits, made⟩ := Except.bind_eq_ok_iff.mp loaded
    have within : (data.length : Int) ≤ limits.maxBytes := checkSize_eq_ok_iff.mp fits
    have collected : collect limits 0 r.body.chunks = .ok data := by
      rw [← delivers.whole] at within ⊢
      exact collect_of_within (by simpa using within)
    rw [delivers.checkAnnounced within, Except.ok_bind, fromBody, collected, Except.ok_bind,
      delivers.unbroken, if_neg (by simp), body, made]
    rfl

end Response.Delivers

/-- A text is taken for an address of the web with a host, and is answered. -/
def Fetches (download : String → Download) (s : String) (r : Response) : Prop :=
  let url := trimmed s.toList
  isWebUrl url = true ∧ download (String.ofList url) = .answered r ∧
    ∃ address, Web.Address.parse (String.ofList url) = .ok address ∧ address.host ≠ ""

theorem loadImage_of_fetches {download : String → Download} {s : String} {r : Response}
    (fetches : Fetches download s r) :
    loadImage limits download (.text s) =
      fromResponse limits (String.ofList (trimmed s.toList)) r := by
  obtain ⟨web, answered, address, parsed, hosted⟩ := fetches
  have named := (Web.Address.isNamed_requested_iff web parsed).mpr hosted
  rw [loadImage_of_webUrl web, answered, fromUrl, parsed]
  simp only [named, if_true]

/-- Bytes are made into an image or refused as input. An address that holds them comes to the same,
and so does an answer that delivers them, but for the origin of the image and the words of the
refusal. -/
theorem loadImage_agrees {download : String → Download} :
    Settles (loadImage limits download (.bytes data)) ∧
      (∀ declared, ',' ∉ declared.toList → Suits declared data →
        loadImage limits download (.text (dataUrl declared data)) =
          loadImage limits download (.bytes data)) ∧
      ∀ s r, Fetches download s r → r.Delivers data →
        Settles (loadImage limits download (.text s)) ∧
          ∀ image, loadImage limits download (.text s) = .ok image ↔
            ∃ own, loadImage limits download (.bytes data) = .ok own ∧
              image = { own with origin := .url } := by
  have inline : (ImageSource.bytes data).IsInline := trivial
  refine ⟨fun e h => isInput_of_loadImage inline h, ?_, ?_⟩
  · intro declared clean suits
    rw [loadImage_of_dataUrl download isDataUrl_dataUrl, trimmed_dataUrl]
    exact fromDataUrl_dataUrl clean suits download
  · intro s r fetches delivers
    rw [loadImage_of_fetches fetches]
    exact ⟨delivers.settles, fun image => delivers.fromResponse_eq_ok_iff download⟩

/-- An image of four bytes, the last of which is no part of its signature. -/
def shortJpeg : List UInt8 := ImageType.jpeg.signature ++ [0]

/-- The bytes in two chunks, with their length and no type of an image. -/
def halvedJpeg : Response where
  status := 200
  headers := [("content-length", "4"), ("content-type", "application/octet-stream")]
  chunks := [[0xff, 0xd8], [0xff, 0]]

/-- At a limit of four bytes, with an alias of the type declared in the address. -/
theorem shortJpeg_agrees :
    let limits : ImageLimits := { maxBytes := 4 }
    let download : String → Download := fun _ => .answered halvedJpeg
    loadImage limits download (.text "data:image/jpg;base64,/9j/AA==") =
        loadImage limits download (.bytes shortJpeg) ∧
      loadImage limits download (.text "http://localhost/photo") =
        .ok ⟨shortJpeg, .jpeg, .url⟩ := by
  intro limits download
  have jpeg : ImageType.sniff shortJpeg = some .jpeg := by decide
  have loaded : loadImage limits download (.bytes shortJpeg) =
      .ok ⟨shortJpeg, .jpeg, .inline⟩ := by
    have fits : checkSize limits shortJpeg.length = .ok () :=
      checkSize_eq_ok_iff.mpr (by decide)
    rw [loadImage, fits, Except.ok_bind, imageOf_eq_ok_iff]
    exact ⟨by decide, jpeg, jpeg_mem_accepted 4, by decide, rfl, rfl⟩
  have delivers : halvedJpeg.Delivers shortJpeg := by
    have body : halvedJpeg.body = ⟨halvedJpeg.chunks, false⟩ := Response.body_of_plain rfl
    have length : halvedJpeg.headers.lookup "content-length" = some (Nat.repr 4) := by decide
    refine ⟨rfl, by rw [body]; rfl, by rw [body], ?_, suits_of_not_image (by decide)⟩
    intro text told
    rw [← Option.some.inj (length.symm.trans told)]
    exact Numeral.int_repr (by decide)
  have fetches : Fetches download "http://localhost/photo" halvedJpeg :=
    ⟨by decide, rfl, _, rfl, by decide⟩
  obtain ⟨-, held, answered⟩ := @loadImage_agrees limits shortJpeg download
  constructor
  · have same : dataUrl "image/jpg" shortJpeg = "data:image/jpg;base64,/9j/AA==" := by decide
    rw [← same]
    exact held "image/jpg" (by decide) (suits_of_canonical jpeg (by decide))
  · exact ((answered _ _ fetches delivers).2 _).mpr ⟨_, loaded, rfl⟩

end DesignToCode
