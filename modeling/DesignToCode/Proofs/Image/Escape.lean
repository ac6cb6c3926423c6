import DesignToCode.Proofs.Image.Refusal
import DesignToCode.Proofs.Number.Numeral
import DesignToCode.Proofs.Web.Address

set_option autoImplicit false

namespace DesignToCode

open DesignToCode.Text

/-- The length is announced in digits, but one of them is no decimal digit or there are too many. -/
def Response.AnnouncesNoNumber (r : Response) : Prop :=
  ∃ text, r.headers.lookup "content-length" = some text ∧ Numeral.IsRow text.toList ∧
    ¬ Numeral.Counts text.toList

/-- What a download meets is told as no failure of the input. -/
def Download.Escapes (address : Web.Address) : Download → Prop
  | .answered r => address.host = "" ∨ r.strays = true ∨ r.status = 200 ∧ r.AnnouncesNoNumber
  | .broken => False
  | .badAddress _ => True

/-- A text that is taken for an address of the web and is none, or whose download escapes. -/
def ImageSource.Escapes (download : String → Download) : ImageSource → Prop
  | .text s =>
    let url := trimmed s.toList
    isWebUrl url = true ∧
      match Web.Address.parse (String.ofList url) with
      | .error _ => True
      | .ok address => (download (String.ofList url)).Escapes address
  | .bytes _ | .other => False

variable {limits : ImageLimits} {url : String} {r : Response} {e : ImageRefusal}

/-- A length is made out unless it is announced in digits that are no number. -/
theorem exists_announcedLength_iff :
    (∃ length, announcedLength r.headers = .ok length) ↔ ¬ r.AnnouncesNoNumber := by
  unfold Response.AnnouncesNoNumber announcedLength
  cases given : r.headers.lookup "content-length" with
  | none => simp
  | some text =>
    simp only [Option.some.injEq, exists_eq_left', not_and, not_not]
    by_cases row : Numeral.IsRow text.toList
    · have counted : (text.isEmpty || !text.toList.all isDigit) = false := by
        simpa [Numeral.IsRow] using row
      rw [counted, ← Numeral.exists_int_iff row]
      cases Numeral.int text.toList <;> simp [row]
    · have skipped : (text.isEmpty || !text.toList.all isDigit) = true := by
        rw [← Bool.not_eq_false]
        exact fun counted => row (by simpa [Numeral.IsRow] using counted)
      simp [skipped, row]

theorem not_isInput_of_announcedLength (h : announcedLength r.headers = .error e) :
    ¬ e.IsInput := by
  unfold announcedLength at h
  split at h
  · cases h
  · split at h
    · cases h
    · split at h
      · cases h
      · cases h
        exact id

theorem isInput_of_collect {received : Nat} {chunks : List (List UInt8)}
    (h : collect limits received chunks = .error e) : e.IsInput := by
  induction chunks generalizing received with
  | nil => cases h
  | cons chunk rest ih =>
    rcases Except.bind_eq_error_iff.mp h with large | ⟨_, -, later⟩
    · exact isInput_of_checkSize large
    · rcases Except.bind_eq_error_iff.mp later with failed | ⟨more, -, made⟩
      · exact ih failed
      · cases made

theorem isInput_of_fromBody (h : fromBody limits url r = .error e) : e.IsInput := by
  rcases Except.bind_eq_error_iff.mp h with failed | ⟨data, -, h⟩
  · exact isInput_of_collect failed
  · split at h
    · cases h
      rfl
    · exact isInput_of_imageOf h

theorem isInput_of_checkAnnounced {length : Option Int}
    (announced : announcedLength r.headers = .ok length)
    (h : checkAnnounced limits r.headers = .error e) : e.IsInput := by
  rcases Except.bind_eq_error_iff.mp h with failed | ⟨known, same, h⟩
  · cases announced.symm.trans failed
  · cases known with
    | none => cases h
    | some n => exact isInput_of_checkSize h

/-- Loading ends in an image or a failure of the input. -/
def Settles (loaded : Except ImageRefusal Image) : Prop := ∀ e, loaded = .error e → e.IsInput

theorem settles_iff {loaded : Except ImageRefusal Image} :
    Settles loaded ↔
      (∃ image, loaded = .ok image) ∨
        ∃ failure, loaded = .error (.rejected failure) ∧ failure.kind = .input := by
  cases loaded with
  | ok image => simp [Settles]
  | error e => cases e <;> simp [Settles, ImageRefusal.IsInput]

theorem settles_of_isInput {e : ImageRefusal} (input : e.IsInput) : Settles (.error e) := by
  rintro _ ⟨⟩
  exact input

/-- An answer of the status that is taken for an image names no other place. -/
theorem place?_of_status (taken : r.status = 200) : r.place? = none := by
  have straight : redirections.contains 200 = false := by decide
  rw [Response.place?, taken, straight]
  rfl

theorem fromResponse_of_status (taken : r.status = 200) :
    fromResponse limits url r =
      (checkAnnounced limits r.headers >>= fun _ => fromBody limits url r) := by
  simp [fromResponse, Response.misleads, Response.strays, place?_of_status taken, taken]

theorem misleads_of_strays (h : r.strays = true) : r.misleads = false := by
  unfold Response.strays at h
  unfold Response.misleads
  cases there : r.place? with
  | none => rfl
  | some place =>
    rw [there, Option.any_some] at h
    rw [Option.any_some]
    cases parsed : Web.Address.parse place with
    | ok address => rfl
    | error fault =>
      rw [parsed] at h
      cases h

/-- Only of an answer that is taken for an image the length is made out. -/
theorem settles_fromResponse_of_status (taken : r.status = 200) :
    Settles (fromResponse limits url r) ↔ ¬ r.AnnouncesNoNumber := by
  rw [fromResponse_of_status taken, ← exists_announcedLength_iff]
  cases announced : announcedLength r.headers with
  | error e =>
    have stopped : checkAnnounced limits r.headers = .error e := by
      rw [checkAnnounced, announced]
      rfl
    rw [stopped]
    have odd := not_isInput_of_announcedLength announced
    exact iff_of_false (fun settled => odd (settled e rfl)) nofun
  | ok length =>
    refine iff_of_true (fun e h => ?_) ⟨length, rfl⟩
    rcases Except.bind_eq_error_iff.mp h with large | ⟨_, -, refused⟩
    · exact isInput_of_checkAnnounced announced large
    · exact isInput_of_fromBody refused

theorem settles_fromResponse_iff :
    Settles (fromResponse limits url r) ↔
      ¬ (r.strays = true ∨ r.status = 200 ∧ r.AnnouncesNoNumber) := by
  by_cases taken : r.status = 200
  · have straight : ¬ r.strays = true := by simp [Response.strays, place?_of_status taken]
    rw [settles_fromResponse_of_status taken, or_iff_right straight, and_iff_right taken]
  · simp only [taken, false_and, or_false]
    by_cases stray : r.strays = true
    · rw [fromResponse, misleads_of_strays stray, if_neg (by simp), if_pos stray]
      exact iff_of_false (fun settled => settled _ rfl) fun straight => straight stray
    · rw [fromResponse, if_neg stray, if_pos taken]
      refine iff_of_true ?_ stray
      split <;> exact settles_of_isInput rfl

theorem settles_fromUrl_iff {cs : List Char} (web : isWebUrl cs = true) {download : Download} :
    Settles (fromUrl limits (String.ofList cs) download) ↔
      ∃ address, Web.Address.parse (String.ofList cs) = .ok address ∧
        ¬ download.Escapes address := by
  unfold fromUrl
  cases parsed : Web.Address.parse (String.ofList cs) with
  | error fault => exact iff_of_false (fun settled => settled _ rfl) nofun
  | ok address =>
    simp only [Except.ok.injEq, exists_eq_left']
    cases download with
    | answered r =>
      have named := Web.Address.isNamed_requested_iff web parsed
      by_cases hosted : address.host = ""
      · have unnamed : ¬ address.requested.isNamed = true := fun name => named.mp name hosted
        simp only [unnamed]
        exact iff_of_false (fun settled => settled _ rfl) fun stays => stays (.inl hosted)
      · simp only [named.mpr hosted, if_true, settles_fromResponse_iff, Download.Escapes, hosted,
          false_or]
    | broken => exact iff_of_true (settles_of_isInput rfl) id
    | badAddress message => exact iff_of_false (fun settled => settled _ rfl) (· trivial)

/-- An address of the web is neither empty nor an address that holds its data. -/
theorem loadImage_of_webUrl {download : String → Download} {s : String}
    (web : isWebUrl (trimmed s.toList) = true) :
    loadImage limits download (.text s) =
      fromUrl limits (String.ofList (trimmed s.toList))
        (download (String.ofList (trimmed s.toList))) := by
  have other : (trimmed s.toList).isEmpty = false ∧ isDataUrl (trimmed s.toList) = false := by
    have known := web
    simp only [isWebUrl, Bool.or_eq_true, List.isPrefixOf_iff_prefix] at known
    rcases known with ⟨rest, whole⟩ | ⟨rest, whole⟩
    · rw [← whole]
      exact ⟨rfl, rfl⟩
    · rw [← whole]
      exact ⟨rfl, rfl⟩
  simp [loadImage, other, web]

/-- Loading ends in an image or a failure of the input exactly when nothing of the download is told
otherwise: the address is one, and has a host where it is answered; an answer names no other place
that cannot be one; and an answer with an image announces its length, where it does so in digits, by
a number. -/
theorem loadImage_settled_iff {download : String → Download} {source : ImageSource} :
    ((∃ image, loadImage limits download source = .ok image) ∨
        ∃ failure, loadImage limits download source = .error (.rejected failure) ∧
          failure.kind = .input) ↔
      ¬ source.Escapes download := by
  rw [← settles_iff]
  have settled (inline : source.IsInline) : Settles (loadImage limits download source) :=
    fun e h => isInput_of_loadImage inline h
  cases source with
  | bytes data => exact iff_of_true (settled trivial) id
  | other => exact iff_of_true (settled trivial) id
  | text s =>
    by_cases web : isWebUrl (trimmed s.toList) = true
    · rw [loadImage_of_webUrl web, settles_fromUrl_iff web]
      unfold ImageSource.Escapes
      simp only [web, true_and]
      cases Web.Address.parse (String.ofList (trimmed s.toList)) <;> simp
    · have inline : (ImageSource.text s).IsInline := Bool.eq_false_iff.mpr web
      exact iff_of_true (settled inline) fun escape => web escape.1

/-- A page on a channel that is no number. -/
def strayPage : String := "http://localhost:port/page.png"

/-- Not everything that can go wrong is told as a failure of the input. -/
theorem not_forall_settled :
    ¬ ∀ (limits : ImageLimits) (download : String → Download) (source : ImageSource),
      (∃ image, loadImage limits download source = .ok image) ∨
        ∃ failure, loadImage limits download source = .error (.rejected failure) ∧
          failure.kind = .input := by
  intro always
  have settled := settles_iff.mpr (always {} (fun _ => .broken) (.text strayPage))
  have web : isWebUrl (trimmed strayPage.toList) = true := by decide
  have refused : Web.Address.parse (String.ofList (trimmed strayPage.toList)) =
      .error (.badChannel "port") := by
    decide
  rw [loadImage_of_webUrl web, settles_fromUrl_iff web] at settled
  obtain ⟨address, parsed, -⟩ := settled
  cases refused.symm.trans parsed

end DesignToCode
