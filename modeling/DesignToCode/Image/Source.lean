import DesignToCode.Image.Basic
import DesignToCode.Number.Numeral
import DesignToCode.Text.Base64
import DesignToCode.Text.Utf8
import DesignToCode.Web.Address
import DesignToCode.Web.Coding

set_option autoImplicit false

/-!
Where images come from: bytes, data addresses that hold them in base 64, and addresses from which
they are loaded. Every way is held to the limit before all of the image is there.
-/
namespace DesignToCode

open DesignToCode.Text

/-- What a request gives as its image. -/
inductive ImageSource where
  | bytes (data : List UInt8)
  | text (value : String)
  | other

/-- An answer to a download. The names of headers are in small letters. -/
structure Response where
  status : Int
  headers : List (String × String) := []
  chunks : List (List UInt8) := []

/-- The texts of headers by their names in small letters; they are written in one coding, which is
that of single bytes if one of them is no text in the usual one. Headers of one name are joined. -/
def Response.headerTexts (headers : List (String × List UInt8)) : List (String × String) :=
  let decode : List UInt8 → String :=
    if headers.all fun h => (Utf8.decode? h.2).isSome then Utf8.decode
    else fun bytes => String.ofList (bytes.map fun b => Char.ofNat b.toNat)
  headers.foldl (fun made h =>
    let name := lower h.1
    let text := match made.lookup name with
      | some before => before ++ ", " ++ decode h.2
      | none => decode h.2
    Fields.put made name text) []

/-- What a download meets. -/
inductive Download where
  | answered (response : Response)
  | broken
  | badAddress (message : String)

/-- How many bytes a text in base 64 comes to, without reading it. -/
def estimateSize (payload : List Char) : Int :=
  let body := trimmed payload
  (body.length * 3 / 4 : Nat) - ((body.reverse.take 2).count Base64.pad : Nat)

def dataScheme : String := "data:"

/-- What stands before the first comma, and after it. -/
def dataUrlParts? (value : List Char) : Option (List Char × List Char) :=
  match cut ',' value with
  | (header, some payload) =>
    if dataScheme.toList.isPrefixOf header && occurs ";base64".toList header then
      some (header, payload)
    else none
  | (_, none) => none

/-- The media type that the header of a data address declares. -/
def declaredType (header : List Char) : String :=
  String.ofList ((header.drop dataScheme.length).takeWhile (· != ';'))

/-- The size is checked before anything is decoded. -/
def fromDataUrl (limits : ImageLimits) (value : List Char) : Except ImageRefusal Image :=
  match dataUrlParts? value with
  | none => .error .notDataUrl
  | some (header, payload) => do
    checkSize limits (estimateSize payload)
    match Base64.decode? (trimmed payload) with
    | none => .error .notBase64
    | some data => imageOf limits data (declaredType header) .inline

/-- The length that an answer announces, if it announces a number. -/
def announcedLength (headers : List (String × String)) : Except ImageRefusal (Option Int) :=
  match headers.lookup "content-length" with
  | none => .ok none
  | some text =>
    if text.isEmpty || !text.toList.all isDigit then .ok none
    else
      match Numeral.int text.toList with
      | .ok length => .ok (some length)
      | .error cause => .error (.badValue (cause.message text))

/-- The body of an answer out of the codings that its head names. -/
def Response.body (r : Response) : Web.Body :=
  Web.Coding.decodeAll (((r.headers.lookup "content-encoding").map Web.Coding.ofHeader).getD [])
    ⟨r.chunks, false⟩

/-- The chunks in one, refused as soon as they are more than the limit. -/
def collect (limits : ImageLimits) (received : Nat) : List (List UInt8) →
    Except ImageRefusal (List UInt8)
  | [] => .ok []
  | chunk :: rest => do
    checkSize limits (received + chunk.length : Nat)
    let more ← collect limits (received + chunk.length) rest
    return chunk ++ more

/-- Answers that name another place. -/
def redirections : List Int := [301, 302, 303, 307, 308]

/-- The place that an answer names instead, if it names one. -/
def Response.place? (r : Response) : Option String :=
  if redirections.contains r.status then r.headers.lookup "location" else none

/-- Whether an answer names another place that is no address. -/
def Response.misleads (r : Response) : Bool :=
  r.place?.any fun place => (Web.Address.parse place) matches .error _

/-- Whether an answer names another place that has a scheme but no host, and a path that stands
behind none. -/
def Response.strays (r : Response) : Bool :=
  r.place?.any fun place =>
    match Web.Address.parse place with
    | .error _ => false
    | .ok there => !there.scheme.isEmpty && there.host.isEmpty && !there.path.isEmpty &&
      !startsWith there.path "/"

/-- A length that is announced is held to the limit. -/
def checkAnnounced (limits : ImageLimits) (headers : List (String × String)) :
    Except ImageRefusal Unit := do
  match ← announcedLength headers with
  | none => return ()
  | some length => checkSize limits length

/-- The image that the body of an answer holds. -/
def fromBody (limits : ImageLimits) (url : String) (r : Response) : Except ImageRefusal Image := do
  let data ← collect limits 0 r.body.chunks
  if r.body.isBroken then .error (.notFetched url)
  else imageOf limits data ((r.headers.lookup "content-type").getD "") .url

/-- No other place that an answer names is asked, but it must be one. A place without a host is
looked for at the host that was asked. -/
def fromResponse (limits : ImageLimits) (url : String) (r : Response) : Except ImageRefusal Image :=
  if r.misleads then .error (.notFetched url)
  else if r.strays then .error (.badAddress Web.AddressFault.noSlash.message)
  else if r.status ≠ 200 then .error (.badStatus url r.status)
  else do
    checkAnnounced limits r.headers
    fromBody limits url r

/-- The address is read before anything is asked for. -/
def fromUrl (limits : ImageLimits) (url : String) (download : Download) :
    Except ImageRefusal Image :=
  match Web.Address.parse url with
  | .error fault => .error (.badAddress fault.message)
  | .ok address =>
    match download with
    | .answered r =>
      if address.requested.isNamed then fromResponse limits url r
      else .error (.badValue address.requested.unnamedMessage)
    | .broken => .error (.notFetched url)
    | .badAddress message => .error (.badAddress message)

def isDataUrl (value : List Char) : Bool := dataScheme.toList.isPrefixOf value

def isWebUrl (value : List Char) : Bool :=
  "http://".toList.isPrefixOf value || "https://".toList.isPrefixOf value

/-- An image from any source; only addresses of the web are loaded. -/
def loadImage (limits : ImageLimits) (download : String → Download) :
    ImageSource → Except ImageRefusal Image
  | .bytes data => do
    checkSize limits (data.length : Nat)
    imageOf limits data "" .inline
  | .other => .error .missing
  | .text s =>
    let value := trimmed s.toList
    if value.isEmpty then .error .missing
    else if isDataUrl value then fromDataUrl limits value
    else if isWebUrl value then
      let url := String.ofList value
      fromUrl limits url (download url)
    else .error .notUrl

end DesignToCode
