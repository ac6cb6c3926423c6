import DesignToCode.Pipeline.Failure
import DesignToCode.Text.Blank
import DesignToCode.Text.Case
import DesignToCode.Text.Search

set_option autoImplicit false

/-!
Images that an analysis accepts: their types, told from the first bytes, and their limits.
-/
namespace DesignToCode

open DesignToCode.Text

inductive ImageType where
  | png
  | jpeg
  deriving DecidableEq, Repr

namespace ImageType

def mime : ImageType → String
  | png => "image/png"
  | jpeg => "image/jpeg"

/-- The ending of the names of files of the type. -/
def extension : ImageType → String
  | png => "png"
  | jpeg => "jpg"

/-- The bytes that every image of the type starts with. -/
def signature : ImageType → List UInt8
  | png => [0x89, 0x50, 0x4e, 0x47, 0x0d, 0x0a, 0x1a, 0x0a]
  | jpeg => [0xff, 0xd8, 0xff]

def sniff (data : List UInt8) : Option ImageType :=
  [png, jpeg].find? fun type => type.signature.isPrefixOf data

end ImageType

/-- The name of a media type without its parameters. -/
def canonicalMime (mime : String) : String :=
  let name := String.ofList (lowered (trimmed (mime.toList.takeWhile (· != ';'))))
  if name = "image/jpg" then ImageType.jpeg.mime else name

inductive ImageOrigin where
  | inline
  | url
  deriving DecidableEq, Repr

def ImageOrigin.name : ImageOrigin → String
  | inline => "inline"
  | url => "url"

structure Image where
  data : List UInt8
  type : ImageType
  origin : ImageOrigin
  deriving DecidableEq, Repr

def Image.size (i : Image) : Nat := i.data.length

/-- The media types that are accepted when none are named. -/
def usualImageTypes : List String := ["image/png", "image/jpeg", "image/jpg"]

structure ImageLimits where
  maxBytes : Int := 10 * 1024 * 1024
  acceptedTypes : List String := usualImageTypes
  deriving DecidableEq, Repr

/-- The accepted types, each once and in order. -/
def ImageLimits.accepted (limits : ImageLimits) : List String :=
  let types := if limits.acceptedTypes.isEmpty then usualImageTypes else limits.acceptedTypes
  (types.map canonicalMime).eraseDups.mergeSort fun a b => a ≤ b

/-- Why there is no image: a failure, a value that stands for none (a length that is no number, an
answer from an address without a scheme), or an address that is none. -/
inductive ImageRefusal where
  | rejected (failure : Failure)
  | badValue (message : String)
  | badAddress (message : String)

namespace ImageRefusal

def input (message : String) (details : Fields) : ImageRefusal :=
  .rejected (.ofInput message details)

def tooLarge (size maxBytes : Int) : ImageRefusal :=
  input s!"Image exceeds maximum size of {maxBytes / (1024 * 1024)}MB"
    [("size", .int size), ("max_bytes", .int maxBytes)]

def empty : ImageRefusal := input "Image is empty" []

def missing : ImageRefusal := input "Image is required" []

def notAccepted (limits : ImageLimits) : ImageRefusal :=
  input "Image content is not an accepted type" [("accepted_types", .strings limits.accepted)]

def mismatch (declared : String) (type : ImageType) : ImageRefusal :=
  input s!"Declared image type {declared} does not match content ({type.mime})" []

def notDataUrl : ImageRefusal :=
  input "Image data URL must be of the form data:image/<type>;base64,<data>" []

def notBase64 : ImageRefusal := input "Image data URL is not valid base64" []

def notUrl : ImageRefusal := input "Image must be a base64 data URL or an http(s) URL" []

def notFetched (url : String) : ImageRefusal :=
  input "Image reference could not be fetched" [("url", .str url)]

def badStatus (url : String) (status : Int) : ImageRefusal :=
  input s!"Image reference could not be fetched (HTTP {status})" [("url", .str url)]

end ImageRefusal

/-- A size above the limit is refused. -/
def checkSize (limits : ImageLimits) (size : Int) : Except ImageRefusal Unit :=
  if size > limits.maxBytes then .error (.tooLarge size limits.maxBytes) else .ok ()

/-- The image that bytes hold. A declared image type must be that of the content; any other
declaration does not count. -/
def imageOf (limits : ImageLimits) (data : List UInt8) (declared : String) (origin : ImageOrigin) :
    Except ImageRefusal Image :=
  if data.isEmpty then .error .empty
  else
    match ImageType.sniff data with
    | none => .error (.notAccepted limits)
    | some type =>
      let name := canonicalMime declared
      if !limits.accepted.contains type.mime then .error (.notAccepted limits)
      else if startsWith name "image/" && name != type.mime then .error (.mismatch name type)
      else .ok ⟨data, type, origin⟩

end DesignToCode
