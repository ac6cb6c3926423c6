import DesignToCode.Number.Numeral
import DesignToCode.Text.Utf8
import DesignToCode.Web.Host

set_option autoImplicit false

/-!
Addresses of the web, taken apart and written as they are asked for: scheme and host in small
letters, no channel that the scheme implies, no dots that stand for a step in the path, and percent
codes for what may not stand in a part.
-/
namespace DesignToCode.Web

open DesignToCode.Text

/-- Why a text is no address. -/
inductive AddressFault where
  | tooLong
  | unprintable (mark : Char) (position : Nat)
  | badHost (fault : HostFault) (host : String)
  | badChannel (channel : String)
  | noSlash
  | doubleSlash
  | leadingColon
  deriving DecidableEq, Repr

namespace AddressFault

def message : AddressFault → String
  | tooLong => "URL too long"
  | unprintable mark position =>
    s!"Invalid non-printable ASCII character in URL, {quote (String.singleton mark)}" ++
      s!" at position {position}."
  | badHost .notVersion4 host => s!"Invalid IPv4 address: {quote host}"
  | badHost .notVersion6 host => s!"Invalid IPv6 address: {quote host}"
  | badChannel channel => s!"Invalid port: {quote channel}"
  | noSlash => "For absolute URLs, path must be empty or begin with '/'"
  | doubleSlash => "Relative URLs cannot have a path starting with '//'"
  | leadingColon => "Relative URLs cannot have a path starting with ':'"

end AddressFault

/-- The parts of an address as a text has them. -/
structure Written where
  scheme : List Char := []
  authority : List Char := []
  path : List Char := []
  query : Option (List Char) := none
  fragment : Option (List Char) := none

namespace Written

/-- A letter and then letters, digits, `+`, `-` and points; or nothing. -/
def isScheme : List Char → Bool
  | [] => true
  | c :: rest =>
    isAsciiLetter c && rest.all fun d => isAsciiAlphanumeric d || "+.-".toList.contains d

/-- The scheme, and the text behind its colon. -/
def takeScheme (cs : List Char) : List Char × List Char :=
  match cut ':' cs with
  | (name, some rest) => if isScheme name then (name, rest) else ([], cs)
  | (_, none) => ([], cs)

/-- What follows two slashes up to path, query or fragment, and the text behind it. -/
def takeAuthority : List Char → List Char × List Char
  | '/' :: '/' :: rest => rest.span fun c => c != '/' && c != '?' && c != '#'
  | cs => ([], cs)

/-- The text up to the first `?`, and what follows. -/
def takeQuery (target : List Char) : List Char × Option (List Char) := cut '?' target

def ofText (cs : List Char) : Written :=
  let (scheme, rest) := takeScheme cs
  let (authority, rest) := takeAuthority rest
  let (target, fragment) := cut '#' rest
  let (path, query) := takeQuery target
  ⟨scheme, authority, path, query, fragment⟩

end Written

/-- Who is asked: a user before the last `@`, a host, and the number of a channel behind a colon. -/
structure Authority where
  user : List Char
  host : List Char
  channel : List Char

/-- The host ends at the first colon, or with the last closing bracket if it starts with one. -/
def takeHost (cs : List Char) : List Char × List Char :=
  let inBrackets := (cs.reverse.dropWhile (· != ']')).reverse
  if cs.head? = some '[' && !inBrackets.isEmpty then (inBrackets, cs.drop inBrackets.length)
  else cs.span (· != ':')

def Authority.ofText (cs : List Char) : Authority :=
  let place := (cs.reverse.takeWhile (· != '@')).reverse
  let (host, rest) := takeHost place
  { user := cs.take (cs.length - place.length - 1)
    host := host
    channel := if rest.head? = some ':' then rest.drop 1 else rest }

/-- The channels that schemes imply. -/
def impliedChannels : List (String × Int) :=
  [("ftp", 21), ("http", 80), ("https", 443), ("ws", 80), ("wss", 443)]

/-- A channel that does not go without saying. -/
def readChannel (scheme channel : List Char) : Except AddressFault (Option Int) :=
  if channel.isEmpty then .ok none
  else
    match Numeral.int channel with
    | .error _ => .error (.badChannel (String.ofList channel))
    | .ok n => .ok (if impliedChannels.lookup (String.ofList scheme) = some n then none else some n)

/-- A path without the steps `.` and `..`, which go nowhere and back. -/
def stepped (path : List Char) : List Char :=
  let segments := pieces '/' path
  let walk (done : List (List Char)) (segment : List Char) : List (List Char) :=
    if segment = ['.'] then done
    else if segment = ['.', '.'] then if done = [[]] then done else done.dropLast
    else done ++ [segment]
  if segments.contains ['.'] || segments.contains ['.', '.'] then
    List.intercalate ['/'] (segments.foldl walk [])
  else path

/-- What may stand in a part of an address beside the characters that the part excludes. -/
def staysIn (excluded : String) (c : Char) : Bool :=
  0x21 ≤ c.toNat && c.toNat ≤ 0x7e && !excluded.toList.contains c

def outOfFragment : String := "\"<>`"

def outOfQuery : String := "\"#<>"

def outOfPath : String := outOfQuery ++ "?`\x7b\x7d"

def outOfUser : String := outOfPath ++ "/;=@[\\]^|"

structure Address where
  scheme : String := ""
  user : String := ""
  host : String := ""
  channel : Option Int := none
  path : String := ""
  query : Option String := none
  fragment : Option String := none
  deriving DecidableEq, Repr

namespace Address

/-- The longest text that is taken for an address. -/
def lengthLimit : Nat := 65536

def hasAuthority (a : Address) : Bool := !a.user.isEmpty || !a.host.isEmpty || a.channel.isSome

/-- The path of an address fits what stands before it. -/
def checkPath (a : Address) : Except AddressFault Unit :=
  if a.hasAuthority then
    if a.path.isEmpty || startsWith a.path "/" then .ok () else .error .noSlash
  else if !a.scheme.isEmpty then .ok ()
  else if startsWith a.path "//" then .error .doubleSlash
  else if startsWith a.path ":" then .error .leadingColon
  else .ok ()

/-- The parts as they are asked for. -/
def ofWritten (w : Written) : Except AddressFault Address := do
  let encoded (excluded : String) (cs : List Char) : String :=
    String.ofList (percentEncoded (staysIn excluded) cs)
  let who := Authority.ofText w.authority
  let host ← (readHost who.host).mapError fun fault => .badHost fault (String.ofList who.host)
  let channel ← readChannel w.scheme who.channel
  let bare : Address := {
    scheme := String.ofList (w.scheme.map Char.toLower)
    user := encoded outOfUser who.user
    host := String.ofList host
    channel := channel
    query := w.query.map (encoded outOfQuery)
    fragment := w.fragment.map (encoded outOfFragment) }
  let path := if bare.scheme.isEmpty && !bare.hasAuthority then w.path else stepped w.path
  let address := { bare with path := encoded outOfPath path }
  address.checkPath
  return address

def isControl (c : Char) : Bool := c.toNat < 0x20 || c.toNat = 0x7f

def parse (text : String) : Except AddressFault Address :=
  let cs := text.toList
  if cs.length > lengthLimit then .error .tooLong
  else
    match cs.find? isControl with
    | some mark => .error (.unprintable mark (cs.takeWhile (!isControl ·)).length)
    | none => ofWritten (.ofText cs)

/-- User, host and channel in one; a host with colons stands in brackets. -/
def authority (a : Address) : String :=
  (if a.user.isEmpty then "" else a.user ++ "@") ++
    (if a.host.toList.contains ':' then s!"[{a.host}]" else a.host) ++
    ((a.channel.map fun channel => s!":{channel}").getD "")

def text (a : Address) : String :=
  (if a.scheme.isEmpty then "" else a.scheme ++ ":") ++
    (if a.authority.isEmpty then "" else "//" ++ a.authority) ++ a.path ++
    ((a.query.map ("?" ++ ·)).getD "") ++ ((a.fragment.map ("#" ++ ·)).getD "")

/-- An address that says by itself where to ask. -/
def isAbsolute (a : Address) : Bool := !a.scheme.isEmpty && !a.host.isEmpty

/-- Path and query as they are asked for; the path is a slash if it is empty. -/
def target (a : Address) : String :=
  (if a.path.isEmpty then "/" else a.path) ++ (a.query.map ("?" ++ ·)).getD ""

/-- The text that the path stands for. -/
def pathText (a : Address) : String :=
  if a.path.isEmpty then "/" else Utf8.decode (percentBytes a.path.toList)

/-- The address with another path and query. -/
def withTarget (a : Address) (target : String) : Except AddressFault Address :=
  let (path, query) := Written.takeQuery target.toList
  ofWritten {
    scheme := a.scheme.toList
    authority := a.authority.toList
    path := path
    query := query
    fragment := a.fragment.map String.toList }

/-- The address that goes on behind another, with one slash between the two. -/
def below (base : Address) (rest : String) : Except AddressFault Address :=
  let slash := if base.target.toList.getLast? = some '/' then "" else "/"
  base.withTarget (base.target ++ slash ++ rest)

/-- What is asked for by an address. One that does not say where has only its path and query. -/
def requested (a : Address) : Address :=
  if a.isAbsolute then a
  else { path := "/" ++ String.ofList (a.path.toList.dropWhile (· = '/')), query := a.query }

/-- What is asked for by an address where one that does not say where goes on behind `home`. -/
def requestedFrom (home a : Address) : Except AddressFault Address :=
  if a.isAbsolute then .ok a
  else home.below (String.ofList (a.target.toList.dropWhile (· = '/')))

/-- Whether an address starts with a name and a colon, without which no answer to it is taken. -/
def isNamed (a : Address) : Bool :=
  match a.text.toList.span fun c => c != ':' && c != '/' with
  | (_ :: _, ':' :: _) => true
  | _ => false

/-- How an address is told that starts with no name. An empty fragment is not told. -/
def unnamedMessage (a : Address) : String :=
  let told : Address := { a with fragment := a.fragment.filter (!·.isEmpty) }
  s!"unknown url type: {quote told.text}"

end Address

end DesignToCode.Web
