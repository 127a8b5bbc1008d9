import ServiceTree.Http.Host
import ServiceTree.Http.UrlPath
import ServiceTree.Json.Writer
import ServiceTree.Number.Basic

/-!
# Addresses

Absolute URLs, as far as a base address needs them. Reading puts an address into its normal form: the
scheme and the host of the schemes of the web in small letters, the port only where it is not the usual
one, and no dots as segments of the path. A path without a leading slash and without a host is one
piece of text and has no segments.
-/

namespace ServiceTree

/-- An absolute URL in its normal form. -/
structure Url where
  scheme : List Char
  /-- User, host and port. -/
  authority : Option (List Char)
  /-- Whether a dot is written in front of the path, so that its first segments are not taken for a host. -/
  isSetOff : Bool
  path : UrlPath
  query : Option (List Char)
  fragment : Option (List Char)
  deriving DecidableEq, Repr

namespace Url

/-- The schemes of the web, with their usual ports. -/
def webSchemes : List (String × Nat) :=
  [("http", 80), ("https", 443), ("ws", 80), ("wss", 443), ("ftp", 21)]

/-- The kind of a scheme. -/
def kindOf (scheme : List Char) : SchemeKind :=
  if scheme = "file".toList then .file
  else if webSchemes.any fun entry => entry.1.toList == scheme then .web
  else .other

/-- The kind of the scheme of a URL. -/
def kind (url : Url) : SchemeKind := kindOf url.scheme

/-- The text in front of the last sign `@`, if there is one, and the text behind it. -/
def splitUser (authority : List Char) : Option (List Char) × List Char :=
  if authority.contains '@' then
    let host := (authority.reverse.takeWhile (· ≠ '@')).reverse
    (some (authority.take (authority.length - host.length - 1)), host)
  else (none, authority)

/-- The name and the password in front of a host. -/
def userText (user : List Char) : List Char :=
  let (name, password) := Text.cut (· == ':') user
  let name := Percent.encode Percent.inUserinfo name
  let password := Percent.encode Percent.inUserinfo (password.getD [])
  if name.isEmpty && password.isEmpty then []
  else if password.isEmpty then name ++ ['@']
  else name ++ ':' :: (password ++ ['@'])

/-- The port of a text, nothing where it is empty or the usual one of its scheme. -/
def portText? (scheme port : List Char) : Option (List Char) :=
  if port.all Char.isDigit then
    let number := readDigits port
    if UInt16.size ≤ number then none
    else if port.isEmpty || webSchemes.lookup (String.ofList scheme) == some number then some []
    else some (':' :: Nat.toDigits 10 number)
  else none

/-- The normal form of a host behind a user, which is empty only where neither user nor port is given. -/
def hostText? (kind : SchemeKind) (user : Bool) (host : List Char) (port : Bool) : Option (List Char) :=
  if host.isEmpty && (kind != .other || user || port) then none
  else if kind = .other then Host.opaqueText? host
  else Host.web? host

/-- The normal form of user, host and port, and the text behind the port that belongs to the path. Text
that is not the end of the address may not follow a mere sign `@`. -/
def readAuthority (scheme text : List Char) (isEnd : Bool) : Option (List Char × List Char) := do
  if text = ['@'] && !isEnd then none
  let (user, rest) := splitUser text
  let user := (user.map userText).getD []
  let (host, behind) := Host.split false rest
  let host ← hostText? (kindOf scheme) (!user.isEmpty) host (!behind.isEmpty)
  let port := (behind.drop 1).takeWhile (· ≠ '\\')
  return (user ++ host ++ (← portText? scheme port), (behind.drop 1).dropWhile (· ≠ '\\'))

/-- The host of a file, which has neither user nor port. This very host need not be named. -/
def fileHost? (host : List Char) : Option (List Char) :=
  if host.isEmpty then some []
  else (Host.web? host).map fun host => if host = "localhost".toList then [] else host

/-- The address of a file behind the scheme and its colon. A host follows two slashes only, and a path
that begins with a drive needs none. -/
def readFile (body : List Char) : Option (List Char × List (List Char)) :=
  let text := (body.drop 2).takeWhile fun c => !SchemeKind.file.isSlash c
  if !(body.length ≥ 2 && (body.take 2).all SchemeKind.file.isSlash) then
    some ([], UrlPath.readSegments .file body)
  else if UrlPath.isDrive text then some ([], UrlPath.readSegments .file (body.drop 2))
  else
    let segments := UrlPath.readSegments .file ((body.drop 2).dropWhile fun c => !SchemeKind.file.isSlash c)
    (fileHost? text).map fun host => (if (segments.head?).any UrlPath.isDrive then [] else host, segments)

/-- The address behind a scheme and its colon, without query and fragment, which may be its end. -/
def readBody (scheme body : List Char) (isEnd : Bool) : Option (Option (List Char) × UrlPath) :=
  let kind := kindOf scheme
  let withAuthority (text : List Char) := do
    let path := text.dropWhile fun c => !kind.isSlash c
    let (authority, behind) ←
      readAuthority scheme (text.takeWhile fun c => !kind.isSlash c) (isEnd && path.isEmpty)
    return (some authority, .segments (UrlPath.readSegments kind (behind ++ path)))
  match kind, body with
  | .file, _ => (readFile body).map fun (host, segments) =>
    (some host, .segments (UrlPath.withoutEmptyFront segments))
  | .web, _ => withAuthority (body.dropWhile kind.isSlash)
  | .other, '/' :: '/' :: rest => withAuthority rest
  | .other, '/' :: rest => some (none, .segments (UrlPath.readSegments kind ('/' :: rest)))
  | .other, _ => some (none, .text (Percent.encode Percent.isControl body))

/-- Characters that addresses leave out. -/
def isDropped (c : Char) : Bool := c == '\t' || c == '\n' || c == '\r'

/-- Whether a text can be a scheme. -/
def isScheme (text : List Char) : Bool :=
  match text with
  | [] => false
  | c :: rest => c.isAlpha && rest.all fun c => c.isAlphanum || ['+', '-', '.'].contains c

/-- Whether the text of a path could be taken for a host. -/
def looksLikeHost : UrlPath → Bool
  | .text _ => false
  | .segments segments => segments.head? = some [] && 1 < segments.length

/-- The URL that a text writes. -/
def read? (text : String) : Option Url := do
  let trimmed := (text.toList.dropWhile (·.toNat ≤ 0x20)).reverse.dropWhile (·.toNat ≤ 0x20)
  let visible := trimmed.reverse.filter fun c => !isDropped c
  let (scheme, behind) := Text.cut (· == ':') visible
  let scheme := scheme.map Char.toLower
  if !isScheme scheme then none
  let (front, fragment) := Text.cut (· == '#') (← behind)
  let (body, query) := Text.cut (· == '?') front
  let (authority, path) ← readBody scheme body (query.isNone && fragment.isNone)
  return {
    scheme := scheme
    authority := authority
    isSetOff := authority.isNone && looksLikeHost path
    path := path
    query := query.map (Percent.encode (Percent.inQuery (kindOf scheme != .other)))
    fragment := fragment.map (Percent.encode Percent.inFragment) }

/-- A part of an address behind its marker, if there is one. -/
def marked (marker : Char) : Option (List Char) → List Char
  | some text => marker :: text
  | none => []

/-- What stands between the scheme and the path. -/
def siteText (url : Url) : List Char :=
  match url.authority with
  | some authority => '/' :: '/' :: authority
  | none => if url.isSetOff then ['/', '.'] else []

/-- The text of a URL. -/
def write (url : Url) : String :=
  String.ofList (url.scheme ++ ':' :: (url.siteText ++ url.path.write ++
    marked '?' url.query ++ marked '#' url.fragment))

end Url

end ServiceTree
