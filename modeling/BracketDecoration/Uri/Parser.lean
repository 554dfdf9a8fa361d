import BracketDecoration.Uri.Domain
import BracketDecoration.Uri.Path

/-!
Reading addresses after the URL standard of the web. Main definition: `Uri.parse`.

The schemes of the web and of files are special: their paths are never empty and a backslash in them is a slash.
-/

namespace BracketDecoration.Uri

def trimmed (source : String) : List Char :=
  let behind := source.toList.dropWhile fun char => char ≤ ' '
  (behind.reverse.dropWhile fun char => char ≤ ' ').reverse

inductive SchemeKind where
  | file
  | web (defaultPort : Nat)
  | other
deriving DecidableEq, Repr

def schemeKind (scheme : String) : SchemeKind :=
  if scheme = "file" then .file
  else if scheme = "http" || scheme = "ws" then .web 80
  else if scheme = "https" || scheme = "wss" then .web 443
  else if scheme = "ftp" then .web 21
  else .other

namespace SchemeKind

def isSpecial : SchemeKind → Bool
  | .other => false
  | _ => true

end SchemeKind

def isSchemeChar (char : Char) : Bool :=
  char.isAlphanum || char = '+' || char = '-' || char = '.'

def splitScheme? (input : List Char) : Option (String × List Char) :=
  match input with
  | first :: _ =>
    if first.isAlpha then
      match input.dropWhile isSchemeChar with
      | ':' :: rest => some (String.ofList ((input.takeWhile isSchemeChar).map Char.toLower), rest)
      | _ => none
    else none
  | [] => none

def endsAuthority (special : Bool) (char : Char) : Bool :=
  char = '/' || char = '?' || char = '#' || (special && char = '\\')

def endsPath (char : Char) : Bool :=
  char = '?' || char = '#'

/-- The written form of user information. A password behind the first colon is left out if it is empty. -/
def userInfoText (info : List Char) : String :=
  let name := encode .userInfo (info.takeWhile (· ≠ ':'))
  let password := encode .userInfo ((info.dropWhile (· ≠ ':')).drop 1)
  let written := name ++ if password.isEmpty then [] else ':' :: password
  String.ofList (if written.isEmpty then [] else written ++ ['@'])

/-- The user information of an authority in written form, and the text behind it. It reaches to the last sign
for it; a sign alone may not be all there is. -/
def splitUserInfo (special : Bool) (input : List Char) : Except Error (String × List Char) :=
  let authority := input.takeWhile fun char => !endsAuthority special char
  let remaining := input.drop authority.length
  if authority.contains '@' then
    let host := (authority.reverse.takeWhile (· ≠ '@')).reverse
    let info := authority.take (authority.length - host.length - 1)
    if info.isEmpty && host.isEmpty && !remaining.isEmpty then .error .emptyHost
    else .ok (userInfoText info, host ++ remaining)
  else .ok ("", input)

def hostLength (special : Bool) : Bool → List Char → Nat
  | _, [] => 0
  | inBrackets, char :: rest =>
    if (char = ':' && !inBrackets) || endsAuthority special char then 0
    else hostLength special (char = '[' || (inBrackets && char ≠ ']')) rest + 1

/-- The number of a port, unless it is left out or the one that the scheme implies, and the text behind it. -/
def splitPort (implied : Option Nat) (input : List Char) : Except Error (Option Nat × List Char) :=
  let digits := input.takeWhile Char.isDigit
  let remaining := input.drop digits.length
  let port := (Text.natOfDigits? 10 digits).getD 0
  let ended := match remaining with
    | [] => true
    | next :: _ => next = '/' || next = '\\' || next = '?' || next = '#'
  if port > 65535 || !ended then .error .badPort
  else .ok (if digits.isEmpty || implied = some port then none else some port, remaining)

def splitAuthority (kind : SchemeKind) (input : List Char) : Except Error (Authority × List Char) := do
  let (userInfo, afterInfo) ← splitUserInfo kind.isSpecial input
  let name := afterInfo.take (hostLength kind.isSpecial false afterInfo)
  let afterName := afterInfo.drop name.length
  if kind.isSpecial && name.isEmpty then throw .emptyHost
  let host ← if kind.isSpecial then domainHost name else opaqueHost name
  if host.isEmpty && afterName.head? = some ':' then throw .emptyHost
  let implied := match kind with
    | .web port => some port
    | _ => none
  let (port, rest) ← match afterName with
    | ':' :: afterColon => splitPort implied afterColon
    | _ => pure (none, afterName)
  if host.isEmpty && userInfo ≠ "" then throw .emptyHost
  return (⟨userInfo, String.ofList host, port⟩, rest)

def withEnding (kind : SchemeKind) (scheme : String) (authority : Option Authority) (path : List Char)
    (input : List Char) : Uri :=
  let queryKind := if kind.isSpecial then Component.specialQuery else Component.query
  let beforeFragment := input.takeWhile (· ≠ '#')
  { scheme, authority
    path := String.ofList path
    query := match beforeFragment with
      | '?' :: query => some (String.ofList (encode queryKind query))
      | _ => none
    fragment := match input.drop beforeFragment.length with
      | '#' :: fragment => some (String.ofList (encode .fragment fragment))
      | _ => none }

def parseHierarchical (kind : SchemeKind) (scheme : String) (input : List Char) : Except Error Uri := do
  let (authority, rest) ← splitAuthority kind input
  let written := rest.takeWhile fun char => !endsPath char
  let ending := rest.drop written.length
  let path :=
    if written.isEmpty && !kind.isSpecial then []
    else pathText kind.isSpecial (dropSlash kind.isSpecial written)
  return withEnding kind scheme (some authority) path ending

/-- The host of a file and the text of its path; the text begins behind two slashes. The own host of the machine is
not written, and the letter of a drive in the place of a host belongs to the path. -/
def splitFileHost (input : List Char) : Except Error (List Char × List Char) := do
  let name := input.takeWhile fun char => !endsAuthority true char
  let rest := input.drop name.length
  if isDrive (counted name) then return ([], input)
  if (counted name).isEmpty then return ([], rest)
  let host ← domainHost (counted name)
  return if host = "localhost".toList then ([], rest) else (host, dropSlash true rest)

/-- The address of a file; the text begins behind the colon of the scheme. A path on a drive has no host. -/
def parseFile (input : List Char) : Except Error Uri := do
  let slashes := ((counted input).takeWhile fun char => char = '/' || char = '\\').length
  let (host, rest) ←
    if slashes ≥ 2 then splitFileHost (dropCounted 2 input) else pure ([], dropSlash true input)
  let written := rest.takeWhile fun char => !endsPath char
  let place := Place.follow Place.enterFile (segments true written)
  let kept := if place.onDrive then [] else host
  return withEnding .file "file" (some { Authority.empty with host := String.ofList kept })
    place.fileText (counted (rest.drop written.length))

/-- Any other address without an authority: a path behind a slash is resolved, any other is kept. -/
def parseOpaque (scheme : String) (input : List Char) : Uri :=
  let written := input.takeWhile fun char => !endsPath char
  let ending := input.drop written.length
  let path := match written with
    | '/' :: inner => pathText false inner
    | _ => encode .opaquePath written
  withEnding .other scheme none path ending

def parse (source : String) : Except Error Uri :=
  match splitScheme? (counted (trimmed source)) with
  | none => .error .relative
  | some (scheme, rest) =>
    match schemeKind scheme with
    | .file => parseFile (((trimmed source).dropWhile (· ≠ ':')).drop 1)
    | .web port =>
      parseHierarchical (.web port) scheme (rest.dropWhile fun char => char = '/' || char = '\\')
    | .other =>
      match rest with
      | '/' :: '/' :: authority => parseHierarchical .other scheme authority
      | _ => .ok (parseOpaque scheme rest)

/-- The path of a file as bytes, if the file is on this machine. A drive alone is its topmost place. -/
def filePath? (uri : Uri) : Option (List UInt8) :=
  match uri.authority with
  | some authority =>
    if authority.host = "" then
      let bytes := decode (Text.bytes uri.path.toList)
      match bytes.reverse with
      | mark :: letter :: _ :: _ =>
        let isLetter := (65 ≤ letter && letter ≤ 90) || (97 ≤ letter && letter ≤ 122)
        some (if isLetter && (mark = 58 || mark = 124) then bytes ++ [47] else bytes)
      | _ => some bytes
    else none
  | none => none

/-- The path that scopes look at: that of the file, and for all other addresses the path as written. -/
def documentPath (uri : Uri) : List UInt8 :=
  let written := Text.bytes uri.path.toList
  if uri.scheme = "file" then uri.filePath?.getD written else written

end BracketDecoration.Uri
