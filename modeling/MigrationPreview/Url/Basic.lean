import MigrationPreview.Url.Host

/-!
# URLs

The parts of an absolute URL, after the URL standard. Texts are kept in their encoded form. The
special schemes are those of the web; under them, backslashes count as slashes, and two slashes
before the host may be left out.

## Main definitions

* `Url`: a URL in its parts
* `Url.parse?`: the URL that a text denotes
* `Url.queryPairs`: the names and values of a query
-/

namespace MigrationPreview

/-- A URL in its parts. The fragment is not kept. -/
structure Url where
  scheme : List Char
  username : List Char := []
  password : List Char := []
  host : Option (List Char) := none
  /-- The port, unless it is the default one of the scheme. -/
  port : Option Nat := none
  path : List Char := []
  query : Option (List Char) := none
  deriving DecidableEq

namespace Url

/-! ### Schemes -/

/-- The special schemes with their default ports. -/
def specialSchemes : List (List Char × Option Nat) :=
  [("http".toList, some 80), ("https".toList, some 443), ("ws".toList, some 80),
    ("wss".toList, some 443), ("ftp".toList, some 21), ("file".toList, none)]

/-- Whether a scheme is special. -/
def isSpecial (scheme : List Char) : Bool := (specialSchemes.lookup scheme).isSome

/-- The default port of a scheme. -/
def defaultPort? (scheme : List Char) : Option Nat := (specialSchemes.lookup scheme).join

/-- Whether a character may stand in a scheme behind its first letter. -/
def isSchemeChar (c : Char) : Bool := c.isAlphanum || c == '+' || c == '-' || c == '.'

/-- Reads a scheme and its colon. -/
def readScheme (cs : List Char) : Option (List Char × List Char) :=
  match cs.takeWhile isSchemeChar, cs.dropWhile isSchemeChar with
  | c :: scheme, ':' :: rest =>
    if c.isAlpha then some ((c :: scheme).map Char.toLower, rest) else none
  | _, _ => none

/-- Whether a character ends the authority of a URL. -/
def endsAuthority (special : Bool) (c : Char) : Bool :=
  c == '/' || c == '?' || c == '#' || (special && c == '\\')

/-! ### Credentials and hosts -/

/-- The text before the last at sign, if there is one, and the text behind it. -/
def splitAtLastAt (cs : List Char) : Option (List Char) × List Char :=
  let behind := (cs.reverse.takeWhile (· != '@')).reverse
  if behind.length = cs.length then (none, cs)
  else (some (cs.take (cs.length - behind.length - 1)), behind)

/-- The user name and the password of credentials, in encoded form. -/
def readUserinfo (cs : List Char) : List Char × List Char :=
  let username := cs.takeWhile (· != ':')
  let password := (cs.dropWhile (· != ':')).drop 1
  (percentEncode isUserinfoEncoded username, percentEncode isUserinfoEncoded password)

/-- The text of a host up to the colon before the port, which does not count within brackets. -/
def takeHost : Bool → List Char → List Char
  | _, [] => []
  | bracketed, c :: cs =>
    if c = ':' ∧ !bracketed then []
    else c :: takeHost (if c = '[' then true else if c = ']' then false else bracketed) cs

/-- Reads a port behind its colon. The port is absent where it has no digits; a backslash ends it,
and belongs to the path. -/
def readPort (cs : List Char) : Option (Option Nat × List Char) :=
  let digits := cs.takeWhile Char.isDigit
  let rest := cs.dropWhile Char.isDigit
  let port := digits.foldl (fun n d => 10 * n + (d.toNat - '0'.toNat)) 0
  if 65535 < port ∨ (!rest.isEmpty ∧ rest.head? ≠ some '\\') then none
  else some (if digits.isEmpty then none else some port, rest)

/-- Reads the host and the port of an authority behind its credentials. The rest is what belongs to
the path. An empty host is allowed only alone and only under a scheme that is not special. -/
def readHostAndPort (scheme : List Char) (cs : List Char) :
    Option (Option (List Char) × Option Nat × List Char) := do
  let special := isSpecial scheme
  let hostText := takeHost false cs
  let host ← if special then domainHost? hostText else opaqueHost? hostText
  -- what is left begins with the colon before the port
  match cs.drop hostText.length with
  | [] => return (if host.isEmpty then none else some host, none, [])
  | _ :: portText =>
    if host.isEmpty then none
    else
      let (port, rest) ← readPort portText
      return (some host, if port = defaultPort? scheme then none else port, rest)

/-! ### Paths -/

/-- Whether a text is the letter of a drive with its colon or bar. -/
def isDriveLetter : List Char → Bool
  | [c, d] => c.isAlpha && (d == ':' || d == '|')
  | _ => false

/-- The segments, in reverse, without the last one. The letter of a drive stays. -/
def dropSegment : List (List Char) → List (List Char)
  | [] => []
  | s :: kept => if isDriveLetter s then s :: kept else kept

/-- The path of some segments, from left to right: a segment of one dot is left out, and one of two
dots takes the segment before it away. The first argument holds the segments so far, in reverse. -/
def resolveSegments : List (List Char) → List (List Char) → List (List Char)
  | kept, [] => kept.reverse
  | kept, s :: rest =>
    let plain := (percentEncode isPathEncoded s)
    let dots := String.ofList (plain.map Char.toLower)
    -- dots at the end leave an empty segment, so that the path ends in a slash
    if dots ∈ ["..", ".%2e", "%2e.", "%2e%2e"] then
      resolveSegments (if rest.isEmpty then [] :: dropSegment kept else dropSegment kept) rest
    else if dots ∈ [".", "%2e"] then
      resolveSegments (if rest.isEmpty then [] :: kept else kept) rest
    else resolveSegments (plain :: kept) rest

/-- The segments of a path that is given without its first slash. -/
def splitSegments (special : Bool) (cs : List Char) : List (List Char) :=
  (if special then cs.map fun c => if c = '\\' then '/' else c else cs).splitOn '/'

/-- The path that a text stands for, which begins with a slash unless it is empty. -/
def readPath (special : Bool) (cs : List Char) : List Char :=
  let path := match cs with
    | [] => []
    | c :: rest =>
      let inner := if c = '/' ∨ (special ∧ c = '\\') then rest else c :: rest
      '/' :: ['/'].intercalate (resolveSegments [] (splitSegments special inner))
  if special ∧ path.isEmpty then ['/'] else path

/-- The path and the query in the text behind the authority. -/
def readPathAndQuery (special : Bool) (cs : List Char) : List Char × Option (List Char) :=
  let pathText := cs.takeWhile fun c => c != '?' && c != '#'
  let query := match cs.drop pathText.length with
    | '?' :: rest => some (rest.takeWhile (· != '#'))
    | _ => none
  (readPath special pathText, query)

/-! ### URLs -/

/-- Reads what stands behind the slashes before the authority. -/
def readAuthority (scheme : List Char) (cs : List Char) : Option Url := do
  let special := isSpecial scheme
  let authority := cs.takeWhile (!endsAuthority special ·)
  let rest := cs.drop authority.length
  let (userinfo, hostAndPort) := splitAtLastAt authority
  if userinfo = some [] ∧ hostAndPort.isEmpty ∧ !rest.isEmpty then none
  else
    let (username, password) := readUserinfo (userinfo.getD [])
    let (host, port, pathStart) ← readHostAndPort scheme hostAndPort
    if host.isNone ∧ !(username.isEmpty && password.isEmpty) then none
    else
      let (path, query) := readPathAndQuery special (pathStart ++ rest)
      return { scheme, username, password, host, port, path, query }

/-- Reads a URL of the scheme for files behind its colon. It has a host only behind two slashes;
the local host and hosts before the letter of a drive are dropped. -/
def readFileUrl (scheme : List Char) (cs : List Char) : Option Url := do
  let isSlash := fun c => c == '/' || c == '\\'
  match cs with
  | a :: b :: rest =>
    if isSlash a && isSlash b then
      let hostText := rest.takeWhile (!endsAuthority true ·)
      let (path, query) := readPathAndQuery true (rest.drop hostText.length)
      let drive := isDriveLetter ((path.drop 1).takeWhile (· != '/'))
      if hostText.isEmpty ∨ isDriveLetter hostText then return { scheme, path, query }
      else
        let host ← domainHost? hostText
        if host = "localhost".toList ∨ drive then return { scheme, path, query }
        else return { scheme, host := some host, path, query }
    else return { scheme }
  | _ => return { scheme }

/-- Reads what stands behind the colon of a scheme. -/
def readBehindScheme (scheme : List Char) (cs : List Char) : Option Url :=
  if scheme = "file".toList then readFileUrl scheme cs
  else if isSpecial scheme then
    readAuthority scheme (cs.dropWhile fun c => c == '/' || c == '\\')
  else
    match cs with
    | '/' :: '/' :: rest => readAuthority scheme rest
    | _ => some { scheme }

/-- The URL that a text denotes. Control characters and spaces around it, and tabs and line ends
anywhere in it, are dropped. The path and the query are not kept where there is no host. -/
def parse? (text : String) : Option Url := do
  let isOuter := fun c : Char => c.toNat ≤ 0x20
  let trimmed := ((text.toList.dropWhile isOuter).reverse.dropWhile isOuter).reverse
  let cs := trimmed.filter fun c => c != '\t' && c != '\n' && c != '\r'
  let (scheme, rest) ← readScheme cs
  readBehindScheme scheme rest

/-! ### Queries -/

/-- The bytes of a part of a query, in which a plus sign stands for a space. -/
def decodeQueryPart (cs : List Char) : List UInt8 :=
  percentDecode (cs.map fun c => if c = '+' then ' ' else c)

/-- The names and values of a query, decoded. -/
def queryPairs (query : List Char) : List (List UInt8 × List UInt8) :=
  (query.splitOn '&').filter (!·.isEmpty) |>.map fun part =>
    (decodeQueryPart (part.takeWhile (· != '=')),
      decodeQueryPart ((part.dropWhile (· != '=')).drop 1))

end Url

end MigrationPreview
