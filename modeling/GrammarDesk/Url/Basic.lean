import GrammarDesk.Url.Domain
import GrammarDesk.Url.Percent
import GrammarDesk.Url.Address
import GrammarDesk.Text.Decimal

/-!
# URLs

A URL has a scheme, and behind it either an authority with a host and a path of segments, or
anything at all.  The schemes of the web are lenient: slashes may lean either way and be missing
before the host, and the path always starts with one.  Reading a URL checks it and brings it to its
usual form; credentials are dropped, since no request carries them in its URL.

Main definitions:

- `Url`: a URL by its parts.
- `Url.parse`: the URL that a text writes, or why there is none.
- `Url.render`: the usual form, without a fragment.
-/

namespace GrammarDesk

/-- A URL by its parts, each in its usual form. -/
structure Url where
  scheme : String
  /-- The host, unless the URL has no authority. -/
  host : Option String
  /-- The port, unless it is the usual one of the scheme. -/
  port : Option Nat
  path : String
  query : Option String
deriving DecidableEq

namespace Url

/-! ## Schemes -/

/-- The usual port of a scheme of the web. -/
def usualPort? (scheme : String) : Option Nat :=
  match scheme with
  | "http" | "ws" => some 80
  | "https" | "wss" => some 443
  | "ftp" => some 21
  | _ => none

/-- A scheme of the web, whose URLs always name a host. -/
def isWeb (scheme : String) : Bool := (usualPort? scheme).isSome

/-- A scheme whose URLs have segments that lean either way. -/
def isLenient (scheme : String) : Bool := isWeb scheme || scheme == "file"

/-- What may stand in a scheme behind its first letter. -/
def standsInScheme (c : Char) : Bool :=
  c.isAlphanum || c = '+' || c = '-' || c = '.'

/-- The scheme of a text in small letters, and what follows its colon. -/
def splitScheme? (cs : List Char) : Option (String × List Char) :=
  match cs with
  | [] => none
  | c :: _ =>
    if c.isAlpha then
      match cs.dropWhile standsInScheme with
      | ':' :: rest => some (String.ofList ((cs.takeWhile standsInScheme).map Char.toLower), rest)
      | _ => none
    else none

/-! ## Authorities -/

/-- A slash of the scheme. -/
def isSlash (lenient : Bool) (c : Char) : Bool := c = '/' || (lenient && c = '\\')

/-- What ends an authority. -/
def endsAuthority (lenient : Bool) (c : Char) : Bool :=
  isSlash lenient c || c = '?' || c = '#'

/-- The host of an authority and what follows it; a colon between brackets belongs to the host. -/
def splitHost (inBrackets : Bool) : List Char → List Char × List Char
  | [] => ([], [])
  | c :: cs =>
    if c = ':' && !inBrackets then ([], c :: cs)
    else
      let (host, rest) := splitHost (c = '[' || (inBrackets && c ≠ ']')) cs
      (c :: host, rest)

/-- What no host of another scheme holds. -/
def isForbiddenInOpaque (c : Char) : Bool :=
  c.toNat = 0 || ['\t', '\n', '\r', ' ', '#', '/', ':', '<', '>', '?', '@', '[', '\\', ']', '^',
    '|'].contains c

/-- The address between the brackets of a host. -/
def bracketed (cs : List Char) : Except Fault String :=
  if cs.getLast? = some ']' then
    match ipv6? (cs.drop 1).dropLast with
    | some address => .ok ("[" ++ address ++ "]")
    | none => .error .badIpv6
  else .error .badIpv6

/-- The host of a URL of the web. -/
def webHost (cs : List Char) : Except Fault String :=
  match cs with
  | [] => .error .emptyHost
  | '[' :: _ => bracketed cs
  | cs =>
    match (decode? (String.ofList cs)).bind domain? with
    | none => .error .badDomain
    | some name =>
      if name.isEmpty then .error .emptyHost
      else if endsInNumber name then
        match ipv4? name with
        | some address => .ok address
        | none => .error .badIpv4
      else .ok name

/-- The host of a URL of another scheme. -/
def opaqueHost (cs : List Char) : Except Fault String :=
  match cs with
  | '[' :: _ => bracketed cs
  | cs =>
    if cs.any isForbiddenInOpaque then .error .badHostCharacter
    else .ok (String.ofList (encode (fun _ => true) cs))

/-- The port that digits write, without the usual one of the scheme. -/
def port? (scheme : String) (digits : List Char) : Except Fault (Option Nat) :=
  match Text.digitsValue? 0 digits with
  | some n =>
    if 65535 < n then .error .badPort
    else .ok (if digits.isEmpty || usualPort? scheme = some n then none else some n)
  | none => .error .badPort

/-- The credentials before the last at-sign of an authority, and what follows them. -/
def splitCredentials? (cs : List Char) : Option (List Char × List Char) :=
  if cs.contains '@' then
    let behind := (cs.reverse.takeWhile (· ≠ '@')).reverse
    some (cs.take (cs.length - behind.length - 1), behind)
  else none

/-- The credentials name somebody: there is more than a colon. -/
def namesSomebody (credentials : List Char) : Bool :=
  credentials ≠ [] && credentials ≠ [':']

/-- The host and the port of an authority without credentials, and what follows a backslash behind
the port. -/
def hostAndPort (scheme : String) (cs : List Char) :
    Except Fault (String × Option Nat × List Char) := do
  let (hostText, behind) := splitHost false cs
  let host ← if isWeb scheme then webHost hostText else opaqueHost hostText
  if host.isEmpty && !behind.isEmpty then .error .emptyHost
  else
    let digits := behind.drop 1 |>.takeWhile Char.isDigit
    let rest := behind.drop 1 |>.dropWhile Char.isDigit
    let port ← port? scheme digits
    if rest.isEmpty || rest.head? = some '\\' then .ok (host, port, rest) else .error .badPort

/-- The host and the port of an authority, and what follows a backslash behind the port.  An
authority whose at-sign comes first has to name a host if something follows it; credentials of
somebody have to have a host. -/
def authority (scheme : String) (isLast : Bool) (cs : List Char) :
    Except Fault (String × Option Nat × List Char) := do
  match splitCredentials? cs with
  | none => hostAndPort scheme cs
  | some (credentials, rest) =>
    if credentials.isEmpty && rest.isEmpty && !isLast then .error .emptyHost
    else
      let (host, behind) ← hostAndPort scheme rest
      if host.isEmpty && namesSomebody credentials then .error .emptyHost else .ok (host, behind)

/-! ## Paths and queries -/

/-- The pieces of a path between its slashes. -/
def segments (lenient : Bool) : List Char → List (List Char)
  | [] => [[]]
  | c :: cs =>
    if isSlash lenient c then [] :: segments lenient cs
    else match segments lenient cs with
      | [] => [[c]]
      | s :: rest => (c :: s) :: rest

/-- A segment for the place itself. -/
def isHere (segment : List Char) : Bool :=
  let s := String.ofList (segment.map Char.toLower)
  s == "." || s == "%2e"

/-- A segment for the place above. -/
def isAbove (segment : List Char) : Bool :=
  let s := String.ofList (segment.map Char.toLower)
  s == ".." || s == ".%2e" || s == "%2e." || s == "%2e%2e"

/-- A segment that names a drive: a letter and a colon or a bar. -/
def isDrive : List Char → Bool
  | [c, d] => c.isAlpha && (d = ':' || d = '|')
  | _ => false

/-- The segments of the place above; there is none above a drive. -/
def above : List (List Char) → List (List Char)
  | [] => []
  | s :: rest => if isDrive s then s :: rest else rest

/-- Resolves the segments for the place itself and the place above; the last segment leaves an
empty one behind if it is such.  `done` holds the segments so far, the last one first. -/
def resolve (done : List (List Char)) : List (List Char) → List (List Char)
  | [] => done.reverse
  | s :: rest =>
    let kept := if isAbove s then above done else if isHere s then done else s :: done
    if rest.isEmpty && (isAbove s || isHere s) then ([] :: kept).reverse
    else resolve kept rest

/-- The segments of a path that starts with a slash, or is empty, in their usual form. -/
def usualSegments (lenient : Bool) (cs : List Char) : List (List Char) :=
  let body := match cs with
    | c :: rest => if isSlash lenient c then rest else c :: rest
    | [] => []
  (resolve [] (segments lenient body)).map (encode standsInPath)

/-- A path of segments. -/
def pathOf (parts : List (List Char)) : String :=
  "/" ++ "/".intercalate (parts.map String.ofList)

/-- The usual form of a path that starts with a slash, or is empty. -/
def usualPath (lenient : Bool) (cs : List Char) : String :=
  pathOf (usualSegments lenient cs)

/-- The segments of a path to a file: none of the first ones is empty, and a drive has a colon. -/
def fileSegments (parts : List (List Char)) : List (List Char) :=
  match parts.dropWhile List.isEmpty with
  | [c, '|'] :: rest => if c.isAlpha then [c, ':'] :: rest else [c, '|'] :: rest
  | rest => rest

/-- The usual form of a query. -/
def usualQuery (scheme : String) (query : List Char) : String :=
  String.ofList (encode (fun c => standsInQuery c && (c ≠ '\'' || !isLenient scheme)) query)

/-- The parts before and behind the first question mark, without what follows a number sign. -/
def splitQuery (cs : List Char) : List Char × Option (List Char) :=
  let cs := cs.takeWhile (· ≠ '#')
  let path := cs.takeWhile (· ≠ '?')
  match cs.dropWhile (· ≠ '?') with
  | [] => (path, none)
  | _ :: query => (path, some query)

/-! ## Reading -/

/-- The URL whose authority, path and query follow its scheme. -/
def hierarchical (scheme : String) (cs : List Char) : Except Fault Url := do
  let lenient := isLenient scheme
  let rest := cs.dropWhile (!endsAuthority lenient ·)
  let (host, port, behind) ← authority scheme rest.isEmpty (cs.takeWhile (!endsAuthority lenient ·))
  let (path, query) := splitQuery (behind ++ rest)
  .ok {
    scheme := scheme
    host := some host
    port := port
    path := if path.isEmpty && !lenient then "" else usualPath lenient path
    query := query.map (usualQuery scheme) }

/-- The URL of a file.  Its host may be missing, and is left out if it is this computer or if the
path starts with a drive; a drive in the place of the host belongs to the path. -/
def filed (cs : List Char) : Except Fault Url := do
  let named := 2 ≤ (cs.takeWhile (isSlash true)).length
  let rest := if named then cs.drop 2 else cs
  let place := if named then rest.takeWhile (!endsAuthority true ·) else []
  let hostText := if isDrive place then [] else place
  let host ← if hostText.isEmpty then .ok "" else webHost hostText
  let (path, query) := splitQuery (rest.drop hostText.length)
  let parts := fileSegments (usualSegments true path)
  .ok {
    scheme := "file"
    host := some (if host == "localhost" || parts.head?.any isDrive then "" else host)
    port := none
    path := pathOf parts
    query := query.map (usualQuery "file") }

/-- The URL without an authority. -/
def bare (scheme : String) (cs : List Char) : Url :=
  let (path, query) := splitQuery cs
  { scheme := scheme
    host := none
    port := none
    path := match path with
      | '/' :: _ => usualPath false path
      | _ => String.ofList (encode (fun _ => true) path)
    query := query.map (usualQuery scheme) }

/-- A control or a space, which is dropped at both ends. -/
def isEdge (c : Char) : Bool := c.toNat ≤ 0x20

/-- A character that is dropped wherever it stands. -/
def isBreak (c : Char) : Bool := c = '\t' || c = '\n' || c = '\r'

/-- The URL that a text writes, or why there is none. -/
def parse (s : String) : Except Fault Url :=
  let trimmed := Text.dropEndWhile isEdge (s.toList.dropWhile isEdge)
  match splitScheme? (trimmed.filter (!isBreak ·)) with
  | none => .error .relative
  | some (scheme, rest) =>
    if scheme == "file" then filed rest
    else if isWeb scheme then hierarchical scheme (rest.dropWhile (isSlash true))
    else match rest with
      | '/' :: '/' :: rest => hierarchical scheme rest
      | rest => .ok (bare scheme rest)

/-! ## Writing -/

/-- The usual form of a URL.  A path behind no host that starts with two slashes is told from a host
by a segment for the place itself. -/
def render (u : Url) : String :=
  let place := match u.host with
    | some host => "//" ++ host ++ (u.port.map fun p => ":" ++ Text.decimal p).getD ""
    | none => if Text.startsWith ['/', '/'] u.path.toList then "/." else ""
  u.scheme ++ ":" ++ place ++ u.path ++ (u.query.map ("?" ++ ·)).getD ""

/-- The URL with names and values added to its query, in the encoding of forms. -/
def addPairs (u : Url) (pairs : List (String × String)) : Url :=
  let added := formPairs pairs
  let query := match u.query with
    | some q => if q.isEmpty then added else if added.isEmpty then q else q ++ "&" ++ added
    | none => added
  { u with query := if query.isEmpty then none else some query }

end Url

end GrammarDesk
