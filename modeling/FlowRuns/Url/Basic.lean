import FlowRuns.Url.Host

/-!
# URLs

Reading a text as a URL and writing the URL back, in the manner of web browsers: blanks at both
ends, tabs and line ends do not count; a backslash is a slash; `.` and `..`, also written with
`%2e`, are resolved; what may not stand in its place is percent-encoded; the default port of a
scheme is left out.

* `Url` — the parts of a URL.
* `Url.parse` — from a text.
* `Url.text` — the normalized text.
* `Url.target` — path and query, what a request names.
-/

namespace FlowRuns

namespace Url

/-- The path of a URL. -/
inductive Path where
  /-- a text without structure -/
  | uninterpreted (text : List Char)
  /-- segments, each after a slash -/
  | segments (segments : List (List Char))
  deriving DecidableEq, Inhabited

/-- Who and where: user, host and port. -/
structure Authority where
  /-- the user name -/
  user : List Char
  /-- the password -/
  password : List Char
  /-- the host -/
  host : Host
  /-- the port, unless it is the one of the scheme -/
  port : Option Nat
  deriving DecidableEq, Inhabited

end Url

/-- The parts of a URL. -/
structure Url where
  /-- the scheme, in lower case -/
  scheme : List Char
  /-- user, host and port, if there are any -/
  authority : Option Url.Authority
  /-- the path -/
  path : Url.Path
  /-- what follows a question mark -/
  query : Option (List Char)
  /-- what follows a number sign -/
  fragment : Option (List Char)
  deriving DecidableEq, Inhabited

namespace Url

/-! ## Schemes -/

/-- The default ports of the special schemes. -/
def specialPorts : List (List Char × Option Nat) :=
  [("http".toList, some 80), ("https".toList, some 443), ("ws".toList, some 80),
    ("wss".toList, some 443), ("ftp".toList, some 21), ("file".toList, none)]

/-- Whether a scheme has hosts and paths of the web. -/
def isSpecial (scheme : List Char) : Bool := (specialPorts.lookup scheme).isSome

/-- The port that goes without saying. -/
def defaultPort (scheme : List Char) : Option Nat := (specialPorts.lookup scheme).join

/-- The text without control characters and spaces at both ends, and without tabs and line ends. -/
def clean (s : List Char) : List Char :=
  let bare := ((s.dropWhile (·.toNat ≤ 0x20)).reverse.dropWhile (·.toNat ≤ 0x20)).reverse
  bare.filter fun c => c ≠ '\t' && c ≠ '\n' && c ≠ '\r'

/-- Whether a character may stand in a scheme after its first letter. -/
def isSchemeChar (c : Char) : Bool := c.isAlphanum || c = '+' || c = '-' || c = '.'

/-- The scheme, and the text after its colon. -/
def scheme? (s : List Char) : Option (List Char × List Char) :=
  let name := s.takeWhile isSchemeChar
  match name, s.drop name.length with
  | first :: _, ':' :: rest =>
    if first.isAlpha then some (name.map Char.toLower, rest) else none
  | _, _ => none

/-! ## Authority -/

/-- Whether a character separates segments. -/
def isSlash (special : Bool) (c : Char) : Bool := c = '/' || (special && c = '\\')

/-- Whether the authority ends before a character. -/
def endsAuthority (special : Bool) (c : Char) : Bool := isSlash special c || c = '?' || c = '#'

/-- The text before the last `@`, if there is one, and the text after it. -/
def cutUser (s : List Char) : Option (List Char) × List Char :=
  if s.contains '@' then
    (some ((s.reverse.dropWhile (· ≠ '@')).drop 1).reverse,
      (s.reverse.takeWhile (· ≠ '@')).reverse)
  else (none, s)

/-- The host, up to the first colon outside brackets, and the text from that colon on. -/
def cutHost (bracketed : Bool) : List Char → List Char × List Char
  | [] => ([], [])
  | c :: rest =>
    if c = ':' && !bracketed then ([], c :: rest)
    else
      let bracketed := if c = '[' then true else if c = ']' then false else bracketed
      let (host, more) := cutHost bracketed rest
      (c :: host, more)

/-- The port after a colon: none, or a number up to 65535. It ends before a backslash, and the text
from there on is given back with it. -/
def port? (scheme : List Char) (s : List Char) : Except UrlError (Option Nat × List Char) :=
  match s with
  | ':' :: text =>
    let digits := text.takeWhile Char.isDigit
    let rest := text.drop digits.length
    if !rest.isEmpty && rest.head? ≠ some '\\' then .error .badPort
    else if digits.isEmpty then .ok (none, rest)
    else
      match digitsIn? 10 digits with
      | some n =>
        if 65535 < n then .error .badPort
        else .ok (if defaultPort scheme = some n then none else some n, rest)
      | none => .error .badPort
  | s => .ok (none, s)

/-- User and password before their `@`. -/
def userText (user password : List Char) : List Char :=
  if user.isEmpty && password.isEmpty then []
  else user ++ (if password.isEmpty then [] else ':' :: password) ++ ['@']

/-- User, host and port, and the text after them. Some URLs need no host, but one with a user or a
port does, and so does one with a lone `@` unless the URL ends there. -/
def Authority.parse (scheme s : List Char) (atEnd : Bool) :
    Except UrlError (Authority × List Char) := do
  let special := isSpecial scheme
  let (userInfo, rest) := cutUser s
  let (user, password) := Text.Form.cut ':' (userInfo.getD [])
  let (name, portText) := cutHost false rest
  let needsHost := special || !portText.isEmpty || !(userText user password).isEmpty
    || (userInfo = some [] && !atEnd)
  if name.isEmpty && needsHost then throw .emptyHost
  let host ← if name.isEmpty then pure (.domain []) else Host.parse special name
  let (port, rest) ← port? scheme portText
  return (⟨Text.percentEncode .userInfo user, Text.percentEncode .userInfo password, host, port⟩,
    rest)

/-! ## Path, query and fragment -/

/-- A segment with `%2e` read as a point. -/
def dotted : List Char → List Char
  | '%' :: '2' :: 'e' :: rest => '.' :: dotted rest
  | '%' :: '2' :: 'E' :: rest => '.' :: dotted rest
  | c :: rest => c :: dotted rest
  | [] => []

/-- Whether a segment stays where it is. -/
def isSingleDot (s : List Char) : Bool := dotted s = ['.']

/-- Whether a segment goes one up. -/
def isDoubleDot (s : List Char) : Bool := dotted s = ['.', '.']

/-- Whether a segment is the letter of a drive, alone or before a backslash. -/
def isDrive : List Char → Bool
  | c :: d :: rest =>
    c.isAlpha && (d = ':' || d = '|') && (rest.isEmpty || rest.head? = some '\\')
  | _ => false

/-- One step up from the segments `before`, last one first: the last one goes, unless it is the
letter of a drive. -/
def climb : List (List Char) → List (List Char)
  | [] => []
  | s :: before => if isDrive s then s :: before else before

/-- A segment after the segments `before`, last one first. -/
def keep (before : List (List Char)) (s : List Char) : List (List Char) :=
  Text.percentEncode .path s :: before

/-- The segments with single and double dots resolved; `before` are the ones kept so far, last one
first, to which `keep` adds another one. A dot at the end leaves an empty segment there. -/
def resolve (keep : List (List Char) → List Char → List (List Char))
    (before : List (List Char)) : List (List Char) → List (List Char)
  | [] => before.reverse
  | [s] =>
    if isDoubleDot s then ([] :: climb before).reverse
    else if isSingleDot s then ([] :: before).reverse
    else (keep before s).reverse
  | s :: rest =>
    if isDoubleDot s then resolve keep (climb before) rest
    else if isSingleDot s then resolve keep before rest
    else resolve keep (keep before s) rest

/-- The segments of a path before dots are resolved. -/
def splitPath (special : Bool) (s : List Char) : List (List Char) :=
  Text.Form.parts '/' (s.map fun c => if isSlash special c then '/' else c)

/-- The segments of a path without its first slash. -/
def segmentsOf (special : Bool) (s : List Char) : List (List Char) :=
  resolve keep [] (splitPath special s)

/-- A text without its first slash. -/
def dropSlash (special : Bool) : List Char → List Char
  | c :: rest => if isSlash special c then rest else c :: rest
  | [] => []

/-- The path of a URL with an authority, which begins at `s`. A special URL always has one. -/
def pathAfterAuthority (special : Bool) (s : List Char) : Path :=
  match s with
  | [] => .segments (if special then [[]] else [])
  | s => .segments (segmentsOf special (dropSlash special s))

/-- The text before query and fragment, the query, and the fragment. -/
def cutTail (s : List Char) : List Char × Option (List Char) × Option (List Char) :=
  let front := s.takeWhile (· ≠ '#')
  let fragment := match s.drop front.length with
    | _ :: rest => some rest
    | [] => none
  let main := front.takeWhile (· ≠ '?')
  let query := match front.drop main.length with
    | _ :: rest => some rest
    | [] => none
  (main, query, fragment)

/-! ## Reading -/

/-- A host of the `file` scheme; none for the machine itself, which needs no name. -/
def fileHost? (s : List Char) : Except UrlError (Option Host) := do
  if s.isEmpty then return none
  let host ← Host.parse true s
  return if host = .domain "localhost".toList then none else some host

/-- A segment of the path of a `file` after the segments `before`, last one first. The letter of a
drive goes before a colon; what follows it in the first segment is a segment of its own. -/
def keepFile (before : List (List Char)) (s : List Char) : List (List Char) :=
  match s with
  | [c, '|'] => keep before (if c.isAlpha then [c, ':'] else s)
  | c :: ':' :: d :: more =>
    if c.isAlpha && before.isEmpty then keep (keep before [c, ':']) (d :: more) else keep before s
  | s => keep before s

/-- The segments of the path of a `file`; empty ones at the start do not count. -/
def fileSegments (segments : List (List Char)) : List (List Char) :=
  match (resolve keepFile [] segments).dropWhile List.isEmpty with
  | [] => [[]]
  | kept => kept

/-- The parts after the scheme of a special URL other than a `file`. -/
def parseSpecial (scheme s : List Char) : Except UrlError (Option Authority × Path) := do
  let rest := s.dropWhile (isSlash true)
  let front := rest.takeWhile fun c => !endsAuthority true c
  let (authority, _) ← Authority.parse scheme front false
  return (some authority, pathAfterAuthority true (rest.drop front.length))

/-- A `file` on the machine itself. -/
def localFile (segments : List (List Char)) : Option Authority × Path :=
  (some ⟨[], [], .domain [], none⟩, .segments (fileSegments segments))

/-- The parts after the scheme and the two slashes of a `file`. The letter of a drive is no host,
and a path with such a letter is one on the machine itself. -/
def parseFileHost (s : List Char) : Except UrlError (Option Authority × Path) := do
  let name := s.takeWhile fun c => !endsAuthority true c
  if isDrive name then return localFile (splitPath true s)
  let rest := s.drop name.length
  match ← fileHost? name with
  | none => return localFile (splitPath true rest)
  | some host =>
    let segments := splitPath true (dropSlash true rest)
    if segments.any isDrive then return localFile segments
    else return (some ⟨[], [], host, none⟩, .segments (fileSegments segments))

/-- The parts after the scheme of a `file`. -/
def parseFile (s : List Char) : Except UrlError (Option Authority × Path) :=
  match s with
  | c :: d :: rest =>
    if isSlash true c && isSlash true d then parseFileHost rest
    else .ok (localFile (splitPath true (dropSlash true s)))
  | s => .ok (localFile (splitPath true (dropSlash true s)))

/-- The parts after any other scheme; `atEnd` says that no query or fragment follows. -/
def parseOther (scheme s : List Char) (atEnd : Bool) :
    Except UrlError (Option Authority × Path) := do
  match s with
  | '/' :: '/' :: rest =>
    let front := rest.takeWhile fun c => !endsAuthority false c
    let after := rest.drop front.length
    let (authority, left) ← Authority.parse scheme front (after.isEmpty && atEnd)
    return (some authority, pathAfterAuthority false (left ++ after))
  | '/' :: rest => return (none, .segments (segmentsOf false rest))
  | s => return (none, .uninterpreted (Text.percentEncode .control s))

/-- The URL that a text writes. -/
def parse (text : List Char) : Except UrlError Url := do
  let some (scheme, rest) := scheme? (clean text) | throw .relative
  let (main, query, fragment) := cutTail rest
  let (authority, path) ←
    if scheme = "file".toList then parseFile main
    else if isSpecial scheme then parseSpecial scheme main
    else parseOther scheme main (query.isNone && fragment.isNone)
  let querySet : Text.PercentSet := if isSpecial scheme then .specialQuery else .query
  return ⟨scheme, authority, path, query.map (Text.percentEncode querySet),
    fragment.map (Text.percentEncode .fragment)⟩

/-! ## Writing -/

/-- User, host and port. -/
def Authority.text (a : Authority) : List Char :=
  userText a.user a.password ++ a.host.text ++ (match a.port with
    | some n => ':' :: Nat.toDigits 10 n
    | none => [])

/-- The text of a path. -/
def Path.text : Path → List Char
  | uninterpreted s => s
  | segments ss => ss.flatMap ('/' :: ·)

/-- A part with the mark before it, or nothing. -/
def marked (mark : Char) : Option (List Char) → List Char
  | some s => mark :: s
  | none => []

/-- What comes before the path. -/
def origin (u : Url) : List Char :=
  u.scheme ++ ':' :: (match u.authority with
    | some a => ['/', '/'] ++ a.text
    | none =>
      match u.path with
      | .segments ([] :: _ :: _) => ['/', '.']
      | _ => [])

/-- Path and query, as a request names them. -/
def target (u : Url) : List Char := u.path.text ++ marked '?' u.query

/-- The normalized text. -/
def text (u : Url) : List Char := u.origin ++ u.target ++ marked '#' u.fragment

/-- The URL with pairs appended to its query. -/
def withPairs (u : Url) (pairs : List (String × String)) : Url :=
  if pairs.isEmpty then u
  else
    let appended := Text.Form.encodePairs pairs
    match u.query with
    | some (c :: q) => { u with query := some (c :: q ++ '&' :: appended) }
    | _ => { u with query := some appended }

/-- Whether the URL names a host to which a request can go. -/
def hasHost (u : Url) : Bool :=
  match u.authority with
  | some a => a.host ≠ .domain []
  | none => false

end Url

end FlowRuns
