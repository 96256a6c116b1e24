import ChatStream.Url.Host

/-! # URLs

Absolute URLs as browsers and HTTP clients read them. A URL is a scheme, optional credentials,
a host and port, a path, a query and a fragment.

Reading first drops control characters and spaces at both ends and every tab and line break.
The schemes `http`, `https`, `ws`, `wss`, `ftp` and `file` are special: their slashes may be
`/` or `\`, any number of them may follow the scheme, they always have a host (`file` may have
an empty one) and a path of at least one segment, and their default port is left out. In a
path, the segments `.` and `..` (also written `%2e`) are resolved; characters that cannot stand
in a part of a URL are percent-encoded. A scheme that is not special and has no slash after it
has an opaque path, kept as written.

Relative references have no meaning without a base and are refused.
-/

namespace ChatStream.Url

/-- The path of a URL: segments, or an opaque text for URLs such as `mailto:x`. -/
inductive UrlPath where
  | segments (parts : List String)
  | plain (text : String)
  deriving Repr, DecidableEq

/-- A parsed URL: the record its text is read into and written back from. -/
structure Record where
  scheme : String
  username : String := ""
  password : String := ""
  host : Option Host := none
  port : Option Nat := none
  path : UrlPath := .segments []
  query : Option String := none
  fragment : Option String := none
  deriving Repr, DecidableEq

/-- The default port of a special scheme. -/
def defaultPort : String → Option Nat
  | "http" => some 80
  | "https" => some 443
  | "ws" => some 80
  | "wss" => some 443
  | "ftp" => some 21
  | _ => none

def isSpecial (scheme : String) : Bool :=
  ["http", "https", "ws", "wss", "ftp", "file"].contains scheme

/-- A character that may continue a scheme. -/
def isSchemeChar (c : Char) : Bool := c.isAlphanum || c == '+' || c == '-' || c == '.'

/-- Whether a character separates path segments. -/
def isSlash (special : Bool) (c : Char) : Bool := c == '/' || (special && c == '\\')

/-- The text of a path: segments each behind `/`, or the opaque text. -/
def UrlPath.render : UrlPath → String
  | .segments parts => String.join (parts.map ("/" ++ ·))
  | .plain t => t

/-- A segment that stands for the current directory. -/
def isSingleDot (s : String) : Bool := s == "." || s.toLower == "%2e"

/-- A segment that stands for the parent directory. -/
def isDoubleDot (s : String) : Bool :=
  let l := s.toLower
  l == ".." || l == ".%2e" || l == "%2e." || l == "%2e%2e"

/-- Whether two characters are a Windows drive letter: a letter and `:` or `|`. -/
def isDriveLetter : List Char → Bool
  | [a, b] => a.isAlpha && (b == ':' || b == '|')
  | _ => false

/-- Whether two characters are a drive letter written with `:`. -/
def isNormalizedDrive : List Char → Bool
  | [a, b] => a.isAlpha && b == ':'
  | _ => false

/-- Whether a path text, from one of its slashes on, goes on with a drive letter segment. -/
def slashThenDrive : List Char → Bool
  | _ :: a :: b :: rest =>
    isDriveLetter [a, b] && (match rest with
      | [] => true
      | c :: _ => c == '/' || c == '\\' || c == '?' || c == '#')
  | _ => false

/-- The position of the last slash of a text. -/
def lastSlash (cs : List Char) : Option Nat :=
  (cs.reverse.findIdx? (· == '/')).map (cs.length - 1 - ·)

/-- Whether the slash that ends a path text may go when `..` removes a segment: not the root
slash, nor the one after a drive letter segment. -/
def slashRemovable (ser : List Char) : Bool :=
  match lastSlash ser.dropLast with
  | some i => !slashThenDrive (ser.drop i)
  | none => false

/-- Remove the last segment of a path text, a drive letter of a file path apart. -/
def popSegment (file : Bool) (ser : List Char) : List Char :=
  match lastSlash ser with
  | some i => if file && isNormalizedDrive (ser.drop (i + 1)) then ser else ser.take (i + 1)
  | none => ser

/-- Shorten a path text for `..`; a file path that is only a drive letter stays. -/
def shorten (file : Bool) (ser : List Char) : List Char :=
  if ser.isEmpty || (file && isNormalizedDrive ser) then ser else popSegment file ser

/-- A path being written: its text so far (from its first slash), where the current segment
begins in it, and whether a drive letter has taken the place of a file URL's host. -/
structure PathText where
  ser : List Char
  segStart : Nat
  dropHost : Bool

namespace PathText

/-- Resolve the segment just written (`slash` says whether a slash closed it): `..` removes it
and the segment before, `.` removes it, and a drive letter first in a file path is written with
`:`. -/
def endSegment (file : Bool) (p : PathText) (slash : Bool) : PathText :=
  let body := p.ser.drop p.segStart
  let seg := if slash then body.dropLast else body
  if isDoubleDot (String.ofList seg) then
    let ser := p.ser.take p.segStart
    let ser := if ser.getLast? == some '/' && slashRemovable ser then ser.dropLast else ser
    let ser := shorten file ser
    { p with ser := if slash && ser.getLast? != some '/' then ser ++ ['/'] else ser }
  else if isSingleDot (String.ofList seg) then
    let ser := p.ser.take p.segStart
    { p with ser := if ser.getLast? != some '/' then ser ++ ['/'] else ser }
  else if file && p.segStart == 1 && isDriveLetter seg then
    { p with ser := p.ser.take p.segStart ++ seg.take 1 ++ [':'] ++ (if slash then ['/'] else []),
             dropHost := true }
  else p

def read (special file : Bool) : PathText → List Char → PathText
  | p, [] => p.endSegment file false
  | p, c :: rest =>
    if isSlash special c then
      let p := endSegment file { p with ser := p.ser ++ ['/'] } true
      read special file { p with segStart := p.ser.length } rest
    else
      read special file { p with ser := p.ser ++ (percentEncode .path [c]).toList } rest

end PathText

/-- Read a path from its text after the first slash (up to the query or fragment): its segments,
and whether a drive letter took the place of the host. Leading empty segments of a file path
are dropped. -/
def parsePath (special file : Bool) (cs : List Char) : List String × Bool :=
  let p := PathText.read special file ⟨['/'], 1, false⟩ cs
  let ser := if file then '/' :: p.ser.dropWhile (· == '/') else p.ser
  (((ser.drop 1).splitOn '/').map String.ofList, p.dropHost)

/-- Split off the query and fragment: the text before them, the query, the fragment. -/
def splitTail (cs : List Char) : List Char × Option (List Char) × Option (List Char) :=
  let (beforeFrag, frag) := match cs.span (· ≠ '#') with
    | (b, _ :: f) => (b, some f)
    | (b, []) => (b, none)
  match beforeFrag.span (· ≠ '?') with
  | (b, _ :: q) => (b, some q, frag)
  | (b, []) => (b, none, frag)

/-- Fill in path, query and fragment from the text after the authority. -/
def withTail (u : Record) (cs : List Char) : Record :=
  let special := isSpecial u.scheme
  let (p, q, f) := splitTail cs
  let (path, dropHost) := match p with
    | [] => (if special then [""] else [], false)
    | c :: rest => parsePath special (u.scheme == "file") (if isSlash special c then rest else c :: rest)
  { u with path := .segments path, host := if dropHost then some .empty else u.host,
           query := q.map (percentEncode (if special then .specialQuery else .query)),
           fragment := f.map (percentEncode .fragment) }

/-- Read a port: digits only, at most 65535; the scheme's default port counts as none. -/
def parsePort (scheme : String) (cs : List Char) : Option (Option Nat) :=
  if cs.isEmpty then some none
  else if !cs.all Char.isDigit then none
  else
    let n := cs.foldl (fun acc c => acc * 10 + (c.toNat - 48)) 0
    if n > 65535 then none
    else if defaultPort scheme == some n then some none
    else some (some n)

/-- Split a host and port at the first colon outside brackets. -/
def splitHostPort (cs : List Char) : List Char × Option (List Char) :=
  go cs [] false
where
  go : List Char → List Char → Bool → List Char × Option (List Char)
    | [], acc, _ => (acc.reverse, none)
    | c :: rest, acc, inside =>
      if c == ':' && !inside then (acc.reverse, some rest)
      else go rest (c :: acc) (if c == '[' then true else if c == ']' then false else inside)

/-- Read an authority and what follows it. The host may be empty only when the scheme is not
special and there is neither a port nor a user name or password; an empty user name and
password (a bare `:@`) count as none. -/
def parseAuthority (scheme : String) (cs : List Char) : Option Record := do
  let special := isSpecial scheme
  let isEnd (c : Char) : Bool := c == '/' || c == '?' || c == '#' || (special && c == '\\')
  let (auth, rest) := cs.span (!isEnd ·)
  let (userinfo, hostport) :=
    match auth.reverse.span (· ≠ '@') with
    | (hpRev, _ :: uiRev) => (some uiRev.reverse, hpRev.reverse)
    | (hpRev, []) => (none, hpRev.reverse)
  let (user, pass) := match userinfo with
    | some ui => match ui.span (· ≠ ':') with
      | (u, _ :: p) => (percentEncode .userinfo u, percentEncode .userinfo p)
      | (u, []) => (percentEncode .userinfo u, "")
    | none => ("", "")
  let (hostText, portText) := splitHostPort hostport
  let bareAt := userinfo == some [] && !rest.isEmpty
  if hostText.isEmpty && (special || portText.isSome || !user.isEmpty || !pass.isEmpty || bareAt) then
    none
  let host ← if special then parseSpecialHost hostText else parseOpaqueHost hostText
  let port ← parsePort scheme (portText.getD [])
  some (withTail { scheme, username := user, password := pass, host := some host, port } rest)

def parseFile (cs : List Char) : Option Record :=
  match cs with
  | a :: b :: rest =>
    if isSlash true a && isSlash true b then
      let (hostText, tail) := rest.span fun c => !(isSlash true c || c == '?' || c == '#')
      if hostText.isEmpty then some (withTail { scheme := "file", host := some .empty } tail)
      else if isDriveLetter hostText then some (withTail { scheme := "file", host := some .empty } rest)
      else do
        let host ← parseSpecialHost hostText
        let host := if host == .domain "localhost" then .empty else host
        some (withTail { scheme := "file", host := some host } tail)
    else some (withTail { scheme := "file", host := some .empty } cs)
  | _ => some (withTail { scheme := "file", host := some .empty } cs)

/-- Read the opaque path of a URL such as `mailto:x`, then its query and fragment. -/
def parseOpaque (scheme : String) (cs : List Char) : Record :=
  let (p, q, f) := splitTail cs
  { scheme, path := .plain (percentEncode .controls p),
    query := q.map (percentEncode .query), fragment := f.map (percentEncode .fragment) }

/-- Drop controls and spaces at the ends, and tabs and line breaks everywhere. -/
def clean (s : String) : List Char :=
  let cs := s.toList.filter fun c => !(c == '\t' || c == '\n' || c == '\r')
  let cs := cs.dropWhile (·.toNat ≤ 0x20)
  (cs.reverse.dropWhile (·.toNat ≤ 0x20)).reverse

def parse (s : String) : Option Record :=
  let cs := clean s
  match cs with
  | c :: _ =>
    if !c.isAlpha then none
    else
      match cs.span isSchemeChar with
      | (schemeChars, ':' :: rest) =>
        let scheme := String.ofList (schemeChars.map Char.toLower)
        if scheme == "file" then parseFile rest
        else if isSpecial scheme then parseAuthority scheme (rest.dropWhile (isSlash true))
        else
          match rest with
          | '/' :: '/' :: more => parseAuthority scheme more
          | '/' :: _ => some (withTail { scheme } rest)
          | _ => some (parseOpaque scheme rest)
      | _ => none
  | [] => none

namespace Record

def pathText (u : Record) : String := u.path.render

def render (u : Record) : String :=
  let auth := match u.host with
    | some h =>
      let creds := if u.username.isEmpty && u.password.isEmpty then ""
        else u.username ++ (if u.password.isEmpty then "" else ":" ++ u.password) ++ "@"
      "//" ++ creds ++ h.render ++ (match u.port with | some p => ":" ++ toString p | none => "")
    | none =>
      match u.path with
      | .segments ("" :: _ :: _) => "/."
      | _ => ""
  u.scheme ++ ":" ++ auth ++ u.pathText ++
    (match u.query with | some q => "?" ++ q | none => "") ++
    (match u.fragment with | some f => "#" ++ f | none => "")

/-- Replace the path by an empty one: `/` for special schemes. -/
def clearPath (u : Record) : Record :=
  match u.path with
  | .plain _ => { u with path := .plain "" }
  | .segments _ => { u with path := .segments (if isSpecial u.scheme then [""] else []) }

end Record

example : (parse "HTTP://h:80/v1").map Record.render = some "http://h/v1" := by decide +kernel

end ChatStream.Url
