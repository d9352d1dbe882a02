import CommandBridge.Url.Address
import CommandBridge.Url.Basic
import CommandBridge.Url.Domain

/-! URLs from text, brought to normal form. -/
namespace CommandBridge.Url

def isTabOrNewline (c : Char) : Bool := c == '\t' || c == '\n' || c == '\r'

/-- Controls and spaces at the ends are left out, and tabs and line ends anywhere. -/
def clean (s : List Char) : List Char :=
  (dropEnd (s.dropWhile isControlOrSpace)).filter (!isTabOrNewline ·)
where
  isControlOrSpace (c : Char) : Bool := c.toNat ≤ 0x20
  dropEnd (s : List Char) : List Char := (s.reverse.dropWhile isControlOrSpace).reverse

def isSchemeChar (c : Char) : Bool := c.isAlphanum || c == '+' || c == '-' || c == '.'

/-- The scheme in lower case, and what follows its colon. -/
def splitScheme? (s : List Char) : Option (List Char × List Char) :=
  match s with
  | c :: _ =>
    if c.isAlpha then
      match s.dropWhile isSchemeChar with
      | ':' :: rest => some ((s.takeWhile isSchemeChar).map Char.toLower, rest)
      | _ => none
    else none
  | [] => none

/-- Where the authority ends. -/
def endsAuthority (special : Bool) (c : Char) : Bool :=
  c == '/' || c == '?' || c == '#' || (special && c == '\\')

/-- The text before and after the last at sign. -/
def splitLastAt (s : List Char) : Option (List Char × List Char) :=
  let r := s.reverse
  match r.dropWhile (· != '@') with
  | _ :: front => some (front.reverse, (r.takeWhile (· != '@')).reverse)
  | [] => none

/-- The host ends at a colon outside brackets. -/
def splitPort : Bool → List Char → List Char × List Char
  | _, [] => ([], [])
  | inside, c :: s =>
    if c == ':' && !inside then ([], c :: s)
    else
      let (a, b) := splitPort (if c == '[' then true else if c == ']' then false else inside) s
      (c :: a, b)

def bracketed? (s : List Char) : Except UrlFault (List Char) :=
  if s.getLast? = some ']' then
    match ipv6? (s.drop 1).dropLast with
    | some gs => .ok ('[' :: ipv6Text gs ++ [']'])
    | none => .error .ipv6
  else .error .ipv6

def forbiddenInHost : List Char :=
  ['\x00', '\t', '\n', '\r', ' ', '#', '/', ':', '<', '>', '?', '@', '[', '\\', ']', '^', '|']

/-- The host of a URL whose scheme has no rules for it. -/
def opaqueHost (s : List Char) : Except UrlFault (List Char) :=
  if s.head? = some '[' then bracketed? s
  else if s.any forbiddenInHost.contains then .error .hostCharacter
  else .ok (encode [] s)

/-- A domain or an address. -/
def domainHost (s : List Char) : Except UrlFault (List Char) :=
  if s.head? = some '[' then bracketed? s
  else
    match (decode? s).bind asciiDomain? with
    | none => .error .domain
    | some domain =>
      if domain.isEmpty then .error .emptyHost
      else if endsInNumber domain then
        match ipv4? domain with
        | some n => .ok (ipv4Text n)
        | none => .error .ipv4
      else .ok domain

/-- The port after its colon; the usual one is left out. -/
def readPort (scheme : List Char) (s : List Char) : Except UrlFault (Option Nat) :=
  if s.isEmpty then .ok none
  else
    match Decimal.readNat? s with
    | some n =>
      if 65535 < n then .error .port
      else .ok (if usualPort? scheme = some n then none else some n)
    | none => .error .port

/-- The user name and the password before the at sign. -/
def readUserinfo (s : List Char) : List Char × List Char :=
  (encode userinfoSet (s.takeWhile (· != ':')),
    encode userinfoSet ((s.dropWhile (· != ':')).drop 1))

/-- The user name and the password, and the host with its port. An at sign needs a host after it,
unless nothing is before it and the URL ends there. -/
def splitUserinfo (authority : List Char) (last : Bool) :
    Except UrlFault ((List Char × List Char) × List Char) :=
  match splitLastAt authority with
  | some (user, host) =>
    let (username, password) := readUserinfo user
    let nobody := if user.isEmpty then last else username.isEmpty && password.isEmpty
    if host.isEmpty && !nobody then .error .emptyHost else .ok ((username, password), host)
  | none => .ok (([], []), authority)

def isDoubleDot (s : List Char) : Bool :=
  ["..", ".%2e", "%2e.", "%2e%2e"].any fun d => d.toList == s.map Char.toLower

def isSingleDot (s : List Char) : Bool :=
  [".", "%2e"].any fun d => d.toList == s.map Char.toLower

def isDriveLetter (s : List Char) : Bool :=
  match s with
  | [c, d] => c.isAlpha && (d == ':' || d == '|')
  | _ => false

/-- Goes up one level. A drive letter stays. -/
def parent (path : List (List Char)) : List (List Char) :=
  if path.getLast?.any isDriveLetter then path else path.dropLast

/-- The drive letter at the start of a file's path has a colon. -/
def normalSegment (file : Bool) (path : List (List Char)) (segment : List Char) : List Char :=
  if file && path.isEmpty && isDriveLetter segment then segment.take 1 ++ [':'] else segment

/-- Adds one segment after another. Dots go nowhere or up; at the end they leave an empty
segment. -/
def resolveSegments (file : Bool) : List (List Char) → List (List Char) → List (List Char)
  | path, [] => path
  | path, segment :: rest =>
    if isDoubleDot segment then
      let up := parent path
      resolveSegments file (if rest.isEmpty then up ++ [[]] else up) rest
    else if isSingleDot segment then
      resolveSegments file (if rest.isEmpty then path ++ [[]] else path) rest
    else resolveSegments file (path ++ [normalSegment file path segment]) rest

/-- The segments of a path that starts after its first slash. -/
def readPath (scheme : List Char) (s : List Char) : List (List Char) :=
  let slash (c : Char) : Bool := c == '/' || (isSpecial scheme && c == '\\')
  resolveSegments (isFile scheme) [] ((s.splitOnP slash).map (encode pathSet))

/-- The path of a file has no empty segments at its start. -/
def filePath (path : List (List Char)) : UrlPath :=
  match path.dropWhile (·.isEmpty) with
  | [] => .segments [[]]
  | p => .segments p

/-- The path, the query and the fragment. -/
structure Tail where
  path : List Char
  query : Option (List Char)
  fragment : Option (List Char)

def splitTail (s : List Char) : Tail :=
  let beforeHash := s.takeWhile (· != '#')
  let fragment := match s.dropWhile (· != '#') with
    | _ :: f => some f
    | [] => none
  let query := match beforeHash.dropWhile (· != '?') with
    | _ :: q => some q
    | [] => none
  ⟨beforeHash.takeWhile (· != '?'), query, fragment⟩

/-- A URL whose path, query and fragment are still to be read. -/
def withTail (u : Url) (path : UrlPath) (t : Tail) : Url :=
  let set := if isSpecial u.scheme then specialQuerySet else querySet
  { u with
    path := path
    query := t.query.map (encode set)
    fragment := t.fragment.map (encode fragmentSet) }

def bare (scheme : List Char) : Url := ⟨scheme, [], [], none, none, .opaquePath [], none, none⟩

/-- The path after an authority. -/
def hierarchicalPath (scheme : List Char) (s : List Char) : UrlPath :=
  match s with
  | [] => if isSpecial scheme then .segments [[]] else .segments []
  | c :: rest =>
    if c == '/' || (isSpecial scheme && c == '\\') then .segments (readPath scheme rest)
    else .segments (readPath scheme (c :: rest))

/-- What follows the two slashes before an authority. -/
def afterSlashes (scheme : List Char) (s : List Char) : Except UrlFault Url := do
  let special := isSpecial scheme
  let authority := s.takeWhile (!endsAuthority special ·)
  let t := splitTail (s.dropWhile (!endsAuthority special ·))
  let atEnd := (s.dropWhile (!endsAuthority special ·)).isEmpty
  let ((username, password), rest) ← splitUserinfo authority atEnd
  let (hostText, portText) := splitPort false rest
  let (portDigits, afterPort) := (portText.drop 1).span (· != '\\')
  let host ←
    if special then
      if hostText.isEmpty then .error .emptyHost else domainHost hostText
    else if hostText.isEmpty && !portText.isEmpty then .error .emptyHost
    else opaqueHost hostText
  let port ← readPort scheme portDigits
  let u := { bare scheme with username := username, password := password, host := some host,
                              port := port }
  return withTail u (hierarchicalPath scheme (afterPort ++ t.path)) t

def isSlash (c : Char) : Bool := c == '/' || c == '\\'

/-- A file on a host; a path with a drive letter takes the host away. -/
def hostedFile (u : Url) (host : List Char) (t : Tail) : Url :=
  let path := readPath u.scheme (match t.path with | _ :: p => p | [] => [])
  let host := if path.head?.any isDriveLetter then [] else host
  withTail { u with host := some host } (filePath path) t

/-- The host of a file, if two slashes come first; a drive letter is no host. -/
def fileUrl (scheme : List Char) (s : List Char) : Except UrlFault Url := do
  let u := { bare scheme with host := some [] }
  let hostless (s : List Char) : Url :=
    let t := splitTail s
    withTail u (filePath (readPath scheme t.path)) t
  match s with
  | [] => return hostless []
  | a :: s =>
    if !isSlash a then return hostless (a :: s)
    else
      match s with
      | [] => return hostless []
      | b :: s =>
        if !isSlash b then return hostless (b :: s)
        else
          let authority := s.takeWhile (!endsAuthority true ·)
          let rest := s.dropWhile (!endsAuthority true ·)
          if isDriveLetter authority then return hostless s
          else if authority.isEmpty then return hostless rest
          else
            let host ← domainHost authority
            if host = "localhost".toList then return hostless rest
            else return hostedFile u host (splitTail rest)

def readChars (s : List Char) : Except UrlFault Url :=
  match splitScheme? (clean s) with
  | none => .error .relative
  | some (scheme, rest) =>
    if isFile scheme then fileUrl scheme rest
    else if isSpecial scheme then afterSlashes scheme (rest.dropWhile isSlash)
    else
      match rest with
      | '/' :: '/' :: s => afterSlashes scheme s
      | '/' :: s =>
        let t := splitTail s
        .ok (withTail (bare scheme) (.segments (readPath scheme t.path)) t)
      | s =>
        let t := splitTail s
        .ok (withTail (bare scheme) (.opaquePath (encode [] t.path)) t)

def read (s : String) : Except UrlFault Url := readChars s.toList

end CommandBridge.Url
