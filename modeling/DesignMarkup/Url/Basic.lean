import DesignMarkup.Url.Host
/-!
Absolute addresses: reading, with the repairs that browsers make, and writing.
-/
namespace DesignMarkup

inductive UrlPath where
  /-- Text without structure, of an address without a host. -/
  | bare (text : String)
  | segments (items : List String)
deriving DecidableEq, Repr

structure Url where
  scheme : String
  /-- Written before the host with its at sign. -/
  userInfo : String := ""
  host : Option String := none
  port : Option Nat := none
  path : UrlPath
  query : Option String := none
  fragment : Option String := none
deriving DecidableEq, Repr

namespace Url

def UrlPath.text : UrlPath → String
  | .bare text => text
  | .segments items => String.join (items.map ("/" ++ ·))

def toText (u : Url) : String :=
  let path := UrlPath.text u.path
  let authority := match u.host with
    | some host => "//" ++ u.userInfo ++ host ++ (u.port.map fun p => ":" ++ toString p).getD ""
    | none => if Text.startsWith path "//" then "/." else ""
  u.scheme ++ ":" ++ authority ++ path ++ (u.query.map ("?" ++ ·)).getD "" ++
    (u.fragment.map ("#" ++ ·)).getD ""

def isWeb (u : Url) : Bool := u.scheme == "http" || u.scheme == "https"

def lastSegment? (u : Url) : Option String :=
  match u.path with
  | .segments items => items.getLast?
  | .bare _ => none

inductive SchemeKind where
  | file
  | special
  | other
deriving DecidableEq, Repr

def schemeKind (scheme : String) : SchemeKind :=
  if scheme = "file" then .file
  else if scheme ∈ ["http", "https", "ws", "wss", "ftp"] then .special
  else .other

def defaultPort (scheme : String) : Option Nat :=
  if scheme ∈ ["http", "ws"] then some 80
  else if scheme ∈ ["https", "wss"] then some 443
  else if scheme = "ftp" then some 21
  else none

def isSlash (kind : SchemeKind) (c : Char) : Bool := c == '/' || (kind != .other && c == '\\')

def endsAuthority (kind : SchemeKind) (c : Char) : Bool := isSlash kind c || c == '?' || c == '#'

/-- Controls and spaces at the ends, and tabs and line ends anywhere, are no part of an address. -/
def cleaned (s : List Char) : List Char :=
  let isEdge (c : Char) : Bool := c.toNat ≤ 0x20
  ((s.dropWhile isEdge).reverse.dropWhile isEdge).reverse.filter
    fun c => c != '\t' && c != '\n' && c != '\r'

def isSchemeChar (c : Char) : Bool := c.isAlphanum || c == '+' || c == '-' || c == '.'

def cutScheme : List Char → Option (String × List Char)
  | [] => none
  | c :: s =>
    match (c :: s).dropWhile isSchemeChar with
    | ':' :: rest =>
      if c.isAlpha then
        some (String.ofList (((c :: s).takeWhile isSchemeChar).map Char.toLower), rest)
      else none
    | _ => none

def isDoubleDot (s : String) : Bool :=
  [".", "%2e"].any fun a => [".", "%2e"].any fun b => Text.asciiLower s == a ++ b

def isSingleDot (s : String) : Bool := Text.asciiLower s == "." || Text.asciiLower s == "%2e"

def isDriveLetter (s : List Char) : Bool :=
  match s with
  | [a, b] => a.isAlpha && (b == ':' || b == '|')
  | _ => false

/-- A segment that is, or starts before a backslash with, the letter of a drive. -/
def namesDrive (s : List Char) : Bool :=
  match s with
  | a :: b :: rest => isDriveLetter [a, b] && (rest.isEmpty || rest.head? == some '\\')
  | _ => false

def goUp (segments : List String) : List String :=
  if segments.getLast?.any fun s => namesDrive s.toList then segments else segments.dropLast

/-- One piece between slashes is added to the path; `last` if no slash follows. -/
def walk (segments : List String) (piece : List Char) (last : Bool) : List String :=
  let text := String.ofList (encodeWhere inPath piece)
  let ending := if last then [""] else []
  if isDoubleDot text then goUp segments ++ ending
  else if isSingleDot text then segments ++ ending
  else segments ++ [text]

def walkAll : List String → List (List Char) → List String
  | segments, [] => segments
  | segments, [piece] => walk segments piece true
  | segments, piece :: rest => walkAll (walk segments piece false) rest

def pathOf (kind : SchemeKind) (s : List Char) : UrlPath :=
  let segments := walkAll [] (Text.splitBy (isSlash kind) s)
  if kind = .file then
    .segments (match segments.dropWhile (· == "") with
      | [] => [""]
      | kept => kept)
  else .segments segments

structure Tail where
  path : List Char
  query : Option (List Char)
  fragment : Option (List Char)

def cutTail (s : List Char) : Tail :=
  let beforeHash := s.takeWhile (· != '#')
  let after (mark : Char) (t : List Char) : Option (List Char) :=
    if t.contains mark then some ((t.dropWhile (· != mark)).drop 1) else none
  ⟨beforeHash.takeWhile (· != '?'), after '?' beforeHash, after '#' s⟩

def finish (u : Url) (kind : SchemeKind) (tail : Tail) : Url :=
  let querySet := if kind = .other then inQuery else inSpecialQuery
  { u with
    query := tail.query.map fun q => String.ofList (encodeWhere querySet q)
    fragment := tail.fragment.map fun f => String.ofList (encodeWhere inFragment f) }

/-- A path after a host; only special schemes have one where none is written. -/
def pathAfterHost (kind : SchemeKind) (s : List Char) : UrlPath :=
  match s with
  | [] => if kind = .other then .segments [] else .segments [""]
  | c :: rest => pathOf kind (if isSlash kind c then rest else c :: rest)

/-- The last at sign before the path ends the user's name and password. -/
def cutUserInfo (kind : SchemeKind) (s : List Char) : Except Fault (String × List Char) :=
  let authority := s.takeWhile (!endsAuthority kind ·)
  if !authority.contains '@' then .ok ("", s)
  else
    let afterAt := (authority.reverse.takeWhile (· != '@')).reverse
    let info := authority.take (authority.length - afterAt.length - 1)
    let rest := s.drop (info.length + 1)
    let name := info.takeWhile (· != ':')
    let password := (info.dropWhile (· != ':')).drop 1
    if info = [] ∧ rest.head?.any (endsAuthority kind) then .error .emptyHost
    else if name = [] ∧ password = [] then .ok ("", rest)
    else
      let encode := encodeWhere inUserInfo
      let secret := if password = [] then [] else ':' :: encode password
      .ok (String.ofList (encode name ++ secret ++ ['@']), rest)

def cutHost (kind : SchemeKind) : (inBrackets : Bool) → List Char → List Char × List Char
  | _, [] => ([], [])
  | b, c :: s =>
    if endsAuthority kind c ∨ (c = ':' ∧ !b) then ([], c :: s)
    else
      let (host, rest) := cutHost kind (if c = '[' then true else if c = ']' then false else b) s
      (c :: host, rest)

def startsTail (c : Char) : Bool := ['/', '\\', '?', '#'].contains c

def cutPort (scheme : String) : List Char → Except Fault (Option Nat × List Char)
  | ':' :: s =>
    let digits := s.takeWhile Char.isDigit
    let rest := s.dropWhile Char.isDigit
    let port := (radixValue 10 digits).getD 0
    if 65535 < port then .error .badPort
    else if rest.head?.any fun c => !startsTail c then .error .badPort
    else if digits = [] ∨ some port = defaultPort scheme then .ok (none, rest)
    else .ok (some port, rest)
  | s => .ok (none, s)

def withAuthority (scheme : String) (kind : SchemeKind) (s : List Char) : Except Fault Url := do
  let (userInfo, s) ← cutUserInfo kind s
  let (hostText, s) := cutHost kind false s
  if hostText = [] ∧ (kind = .special ∨ s.head? = some ':' ∨ userInfo ≠ "") then
    throw .emptyHost
  let host ← if kind = .special then specialHost hostText else opaqueHost hostText
  let (port, s) ← cutPort scheme s
  let tail := cutTail s
  return finish { scheme, userInfo, host := some host, port, path := pathAfterHost kind tail.path }
    kind tail

/-- Two slashes may be followed by a host; a drive letter there starts the path. -/
def fileUrl (s : List Char) : Except Fault Url := do
  let tail := cutTail s
  match tail.path with
  | a :: b :: rest =>
    if isSlash .file a && isSlash .file b then
      let hostText := rest.takeWhile (!isSlash .file ·)
      let path := rest.dropWhile (!isSlash .file ·)
      if isDriveLetter hostText then
        return finish { scheme := "file", host := some "", path := pathOf .file rest } .file tail
      let host ← if hostText = [] then .ok "" else specialHost hostText
      let host := if host = "localhost" then "" else host
      return finish { scheme := "file", host := some host, path := pathAfterHost .file path }
        .file tail
    else
      let path := if isSlash .file a then b :: rest else a :: b :: rest
      return finish { scheme := "file", host := some "", path := pathOf .file path } .file tail
  | [c] =>
    let path := if isSlash .file c then [] else [c]
    return finish { scheme := "file", host := some "", path := pathOf .file path } .file tail
  | [] => return finish { scheme := "file", host := some "", path := .segments [""] } .file tail

def otherUrl (scheme : String) (s : List Char) : Except Fault Url :=
  match s with
  | '/' :: '/' :: rest => withAuthority scheme .other rest
  | _ =>
    let tail := cutTail s
    let path := match tail.path with
      | '/' :: rest => pathOf .other rest
      | rest => .bare (String.ofList (encodeWhere inControls rest))
    .ok (finish { scheme, path } .other tail)

def parse (text : String) : Except Fault Url :=
  match cutScheme (cleaned text.toList) with
  | none => .error .noBase
  | some (scheme, rest) =>
    match schemeKind scheme with
    | .file => fileUrl rest
    | .special => withAuthority scheme .special (rest.dropWhile (isSlash .special))
    | .other => otherUrl scheme rest

end Url
end DesignMarkup
