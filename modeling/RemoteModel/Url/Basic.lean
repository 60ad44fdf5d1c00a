import RemoteModel.Entries
import RemoteModel.Text.Numeral
import RemoteModel.Url.Host

/-!
# Addresses

An address has a scheme, an authority, a path and, if they are there, a query and a fragment.
`Url.ofText?` reads one and `Url.text` writes it.

**Normal form.** Scheme and host are in lower case, the default port of the scheme is left out,
dot segments are removed from the path, and characters that may not stand in their component
are percent-encoded. Percent signs stay as they are.

**Refusals.** Control characters, more than 65536 characters, a port that is no integer, a host
that is none, and a path that would be read as something else.
-/

namespace RemoteModel

/-- The components of an address as they are given. -/
structure Url.Parts where
  scheme : String := ""
  authority : String := ""
  path : String := ""
  query : Option String := none
  fragment : Option String := none
deriving DecidableEq, Repr

/-- An address in normal form. -/
structure Url where
  scheme : String
  userinfo : String
  host : String
  port : Option Int
  path : String
  query : Option String
  fragment : Option String
deriving DecidableEq, Repr

namespace Url

/-! ## Splitting -/

/-- The most characters of an address or a component. -/
def maxLength : Nat := 65536

/-- A character that no address holds. -/
def isControl (c : Char) : Bool := c.toNat < 0x20 || c.toNat = 0x7F

/-- The text has a length and characters that an address may have. -/
def isPlain (s : String) : Bool := s.length ≤ maxLength && !s.toList.any isControl

def isAsciiLetter (c : Char) : Bool := c.isAlpha

def isSchemeChar (c : Char) : Bool :=
  c.isAlpha || c.isDigit || c = '+' || c = '.' || c = '-'

/-- A scheme, or nothing. -/
def isScheme : List Char → Bool
  | [] => true
  | c :: rest => isAsciiLetter c && rest.all isSchemeChar

/-- Splits off a scheme and its colon, if they are there. -/
def splitScheme (cs : List Char) : List Char × List Char :=
  match Text.cut? ':' cs with
  | some (scheme, rest) => if isScheme scheme then (scheme, rest) else ([], cs)
  | none => ([], cs)

/-- Splits off an authority behind two slashes, if it is there. -/
def splitAuthority : List Char → List Char × List Char
  | '/' :: '/' :: rest =>
    let inside (c : Char) : Bool := c != '/' && c != '?' && c != '#'
    (rest.takeWhile inside, rest.dropWhile inside)
  | rest => ([], rest)

/-- The components of a text. -/
def Parts.ofText (s : String) : Parts :=
  let (scheme, rest) := splitScheme s.toList
  let (authority, rest) := splitAuthority rest
  let (front, fragment) :=
    match Text.cut? '#' rest with
    | some (front, fragment) => (front, some fragment)
    | none => (rest, none)
  let (path, query) :=
    match Text.cut? '?' front with
    | some (path, query) => (path, some query)
    | none => (front, none)
  { scheme := String.ofList scheme, authority := String.ofList authority,
    path := String.ofList path, query := query.map String.ofList,
    fragment := fragment.map String.ofList }

/-- Every component could be split off an address. -/
def Parts.areSound (p : Parts) : Bool :=
  [p.scheme, p.authority, p.path, p.query.getD "", p.fragment.getD ""].all isPlain &&
    isScheme p.scheme.toList &&
    !p.authority.toList.any (fun c => c = '/' || c = '?' || c = '#') &&
    !p.path.toList.any (fun c => c = '?' || c = '#') &&
    !(p.query.getD "").toList.contains '#'

/-! ## Authorities -/

/-- What stands before and after the last occurrence of a separator, if it occurs. -/
def cutLast? (sep : Char) (cs : List Char) : Option (List Char × List Char) :=
  (Text.cut? sep cs.reverse).map fun (after, before) => (before.reverse, after.reverse)

/-- The user, the host and the port of an authority. -/
def splitUser (authority : List Char) : List Char × List Char × List Char :=
  let (user, rest) := (cutLast? '@' authority).getD ([], authority)
  let bracketed :=
    if rest.head? == some '[' then
      (cutLast? ']' rest).map fun (before, after) => (before ++ [']'], after)
    else none
  let (host, rest) := bracketed.getD (rest.takeWhile (· != ':'), rest.dropWhile (· != ':'))
  (user, host, if rest.head? == some ':' then rest.drop 1 else rest)

/-- The port that a scheme has if none is given. -/
def defaultPort? (scheme : String) : Option Int :=
  if scheme = "http" ∨ scheme = "ws" then some 80
  else if scheme = "https" ∨ scheme = "wss" then some 443
  else if scheme = "ftp" then some 21
  else none

/-- The port of an authority; `none` stands for a port that is none. -/
def port? (scheme : String) (cs : List Char) : Option (Option Int) :=
  if cs.isEmpty then some none
  else
    (Text.integer? (String.ofList cs)).map fun n =>
      if defaultPort? scheme = some n then none else some n

/-! ## Paths -/

/-- Removes dot segments; the leading empty segment stays. -/
def removeDots : List (List Char) → List (List Char) → List (List Char)
  | done, [] => done
  | done, ['.'] :: rest => removeDots done rest
  | done, ['.', '.'] :: rest => removeDots (if done = [[]] then done else done.dropLast) rest
  | done, segment :: rest => removeDots (done ++ [segment]) rest

/-- Segments with slashes between them. -/
def slashed : List (List Char) → List Char
  | [] => []
  | [s] => s
  | s :: rest => s ++ '/' :: slashed rest

/-- A path without dot segments. -/
def normalPath (cs : List Char) : List Char := slashed (removeDots [] (Text.pieces '/' cs))

/-- The path cannot be taken for another component. -/
def isPathAllowed (hasScheme hasAuthority : Bool) (cs : List Char) : Bool :=
  (!hasAuthority || cs.isEmpty || cs.head? == some '/') &&
    (hasScheme || hasAuthority || !(cs.take 2 == ['/', '/'] || cs.head? == some ':'))

/-! ## Characters of components -/

/-- A visible ASCII character other than some. -/
def isVisibleBut (others : List Char) (c : Char) : Bool :=
  0x20 < c.toNat && c.toNat < 0x7F && !others.contains c

def isQuerySafe : Char → Bool := isVisibleBut ['"', '#', '<', '>']

def isFragmentSafe : Char → Bool := isVisibleBut ['"', '<', '>', '\x60']

def isPathSafe : Char → Bool :=
  isVisibleBut ['"', '#', '<', '>', '?', '\x60', '\x7b', '\x7d']

def isUserSafe (c : Char) : Bool :=
  isPathSafe c && ['/', ';', '=', '@', '[', '\\', ']', '^', '|'].all fun d => c != d

/-- A component with all other characters percent-encoded. -/
def escape (safe : Char → Bool) (s : String) : String :=
  String.ofList (Text.Percent.encode safe s.toList)

/-! ## Reading and writing -/

/-- The normal form of components. -/
def normalize? (p : Parts) : Option Url := do
  let scheme := Text.lower p.scheme
  let (user, host, port) := splitUser p.authority.toList
  let userinfo := String.ofList (Text.Percent.encode isUserSafe user)
  let host ← host? host
  let port ← port? p.scheme port
  let hasScheme := scheme != ""
  let hasAuthority := userinfo != "" || !host.isEmpty || port.isSome
  if !isPathAllowed hasScheme hasAuthority p.path.toList then none
  let path := if hasScheme || hasAuthority then normalPath p.path.toList else p.path.toList
  some
    { scheme := scheme, userinfo := userinfo, host := String.ofList host, port := port,
      path := String.ofList (Text.Percent.encode isPathSafe path),
      query := p.query.map (escape isQuerySafe),
      fragment := p.fragment.map (escape isFragmentSafe) }

/-- Reads an address. -/
def ofText? (s : String) : Option Url :=
  if isPlain s then normalize? (Parts.ofText s) else none

/-- Puts components together. -/
def ofParts? (p : Parts) : Option Url := if p.areSound then normalize? p else none

/-- The user, the host and the port, as they are written. -/
def authority (u : Url) : String :=
  (if u.userinfo = "" then "" else u.userinfo ++ "@") ++
    (if u.host.toList.contains ':' then "[" ++ u.host ++ "]" else u.host) ++
    match u.port with
    | some n => ":" ++ toString n
    | none => ""

/-- The components of an address in normal form. -/
def parts (u : Url) : Parts :=
  { scheme := u.scheme, authority := u.authority, path := u.path, query := u.query,
    fragment := u.fragment }

/-- A component behind the character that introduces it. -/
def introduced (mark : String) : Option String → String
  | some s => mark ++ s
  | none => ""

/-- The text of an address. -/
def text (u : Url) : String :=
  (if u.scheme = "" then "" else u.scheme ++ ":") ++
    (if u.authority = "" then "" else "//" ++ u.authority) ++ u.path ++
      introduced "?" u.query ++ introduced "#" u.fragment

/-- The path with percent-encoded bytes decoded; an empty path is the root. -/
def decodedPath (u : Url) : String :=
  Text.Percent.decode (if u.path = "" then "/" else u.path).toList

/-- The path and the query, as they are written. -/
def target (u : Url) : String := (if u.path = "" then "/" else u.path) ++ introduced "?" u.query

/-- The address with another path and query. -/
def withTarget? (u : Url) (target : String) : Option Url :=
  match Text.cut? '?' target.toList with
  | some (path, query) =>
    ofParts? { u.parts with path := String.ofList path, query := some (String.ofList query) }
  | none => ofParts? { u.parts with path := target, query := none }

/-- The form that a query holds; an empty form is no query. -/
def formQuery (params : Entries String) : Option String :=
  if params.isEmpty then none else some (String.ofList (Text.Percent.form params))

/-- The address with a form as its query. -/
def withForm? (u : Url) (params : Entries String) : Option Url :=
  ofParts? { u.parts with query := formQuery params }

/-- The named values of the query. -/
def form (u : Url) : Entries String :=
  match u.query with
  | some q => Text.Percent.readForm q.toList
  | none => []

end Url

end RemoteModel
