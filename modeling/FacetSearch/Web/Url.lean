import FacetSearch.Text.Digits
import FacetSearch.Text.Percent
import FacetSearch.Text.Split

/-!
# Addresses on the web

An absolute address is read into its parts in the way browsers read it: blanks and line breaks are
forgiven, a backslash counts as a slash, characters that may not stand in a path are escaped, and
segments `.` and `..` are resolved, also when their dots are escaped.  So the path that a request
asks for need not be the path that was written.
-/

namespace FacetSearch.Web

open FacetSearch.Text

/-- An absolute address. -/
structure Url where
  scheme : String
  /-- User information, host, and the number of the service. -/
  authority : String
  path : String
  query : Option String
  fragment : Option String
deriving DecidableEq, Repr, Inhabited

namespace Url

/-- The schemes whose requests can be sent. -/
def isWeb (u : Url) : Bool :=
  u.scheme == "http" || u.scheme == "https"

/-- The address as it is shown. -/
def render (u : Url) : String :=
  u.scheme ++ "://" ++ u.authority ++ u.path ++
    (match u.query with
    | some q => "?" ++ q
    | none => "") ++
    (match u.fragment with
    | some f => "#" ++ f
    | none => "")

/-! ## Reading -/

/-- A control character or blank at the ends of an address. -/
def isMargin (c : Char) : Bool :=
  c ≤ ' '

/-- A character that is dropped wherever it stands. -/
def isDropped (c : Char) : Bool :=
  c == '\t' || c == '\n' || c == '\r'

/-- The address as it is read, without what is forgiven. -/
def clean (s : List Char) : List Char :=
  ((s.dropWhile isMargin).reverse.dropWhile isMargin).reverse.filter fun c => !isDropped c

/-- A character that a scheme may have after its first letter. -/
def isSchemeChar (c : Char) : Bool :=
  c.isAlphanum || c == '+' || c == '-' || c == '.'

/-- The scheme in lower case, and what follows its colon. -/
def scheme? (s : List Char) : Option (String × List Char) :=
  match cut? ':' s with
  | some (c :: r, rest) =>
    if c.isAlpha && r.all isSchemeChar then some (String.ofList ((c :: r).map Char.toLower), rest)
    else none
  | _ => none

/-- A slash of either kind. -/
def isSlash (c : Char) : Bool :=
  c == '/' || c == '\\'

/-- The end of an authority. -/
def endsAuthority (c : Char) : Bool :=
  isSlash c || c == '?' || c == '#'

/-- A character that no host may have. -/
def isForbiddenInHost (c : Char) : Bool :=
  c ≤ ' ' || ['<', '>', '^', '|', '%', '\x7f'].contains c

/-- A host and the number of the service after its last colon; a colon inside
brackets belongs to the host. -/
def splitService (s : List Char) : List Char × List Char :=
  let after := (s.reverse.takeWhile fun c => c != ':' && c != ']').reverse
  if after.length < s.length && s[s.length - after.length - 1]? == some ':' then
    (s.take (s.length - after.length - 1), after)
  else (s, [])

/-- The service that is meant where none is given. -/
def usualService (scheme : String) : Nat :=
  if scheme = "https" then 443 else 80

/-- The largest number of a service. -/
def maxService : Nat := 65535

/-- The host in lower case and the service, unless it is the usual one of the scheme. -/
def server? (scheme : String) (s : List Char) : Option (List Char) :=
  let (host, digits) := splitService s
  if host.isEmpty || host.any isForbiddenInHost then none
  else
    let host := host.map Char.toLower
    if digits.isEmpty then some host
    else match decimal? digits with
      | none => none
      | some service =>
        if maxService < service then none
        else if service = usualService scheme then some host
        else some (host ++ ':' :: (toString service).toList)

/-- The authority, with user information kept as it is. -/
def authority? (scheme : String) (s : List Char) : Option String :=
  match cut? '@' s with
  | some (user, rest) =>
    (server? scheme rest).map fun h => String.ofList (if user.isEmpty then h else user ++ '@' :: h)
  | none => (server? scheme s).map String.ofList

/-- A character that may stand in a path. -/
def isPathChar (c : Char) : Bool :=
  ' ' < c && c ≤ '~' && !(['"', '#', '<', '>', '?', '\x60', '\x7b', '\x7d'].contains c)

/-- A character that may stand in a query. -/
def isQueryChar (c : Char) : Bool :=
  ' ' < c && c ≤ '~' && !(['"', '#', '<', '>', '\''].contains c)

/-- A character that may stand in a fragment. -/
def isFragmentChar (c : Char) : Bool :=
  ' ' < c && c ≤ '~' && !(['"', '<', '>', '\x60'].contains c)

/-- The dots of a segment, when it has nothing but dots, plain or escaped. -/
def dots? : List Char → Option Nat
  | [] => some 0
  | '.' :: r => (dots? r).map (· + 1)
  | '%' :: '2' :: 'e' :: r => (dots? r).map (· + 1)
  | '%' :: '2' :: 'E' :: r => (dots? r).map (· + 1)
  | _ => none

/-- Resolves the segments of a path from one on; those kept so far are given last first.  A dot
segment at the end leaves the path open there. -/
def resolve (kept : List (List Char)) : List (List Char) → List (List Char)
  | [] => kept.reverse
  | s :: r =>
    let isLast := r.isEmpty
    if dots? s = some 1 then resolve (if isLast then [] :: kept else kept) r
    else if dots? s = some 2 then
      resolve (if isLast then [] :: kept.drop 1 else kept.drop 1) r
    else resolve (Percent.escape isPathChar s :: kept) r

/-- The path of an address, from what stands between authority and query. -/
def pathOf (s : List Char) : String :=
  let segments := pieces isSlash (s.drop 1)
  String.ofList ((resolve [] segments).flatMap fun seg => '/' :: seg)

/-- An address, if the text is an absolute one with a host. -/
def parse? (text : String) : Option Url := do
  let (scheme, s) ← scheme? (clean text.toList)
  let s := s.dropWhile isSlash
  let authority ← authority? scheme (s.takeWhile fun c => !endsAuthority c)
  let s := s.dropWhile fun c => !endsAuthority c
  let (s, fragment) :=
    match cut? '#' s with
    | some (s, f) => (s, some (String.ofList (Percent.escape isFragmentChar f)))
    | none => (s, none)
  let (s, query) :=
    match cut? '?' s with
    | some (s, q) => (s, some (String.ofList (Percent.escape isQueryChar q)))
    | none => (s, none)
  return ⟨scheme, authority, pathOf s, query, fragment⟩

end Url

end FacetSearch.Web
