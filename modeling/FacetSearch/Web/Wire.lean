import FacetSearch.Text.Digits
import FacetSearch.Text.Utf8
import FacetSearch.Web.Exchange

/-!
# Requests and replies on the wire

A request is a few lines of text; a reply is a head of lines, an empty line and a body.  How long
the body is follows from the head: it comes in chunks that say their sizes, or has a length
announced, or goes on until the connection ends.
-/

namespace FacetSearch.Web

open FacetSearch.Text

/-! ## Where to connect -/

/-- The authority without user information. -/
def Url.server (u : Url) : String :=
  match cut? '@' u.authority.toList with
  | some (_, r) => String.ofList r
  | none => u.authority

/-- The host to connect to, without the brackets of a numeric address. -/
def Url.host (u : Url) : String :=
  match u.server.toList with
  | '[' :: r => String.ofList (r.takeWhile (· != ']'))
  | s => String.ofList (s.takeWhile (· != ':'))

/-- The number of the service to connect to. -/
def Url.service (u : Url) : Nat :=
  (decimal? (splitService u.server.toList).2).getD (usualService u.scheme)

/-! ## Requests -/

/-- The request for an address. -/
def Url.request (u : Url) : String :=
  let target := u.path ++ (match u.query with
    | some q => "?" ++ q
    | none => "")
  "GET " ++ target ++ " HTTP/1.1\r\naccept: */*\r\nhost: " ++ u.server ++
    "\r\nconnection: close\r\n\r\n"

/-! ## Replies -/

/-- The bytes before and after the first line end, if there is one. -/
def cutLine? : List UInt8 → Option (List UInt8 × List UInt8)
  | [] => none
  | 13 :: 10 :: r => some ([], r)
  | b :: r => (cutLine? r).map fun (line, rest) => (b :: line, rest)

/-- The lines of a head, at most `n`, up to the empty one, and what follows. -/
def cutHead? : Nat → List UInt8 → Option (List (List UInt8) × List UInt8)
  | 0, _ => none
  | n + 1, s => do
    let (line, r) ← cutLine? s
    if line.isEmpty then return ([], r)
    else
      let (lines, rest) ← cutHead? n r
      return (line :: lines, rest)

/-- The status code in the first line of a head. -/
def statusOf? (line : List UInt8) : Option Nat :=
  match (Utf8.decodeLossy line).span (· != ' ') with
  | (protocol, ' ' :: r) =>
    if protocol.take 5 = "HTTP/".toList then decimal? (r.takeWhile (· != ' ')) else none
  | _ => none

/-- The name of a header, in lower case, and its value. -/
def headerOf? (line : List UInt8) : Option (String × String) :=
  (cut? ':' (Utf8.decodeLossy line)).map fun (name, value) =>
    (String.ofList (name.map Char.toLower),
      String.ofList ((value.dropWhile (· == ' ')).reverse.dropWhile (· == ' ')).reverse)

/-- The value of a header. -/
def header? (headers : List (String × String)) (name : String) : Option String :=
  (headers.find? fun h => h.1 == name).map (·.2)

/-- The size that the line before a chunk says; an extension may follow it. -/
def chunkSize? (line : List UInt8) : Option Nat :=
  numberIn? 16 ((Utf8.decodeLossy line).takeWhile fun c => c != ';' && c != ' ')

/-- The body in chunks, at most `n` of them, up to the empty one. -/
def readChunks : Nat → List UInt8 → Except Failure (List UInt8)
  | 0, _ => .error .cutShort
  | n + 1, s =>
    match cutLine? s with
    | none => .error .cutShort
    | some (line, r) =>
      match chunkSize? line with
      | none => .error .malformed
      | some 0 => .ok []
      | some size =>
        if r.length < size + 2 then .error .cutShort
        else do return r.take size ++ (← readChunks n (r.drop (size + 2)))

/-- The body of a reply, from all that came after its head until the connection ended. -/
def readBody (headers : List (String × String)) (s : List UInt8) : Except Failure (List UInt8) :=
  if header? headers "transfer-encoding" = some "chunked" then readChunks (s.length + 1) s
  else match (header? headers "content-length").bind fun v => decimal? v.toList with
    | some length => if s.length < length then .error .cutShort else .ok (s.take length)
    | none => .ok s

/-- The reply in the bytes that came until the connection ended. -/
def Reply.ofBytes (s : List UInt8) : Except Failure Reply :=
  match cutHead? (s.length + 1) s with
  | some (first :: lines, r) =>
    match statusOf? first with
    | some status => do return ⟨status, ← readBody (lines.filterMap headerOf?) r⟩
    | none => .error .malformed
  | some ([], _) => .error .malformed
  | none => .error .closed

end FacetSearch.Web
