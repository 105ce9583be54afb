import FacetSearch.Web.Url

/-!
# Requests and replies

Asking for an address either gets a reply or fails on the way.  Which of these happens is up to the
network, which is any function from addresses to replies.
-/

namespace FacetSearch.Web

/-- Why a request got no whole reply. -/
inductive Failure where
  /-- The text is not an absolute address. -/
  | notAbsolute
  /-- Requests to addresses of this kind cannot be sent. -/
  | schemeNotAllowed
  /-- The host has no address. -/
  | unresolved
  /-- There is no way to the host. -/
  | unreachable
  /-- Nothing listens there. -/
  | refused
  /-- The host takes encrypted connections only. -/
  | needsEncryption
  /-- The connection ended before the head of a reply did. -/
  | closed
  /-- What came is not a reply. -/
  | malformed
  /-- The reply broke off in its body. -/
  | cutShort
deriving DecidableEq, Repr, Inhabited

/-- What went wrong, in words, for the address asked for. -/
def Failure.message (url : String) : Failure → String
  | notAbsolute => "builder error: relative URL without a base"
  | schemeNotAllowed => "builder error for url (" ++ url ++ "): URL scheme is not allowed"
  | unresolved =>
    sending ++ "error trying to connect: dns error: failed to lookup address information: " ++
      "Name or service not known"
  | unreachable =>
    sending ++ "error trying to connect: tcp connect error: Network is unreachable (os error 101)"
  | refused =>
    sending ++ "error trying to connect: tcp connect error: Connection refused (os error 111)"
  | needsEncryption => sending ++ "error trying to connect: encryption is not available"
  | closed => sending ++ "connection closed before message completed"
  | malformed => sending ++ "invalid HTTP header parsed"
  | cutShort =>
    "request or response body error: error reading a body from connection: " ++
      "end of file before message length reached"
where
  /-- How a message about a request begins that could not be sent. -/
  sending : String := "error sending request for url (" ++ url ++ "): "

/-- A status code and the bytes of the body. -/
structure Reply where
  status : Nat
  body : List UInt8
deriving DecidableEq, Repr, Inhabited

/-- Whether the server did as it was asked. -/
def Reply.isSuccess (r : Reply) : Bool :=
  200 ≤ r.status && r.status < 300

/-- What asking for an address leads to. -/
abbrev Network := Url → Except Failure Reply

/-- The network that leads nowhere. -/
def Network.down : Network := fun _ => .error .unreachable

/-- The address that a text spells, if it can be asked for. -/
def prepare (text : String) : Except String Url :=
  match Url.parse? text with
  | none => .error (Failure.notAbsolute.message text)
  | some url =>
    if url.isWeb then .ok url else .error (Failure.schemeNotAllowed.message url.render)

/-- A failure in words. -/
def explain (url : Url) : Except Failure Reply → Except String Reply
  | .ok reply => .ok reply
  | .error failure => .error (failure.message url.render)

end FacetSearch.Web
