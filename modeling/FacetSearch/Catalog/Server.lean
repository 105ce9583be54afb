import FacetSearch.Catalog.Body
import FacetSearch.Query.Parameter
import FacetSearch.Web.Exchange

/-!
# Catalogs from a server

The catalog of a field has an address below the base address of the server, with the key as
its last segment.  A reply of success holds the values; any other one holds a reason, or a
text that has to do for one.
-/

namespace FacetSearch.Catalog

open FacetSearch.Text

/-- The address of the catalog of a field. -/
def url (base key : String) : String :=
  dropTrailing '/' base ++ "/v0/catalog/" ++ Query.encodeComponent key

/-- Why a server refused, from the body of its reply. -/
def refusalReason (body : List UInt8) : String :=
  match parseRefusal? body with
  | .ok reason => reason
  | .error _ => String.ofList (Utf8.decodeLossy body)

/-- The values in a reply. -/
def valuesOfReply (key : String) (reply : Web.Reply) : Except CatalogError (List String) :=
  if !reply.isSuccess then .error (.status key reply.status (refusalReason reply.body))
  else match Response.parse? reply.body with
    | .ok response => .ok response.values
    | .error fault => .error (.undecodable key fault.message)

/-- The values in an answer, or why there are none. -/
def valuesOfAnswer (key : String) : Except String Web.Reply → Except CatalogError (List String)
  | .ok reply => valuesOfReply key reply
  | .error reason => .error (.transport key reason)

/-- Fetches the catalog of a field from the server with this base address. -/
def fetch {m : Type → Type} [Monad m] (get : Web.Url → m (Except Web.Failure Web.Reply))
    (base key : String) : m (Except CatalogError (List String)) := do
  match Web.prepare (url base key) with
  | .error reason => return .error (.transport key reason)
  | .ok address => return valuesOfAnswer key (Web.explain address (← get address))

/-- The catalog that a server keeps, as a function of the network. -/
def ofServer (network : Web.Network) (base : String) : Catalog := fun key =>
  Id.run (fetch (fun address => pure (network address)) base key)

end FacetSearch.Catalog
