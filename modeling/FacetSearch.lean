import FacetSearch.Form.Edit
import FacetSearch.Main
import FacetSearch.Markup.Detail
import FacetSearch.Results.Basic
import FacetSearch.Session.Run
import FacetSearch.Proofs.Form.LastRow
import FacetSearch.Proofs.Form.Loading
import FacetSearch.Proofs.Listing.Href
import FacetSearch.Proofs.Listing.Window
import FacetSearch.Proofs.Markup.Injection
import FacetSearch.Proofs.Session.Arrival
import FacetSearch.Proofs.Field.Given
import FacetSearch.Proofs.Session.Lucky
import FacetSearch.Proofs.Session.Fetching
import FacetSearch.Proofs.Tree.Expansion
import FacetSearch.Proofs.Results.Opening
import FacetSearch.Proofs.Results.Toggling
import FacetSearch.Proofs.Form.EmptyKey
import FacetSearch.Proofs.Listing.Trail
import FacetSearch.Proofs.Listing.Linked
import FacetSearch.Proofs.Listing.Active
import FacetSearch.Proofs.Listing.Turning
import FacetSearch.Proofs.Query.Pairs
import FacetSearch.Proofs.Text.Damage
import FacetSearch.Proofs.Field.FinalLabels
import FacetSearch.Proofs.Query.Rendered
import FacetSearch.Proofs.Query.Untouched
import FacetSearch.Proofs.Query.FormEncoding
import FacetSearch.Proofs.Markup.Items
import FacetSearch.Proofs.Tree.Document
import FacetSearch.Proofs.Tree.Lines
import FacetSearch.Proofs.Form.Named
import FacetSearch.Proofs.Session.Sampling
import FacetSearch.Proofs.Query.Printing
import FacetSearch.Proofs.Catalog.Endpoint
import FacetSearch.Proofs.Markup.Escaped
import FacetSearch.Proofs.Results.Ellipsis
