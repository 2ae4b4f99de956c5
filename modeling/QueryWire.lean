import QueryWire.Client
import QueryWire.Session
import QueryWire.Config.Setup
import QueryWire.Query.Paginate
import QueryWire.Value.Digest
import QueryWire.Proofs.Catalogue.Term
import QueryWire.Proofs.Escaping
import QueryWire.Proofs.Catalogue.Page
import QueryWire.Proofs.Catalogue.Reading
import QueryWire.Proofs.Calendar.Civil
import QueryWire.Proofs.Calendar.Clock
import QueryWire.Proofs.Numeral
import QueryWire.Proofs.Calendar.DateText
import QueryWire.Proofs.Calendar.InstantText
import QueryWire.Proofs.Calendar.InstantRange
import QueryWire.Proofs.Json.StringText
import QueryWire.Proofs.Binary64.Rounding
import QueryWire.Proofs.Json.NumberText
import QueryWire.Proofs.Decimal.Shortest
import QueryWire.Proofs.Decimal.Layout
import QueryWire.Proofs.Json.NodeText
import QueryWire.Proofs.Json.DocumentText
import QueryWire.Proofs.Wire.Tree
import QueryWire.Proofs.Wire.Encoding
import QueryWire.Proofs.Wire.Unambiguous
import QueryWire.Proofs.Wire.RoundTrip
import QueryWire.Proofs.Wire.Tags
import QueryWire.Proofs.Wire.Coercions
import QueryWire.Proofs.Wire.Navigation
import QueryWire.Proofs.Wire.Quoting
import QueryWire.Proofs.Wire.Timestamps
import QueryWire.Proofs.Related
import QueryWire.Proofs.Fields
import QueryWire.Proofs.Json.Keys
import QueryWire.Proofs.Json.Members
import QueryWire.Proofs.Json.Equality
import QueryWire.Proofs.Client.Outcome
import QueryWire.Proofs.Client.Session
import QueryWire.Proofs.Value.Equality
import QueryWire.Proofs.Value.Digest
import QueryWire.Proofs.Binary64.Nearest
import QueryWire.Proofs.Wire.Rewriting
import QueryWire.Proofs.Wire.Integers
import QueryWire.Proofs.Wire.Equality
import QueryWire.Proofs.Wire.Rearranging
import QueryWire.Proofs.Catalogue.Congruence
import QueryWire.Proofs.Catalogue.Literal
import QueryWire.Proofs.Wire.Numbers
import QueryWire.Proofs.Catalogue.Settings
import QueryWire.Proofs.Config.Endpoint
import QueryWire.Proofs.Config.Environment
import QueryWire.Proofs.Config.Secrecy
import QueryWire.Proofs.Json.Grammar
import QueryWire.Proofs.Json.Reading
import QueryWire.Proofs.Json.Skipping
import QueryWire.Proofs.Json.Record
import QueryWire.Proofs.Response.Body
