/-
  What takes the requests of a client.

  A transport takes the text of a request and gives a response, or a fault if
  there is none.  That over HTTP is made from a configuration, of which it keeps
  the secret: requests go to the root of the endpoint.  A user agent has to be a
  header value: a control other than the tab cannot be sent.
-/
import QueryWire.Config
import QueryWire.Response.Failure

namespace QueryWire

open Response (Failure)

/-! ## Replies -/

/-- A request that got no response. -/
inductive TransportFault
  | connect (message : String)
  | timeout (message : String)
  | request (message : String)
deriving DecidableEq

def TransportFault.message : TransportFault → String
  | .connect message => "Connection failed: " ++ message
  | .timeout message => "Request timed out: " ++ message
  | .request message => "Request failed: " ++ message

/-- Without a response the service counts as unavailable. -/
def TransportFault.failure (fault : TransportFault) : Failure :=
  ⟨.unavailable, .ofSummary none fault.message⟩

structure RawResponse where
  status : UInt16
  body : String

abbrev Reply := Except TransportFault RawResponse

/-! ## Connections -/

structure Connection where
  url : Url
  secret : Option String

namespace Connection

/-- Whether a header value can hold the character. -/
def isHeaderChar (c : Char) : Bool :=
  c == '\t' || decide (0x20 ≤ c.toNat ∧ c.toNat ≠ 0x7F)

def ofConfig (config : Config) : Except TransportFault Connection :=
  match config.endpoint.root with
  | .error fault => .error (.request ("Invalid endpoint: " ++ fault.message))
  | .ok url =>
    if config.userAgent.toList.all isHeaderChar then .ok ⟨url, config.secret⟩
    else .error (.request "builder error")

/-- The connection in a log, which shows only whether there is a secret. -/
def diagnostic (connection : Connection) : String :=
  "HttpTransport \x7b url: " ++ Text.quoted connection.url.href ++ ", authenticated: " ++
    (if connection.secret.isSome then "true" else "false") ++ " \x7d"

end Connection

/-- A connection over HTTP, or a transport of another kind with data of its own. -/
inductive Transport
  | http (connection : Connection)
  | custom (data : String)

end QueryWire
