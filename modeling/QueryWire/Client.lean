/-
  The client: what a call sends and what it makes of the reply.

  `Call.body` is the text of a request, and `Client.settle` turns the reply of
  the transport into the results of the call or one failure.  What a transport
  replies is not known to the client: a script of replies answers the calls of a
  session one after the other (`Client.run`); a call without a body takes no
  reply.
-/
import QueryWire.LazyValue
import QueryWire.Transport

namespace QueryWire

open Json (Node)
open Response (Failure)

/-! ## Calls -/

inductive Call
  | query (e : Expr)
  | batch (es : List Expr)

def Call.body : Call → Except NonFinite String
  | .query e => e.text
  | .batch es => Expr.batchText es

structure Client where
  transport : Transport
  codec : Codec

namespace Client

/-! ## Clients -/

/-- A client over any transport, with a codec of its own. -/
def withTransport (transport : Transport) (codec : Codec) : Client where
  transport := transport
  codec := codec

/-- A client over a connection that is made from a configuration. -/
def connect (config : Config) : Except Failure Client :=
  match Connection.ofConfig config with
  | .ok connection => .ok (.withTransport (.http connection) {})
  | .error fault => .error fault.failure

/-! ## Replies -/

/-- The failure of a call whose request cannot be written. -/
def unsendable (e : NonFinite) : Failure :=
  .unknown none (CodecFault.unwritable e).message

/-- The resource of a response. -/
def resource (response : RawResponse) : Except Failure Node :=
  if 300 ≤ response.status then .error (.ofResponse response.status response.body)
  else match Json.document response.body with
    | .error fault =>
      .error (.unknown (some response.status)
        ("Malformed response body: " ++ fault.message response.body))
    | .ok envelope =>
      match envelope.object?.bind (Fields.get? "resource") with
      | some node => .ok node
      | none => .error (.unknown (some response.status) "Response envelope has no resource")

/-- The nodes of a batch, as many as expressions were sent. -/
def batchItems (sent : Nat) : Node → Except Failure (List Node)
  | .array items =>
    if items.length = sent then .ok items
    else .error (.unknown none
      ("Expected " ++ String.ofList (Text.Numeral.ofNat sent) ++ " batch results, received " ++
        String.ofList (Text.Numeral.ofNat items.length)))
  | _ => .error (.unknown none "Batch response resource is not an array")

/-- What a call yields. -/
inductive Answer
  | one (v : LazyValue)
  | many (vs : List LazyValue)

/-- The answer of a call to a response. -/
def answer (client : Client) (call : Call) (response : RawResponse) : Except Failure Answer :=
  match resource response with
  | .error failure => .error failure
  | .ok node =>
    match call with
    | .query _ => .ok (.one ⟨node, client.codec⟩)
    | .batch es =>
      (batchItems es.length node).map (fun items => .many (items.map (⟨·, client.codec⟩)))

/-- What a call makes of the reply to its request. -/
def settle (client : Client) (call : Call) : Reply → Except Failure Answer
  | .error fault => .error fault.failure
  | .ok response => client.answer call response

/-! ## Sessions -/

/-- What a call sent and what came of it. -/
structure Outcome where
  sent : List String
  result : Except Failure Answer

/-- The reply of a script that has come to its end. -/
def noReply : Reply :=
  .error (.request "no scripted response")

/-- Runs calls one after the other against a script of replies. -/
def run (client : Client) : List Call → List Reply → List Outcome
  | [], _ => []
  | call :: calls, script =>
    match call.body with
    | .error e => ⟨[], .error (unsendable e)⟩ :: run client calls script
    | .ok body =>
      ⟨[body], client.settle call (script.head?.getD noReply)⟩ :: run client calls script.tail

/-! ## Diagnostics -/

/-- The client in a log; its transport is not shown. -/
def diagnostic (client : Client) : String :=
  "FaunaClient \x7b codec: Codec \x7b accept_legacy_object_tag: " ++
    (if client.codec.acceptLegacyObjectTag then "true" else "false") ++ " \x7d, .. \x7d"

end Client

end QueryWire
