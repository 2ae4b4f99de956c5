/-
  Failures of requests.

  A failure has a kind, chosen by the status of the response alone, and a detail
  with the status, the descriptors of the body and a summary.  Without a
  response there is no status.
-/
import QueryWire.Response.Descriptor

namespace QueryWire.Response

inductive Kind
  | badRequest
  | unauthorized
  | notFound
  | internalError
  | unavailable
  | unknown
deriving DecidableEq

namespace Kind

def ofStatus (status : UInt16) : Kind :=
  if status = 400 then .badRequest
  else if status = 401 then .unauthorized
  else if status = 404 then .notFound
  else if status = 500 then .internalError
  else if status = 503 then .unavailable
  else .unknown

/-- A short name for logs. -/
def name : Kind → String
  | .badRequest => "bad_request"
  | .unauthorized => "unauthorized"
  | .notFound => "not_found"
  | .internalError => "internal_error"
  | .unavailable => "unavailable"
  | .unknown => "unknown"

/-- What a message of this kind begins with. -/
def title : Kind → String
  | .badRequest => "Bad request"
  | .unauthorized => "Unauthorized"
  | .notFound => "Not found"
  | .internalError => "Internal error"
  | .unavailable => "Unavailable"
  | .unknown => "Unknown error"

end Kind

structure Detail where
  status : Option UInt16
  descriptors : List Descriptor
  summary : String
deriving DecidableEq

namespace Detail

def statusText (status : UInt16) : String :=
  String.ofList (Text.Numeral.ofNat status.toNat)

/-- The detail of a response whose body holds descriptors. -/
def ofDescriptors (status : UInt16) (descriptors : List Descriptor) : Detail :=
  ⟨some status, descriptors,
    if descriptors.isEmpty then "HTTP " ++ statusText status
    else ", ".intercalate (descriptors.map (fun d => d.code ++ ": " ++ d.description))⟩

def ofSummary (status : Option UInt16) (summary : String) : Detail :=
  ⟨status, [], summary⟩

/-- The detail of a response whose body holds no descriptors. -/
def unreadable (status : UInt16) : Detail :=
  .ofSummary (some status)
    (if status = 503 then "Service Unavailable: Unparseable response."
    else "Unparseable service " ++ statusText status ++ " response.")

end Detail

structure Failure where
  kind : Kind
  detail : Detail
deriving DecidableEq

namespace Failure

def message (f : Failure) : String :=
  f.kind.title ++ ": " ++ f.detail.summary

/-- A response that could not be understood, or a request that could not be made. -/
def unknown (status : Option UInt16) (summary : String) : Failure :=
  ⟨.unknown, .ofSummary status summary⟩

/-- The failure of a response with the given status and body. -/
def ofResponse (status : UInt16) (body : String) : Failure :=
  ⟨.ofStatus status,
    match readBody body with
    | .ok descriptors => .ofDescriptors status descriptors
    | .error _ => .unreadable status⟩

end Failure

end QueryWire.Response
