/-
  The configuration of a client: endpoint, secret, timeout and user agent.

  It starts from defaults and is set field by field, or read from the
  environment, where each variable that is set changes one field.  The secret
  is part of the configuration but of no diagnostic text.
-/
import QueryWire.Config.Duration
import QueryWire.Text.Blank
import QueryWire.Text.Quoted
import QueryWire.Url

namespace QueryWire

/-! ## Timeouts -/

/-- Why a text is no number of milliseconds. -/
inductive TimeoutFault
  | empty
  | invalidDigit
  | tooLarge
deriving DecidableEq

def TimeoutFault.message : TimeoutFault → String
  | .empty => "cannot parse integer from empty string"
  | .invalidDigit => "invalid digit found in string"
  | .tooLarge => "number too large to fit in target type"

/-- Reads digits from the left; the first one that is wrong or too much decides. -/
def readDigits (n : Nat) : List Char → Except TimeoutFault Nat
  | [] => .ok n
  | c :: cs =>
    match Text.Numeral.digit? c with
    | none => .error .invalidDigit
    | some d => if n * 10 + d < UInt64.size then readDigits (n * 10 + d) cs else .error .tooLarge

/-- A number of 64 bits with an optional plus sign. -/
def readMillis : List Char → Except TimeoutFault Nat
  | [] => .error .empty
  | ['+'] => .error .invalidDigit
  | '+' :: cs => readDigits 0 cs
  | cs => readDigits 0 cs

/-! ## Configurations -/

inductive ConfigFault
  | invalidEndpoint (fault : Url.UrlFault)
  | invalidTimeout (value : String) (fault : TimeoutFault)
deriving DecidableEq

def ConfigFault.message : ConfigFault → String
  | .invalidEndpoint fault => "Invalid endpoint URL: " ++ fault.message
  | .invalidTimeout value fault =>
    "Invalid timeout " ++ Text.quoted value ++ ": " ++ fault.message

structure Config where
  endpoint : Url
  secret : Option String
  timeout : Duration
  userAgent : String
deriving DecidableEq

namespace Config

/-- The service itself, over HTTPS. -/
def defaultEndpoint : Url where
  scheme := "https".toList
  authority := some { host := "rest.faunadb.com".toList }
  location := .segments [[]]

def standard : Config where
  endpoint := defaultEndpoint
  secret := none
  timeout := .ofParts 60 0
  userAgent := "fauna-client-rust/0.1.0"

/-! ## Setting fields -/

def withSecret (config : Config) (secret : String) : Config :=
  { config with secret := some secret }

def withTimeout (config : Config) (timeout : Duration) : Config :=
  { config with timeout }

def withUserAgent (config : Config) (userAgent : String) : Config :=
  { config with userAgent }

def withEndpoint (config : Config) (endpoint : String) : Except ConfigFault Config :=
  match Url.parse endpoint with
  | .ok url => .ok { config with endpoint := url }
  | .error fault => .error (.invalidEndpoint fault)

/-! ## The environment -/

/-- The values of the variables that are set. -/
abbrev Environment := String → Option String

/-- The bytes of the variables that are set. -/
abbrev Variables := String → Option ByteArray

/-- A variable whose bytes are no text in UTF-8 counts as unset. -/
def Environment.ofVariables (vars : Variables) : Environment := fun name =>
  (vars name).bind String.fromUTF8?

def endpointVariable : String := "FAUNA_ENDPOINT"

def secretVariable : String := "FAUNA_SECRET"

def timeoutVariable : String := "FAUNA_TIMEOUT_MS"

/-- The endpoint of an environment. -/
def endpointOf (env : Environment) : Except ConfigFault Url :=
  match env endpointVariable with
  | none => .ok standard.endpoint
  | some text =>
    match Url.parse text with
    | .ok url => .ok url
    | .error fault => .error (.invalidEndpoint fault)

/-- The timeout of an environment, a number of milliseconds with blanks around it. -/
def timeoutOf (env : Environment) : Except ConfigFault Duration :=
  match env timeoutVariable with
  | none => .ok standard.timeout
  | some text =>
    match readMillis (Text.trim text.toList) with
    | .ok millis => .ok (.ofMillis millis)
    | .error fault => .error (.invalidTimeout text fault)

/-- The configuration of an environment; a wrong endpoint is reported first. -/
def ofEnvironment (env : Environment) : Except ConfigFault Config :=
  match endpointOf env with
  | .error fault => .error fault
  | .ok endpoint =>
    match timeoutOf env with
    | .error fault => .error fault
    | .ok timeout => .ok { standard with endpoint, timeout, secret := env secretVariable }

/-! ## Diagnostics -/

def diagnostic (config : Config) : String :=
  "ClientConfig \x7b endpoint: " ++ Text.quoted config.endpoint.href ++ ", secret: " ++
    (if config.secret.isSome then "Some(\"<redacted>\")" else "None") ++ ", timeout: " ++
    config.timeout.diagnostic ++ ", user_agent: " ++ Text.quoted config.userAgent ++ " \x7d"

end Config

end QueryWire
