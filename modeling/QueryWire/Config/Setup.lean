/-
  Setting up a client step by step: an environment, then settings of single
  fields, attempts to connect and clients over transports that are there already,
  each with its report.  A setting that fails leaves the configuration as it was.
-/
import QueryWire.Client

namespace QueryWire.Config

inductive Step
  | secret (s : String)
  | timeout (d : Duration)
  | userAgent (s : String)
  | endpoint (text : String)
  | connection
  | client
  | clientOver (transport : Transport) (codec : Codec)

inductive Report
  | config (config : Config)
  | fault (fault : ConfigFault)
  | connection (result : Except TransportFault Connection)
  | client (result : Except Response.Failure Client)

/-- The configuration after a setting, and its report. -/
def settled (config : Config) : Except ConfigFault Config → Config × Report
  | .ok changed => (changed, .config changed)
  | .error fault => (config, .fault fault)

/-- The configuration after a step, and its report. -/
def step (config : Config) : Step → Config × Report
  | .secret s => config.settled (.ok (config.withSecret s))
  | .timeout d => config.settled (.ok (config.withTimeout d))
  | .userAgent s => config.settled (.ok (config.withUserAgent s))
  | .endpoint text => config.settled (config.withEndpoint text)
  | .connection => (config, .connection (Connection.ofConfig config))
  | .client => (config, .client (Client.connect config))
  | .clientOver transport codec => (config, .client (.ok (.withTransport transport codec)))

/-- The reports of the steps that follow a configuration. -/
def steps (config : Config) : List Step → List Report
  | [] => []
  | s :: rest => (config.step s).2 :: steps (config.step s).1 rest

/-- The reports of a whole setup.  If the environment is wrong, the steps start
    from the standard configuration. -/
def setup (env : Environment) (rest : List Step) : List Report :=
  let first := standard.settled (ofEnvironment env)
  first.2 :: steps first.1 rest

end QueryWire.Config
