/-
  Nothing that a setup shows tells its secrets.

  Two configurations are alike if only the contents of their secrets differ, and
  so are two environments, two steps, and the connections and clients that are
  made on the way.  Like steps lead from like configurations to like ones and
  report what looks the same (`step_alike`, `Report.Alike.sight_eq`), so a whole
  setup shows the same, whatever secrets it is given (`setup_hides_secrets`).
-/
import Mathlib.Data.List.Forall2
import QueryWire.Config.Setup

namespace QueryWire

/-! ## Connections and clients -/

/-- Connections to the same URL, with a secret both or neither. -/
structure Connection.Alike (x y : Connection) : Prop where
  url : x.url = y.url
  secret : x.secret.isSome = y.secret.isSome

/-- Transports of the same kind.  All that one without a connection holds may be
    a secret. -/
inductive Transport.Alike : Transport → Transport → Prop
  | http {x y : Connection} (h : x.Alike y) : Alike (.http x) (.http y)
  | custom (s t : String) : Alike (.custom s) (.custom t)

structure Client.Alike (x y : Client) : Prop where
  transport : x.transport.Alike y.transport
  codec : x.codec = y.codec

theorem Transport.Alike.refl (x : Transport) : x.Alike x := by
  cases x with
  | http connection => exact .http ⟨rfl, rfl⟩
  | custom data => exact .custom data data

theorem Connection.Alike.diagnostic_eq {x y : Connection} (h : x.Alike y) :
    x.diagnostic = y.diagnostic := by
  unfold diagnostic
  rw [h.url, h.secret]

theorem Client.Alike.diagnostic_eq {x y : Client} (h : x.Alike y) :
    x.diagnostic = y.diagnostic := by
  unfold diagnostic
  rw [h.codec]

namespace Config

/-! ## What can be seen -/

/-- What a report shows: the texts of a log, the URL of a connection, and the
    faults as they are. -/
inductive Sight
  | config (diagnostic : String)
  | fault (fault : ConfigFault)
  | connection (url : Url) (diagnostic : String)
  | unconnected (fault : TransportFault)
  | client (diagnostic : String)
  | failed (failure : Response.Failure)

def Report.sight : Report → Sight
  | .config c => .config c.diagnostic
  | .fault f => .fault f
  | .connection (.ok c) => .connection c.url c.diagnostic
  | .connection (.error f) => .unconnected f
  | .client (.ok c) => .client c.diagnostic
  | .client (.error f) => .failed f

/-- The configuration from which the steps of a setup start. -/
def start (env : Environment) : Config :=
  (standard.settled (ofEnvironment env)).1

/-- The configuration that steps lead to. -/
def after (config : Config) : List Step → Config
  | [] => config
  | s :: rest => after (config.step s).1 rest

/-! ## Differences in secrets only -/

/-- Only the contents of the secrets may differ. -/
structure Alike (c d : Config) : Prop where
  endpoint : c.endpoint = d.endpoint
  secret : c.secret.isSome = d.secret.isSome
  timeout : c.timeout = d.timeout
  userAgent : c.userAgent = d.userAgent

/-- The variable of the secret is set in both or in neither; the others are the same. -/
structure Environment.Alike (env env' : Environment) : Prop where
  secret : (env secretVariable).isSome = (env' secretVariable).isSome
  others : ∀ name, name ≠ secretVariable → env name = env' name

inductive Step.Alike : Step → Step → Prop
  | secret (s t : String) : Alike (.secret s) (.secret t)
  | clientOver {x y : Transport} (h : Transport.Alike x y) (codec : Codec) :
      Alike (.clientOver x codec) (.clientOver y codec)
  | same (s : Step) : Alike s s

inductive Report.Alike : Report → Report → Prop
  | config {c d : Config} (h : Config.Alike c d) : Alike (.config c) (.config d)
  | fault (fault : ConfigFault) : Alike (.fault fault) (.fault fault)
  | connection {x y : Connection} (h : Connection.Alike x y) :
      Alike (.connection (.ok x)) (.connection (.ok y))
  | unconnected (fault : TransportFault) :
      Alike (.connection (.error fault)) (.connection (.error fault))
  | client {x y : Client} (h : Client.Alike x y) : Alike (.client (.ok x)) (.client (.ok y))
  | failed (failure : Response.Failure) :
      Alike (.client (.error failure)) (.client (.error failure))

variable {c d : Config}

theorem Alike.refl (c : Config) : Alike c c := ⟨rfl, rfl, rfl, rfl⟩

theorem Alike.diagnostic_eq (h : Alike c d) : c.diagnostic = d.diagnostic := by
  unfold diagnostic
  rw [h.endpoint, h.secret, h.timeout, h.userAgent]

theorem Report.Alike.sight_eq {r r' : Report} (h : Report.Alike r r') : r.sight = r'.sight := by
  cases h with
  | config h => rw [sight, sight, h.diagnostic_eq]
  | connection h => rw [sight, sight, h.url, h.diagnostic_eq]
  | client h => rw [sight, sight, h.diagnostic_eq]
  | fault | unconnected | failed => rfl

/-! ## Steps -/

theorem ofConfig_alike (h : Alike c d) :
    (∃ x y, Connection.ofConfig c = .ok x ∧ Connection.ofConfig d = .ok y ∧
      Connection.Alike x y) ∨
    ∃ fault, Connection.ofConfig c = .error fault ∧ Connection.ofConfig d = .error fault := by
  rw [Connection.ofConfig, Connection.ofConfig, ← h.endpoint, ← h.userAgent]
  cases c.endpoint.root with
  | error fault => exact .inr ⟨_, rfl, rfl⟩
  | ok url =>
    dsimp only
    split
    · exact .inl ⟨_, _, rfl, rfl, rfl, h.secret⟩
    · exact .inr ⟨_, rfl, rfl⟩

theorem connection_alike (h : Alike c d) :
    Report.Alike (.connection (Connection.ofConfig c)) (.connection (Connection.ofConfig d)) := by
  obtain ⟨x, y, hx, hy, ha⟩ | ⟨fault, hx, hy⟩ := ofConfig_alike h
  · rw [hx, hy]
    exact .connection ha
  · rw [hx, hy]
    exact .unconnected fault

/-- The clients hold the secrets of their connections, which may differ. -/
theorem connect_alike (h : Alike c d) :
    Report.Alike (.client (Client.connect c)) (.client (Client.connect d)) := by
  rw [Client.connect, Client.connect]
  obtain ⟨x, y, hx, hy, ha⟩ | ⟨fault, hx, hy⟩ := ofConfig_alike h
  · rw [hx, hy]
    exact .client ⟨.http ha, rfl⟩
  · rw [hx, hy]
    exact .failed _

theorem clientOver_alike {x y : Transport} (h : Transport.Alike x y) (codec : Codec) :
    Report.Alike (.client (.ok (.withTransport x codec))) (.client (.ok (.withTransport y codec))) :=
  .client ⟨h, rfl⟩

/-- Like configurations, each with its report. -/
def MovesAlike (p q : Config × Report) : Prop :=
  Alike p.1 q.1 ∧ Report.Alike p.2 q.2

theorem settled_alike (c d : Config) {c' d' : Config} (h : Alike c' d') :
    MovesAlike (c.settled (.ok c')) (d.settled (.ok d')) :=
  ⟨h, .config h⟩

theorem withSecret_alike (h : Alike c d) (s t : String) :
    Alike (c.withSecret s) (d.withSecret t) :=
  ⟨h.endpoint, rfl, h.timeout, h.userAgent⟩

theorem withTimeout_alike (h : Alike c d) (timeout : Duration) :
    Alike (c.withTimeout timeout) (d.withTimeout timeout) :=
  ⟨h.endpoint, h.secret, rfl, h.userAgent⟩

theorem withUserAgent_alike (h : Alike c d) (userAgent : String) :
    Alike (c.withUserAgent userAgent) (d.withUserAgent userAgent) :=
  ⟨h.endpoint, h.secret, h.timeout, rfl⟩

theorem settled_withEndpoint_alike (h : Alike c d) (text : String) :
    MovesAlike (c.settled (c.withEndpoint text)) (d.settled (d.withEndpoint text)) := by
  rw [withEndpoint, withEndpoint]
  cases Url.parse text with
  | error fault => exact ⟨h, .fault _⟩
  | ok url => exact settled_alike c d ⟨rfl, h.secret, h.timeout, h.userAgent⟩

theorem step_alike (h : Alike c d) {s t : Step} (hs : Step.Alike s t) :
    MovesAlike (c.step s) (d.step t) := by
  cases hs with
  | secret s t => exact settled_alike c d (withSecret_alike h s t)
  | clientOver hx codec => exact ⟨h, clientOver_alike hx codec⟩
  | same =>
    cases s with
    | secret s => exact settled_alike c d (withSecret_alike h s s)
    | timeout timeout => exact settled_alike c d (withTimeout_alike h timeout)
    | userAgent userAgent => exact settled_alike c d (withUserAgent_alike h userAgent)
    | endpoint text => exact settled_withEndpoint_alike h text
    | connection => exact ⟨h, connection_alike h⟩
    | client => exact ⟨h, connect_alike h⟩
    | clientOver x codec => exact ⟨h, clientOver_alike (.refl x) codec⟩

/-! ## Setups -/

variable {ss ts : List Step}

theorem steps_alike (hs : List.Forall₂ Step.Alike ss ts) (h : Alike c d) :
    List.Forall₂ Report.Alike (c.steps ss) (d.steps ts) := by
  induction hs generalizing c d with
  | nil => exact .nil
  | cons hs _ ih =>
    obtain ⟨hc, hr⟩ := step_alike h hs
    exact .cons hr (ih hc)

theorem after_alike (hs : List.Forall₂ Step.Alike ss ts) (h : Alike c d) :
    Alike (c.after ss) (d.after ts) := by
  induction hs generalizing c d with
  | nil => exact h
  | cons hs _ ih => exact ih (step_alike h hs).1

variable {env env' : Environment}

theorem ofEnvironment_alike (h : env.Alike env') :
    MovesAlike (standard.settled (ofEnvironment env)) (standard.settled (ofEnvironment env')) := by
  have he : endpointOf env = endpointOf env' := by
    rw [endpointOf, endpointOf, h.others endpointVariable (by decide)]
  have ht : timeoutOf env = timeoutOf env' := by
    rw [timeoutOf, timeoutOf, h.others timeoutVariable (by decide)]
  rw [ofEnvironment, ofEnvironment, ← he, ← ht]
  cases endpointOf env with
  | error fault => exact ⟨.refl _, .fault _⟩
  | ok url =>
    cases timeoutOf env with
    | error fault => exact ⟨.refl _, .fault _⟩
    | ok timeout => exact settled_alike _ _ ⟨rfl, h.secret, rfl, rfl⟩

theorem setup_alike (he : env.Alike env') (hs : List.Forall₂ Step.Alike ss ts) :
    List.Forall₂ Report.Alike (setup env ss) (setup env' ts) := by
  obtain ⟨hc, hr⟩ := ofEnvironment_alike he
  exact .cons hr (steps_alike hs hc)

theorem sights_eq {rs rs' : List Report} (h : List.Forall₂ Report.Alike rs rs') :
    rs.map Report.sight = rs'.map Report.sight := by
  induction h with
  | nil => rfl
  | cons h _ ih => rw [List.map_cons, List.map_cons, h.sight_eq, ih]

/-- Two setups that differ in the contents of secrets only show the same: in each
    report, and in the configuration as it stands after any number of steps. -/
theorem setup_hides_secrets (he : env.Alike env') (hs : List.Forall₂ Step.Alike ss ts) :
    (setup env ss).map Report.sight = (setup env' ts).map Report.sight ∧
    ∀ k, ((start env).after (ss.take k)).diagnostic =
      ((start env').after (ts.take k)).diagnostic := by
  refine ⟨sights_eq (setup_alike he hs), fun k => ?_⟩
  exact (after_alike (List.forall₂_take k hs) (ofEnvironment_alike he).1).diagnostic_eq

/-- An environment with nothing but a secret. -/
def Environment.onlySecret (secret : String) : Environment := fun name =>
  if name = secretVariable then some secret else none

/-- Steps of every kind, with two settings that are refused. -/
def Step.tour (secret : String) : List Step :=
  [.connection, .client, .endpoint "no url", .secret secret, .timeout (.ofParts 0 500000000),
    .endpoint "db:8443", .connection, .client, .userAgent "a\nb", .connection,
    .clientOver (.http ⟨defaultEndpoint, some secret⟩) {}, .clientOver (.custom secret) {}]

/-- The empty secret, and secrets that are the endpoint and the user agent.  Each is
    held by the configuration and by the clients. -/
theorem setup_hides_secrets_empty :
    (setup (.onlySecret "") (Step.tour "")).map Report.sight =
      (setup (.onlySecret "db:8443") (Step.tour "a\nb")).map Report.sight ∧
    ((start (.onlySecret "")).after (Step.tour "")).diagnostic =
      ((start (.onlySecret "db:8443")).after (Step.tour "a\nb")).diagnostic ∧
    ((start (.onlySecret "")).after (Step.tour "")).secret ≠
      ((start (.onlySecret "db:8443")).after (Step.tour "a\nb")).secret ∧
    (setup (.onlySecret "") (Step.tour ""))[2]? =
      some (.client (.ok (.withTransport (.http ⟨defaultEndpoint, some ""⟩) {}))) ∧
    (setup (.onlySecret "db:8443") (Step.tour "a\nb"))[2]? =
      some (.client (.ok (.withTransport (.http ⟨defaultEndpoint, some "db:8443"⟩) {}))) := by
  have he : (Environment.onlySecret "").Alike (.onlySecret "db:8443") :=
    ⟨rfl, fun name hn => by rw [Environment.onlySecret, Environment.onlySecret, if_neg hn, if_neg hn]⟩
  have hs : List.Forall₂ Step.Alike (Step.tour "") (Step.tour "a\nb") := by
    unfold Step.tour
    repeat' first | exact .secret _ _ | exact .clientOver (.http ⟨rfl, rfl⟩) _ |
      exact .clientOver (.custom _ _) _ | exact .same _ | constructor
  obtain ⟨hsights, hdiagnostic⟩ := setup_hides_secrets he hs
  exact ⟨hsights, hdiagnostic (Step.tour "").length, by decide +kernel, rfl, rfl⟩

end Config

end QueryWire
