/-
  What comes of one call.

  A call has one reply and one result.  `Client.Settles` lists the ways in which
  a reply can be taken, a rule for each; the rules are those of the client
  (`settles_iff`), so whatever holds of the result of a call is read off them by
  cases.  A query succeeds exactly on the last resource of a successful response
  (`query_classified`), a batch exactly on an array of as many resources
  (`batch_answers_as_queries`), and a failure tells the status of the response
  unless the response was one to another batch (`failure_status`).
-/
import QueryWire.Client
import QueryWire.Proofs.Json.Members
import QueryWire.Proofs.Wire.Encoding

namespace QueryWire

open Json (Node LastMember)
open Response (Failure Kind)

/-! ## Requests of batches -/

/-- If every expression can be written, so can the batch: it is the array of their trees. -/
theorem Expr.batchText_eq_ok {es : List Expr} (h : ∀ e ∈ es, ∃ request, e.text = .ok request) :
    ∃ trees : List Node, List.Forall₂ (fun e tree => e.text = .ok tree.text) es trees ∧
      batchText es = .ok (Node.array trees).text := by
  refine ⟨es.map fun e => e.tree.node, ?_, ?_⟩
  · rw [List.forall₂_map_right_iff, List.forall₂_same]
    intro e he
    obtain ⟨request, hr⟩ := h e he
    rw [hr, text_node_of_text hr]
  · obtain ⟨request, hr⟩ := exists_batchText_iff.mpr h
    rw [batchText_eq_refusing, refusing_eq_ok_iff] at hr
    rw [batchText_eq_refusing, refusing_eq_ok_iff]
    exact ⟨hr.1, rfl⟩

namespace Client

variable {client : Client} {call : Call} {reply : Reply} {response : RawResponse}

/-! ## Resources -/

/-- The resource of a response is the last member of that name, under a status
    of success. -/
theorem resource_eq_ok_iff {node : Node} :
    resource response = .ok node ↔
      response.status < 300 ∧ LastMember "resource" response.body node := by
  unfold resource
  rw [Json.lastMember_iff, ← UInt16.not_le]
  by_cases hs : 300 ≤ response.status
  · simp [hs]
  rw [if_neg hs]
  cases Json.document response.body with
  | error fault => simp
  | ok envelope =>
    cases hg : envelope.object?.bind (Fields.get? "resource") <;> simp [hs, hg]

theorem batchItems_eq_ok_iff {sent : Nat} {node : Node} {items : List Node} :
    batchItems sent node = .ok items ↔ node = .array items ∧ items.length = sent := by
  cases node with
  | array nodes =>
    unfold batchItems
    dsimp only
    by_cases hl : nodes.length = sent
    · rw [if_pos hl]
      constructor
      · rintro ⟨⟩
        exact ⟨rfl, hl⟩
      · rintro ⟨⟨⟩, -⟩
        rfl
    · rw [if_neg hl]
      constructor
      · rintro ⟨⟩
      · rintro ⟨⟨⟩, hl'⟩
        exact absurd hl' hl
  | null | bool _ | number _ | string _ | object _ => simp [batchItems]

theorem batchItems_eq_error {sent : Nat} {node : Node} {failure : Failure}
    (h : batchItems sent node = .error failure) : ∃ summary, failure = .unknown none summary := by
  unfold batchItems at h
  split at h
  · split at h
    · cases h
    · cases h
      exact ⟨_, rfl⟩
  · cases h
    exact ⟨_, rfl⟩

/-! ## Replies -/

/-- What a call makes of a reply: one rule for each way in which it can end. -/
inductive Settles (client : Client) : Call → Reply → Except Failure Answer → Prop
  | noResponse {call : Call} (fault : TransportFault) :
      Settles client call (.error fault) (.error fault.failure)
  | refused {call : Call} {response : RawResponse} :
      300 ≤ response.status →
      Settles client call (.ok response) (.error (.ofResponse response.status response.body))
  | malformed {call : Call} {response : RawResponse} {fault : Json.Fault} :
      response.status < 300 → Json.document response.body = .error fault →
      Settles client call (.ok response) (.error (.unknown (some response.status)
        ("Malformed response body: " ++ fault.message response.body)))
  | noResource {call : Call} {response : RawResponse} {envelope : Node} :
      response.status < 300 → Json.document response.body = .ok envelope →
      envelope.object?.bind (Fields.get? "resource") = none →
      Settles client call (.ok response)
        (.error (.unknown (some response.status) "Response envelope has no resource"))
  | one {e : Expr} {response : RawResponse} {node : Node} :
      response.status < 300 → LastMember "resource" response.body node →
      Settles client (.query e) (.ok response) (.ok (.one ⟨node, client.codec⟩))
  | many {es : List Expr} {response : RawResponse} {nodes : List Node} :
      response.status < 300 → LastMember "resource" response.body (.array nodes) →
      nodes.length = es.length →
      Settles client (.batch es) (.ok response)
        (.ok (.many (nodes.map fun node => ⟨node, client.codec⟩)))
  | misfit {es : List Expr} {response : RawResponse} {node : Node} {failure : Failure} :
      response.status < 300 → LastMember "resource" response.body node →
      batchItems es.length node = .error failure →
      Settles client (.batch es) (.ok response) (.error failure)

theorem settles_settle (client : Client) (call : Call) (reply : Reply) :
    Settles client call reply (client.settle call reply) := by
  cases reply with
  | error fault => exact .noResponse fault
  | ok response =>
    unfold settle answer resource
    dsimp only
    by_cases hs : 300 ≤ response.status
    · rw [if_pos hs]
      exact .refused hs
    rw [if_neg hs]
    have hlt : response.status < 300 := UInt16.not_le.mp hs
    cases hd : Json.document response.body with
    | error fault => exact .malformed hlt hd
    | ok envelope =>
      dsimp only
      cases hr : envelope.object?.bind (Fields.get? "resource") with
      | none => exact .noResource hlt hd hr
      | some node =>
        have hm : LastMember "resource" response.body node :=
          Json.lastMember_iff.mpr ⟨envelope, hd, hr⟩
        cases call with
        | query e => exact .one hlt hm
        | batch es =>
          dsimp only
          cases hb : batchItems es.length node with
          | error failure => exact .misfit hlt hm hb
          | ok nodes =>
            obtain ⟨rfl, hl⟩ := batchItems_eq_ok_iff.mp hb
            exact .many hlt hm hl

theorem Settles.settle_eq {result : Except Failure Answer}
    (h : Settles client call reply result) : client.settle call reply = result := by
  cases h with
  | noResponse fault => rfl
  | refused hs => rw [settle, answer, resource, if_pos hs]
  | malformed hs hd => rw [settle, answer, resource, if_neg (UInt16.not_le.mpr hs), hd]
  | noResource hs hd hr =>
    rw [settle, answer, resource, if_neg (UInt16.not_le.mpr hs), hd]
    dsimp only
    rw [hr]
  | one hs hm => rw [settle, answer, resource_eq_ok_iff.mpr ⟨hs, hm⟩]
  | many hs hm hl =>
    rw [settle, answer, resource_eq_ok_iff.mpr ⟨hs, hm⟩]
    dsimp only
    rw [batchItems_eq_ok_iff.mpr ⟨rfl, hl⟩]
    rfl
  | misfit hs hm hb =>
    rw [settle, answer, resource_eq_ok_iff.mpr ⟨hs, hm⟩]
    dsimp only
    rw [hb]
    rfl

/-- The rules are those of the client. -/
theorem settles_iff {result : Except Failure Answer} :
    Settles client call reply result ↔ client.settle call reply = result :=
  ⟨Settles.settle_eq, fun h => h ▸ settles_settle client call reply⟩

theorem settles_one_iff {e : Expr} {v : LazyValue} :
    Settles client (.query e) (.ok response) (.ok (.one v)) ↔
      response.status < 300 ∧ LastMember "resource" response.body v.node ∧
        v.codec = client.codec := by
  constructor
  · intro h
    cases h with
    | one hs hm => exact ⟨hs, hm, rfl⟩
  · rintro ⟨hs, hm, hc⟩
    obtain ⟨node, codec⟩ := v
    cases hc
    exact .one hs hm

theorem settles_many_iff {es : List Expr} {vs : List LazyValue} :
    Settles client (.batch es) (.ok response) (.ok (.many vs)) ↔
      response.status < 300 ∧ ∃ nodes, LastMember "resource" response.body (.array nodes) ∧
        nodes.length = es.length ∧ vs = nodes.map fun node => ⟨node, client.codec⟩ := by
  constructor
  · intro h
    cases h with
    | many hs hm hl => exact ⟨hs, _, hm, hl, rfl⟩
  · rintro ⟨hs, nodes, hm, hl, rfl⟩
    exact .many hs hm hl

/-! ## Single calls -/

/-- What a call sends and what comes of it if its request gets the reply. -/
def outcome (client : Client) (call : Call) (reply : Reply) : Outcome :=
  match call.body with
  | .error e => ⟨[], .error (unsendable e)⟩
  | .ok body => ⟨[body], client.settle call reply⟩

theorem outcome_of_error {e : NonFinite} (h : call.body = .error e) (reply : Reply) :
    client.outcome call reply = ⟨[], .error (unsendable e)⟩ := by
  rw [outcome, h]

theorem outcome_of_ok {body : String} (h : call.body = .ok body) (reply : Reply) :
    client.outcome call reply = ⟨[body], client.settle call reply⟩ := by
  rw [outcome, h]

theorem run_singleton (client : Client) (call : Call) (reply : Reply) :
    client.run [call] [reply] = [client.outcome call reply] := by
  rw [run, outcome]
  cases call.body <;> rfl

/-- A call that can be written sends its request and settles with a result. -/
theorem run_singleton_eq_iff {body : String} (h : call.body = .ok body)
    {result : Except Failure Answer} :
    client.run [call] [reply] = [⟨[body], result⟩] ↔ Settles client call reply result := by
  rw [run_singleton, outcome_of_ok h, settles_iff]
  simp

/-! ## Queries -/

/-- What comes of a query is decided by the status first.  Under a status of
    success it is the last resource of the body or an unknown failure; under
    another one it is the failure of this status, whatever the body holds, with
    all descriptors of a body that can be read. -/
theorem query_classified (client : Client) {e : Expr} {request : String}
    (h : e.text = .ok request) :
    (∀ response v, client.run [.query e] [.ok response] = [⟨[request], .ok (.one v)⟩] ↔
      response.status < 300 ∧ LastMember "resource" response.body v.node ∧
        v.codec = client.codec) ∧
    (∀ response : RawResponse, 300 ≤ response.status → ∃ failure,
      client.run [.query e] [.ok response] = [⟨[request], .error failure⟩] ∧
        failure.kind = .ofStatus response.status ∧
        failure.detail.status = some response.status ∧
        failure.detail.descriptors = (Response.readBody response.body).toOption.getD []) ∧
    (∀ response : RawResponse, response.status < 300 →
      (∀ node, ¬ LastMember "resource" response.body node) → ∃ failure,
        client.run [.query e] [.ok response] = [⟨[request], .error failure⟩] ∧
          failure.kind = .unknown ∧ failure.detail.status = some response.status ∧
          failure.detail.descriptors = []) ∧
    (∀ fault, ∃ failure,
      client.run [.query e] [.error fault] = [⟨[request], .error failure⟩] ∧
        failure.kind = .unavailable ∧ failure.detail.status = none ∧
        failure.detail.descriptors = []) ∧
    ∀ reply, ∃ result, client.run [.query e] [reply] = [⟨[request], result⟩] ∧
      ((∃ v, result = .ok (.one v)) ∨ ∃ failure, result = .error failure) := by
  have hb : (Call.query e).body = .ok request := h
  simp only [run_singleton_eq_iff hb]
  refine ⟨fun response v => settles_one_iff, fun response hs => ?_, fun response hs hn => ?_,
    fun fault => ⟨_, .noResponse fault, rfl, rfl, rfl⟩, fun reply => ?_⟩
  · refine ⟨_, .refused hs, rfl, ?_⟩
    unfold Failure.ofResponse
    cases Response.readBody response.body with
    | ok descriptors => exact ⟨rfl, rfl⟩
    | error fault => exact ⟨rfl, rfl⟩
  · have hr := settles_settle client (.query e) (.ok response)
    generalize client.settle (.query e) (.ok response) = result at hr
    cases hr with
    | refused hge => exact absurd hs (UInt16.not_lt.mpr hge)
    | malformed _ hd => exact ⟨_, .malformed hs hd, rfl, rfl, rfl⟩
    | noResource _ hd hr => exact ⟨_, .noResource hs hd hr, rfl, rfl, rfl⟩
    | one _ hm => exact absurd hm (hn _)
  · have hr := settles_settle client (.query e) reply
    refine ⟨_, hr, ?_⟩
    generalize client.settle (.query e) reply = result at hr
    cases hr with
    | one _ _ => exact Or.inl ⟨_, rfl⟩
    | noResponse _ | refused _ | malformed _ _ | noResource _ _ _ => exact Or.inr ⟨_, rfl⟩

/-- A client with a transport of its own and the standard codec. -/
def inMemory : Client :=
  .withTransport (.custom "") {}

/-- Descriptors in the body of a failure: two, of which the second has no
    description, or only the first one beside a resource. -/
def descriptorsBody (broken : Bool) : String :=
  "\x7b\"errors\":[\x7b\"code\":\"a\",\"description\":\"b\"\x7d" ++
    if broken then ",\x7b\"code\":\"c\"\x7d]\x7d" else "],\"resource\":1\x7d"

/-- A repeated resource under the last status of success; descriptors under
    others; a body without a resource; no response. -/
theorem query_classified_repeatedResource :
    run inMemory [.query (.ofBool true)]
      [.ok ⟨299, "\x7b\"resource\":1,\"a\":[],\"resource\":null\x7d"⟩] =
        [⟨["true"], .ok (.one ⟨.null, {}⟩)⟩] ∧
    (∃ failure, run inMemory [.query (.ofBool true)] [.ok ⟨300, descriptorsBody false⟩] =
        [⟨["true"], .error failure⟩] ∧
      failure.kind = .unknown ∧ failure.detail.descriptors = [⟨[], "a", "b", []⟩]) ∧
    (∃ failure, run inMemory [.query (.ofBool true)] [.ok ⟨404, descriptorsBody true⟩] =
        [⟨["true"], .error failure⟩] ∧
      failure.kind = .notFound ∧ failure.detail.descriptors = []) ∧
    (∃ failure, run inMemory [.query (.ofBool true)] [.ok ⟨200, "[\x7b\"resource\":1\x7d]"⟩] =
        [⟨["true"], .error failure⟩] ∧
      failure.kind = .unknown ∧ failure.detail.status = some 200) ∧
    ∃ failure, run inMemory [.query (.ofBool true)] [.error (.timeout "60s")] =
        [⟨["true"], .error failure⟩] ∧
      failure.kind = .unavailable ∧ failure.detail.status = none := by
  have ht : (Expr.ofBool true).text = .ok "true" := rfl
  have hlast : LastMember "resource"
      "\x7b\"resource\":1,\"a\":[],\"resource\":null\x7d" .null :=
    ⟨[("resource", .number (.natural 1)), ("a", .array [])], [], rfl, List.not_mem_nil⟩
  have hnone : ∀ node, ¬ LastMember "resource" "[\x7b\"resource\":1\x7d]" node := by
    rintro node ⟨front, back, h, -⟩
    cases h
  obtain ⟨hone, hrefused, hunusable, hfault, -⟩ := query_classified inMemory ht
  refine ⟨(hone _ _).mpr ⟨by decide, hlast, rfl⟩, ?_, ?_, ?_, ?_⟩
  · obtain ⟨failure, hr, hk, -, hd⟩ := hrefused ⟨300, descriptorsBody false⟩ (by decide)
    exact ⟨failure, hr, hk, hd⟩
  · obtain ⟨failure, hr, hk, -, hd⟩ := hrefused ⟨404, descriptorsBody true⟩ (by decide)
    exact ⟨failure, hr, hk, hd⟩
  · obtain ⟨failure, hr, hk, hs, -⟩ := hunusable ⟨200, _⟩ (by decide) hnone
    exact ⟨failure, hr, hk, hs⟩
  · obtain ⟨failure, hr, hk, hs, -⟩ := hfault (.timeout "60s")
    exact ⟨failure, hr, hk, hs⟩

/-! ## Batches -/

/-- A batch is its queries in order, all or nothing.  Its request is the array of
    their requests, it succeeds exactly on an array of as many resources, and
    each of its values is the one that the query alone gets from the responses
    with this resource.  On all else it has one failure and no value. -/
theorem batch_answers_as_queries (client : Client) {es : List Expr}
    (h : ∀ e ∈ es, ∃ request, e.text = .ok request) :
    ∃ trees : List Node, ∃ request : String,
      List.Forall₂ (fun e tree => e.text = .ok tree.text) es trees ∧
      request = (Node.array trees).text ∧ Expr.batchText es = .ok request ∧
      ∀ response : RawResponse, response.status < 300 →
        (∀ vs, client.run [.batch es] [.ok response] = [⟨[request], .ok (.many vs)⟩] ↔
          ∃ nodes, LastMember "resource" response.body (.array nodes) ∧
            nodes.length = es.length ∧ vs = nodes.map fun node => ⟨node, client.codec⟩) ∧
        (∀ vs, client.run [.batch es] [.ok response] = [⟨[request], .ok (.many vs)⟩] →
          List.Forall₂ (fun e v => ∀ (single : RawResponse) (text : String),
            single.status < 300 → e.text = .ok text →
              (client.run [.query e] [.ok single] = [⟨[text], .ok (.one v)⟩] ↔
                LastMember "resource" single.body v.node)) es vs) ∧
        ((∃ vs, client.run [.batch es] [.ok response] = [⟨[request], .ok (.many vs)⟩]) ∨
          ∃ failure, client.run [.batch es] [.ok response] = [⟨[request], .error failure⟩] ∧
            failure.kind = .unknown) := by
  obtain ⟨trees, ht, hb⟩ := Expr.batchText_eq_ok h
  refine ⟨trees, _, ht, rfl, hb, fun response hs => ?_⟩
  have hb' : (Call.batch es).body = .ok (Node.array trees).text := hb
  simp only [run_singleton_eq_iff hb']
  refine ⟨fun vs => settles_many_iff.trans (and_iff_right hs), fun vs hr => ?_, ?_⟩
  · obtain ⟨-, nodes, -, hl, rfl⟩ := settles_many_iff.mp hr
    refine List.forall₂_iff_get.mpr ⟨by simp [hl], fun i hi hi' single text hlt he => ?_⟩
    have hq : (Call.query (es.get ⟨i, hi⟩)).body = .ok text := he
    rw [run_singleton_eq_iff hq, settles_one_iff]
    simp [hlt]
  · have hr := settles_settle client (.batch es) (.ok response)
    generalize client.settle (.batch es) (.ok response) = result at hr
    cases hr with
    | refused hge => exact absurd hs (UInt16.not_lt.mpr hge)
    | malformed _ hd => exact Or.inr ⟨_, .malformed hs hd, rfl⟩
    | noResource _ hd hr => exact Or.inr ⟨_, .noResource hs hd hr, rfl⟩
    | many _ hm hl => exact Or.inl ⟨_, .many hs hm hl⟩
    | misfit _ hm hi =>
      obtain ⟨summary, rfl⟩ := batchItems_eq_error hi
      exact Or.inr ⟨_, .misfit hs hm hi, rfl⟩

/-- A list among the results, and a response with nothing but that list, which is
    as long as the batch but a single result. -/
theorem batch_answers_as_queries_nestedList :
    run inMemory [.batch [.ofBool true, .ofOption none]]
      [.ok ⟨200, "\x7b\"resource\":[[1,2],null]\x7d"⟩] =
        [⟨["[true,null]"],
          .ok (.many [⟨.array [.number (.natural 1), .number (.natural 2)], {}⟩, ⟨.null, {}⟩])⟩] ∧
    run inMemory [.query (.ofBool true)] [.ok ⟨201, "\x7b\"resource\":[1,2]\x7d"⟩] =
        [⟨["true"], .ok (.one ⟨.array [.number (.natural 1), .number (.natural 2)], {}⟩)⟩] ∧
    ∃ failure, run inMemory [.batch [.ofBool true, .ofOption none]]
      [.ok ⟨200, "\x7b\"resource\":[[1,2]]\x7d"⟩] =
        [⟨["[true,null]"], .error failure⟩] ∧ failure.kind = .unknown := by
  have hes : ∀ e ∈ [Expr.ofBool true, .ofOption none], ∃ request, e.text = .ok request :=
    List.forall_mem_cons.mpr ⟨⟨"true", rfl⟩, List.forall_mem_singleton.mpr ⟨"null", rfl⟩⟩
  obtain ⟨_, request, -, -, hr, h⟩ := batch_answers_as_queries inMemory hes
  have hpair : LastMember "resource" "\x7b\"resource\":[[1,2],null]\x7d"
      (.array [.array [.number (.natural 1), .number (.natural 2)], .null]) :=
    ⟨[], [], rfl, List.not_mem_nil⟩
  have hsingle : LastMember "resource" "\x7b\"resource\":[1,2]\x7d"
      (.array [.number (.natural 1), .number (.natural 2)]) :=
    ⟨[], [], rfl, List.not_mem_nil⟩
  have hshort : LastMember "resource" "\x7b\"resource\":[[1,2]]\x7d"
      (.array [.array [.number (.natural 1), .number (.natural 2)]]) :=
    ⟨[], [], rfl, List.not_mem_nil⟩
  cases hr
  obtain ⟨hmany, hone, -⟩ := h ⟨200, "\x7b\"resource\":[[1,2],null]\x7d"⟩ (by decide)
  have hok := (hmany _).mpr ⟨_, hpair, rfl, rfl⟩
  obtain _ | ⟨hfirst, -⟩ := hone _ hok
  refine ⟨hok, (hfirst ⟨201, _⟩ "true" (show (201 : UInt16) < 300 by decide) rfl).mpr hsingle, ?_⟩
  obtain ⟨hmany', -, hv | hf⟩ := h ⟨200, "\x7b\"resource\":[[1,2]]\x7d"⟩ (by decide)
  · obtain ⟨vs, hv⟩ := hv
    obtain ⟨nodes, hm, hl, -⟩ := (hmany' vs).mp hv
    cases hm.unique hshort
    cases hl
  · exact hf

/-! ## Statuses of failures -/

/-- The response is one of success with a resource that is not the list of as
    many results as the call has expressions. -/
def Misfit (call : Call) (response : RawResponse) : Prop :=
  ∃ es node, call = .batch es ∧ response.status < 300 ∧
    LastMember "resource" response.body node ∧
    ∀ nodes, node = .array nodes → nodes.length ≠ es.length

/-- Of the failures on a response, only those on misfits have no status. -/
theorem status_of_settles {failure : Failure}
    (h : Settles client call (.ok response) (.error failure)) :
    failure.detail.status = none ∧ Misfit call response ∨
      failure.detail.status = some response.status ∧ ¬ Misfit call response := by
  cases h with
  | refused hs =>
    refine Or.inr ⟨?_, ?_⟩
    · unfold Failure.ofResponse
      cases Response.readBody response.body <;> rfl
    · rintro ⟨_, _, -, hlt, -, -⟩
      exact absurd hs (UInt16.not_le.mpr hlt)
  | malformed hs hd =>
    refine Or.inr ⟨rfl, ?_⟩
    rintro ⟨_, _, -, -, hm, -⟩
    obtain ⟨envelope, hd', -⟩ := Json.lastMember_iff.mp hm
    cases hd.symm.trans hd'
  | noResource hs hd hr =>
    refine Or.inr ⟨rfl, ?_⟩
    rintro ⟨_, node, -, -, hm, -⟩
    obtain ⟨envelope, hd', hr'⟩ := Json.lastMember_iff.mp hm
    cases hd.symm.trans hd'
    cases hr.symm.trans hr'
  | @misfit es response node failure hs hm hb =>
    obtain ⟨summary, rfl⟩ := batchItems_eq_error hb
    refine Or.inl ⟨rfl, es, node, rfl, hs, hm, fun nodes hn hl => ?_⟩
    cases hb.symm.trans (batchItems_eq_ok_iff.mpr ⟨hn, hl⟩)

/-- A failed call tells the status of the response that it received, unless the
    response is a misfit: that failure has no status, as if there had been no
    response. -/
theorem failure_status {client : Client} {call : Call} {reply : Reply} {sent : List String}
    {failure : Failure} (h : client.run [call] [reply] = [⟨sent, .error failure⟩]) :
    (∀ response body, reply = .ok response → call.body = .ok body → ¬ Misfit call response →
      failure.detail.status = some response.status) ∧
    (failure.detail.status = none ↔
      (∃ e, call.body = .error e) ∨ (∃ fault, reply = .error fault) ∨
        ∃ response, reply = .ok response ∧ Misfit call response) := by
  rw [run_singleton] at h
  cases hb : call.body with
  | error e =>
    rw [outcome_of_error hb] at h
    cases h
    exact ⟨fun _ _ _ hb' => (by cases hb'), iff_of_true rfl (Or.inl ⟨e, rfl⟩)⟩
  | ok body =>
    rw [outcome_of_ok hb] at h
    obtain ⟨-, h⟩ := Outcome.mk.inj (List.cons.inj h).1
    have hr := settles_iff.mpr h
    cases reply with
    | error fault =>
      cases hr
      exact ⟨fun _ _ hk => (by cases hk), iff_of_true rfl (Or.inr (Or.inl ⟨fault, rfl⟩))⟩
    | ok response =>
      rcases status_of_settles hr with ⟨hs, hm⟩ | ⟨hs, hm⟩
      · refine ⟨?_, iff_of_true hs (Or.inr (Or.inr ⟨response, rfl, hm⟩))⟩
        rintro _ _ ⟨⟩ - hn
        exact absurd hm hn
      · refine ⟨?_, iff_of_false (by simp [hs]) ?_⟩
        · rintro _ _ ⟨⟩ - -
          exact hs
        · rintro (⟨_, hb'⟩ | ⟨_, hf⟩ | ⟨_, hk, hm'⟩)
          · cases hb'
          · cases hf
          · cases hk
            exact hm hm'

/-- A scalar in answer to a batch of one: the failure of a received response
    without its status. -/
theorem failure_status_scalarForBatch :
    run inMemory [.batch [.ofOption none]] [.ok ⟨200, "\x7b\"resource\":1\x7d"⟩] =
      [⟨["[null]"], .error (.unknown none "Batch response resource is not an array")⟩] ∧
    Misfit (.batch [.ofOption none]) ⟨200, "\x7b\"resource\":1\x7d"⟩ := by
  have h : run inMemory [.batch [.ofOption none]] [.ok ⟨200, "\x7b\"resource\":1\x7d"⟩] =
      [⟨["[null]"], .error (.unknown none "Batch response resource is not an array")⟩] := rfl
  obtain ⟨-, hnone⟩ := failure_status h
  obtain ⟨_, he⟩ | ⟨_, hf⟩ | ⟨_, hr, hm⟩ := hnone.mp rfl
  · cases he
  · cases hf
  · cases hr
    exact ⟨h, hm⟩

end Client

end QueryWire
