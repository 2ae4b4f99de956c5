/-
  Sessions in which several calls are under way.

  A handle of a client may be copied, calls may be made through any copy, and
  their requests reach the transport in any order: a session moves on by one
  `Move` at a time.  `Session.Ledger` says how far each call has come and
  which reply it has; every move keeps it (`Ledger.step`), so it holds after
  any moves (`Ledger.play`).  Hence the transport received each request once,
  and a result depends on its call and its own reply only
  (`submissions_accounted`).  Calls made one after the other (`Client.run`) are
  such moves, and can follow any others (`play?_schedule`).
-/
import QueryWire.Proofs.Client.Outcome
import QueryWire.Proofs.Related
import QueryWire.Session

namespace QueryWire

open Response (Failure Kind)
open Client (Answer Outcome noReply unsendable)

/-! ## Calls one after the other -/

namespace Client

/-- The reply to the request with this number, the first one being number 0. -/
def replyAt (script : List Reply) (k : Nat) : Reply :=
  script[k]?.getD noReply

/-- The requests of the calls that can be written. -/
def requests (calls : List Call) : List String :=
  calls.filterMap fun call => call.body.toOption

variable {client : Client} {call : Call} {calls : List Call} {script : List Reply}

theorem replyAt_zero (script : List Reply) : replyAt script 0 = script.head?.getD noReply := by
  rw [replyAt, List.head?_eq_getElem?]

theorem replyAt_tail (script : List Reply) (k : Nat) :
    replyAt script.tail k = replyAt script (k + 1) := by
  rw [replyAt, replyAt, List.getElem?_tail]

theorem requests_cons_of_error {e : NonFinite} (h : call.body = .error e) (calls : List Call) :
    requests (call :: calls) = requests calls := by
  rw [requests, List.filterMap_cons, h]
  rfl

theorem requests_cons_of_ok {body : String} (h : call.body = .ok body) (calls : List Call) :
    requests (call :: calls) = body :: requests calls := by
  rw [requests, List.filterMap_cons, h]
  rfl

theorem requests_eq {bodies : List String}
    (h : List.Forall₂ (fun call body => call.body = .ok body) calls bodies) :
    requests calls = bodies := by
  induction h with
  | nil => rfl
  | cons hb _ ih => rw [requests_cons_of_ok hb, ih]

theorem run_cons_of_error {e : NonFinite} (h : call.body = .error e) :
    client.run (call :: calls) script =
      client.outcome call noReply :: client.run calls script := by
  rw [run, outcome, h]

theorem run_cons_of_ok {body : String} (h : call.body = .ok body) :
    client.run (call :: calls) script =
      client.outcome call (replyAt script 0) :: client.run calls script.tail := by
  rw [run, outcome, h, replyAt_zero]

/-- The transport gets the requests of the calls that can be written, in their order. -/
theorem flatMap_sent_run (client : Client) (calls : List Call) (script : List Reply) :
    (client.run calls script).flatMap Outcome.sent = requests calls := by
  induction calls generalizing script with
  | nil => rfl
  | cons call calls ih =>
    cases h : call.body with
    | error e =>
      rw [run_cons_of_error h, List.flatMap_cons, ih, outcome_of_error h, requests_cons_of_error h]
      rfl
    | ok body =>
      rw [run_cons_of_ok h, List.flatMap_cons, ih, outcome_of_ok h, requests_cons_of_ok h]
      rfl

/-- The outcome of a call depends on the call and on one reply: that of the
    number of requests before it. -/
theorem getElem?_run (client : Client) (calls : List Call) (script : List Reply) (i : Nat) :
    (client.run calls script)[i]? = calls[i]?.map fun call =>
      client.outcome call (replyAt script (requests (calls.take i)).length) := by
  induction calls generalizing script i with
  | nil => rfl
  | cons call calls ih =>
    cases h : call.body with
    | error e =>
      rw [run_cons_of_error h]
      cases i with
      | zero => simp [outcome_of_error h]
      | succ i =>
        rw [List.getElem?_cons_succ, ih, List.getElem?_cons_succ, List.take_succ_cons,
          requests_cons_of_error h]
    | ok body =>
      rw [run_cons_of_ok h]
      cases i with
      | zero => rfl
      | succ i =>
        rw [List.getElem?_cons_succ, ih, List.getElem?_cons_succ, List.take_succ_cons,
          requests_cons_of_ok h]
        simp only [replyAt_tail, List.length_cons]

/-- If all calls can be written, each has the reply of its own number. -/
theorem result_run {bodies : List String}
    (h : List.Forall₂ (fun call body => call.body = .ok body) calls bodies) {k : Nat}
    (hk : calls[k]? = some call) :
    (client.run calls script)[k]?.map Outcome.result =
      some (client.settle call (replyAt script k)) := by
  obtain ⟨body, -, hb⟩ := getElem?_of_forall₂ h hk
  have hlt : k < bodies.length := h.length_eq ▸ (List.getElem?_eq_some_iff.mp hk).1
  have hbefore : (requests (calls.take k)).length = k := by
    rw [requests_eq (List.forall₂_take k h), List.length_take]
    omega
  rw [getElem?_run, hk, Option.map_some, Option.map_some, hbefore, outcome_of_ok hb]

end Client

/-! ## Moves -/

namespace Session

open Client (replyAt requests)

variable {client : Client} {script : List Reply} {s t : Session} {moves : List Move}

/-- The calls that were submitted, in this order. -/
def submits (moves : List Move) : List Nat :=
  moves.filterMap fun
    | .submit i => some i
    | _ => none

theorem step?_clone_eq_some {h : Nat} (hs : s.step? (.clone h) = some t) :
    ∃ handle ∈ s.handles, t = { s with handles := s.handles ++ [handle] } := by
  obtain ⟨handle, hh, rfl⟩ := Option.map_eq_some_iff.mp hs
  exact ⟨handle, List.mem_of_getElem? hh, rfl⟩

theorem step?_call_eq_some {h : Nat} {call : Call} (hs : s.step? (.call h call) = some t) :
    ∃ handle ∈ s.handles, t = { s with flights := s.flights ++ [.launch handle call] } := by
  obtain ⟨handle, hh, rfl⟩ := Option.map_eq_some_iff.mp hs
  exact ⟨handle, List.mem_of_getElem? hh, rfl⟩

theorem step?_submit_eq_some {i : Nat} (hs : s.step? (.submit i) = some t) :
    ∃ handle call body, s.flights[i]? = some ⟨handle, call, .written body⟩ ∧
      t = ⟨s.handles, s.flights.set i ⟨handle, call, .answered (s.script.head?.getD noReply)⟩,
        s.received ++ [body], s.script.tail⟩ := by
  obtain ⟨⟨handle, call, phase⟩, hf, hs⟩ := Option.bind_eq_some_iff.mp hs
  cases phase with
  | written body => exact ⟨handle, call, body, hf, (Option.some.inj hs).symm⟩
  | answered reply => cases hs
  | settled result => cases hs

theorem step?_settle_eq_some {i : Nat} (hs : s.step? (.settle i) = some t) :
    ∃ handle call reply, s.flights[i]? = some ⟨handle, call, .answered reply⟩ ∧
      t = { s with
        flights := s.flights.set i ⟨handle, call, .settled (handle.settle call reply)⟩ } := by
  obtain ⟨⟨handle, call, phase⟩, hf, hs⟩ := Option.bind_eq_some_iff.mp hs
  cases phase with
  | answered reply => exact ⟨handle, call, reply, hf, (Option.some.inj hs).symm⟩
  | written body => cases hs
  | settled result => cases hs

/-! ## Ledgers -/

/-- How far the call with number `i` may have come, when the calls in `order`
    were submitted and their requests received. -/
inductive Stands (client : Client) (script : List Reply) (order : List Nat)
    (received : List String) (i : Nat) : Flight → Prop
  | refused {call : Call} {e : NonFinite} : call.body = .error e → i ∉ order →
      Stands client script order received i ⟨client, call, .settled (.error (unsendable e))⟩
  | written {call : Call} {body : String} : call.body = .ok body → i ∉ order →
      Stands client script order received i ⟨client, call, .written body⟩
  | answered {call : Call} {body : String} {k : Nat} : call.body = .ok body →
      order[k]? = some i → received[k]? = some body →
      Stands client script order received i ⟨client, call, .answered (replyAt script k)⟩
  | settled {call : Call} {body : String} {k : Nat} : call.body = .ok body →
      order[k]? = some i → received[k]? = some body →
      Stands client script order received i
        ⟨client, call, .settled (client.settle call (replyAt script k))⟩

/-- The books of a session in which the calls in `order` were submitted. -/
structure Ledger (client : Client) (script : List Reply) (order : List Nat) (s : Session) :
    Prop where
  first : s.handles[0]? = some client
  handles : ∀ handle ∈ s.handles, handle = client
  once : order.Nodup
  known : ∀ i ∈ order, i < s.flights.length
  received : s.received.length = order.length
  consumed : s.script = script.drop order.length
  stands : ∀ i flight, s.flights[i]? = some flight →
    Stands client script order s.received i flight

theorem ledger_start (client : Client) (script : List Reply) :
    Ledger client script [] (start client script) where
  first := rfl
  handles := List.forall_mem_singleton.mpr rfl
  once := List.nodup_nil
  known := List.forall_mem_nil _
  received := rfl
  consumed := rfl
  stands := by
    rintro i flight ⟨⟩

theorem getElem?_append_of_eq_some {α : Type} {xs : List α} {k : Nat} {x : α}
    (h : xs[k]? = some x) (ys : List α) : (xs ++ ys)[k]? = some x := by
  rw [List.getElem?_append_left (List.getElem?_eq_some_iff.mp h).1, h]

/-- What holds of a new item and of all others holds after the exchange. -/
theorem forall_getElem?_set {α : Type} {P : Nat → α → Prop} {xs : List α} {i : Nat} {x : α}
    (hx : P i x) (h : ∀ j y, j ≠ i → xs[j]? = some y → P j y) (j : Nat) (y : α)
    (hj : (xs.set i x)[j]? = some y) : P j y := by
  rw [List.getElem?_set] at hj
  split at hj
  · rename_i he
    split at hj
    · cases hj
      exact he ▸ hx
    · cases hj
  · rename_i hne
    exact h j y (Ne.symm hne) hj

/-- The submit of one call leaves the others where they are. -/
theorem Stands.append {order : List Nat} {received : List String} {i j : Nat} {flight : Flight}
    (h : Stands client script order received i flight) (hj : i ≠ j) (body : String) :
    Stands client script (order ++ [j]) (received ++ [body]) i flight := by
  have hm : i ∉ order → i ∉ order ++ [j] := fun hi => by simp [hi, hj]
  cases h with
  | refused hb hi => exact .refused hb (hm hi)
  | written hb hi => exact .written hb (hm hi)
  | answered hb ho hr =>
    exact .answered hb (getElem?_append_of_eq_some ho _) (getElem?_append_of_eq_some hr _)
  | settled hb ho hr =>
    exact .settled hb (getElem?_append_of_eq_some ho _) (getElem?_append_of_eq_some hr _)

theorem stands_launch {order : List Nat} {received : List String} {i : Nat} (hi : i ∉ order)
    (call : Call) : Stands client script order received i (.launch client call) := by
  unfold Flight.launch
  cases hb : call.body with
  | error e => exact .refused hb hi
  | ok body => exact .written hb hi

namespace Ledger

variable {order : List Nat} (h : Ledger client script order s)

include h

theorem clone {handle : Client} (hh : handle ∈ s.handles) :
    Ledger client script order { s with handles := s.handles ++ [handle] } := by
  refine { h with first := getElem?_append_of_eq_some h.first _, handles := ?_ }
  intro x hx
  rcases List.mem_append.mp hx with hx | hx
  · exact h.handles x hx
  · rw [List.mem_singleton.mp hx]
    exact h.handles handle hh

theorem call {handle : Client} (hh : handle ∈ s.handles) (call : Call) :
    Ledger client script order { s with flights := s.flights ++ [.launch handle call] } := by
  refine { h with known := ?_, stands := ?_ }
  · intro i hi
    have := h.known i hi
    simp only [List.length_append]
    omega
  · intro i flight hf
    rcases Nat.lt_or_ge i s.flights.length with hlt | hge
    · rw [List.getElem?_append_left hlt] at hf
      exact h.stands i flight hf
    · rw [List.getElem?_append_right hge] at hf
      have hnew : flight = .launch handle call := by simpa using List.mem_of_getElem? hf
      rw [hnew, h.handles handle hh]
      exact stands_launch (fun hi => absurd (h.known i hi) (Nat.not_lt.mpr hge)) call

theorem submit {i : Nat} {handle : Client} {call : Call} {body : String}
    (hf : s.flights[i]? = some ⟨handle, call, .written body⟩) :
    Ledger client script (order ++ [i])
      ⟨s.handles, s.flights.set i ⟨handle, call, .answered (s.script.head?.getD noReply)⟩,
        s.received ++ [body], s.script.tail⟩ := by
  obtain ⟨hc, hb, hi⟩ : handle = client ∧ call.body = .ok body ∧ i ∉ order := by
    cases h.stands i _ hf with
    | written hb hi => exact ⟨rfl, hb, hi⟩
  obtain ⟨hlt, -⟩ := List.getElem?_eq_some_iff.mp hf
  -- the reply is the one with the number of this request
  have hreply : s.script.head?.getD noReply = replyAt script order.length := by
    rw [h.consumed, List.head?_drop, replyAt]
  refine ⟨h.first, h.handles, ?_, ?_, ?_, ?_, ?_⟩
  · refine List.nodup_append.mpr ⟨h.once, by simp, fun j hj k hk he => hi ?_⟩
    rw [← List.mem_singleton.mp hk, ← he]
    exact hj
  · intro j hj
    rw [List.length_set]
    rcases List.mem_append.mp hj with hj | hj
    · exact h.known j hj
    · exact List.mem_singleton.mp hj ▸ hlt
  · simp [h.received]
  · rw [h.consumed, List.tail_drop, List.length_append]
    rfl
  · refine forall_getElem?_set ?_ fun j flight hj hf => (h.stands j flight hf).append hj body
    rw [hc, hreply]
    refine .answered hb (k := order.length) ?_ ?_
    · simp
    · simp [← h.received]

theorem settle {i : Nat} {handle : Client} {call : Call} {reply : Reply}
    (hf : s.flights[i]? = some ⟨handle, call, .answered reply⟩) :
    Ledger client script order
      { s with
        flights := s.flights.set i ⟨handle, call, .settled (handle.settle call reply)⟩ } := by
  refine { h with known := ?_, stands := ?_ }
  · intro j hj
    rw [List.length_set]
    exact h.known j hj
  · refine forall_getElem?_set ?_ fun j flight _ hf => h.stands j flight hf
    cases h.stands i _ hf with
    | answered hb ho hr => exact .settled hb ho hr

theorem step {move : Move} (hs : s.step? move = some t) :
    Ledger client script (order ++ submits [move]) t := by
  have hnil : order ++ [] = order := List.append_nil order
  cases move with
  | clone n =>
    obtain ⟨handle, hh, rfl⟩ := step?_clone_eq_some hs
    exact hnil.symm ▸ h.clone hh
  | call n call =>
    obtain ⟨handle, hh, rfl⟩ := step?_call_eq_some hs
    exact hnil.symm ▸ h.call hh call
  | submit i =>
    obtain ⟨handle, call, body, hf, rfl⟩ := step?_submit_eq_some hs
    exact h.submit hf
  | settle i =>
    obtain ⟨handle, call, reply, hf, rfl⟩ := step?_settle_eq_some hs
    exact hnil.symm ▸ h.settle hf

end Ledger

theorem submits_cons (move : Move) (moves : List Move) :
    submits (move :: moves) = submits [move] ++ submits moves := by
  cases move <;> rfl

/-- The books stay right over any moves. -/
theorem Ledger.play {order : List Nat} (h : Ledger client script order s)
    (hp : s.play? moves = some t) : Ledger client script (order ++ submits moves) t := by
  induction moves generalizing s order with
  | nil =>
    cases hp
    rw [submits, List.filterMap_nil, List.append_nil]
    exact h
  | cons move moves ih =>
    obtain ⟨u, hs, hp⟩ := Option.bind_eq_some_iff.mp hp
    rw [submits_cons, ← List.append_assoc]
    exact ih (h.step hs) hp

/-! ## Calls and results -/

theorem call?_eq_some {i : Nat} {call : Call} :
    s.call? i = some call ↔ ∃ flight, s.flights[i]? = some flight ∧ flight.call = call :=
  Option.map_eq_some_iff

theorem result?_eq_some {i : Nat} {result : Except Failure Answer} :
    s.result? i = some result ↔ ∃ flight, s.flights[i]? = some flight ∧
      flight.phase.result? = some result :=
  Option.bind_eq_some_iff

/-- A call without a result can go on. -/
theorem result?_or_step? {i : Nat} {call : Call} (hc : s.call? i = some call) :
    (∃ result, s.result? i = some result) ∨ (∃ t, s.step? (.submit i) = some t) ∨
      ∃ t, s.step? (.settle i) = some t := by
  obtain ⟨⟨handle, call, phase⟩, hf, -⟩ := call?_eq_some.mp hc
  cases phase with
  | settled result => exact Or.inl ⟨result, result?_eq_some.mpr ⟨_, hf, rfl⟩⟩
  | written body => exact Or.inr (Or.inl ⟨_, Option.bind_eq_some_iff.mpr ⟨_, hf, rfl⟩⟩)
  | answered reply => exact Or.inr (Or.inr ⟨_, Option.bind_eq_some_iff.mpr ⟨_, hf, rfl⟩⟩)

namespace Ledger

variable {order : List Nat} (h : Ledger client script order s)

include h

/-- The request of a call that cannot be written is not submitted: the call has
    failed. -/
theorem refused {i : Nat} {call : Call} {e : NonFinite} (hc : s.call? i = some call)
    (he : call.body = .error e) :
    i ∉ order ∧ s.result? i = some (.error (unsendable e)) := by
  obtain ⟨flight, hf, rfl⟩ := call?_eq_some.mp hc
  rw [result?, hf]
  cases h.stands i flight hf with
  | refused he' hi =>
    cases he.symm.trans he'
    exact ⟨hi, rfl⟩
  | written hb _ | answered hb _ _ | settled hb _ _ => cases he.symm.trans hb

/-- A call that can be written and has a result was submitted, and this is the
    result of its reply. -/
theorem settled {i : Nat} {call : Call} {body : String} {result : Except Failure Answer}
    (hc : s.call? i = some call) (hb : call.body = .ok body) (hr : s.result? i = some result) :
    ∃ k, order[k]? = some i ∧ result = client.settle call (replyAt script k) := by
  obtain ⟨flight, hf, rfl⟩ := call?_eq_some.mp hc
  rw [result?, hf] at hr
  cases h.stands i flight hf with
  | refused he _ => cases he.symm.trans hb
  | written _ _ | answered _ _ _ => cases hr
  | settled _ ho _ =>
    cases hr
    exact ⟨_, ho, rfl⟩

/-- No call was submitted twice, so the number of its submit is the only one. -/
theorem number {k n i : Nat} (hk : order[k]? = some i) (hn : order[n]? = some i) : n = k :=
  (List.getElem?_inj (List.getElem?_eq_some_iff.mp hn).1 h.once).mp (hn.trans hk.symm)

/-- The request of the submit with the number `k` was received at this place. -/
theorem submitted {k i : Nat} (ho : order[k]? = some i) :
    ∃ call body, s.call? i = some call ∧ call.body = .ok body ∧ s.received[k]? = some body := by
  have hm : i ∈ order := List.mem_of_getElem? ho
  obtain ⟨flight, hf⟩ : ∃ flight, s.flights[i]? = some flight :=
    ⟨_, List.getElem?_eq_getElem (h.known i hm)⟩
  have hc : s.call? i = some flight.call := call?_eq_some.mpr ⟨flight, hf, rfl⟩
  have hst := h.stands i flight hf
  refine ⟨flight.call, ?_⟩
  cases hst with
  | refused _ hi => exact absurd hm hi
  | written _ hi => exact absurd hm hi
  | answered hb hn hr => exact ⟨_, hc, hb, h.number ho hn ▸ hr⟩
  | settled hb hn hr => exact ⟨_, hc, hb, h.number ho hn ▸ hr⟩

/-- The result of the submit with the number `k` is that of the reply with this number. -/
theorem result_eq {k i : Nat} {call : Call} {result : Except Failure Answer}
    (ho : order[k]? = some i) (hc : s.call? i = some call) (hr : s.result? i = some result) :
    result = client.settle call (replyAt script k) := by
  obtain ⟨_, body, hc', hb, -⟩ := h.submitted ho
  cases hc.symm.trans hc'
  obtain ⟨n, hn, he⟩ := h.settled hc hb hr
  rw [he, h.number ho hn]

theorem forall₂_received :
    List.Forall₂ (fun i body => ∃ call, s.call? i = some call ∧ call.body = .ok body)
      order s.received := by
  refine List.forall₂_iff_get.mpr ⟨h.received.symm, fun k hk hk' => ?_⟩
  obtain ⟨call, body, hc, hb, hr⟩ := h.submitted (List.getElem?_eq_getElem hk)
  have hg : s.received.get ⟨k, hk'⟩ = body :=
    Option.some.inj ((List.getElem?_eq_getElem hk').symm.trans hr)
  exact ⟨call, hc, hg ▸ hb⟩

end Ledger

/-! ## Sessions and runs -/

theorem play?_append (s : Session) (front back : List Move) :
    s.play? (front ++ back) = (s.play? front).bind fun t => t.play? back := by
  induction front generalizing s with
  | nil => rfl
  | cons move front ih =>
    rw [List.cons_append, play?, play?]
    cases s.step? move with
    | none => rfl
    | some t => exact ih t

/-- The moves of one call through the first handle; `i` is the number of the call. -/
def turn (i : Nat) (call : Call) : List Move :=
  match call.body with
  | .error _ => [.call 0 call]
  | .ok _ => [.call 0 call, .submit i, .settle i]

/-- The moves of calls made one after the other; `i` is the number of the first one. -/
def schedule (i : Nat) : List Call → List Move
  | [] => []
  | call :: calls => turn i call ++ schedule (i + 1) calls

theorem play?_turn_of_error (hc : s.handles[0]? = some client) {call : Call} {e : NonFinite}
    (hb : call.body = .error e) :
    s.play? (turn s.flights.length call) = some
      { s with flights := s.flights ++ [⟨client, call, .settled (.error (unsendable e))⟩] } := by
  rw [turn, hb]
  dsimp only
  rw [play?, step?, hc, Option.map_some, Flight.launch, hb]
  rfl

theorem play?_turn_of_ok (hc : s.handles[0]? = some client) {call : Call} {body : String}
    (hb : call.body = .ok body) :
    s.play? (turn s.flights.length call) = some
      ⟨s.handles,
        s.flights ++ [⟨client, call, .settled (client.settle call (replyAt s.script 0))⟩],
        s.received ++ [body], s.script.tail⟩ := by
  rw [turn, hb]
  simp [play?, step?, hc, Flight.launch, hb, submit?, settle?, Client.replyAt_zero]

/-- Calls made one after the other are a session, and come to the outcomes of a run. -/
theorem play?_schedule (hc : s.handles[0]? = some client) (calls : List Call) :
    s.play? (schedule s.flights.length calls) = some
      ⟨s.handles,
        s.flights ++ List.zipWith (fun call o => ⟨client, call, .settled o.result⟩) calls
          (client.run calls s.script),
        s.received ++ requests calls, s.script.drop (requests calls).length⟩ := by
  induction calls generalizing s with
  | nil => simp [schedule, play?, requests]
  | cons call calls ih =>
    rw [schedule, play?_append]
    cases hb : call.body with
    | error e =>
      have hrest := @ih
        { s with flights := s.flights ++ [⟨client, call, .settled (.error (unsendable e))⟩] } hc
      rw [List.length_append, List.length_singleton] at hrest
      rw [play?_turn_of_error hc hb, Option.bind_some, hrest, Client.run_cons_of_error hb,
        Client.requests_cons_of_error hb, Client.outcome_of_error hb]
      simp
    | ok body =>
      have hrest := @ih
        ⟨s.handles,
          s.flights ++ [⟨client, call, .settled (client.settle call (replyAt s.script 0))⟩],
          s.received ++ [body], s.script.tail⟩ hc
      rw [List.length_append, List.length_singleton] at hrest
      rw [play?_turn_of_ok hc hb, Option.bind_some, hrest, Client.run_cons_of_ok hb,
        Client.requests_cons_of_ok hb, Client.outcome_of_ok hb]
      simp

/-- Calls that are made after any others have the outcomes of a run with the
    replies that are left. -/
theorem Ledger.later {order : List Nat} (h : Ledger client script order s) (calls : List Call) :
    ∃ t, s.play? (schedule s.flights.length calls) = some t ∧
      t.received = s.received ++ requests calls ∧
      ∀ i, t.call? (s.flights.length + i) = calls[i]? ∧
        t.result? (s.flights.length + i) =
          (client.run calls (script.drop order.length))[i]?.map Outcome.result := by
  refine ⟨_, play?_schedule h.first calls, rfl, fun i => ?_⟩
  have hrun := Client.getElem?_run client calls s.script i
  rw [← h.consumed]
  simp only [call?, result?, List.getElem?_append_right (Nat.le_add_right _ _),
    Nat.add_sub_cancel_left, List.getElem?_zipWith, hrun]
  cases calls[i]? with
  | none => exact ⟨rfl, rfl⟩
  | some call => exact ⟨rfl, rfl⟩

/-! ## Accounts -/

/-- What the moves of a session have come to. -/
structure Accounted (client : Client) (script : List Reply) (moves : List Move) (s : Session) :
    Prop where
  /-- No call was submitted twice. -/
  once : (submits moves).Nodup
  /-- Each submit took one reply. -/
  consumed : s.script = script.drop (submits moves).length
  /-- The transport received one request for each submit, that of the submitted call. -/
  received : List.Forall₂ (fun i body => ∃ call, s.call? i = some call ∧ call.body = .ok body)
    (submits moves) s.received
  /-- A call that can be written has a result only if it was submitted, and it is
      the result of its own reply. -/
  settled : ∀ i call body result, s.call? i = some call → call.body = .ok body →
    s.result? i = some result →
      ∃ k, (submits moves)[k]? = some i ∧ result = client.settle call (replyAt script k)
  /-- A call that cannot be written was not submitted, and has failed. -/
  refused : ∀ i call e, s.call? i = some call → call.body = .error e →
    i ∉ submits moves ∧ ∃ failure, s.result? i = some (.error failure) ∧
      failure.kind = .unknown ∧ failure.detail.status = none
  /-- The submitted calls made one after the other send the same and have the
      same results. -/
  sequential : ∃ calls, List.Forall₂ (fun i call => s.call? i = some call) (submits moves) calls ∧
    (client.run calls script).flatMap Outcome.sent = s.received ∧
    ∀ (k : Nat) i result, (submits moves)[k]? = some i → s.result? i = some result →
      (client.run calls script)[k]?.map Outcome.result = some result
  /-- A call without a result can go on. -/
  progress : ∀ i call, s.call? i = some call → (∃ result, s.result? i = some result) ∨
    (∃ t, s.step? (.submit i) = some t) ∨ ∃ t, s.step? (.settle i) = some t
  /-- Later calls, made one after the other, have the outcomes of a run with the
      replies that are left. -/
  later : ∀ calls, ∃ t, s.play? (schedule s.flights.length calls) = some t ∧
    t.received = s.received ++ requests calls ∧
    ∀ i, t.call? (s.flights.length + i) = calls[i]? ∧
      t.result? (s.flights.length + i) =
        (client.run calls (script.drop (submits moves).length))[i]?.map Outcome.result

/-- Calls and requests in the same order belong together. -/
theorem forall₂_body {order : List Nat} {calls : List Call} {bodies : List String}
    (hc : List.Forall₂ (fun i call => s.call? i = some call) order calls)
    (hb : List.Forall₂ (fun i body => ∃ call, s.call? i = some call ∧ call.body = .ok body)
      order bodies) :
    List.Forall₂ (fun call body => call.body = .ok body) calls bodies := by
  induction hc generalizing bodies with
  | nil =>
    cases hb
    exact .nil
  | cons hi _ ih =>
    cases hb with
    | cons hj hb =>
      obtain ⟨call, hc, hbody⟩ := hj
      cases hi.symm.trans hc
      exact .cons hbody (ih hb)

theorem Ledger.sequential {order : List Nat} (h : Ledger client script order s) :
    ∃ calls, List.Forall₂ (fun i call => s.call? i = some call) order calls ∧
      (client.run calls script).flatMap Outcome.sent = s.received ∧
      ∀ (k : Nat) i result, order[k]? = some i → s.result? i = some result →
        (client.run calls script)[k]?.map Outcome.result = some result := by
  have hex : ∀ i ∈ order, ∃ call, s.call? i = some call := by
    intro i hi
    obtain ⟨k, hk⟩ := List.getElem?_of_mem hi
    obtain ⟨call, -, hc, -, -⟩ := h.submitted hk
    exact ⟨call, hc⟩
  obtain ⟨calls, hcalls⟩ := exists_forall₂ hex
  have hbodies := forall₂_body hcalls h.forall₂_received
  refine ⟨calls, hcalls, ?_, fun k i result hk hr => ?_⟩
  · rw [Client.flatMap_sent_run, Client.requests_eq hbodies]
  · obtain ⟨call, hcall, hc⟩ := getElem?_of_forall₂ hcalls hk
    rw [Client.result_run hbodies hcall, h.result_eq hk hc hr]

/-- Sessions are accounted for as a whole.  A run of calls one after the other
    sends the requests of those that can be written, and the outcome of a call
    depends on it and on one reply.  Calls through copies of a client, with
    requests that arrive in any order, are accounted for; and in any other session
    of such a client, a call with the same reply to its request has the same
    result, whatever other calls and replies there are. -/
theorem submissions_accounted (client : Client) (script : List Reply) :
    (∀ calls, (client.run calls script).flatMap Outcome.sent = requests calls ∧
      ∀ i, (client.run calls script)[i]? = calls[i]?.map fun call =>
        client.outcome call (replyAt script (requests (calls.take i)).length)) ∧
    ∀ moves s, (start client script).play? moves = some s →
      Accounted client script moves s ∧
      ∀ script' moves' s', (start client script').play? moves' = some s' →
        ∀ (k : Nat) i i' call result result',
          (submits moves)[k]? = some i → (submits moves')[k]? = some i' →
          replyAt script k = replyAt script' k →
          s.call? i = some call → s'.call? i' = some call →
          s.result? i = some result → s'.result? i' = some result' → result = result' := by
  refine ⟨fun calls => ⟨Client.flatMap_sent_run client calls script,
    Client.getElem?_run client calls script⟩, fun moves s hp => ?_⟩
  have h : Ledger client script (submits moves) s := (ledger_start client script).play hp
  constructor
  · exact {
      once := h.once
      consumed := h.consumed
      received := h.forall₂_received
      settled := fun i call body result => h.settled
      refused := fun i call e hc he =>
        ⟨(h.refused hc he).1, _, (h.refused hc he).2, rfl, rfl⟩
      sequential := h.sequential
      progress := fun i call => result?_or_step?
      later := h.later }
  · intro script' moves' s' hp' k i i' call result result' hk hk' hreply hc hc' hr hr'
    have h' : Ledger client script' (submits moves') s' :=
      (ledger_start client script').play hp'
    calc result
      _ = client.settle call (replyAt script k) := h.result_eq hk hc hr
      _ = client.settle call (replyAt script' k) := by rw [hreply]
      _ = result' := (h'.result_eq hk' hc' hr').symm

/-- Three calls through a client and a copy of it.  The first one cannot be
    written, and the requests of the other two arrive in the opposite order. -/
def crossedMoves : List Move :=
  [.clone 0, .call 0 (.query (.escape (.double ⟨0x7FF8000000000001⟩))),
    .call 1 (.query (.ofBool true)), .call 0 (.batch [.ofOption none]),
    .submit 2, .submit 1, .settle 1, .settle 2]

/-- One result for a batch of one, and then no reply. -/
def crossedScript : List Reply :=
  [.ok ⟨200, "\x7b\"resource\":[1]\x7d"⟩, .error (.timeout "60s")]

/-- The batch comes to the result that it has in a session of its own. -/
theorem submissions_accounted_crossed :
    ∃ s t, (start .inMemory crossedScript).play? crossedMoves = some s ∧
      Accounted .inMemory crossedScript crossedMoves s ∧ s.received = ["[null]", "true"] ∧
      (start .inMemory (crossedScript.take 1)).play? (schedule 0 [.batch [.ofOption none]]) = some t ∧
      s.result? 2 = t.result? 0 ∧
      t.result? 0 = some (.ok (.many [⟨.number (.natural 1), {}⟩])) := by
  obtain ⟨s, hs, hreceived, hcall, result, hr⟩ : ∃ s,
      (start .inMemory crossedScript).play? crossedMoves = some s ∧ s.received = ["[null]", "true"] ∧
        s.call? 2 = some (.batch [.ofOption none]) ∧ ∃ result, s.result? 2 = some result :=
    ⟨_, rfl, rfl, rfl, _, rfl⟩
  obtain ⟨t, ht, hcall', hr'⟩ : ∃ t,
      (start .inMemory (crossedScript.take 1)).play? (schedule 0 [.batch [.ofOption none]]) = some t ∧
        t.call? 0 = some (.batch [.ofOption none]) ∧
        t.result? 0 = some (.ok (.many [⟨.number (.natural 1), {}⟩])) :=
    ⟨_, rfl, rfl, rfl⟩
  obtain ⟨-, hsessions⟩ := submissions_accounted .inMemory crossedScript
  obtain ⟨ha, hsame⟩ := hsessions crossedMoves s hs
  have he : result = .ok (.many [⟨.number (.natural 1), {}⟩]) :=
    hsame _ _ t ht 0 2 0 _ _ _ rfl rfl rfl hcall hcall' hr hr'
  exact ⟨s, t, hs, ha, hreceived, ht, by rw [hr, hr', he], hr'⟩

end Session

end QueryWire
