/-
  Calls that are under way at the same time.

  A handle of a client may be copied; all copies share one transport.  Calls
  may be made through any handle, their requests may reach the transport in any
  order, and a reply may be taken long after it came: a session moves on by one
  `Move` at a time.
-/
import QueryWire.Client

namespace QueryWire

open Response (Failure)
open Client (Answer)

/-! ## Calls under way -/

/-- How far a call has come. -/
inductive Phase
  | written (body : String)
  | answered (reply : Reply)
  | settled (result : Except Failure Answer)

def Phase.result? : Phase → Option (Except Failure Answer)
  | .settled result => some result
  | _ => none

/-- A call under way and the handle that it was made through. -/
structure Flight where
  handle : Client
  call : Call
  phase : Phase

/-- A call that was just made: its request is written, or it has failed already. -/
def Flight.launch (handle : Client) (call : Call) : Flight where
  handle := handle
  call := call
  phase := match call.body with
    | .error e => .settled (.error (Client.unsendable e))
    | .ok body => .written body

/-! ## Sessions -/

/-- The handles of a client, the calls made through them, and the transport that
    they share: what it received, and its replies to come. -/
structure Session where
  handles : List Client
  flights : List Flight
  received : List String
  script : List Reply

inductive Move
  | clone (handle : Nat)
  | call (handle : Nat) (call : Call)
  | submit (flight : Nat)
  | settle (flight : Nat)

namespace Session

def start (client : Client) (script : List Reply) : Session :=
  ⟨[client], [], [], script⟩

/-- Submits the request of a call: the transport receives it and gives its next reply. -/
def submit? (s : Session) (i : Nat) : Option Session :=
  s.flights[i]?.bind fun flight =>
    match flight.phase with
    | .written body =>
      let reply := s.script.head?.getD Client.noReply
      some ⟨s.handles, s.flights.set i { flight with phase := .answered reply },
        s.received ++ [body], s.script.tail⟩
    | _ => none

/-- Settles a call with the reply that it got. -/
def settle? (s : Session) (i : Nat) : Option Session :=
  s.flights[i]?.bind fun flight =>
    match flight.phase with
    | .answered reply =>
      let result := flight.handle.settle flight.call reply
      some { s with flights := s.flights.set i { flight with phase := .settled result } }
    | _ => none

/-- One move, if it can be made.  No call has to come to an end: one that is
    given up is not moved any more. -/
def step? (s : Session) : Move → Option Session
  | .clone h => s.handles[h]?.map fun handle => { s with handles := s.handles ++ [handle] }
  | .call h call =>
    s.handles[h]?.map fun handle => { s with flights := s.flights ++ [.launch handle call] }
  | .submit i => s.submit? i
  | .settle i => s.settle? i

def play? (s : Session) : List Move → Option Session
  | [] => some s
  | move :: moves => (s.step? move).bind fun s => s.play? moves

/-- The call with the number `i`, in the order in which the calls were made. -/
def call? (s : Session) (i : Nat) : Option Call :=
  s.flights[i]?.map Flight.call

/-- The result of a call, once there is one. -/
def result? (s : Session) (i : Nat) : Option (Except Failure Answer) :=
  s.flights[i]?.bind fun flight => flight.phase.result?

end Session

end QueryWire
