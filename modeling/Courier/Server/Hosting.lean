import Courier.Server

/-!
# Servers at work

One thread accepts connections, every registered session has the thread of its
handler, and the owner of the server starts it and shuts it down, however often.
Closing sessions, waiting for threads and the last steps of a handler are steps of
their own, and a schedule says in which order everybody steps. The owner is one
thread: no call to start or to shut down overlaps another. What is thrown in the
accepting thread ends that thread, and what leaves a handler ends the process.
-/

namespace Courier

/-- What the other side does with a stream. -/
inductive Stream.Visit where
  | send (bytes : Octets)
  | take
  | leave
  deriving DecidableEq

def Stream.visited (stream : Stream) : Visit → Stream
  | .send bytes => stream.feed bytes
  | .take => stream.takeAccepted.2
  | .leave => stream.hangUp

/-- How far the owner of a server has come. -/
inductive Owner where
  | idle
  | listening
  /-- Shutting down has begun, while the accepting thread may still be at work. -/
  | stopping
  /-- The accepting thread has exited, and the sessions at these places are to be closed. -/
  | closing (places : List Nat)
  /-- The threads of the handlers at these places are to be waited for. -/
  | joining (places : List Nat)
  deriving DecidableEq

/-- Whether the accepting thread may be at work. -/
def Owner.isAttended : Owner → Bool
  | listening | stopping => true
  | idle | closing _ | joining _ => false

/-- A server with its threads. -/
structure Hosting where
  server : Server
  owner : Owner := .idle
  /-- The handlers whose threads have not exited. -/
  running : List Nat := []
  /-- The handlers whose threads are still to be waited for. -/
  threads : List Nat := []
  /-- The handlers that have reported their end since threads were last waited for. -/
  reports : List Nat := []
  /-- The session whose handler could not be started, which the accepting thread has to end. -/
  unstarted : Option Nat := none
  /-- Whether closing a rejected session has thrown, which has ended the accepting thread. -/
  broken : Bool := false

namespace Hosting

/-- A server that was never started. -/
def new (address : String) (port : UInt16) (policy : Policy) : Hosting := { server := { address, port, policy } }

/-- What takes a step: the owner, the accepting thread, a handler or the other side of a stream. -/
inductive Action where
  | start (port : UInt16)
  | stop
  | survey
  | close
  | gather
  | join
  | conclude
  | accept (entropy : Entropy) (stream : Stream) (spawned : Bool)
  | reap
  | advance (place : Nat)
  | report (place : Nat)
  | visit (place : Nat) (visit : Stream.Visit)
  deriving DecidableEq

/-- Whether the handler at a place, if there is one, has taken its last step on the session. -/
def hasRetired (hosting : Hosting) (place : Nat) : Bool :=
  (hosting.server.handlers[place]?.map Handler.isRetired).getD true

/-- Whether what closing threw has left the handler at a place. -/
def hasFallen (hosting : Hosting) (place : Nat) : Bool :=
  (hosting.server.handlers[place]?.map Handler.isFallen).getD false

/-- Whether the accepting thread still has to end a session itself. -/
def isEnding (hosting : Hosting) : Bool :=
  hosting.unstarted.any fun place => !(hosting.hasRetired place || hosting.hasFallen place)

/-- Whether the accepting thread has ended before its time. -/
def isBroken (hosting : Hosting) : Bool := hosting.broken || hosting.unstarted.any hosting.hasFallen

/-- Whether the process has ended, since something has left the thread of a handler. -/
def isDown (hosting : Hosting) : Bool := hosting.running.any hosting.hasFallen

/-- Whether the accepting thread can take the next connection. -/
def canAccept (hosting : Hosting) : Bool :=
  hosting.owner.isAttended && !hosting.isEnding && !hosting.isBroken

/-- Takes the next connection. A session that is registered gets a thread, unless there is none to be had; one
that is rejected is closed. -/
def accept (suite : Suite) (hosting : Hosting) (entropy : Entropy) (stream : Stream) (spawned : Bool) :
    Hosting :=
  let place := hosting.server.handlers.length
  let server := hosting.server.accept suite entropy stream spawned
  if hosting.server.registry.has stream.address then
    match ((Session.open? stream.address entropy (some stream)).close suite).1 with
    | .ok () => { hosting with server }
    | .error _ => { hosting with server, broken := true }
  else if spawned then
    { hosting with server, running := place :: hosting.running, threads := place :: hosting.threads }
  else { hosting with server, unstarted := some place }

/-- One step of a process that goes on, if it is possible. A new start has a new accepting thread. -/
def act? (suite : Suite) (hosting : Hosting) : Action → Option Hosting
  | .start port =>
      if hosting.owner = .idle then
        some { hosting with
          server := hosting.server.start port
          owner := .listening
          unstarted := none
          broken := false }
      else none
  | .stop =>
      if hosting.owner = .listening then
        some { hosting with server := { hosting.server with running := false }, owner := .stopping }
      else none
  | .survey =>
      if hosting.owner = .stopping ∧ hosting.isEnding = false then
        some { hosting with owner := .closing (hosting.server.registry.entries.map Prod.snd) }
      else none
  | .close =>
      match hosting.owner with
      | .closing (place :: rest) =>
          some { hosting with server := hosting.server.closeAt suite place, owner := .closing rest }
      | _ => none
  | .gather =>
      match hosting.owner with
      | .closing [] => some { hosting with owner := .joining hosting.threads, threads := [] }
      | _ => none
  | .join =>
      match hosting.owner with
      | .joining (place :: rest) =>
          if place ∈ hosting.running then none else some { hosting with owner := .joining rest }
      | _ => none
  | .conclude =>
      match hosting.owner with
      | .joining [] => some { hosting with owner := .idle, reports := [] }
      | _ => none
  | .accept entropy stream spawned =>
      if hosting.canAccept then some (hosting.accept suite entropy stream spawned) else none
  | .reap =>
      if hosting.canAccept then
        some { hosting with threads := hosting.threads.filter (· ∉ hosting.reports), reports := [] }
      else none
  | .advance place =>
      if hosting.server.canAdvance place then
        some { hosting with server := hosting.server.advance suite place }
      else none
  | .report place =>
      if place ∈ hosting.running ∧ hosting.hasRetired place then
        some { hosting with running := hosting.running.erase place, reports := hosting.reports ++ [place] }
      else none
  | .visit place visit =>
      some { hosting with server := hosting.server.mapStream place (·.visited visit) }

/-- One step, if it is possible. -/
def step? (suite : Suite) (hosting : Hosting) (action : Action) : Option Hosting :=
  if hosting.isDown then none else hosting.act? suite action

/-- The steps of a schedule, if all of them are possible. -/
def run? (suite : Suite) (hosting : Hosting) (schedule : List Action) : Option Hosting :=
  schedule.foldlM (step? suite) hosting

/-! ## Events -/

/-- What becomes of a connection, by the place of its session. -/
inductive Event where
  | registered (place : Nat)
  | rejected (place : Nat)
  | removed (place : Nat)
  deriving DecidableEq

/-- The event at a step, if there is one. -/
def event? (hosting : Hosting) : Action → Option Event
  | .accept _ stream _ =>
      let place := hosting.server.handlers.length
      some (if hosting.server.registry.has stream.address then .rejected place else .registered place)
  | .advance place =>
      if (hosting.server.handlers[place]?.map Handler.isRemoving).getD false then some (.removed place)
      else none
  | _ => none

/-- The events of a schedule, in their order. -/
def log (suite : Suite) : Hosting → List Action → List Event
  | _, [] => []
  | hosting, action :: rest =>
      (hosting.event? action).toList ++
        match hosting.step? suite action with
        | none => []
        | some next => log suite next rest

end Hosting

end Courier
