import Courier.Registry
import Courier.Server.Handler

/-!
# Servers

A server accepts connections while it is running. Each gets a session, which is
registered under the address of the peer before its handler takes a step; a
connection from an address that is registered already is closed at once. Shutting
down closes every registered session and then waits for all handlers.
-/

namespace Courier

structure Server where
  address : String
  /-- The port that was asked for; zero leaves the choice to the system. -/
  port : UInt16
  policy : Policy
  /-- The port of the last start that succeeded. -/
  boundPort : UInt16 := 0
  running : Bool := false
  registry : Registry := {}
  /-- All sessions that were ever accepted, with their handlers. -/
  handlers : List Handler := []

namespace Server

/-- Begins to listen on a port that was bound for the server. -/
def start (server : Server) (boundPort : UInt16) : Server := { server with boundPort, running := true }

/-- Accepts a connection. Without a thread for its handler, who accepts it has to end the session as the
handler would. -/
def accept (suite : Suite) (server : Server) (entropy : Entropy) (stream : Stream)
    (spawned : Bool := true) : Server :=
  let session := Session.open? stream.address entropy (some stream)
  match server.registry.insert session.address server.handlers.length with
  | (true, registry) =>
      { server with
        registry
        handlers := server.handlers ++ [if spawned then .start session else .unstarted session] }
  | (false, _) =>
      { server with handlers := server.handlers ++ [⟨(session.close suite).2, .retired⟩] }

/-- Whether the handler at a place can take a step now. -/
def canAdvance (server : Server) (place : Nat) : Bool :=
  (server.handlers[place]?.map Handler.ready).getD false

/-- One step of the handler at a place. -/
def advance (suite : Suite) (server : Server) (place : Nat) : Server :=
  match server.handlers[place]? with
  | none => server
  | some handler =>
      { server with
        registry := if handler.isRemoving then (server.registry.remove handler.session.address).2
          else server.registry
        handlers := server.handlers.set place (handler.step suite server.policy) }

/-- The bound on the steps of the handler at a place. -/
def weightAt (server : Server) (place : Nat) : Nat :=
  (server.handlers[place]?.map Handler.weight).getD 0

theorem weightAt_advance (suite : Suite) (server : Server) (place : Nat)
    (possible : server.canAdvance place = true) :
    (server.advance suite place).weightAt place < server.weightAt place := by
  cases found : server.handlers[place]? with
  | none => simp [canAdvance, found] at possible
  | some handler =>
      have ready : handler.ready = true := by simpa [canAdvance, found] using possible
      have bound : place < server.handlers.length := by
        rcases List.getElem?_eq_some_iff.mp found with ⟨bound, _⟩
        exact bound
      have falls := handler.weight_step suite server.policy ready
      simp only [advance, weightAt, found, List.getElem?_set_self bound, Option.map_some, Option.getD_some]
      exact falls

/-- The steps of the handler at a place, until it has to wait or has retired. -/
def handling (suite : Suite) (place : Nat) : Machine Server Unit where
  result? server := if server.canAdvance place then none else some ()
  step server := server.advance suite place
  weight server := server.weightAt place
  weight_step server unfinished := server.weightAt_advance suite place (by
    split at unfinished
    · assumption
    · cases unfinished)

/-- Lets the handler at a place go on until it has to wait. -/
def settle (suite : Suite) (server : Server) (place : Nat) : Server :=
  ((handling suite place).run server).2

/-- Lets every handler go on until it has to wait. -/
def settleAll (suite : Suite) (server : Server) : Server :=
  (List.range server.handlers.length).foldl (settle suite) server

/-- Closes the session at a place. -/
def closeAt (suite : Suite) (server : Server) (place : Nat) : Server :=
  { server with
    handlers := server.handlers.modify place fun handler =>
      { handler with session := (handler.session.close suite).2 } }

/-- Closes every registered session. -/
def closeAll (suite : Suite) (server : Server) : Server :=
  let closed := server.registry.closeAll suite (server.handlers.map Handler.session)
  { server with
    handlers := List.zipWith (fun handler session => { handler with session }) server.handlers closed }

/-- Stops listening, closes every session and waits for every handler. -/
def shutdown (suite : Suite) (server : Server) : Server :=
  if server.running then ({ server with running := false }.closeAll suite).settleAll suite else server

/-- The stream of the session at a place. -/
def stream? (server : Server) (place : Nat) : Option Stream :=
  server.handlers[place]?.bind fun handler => handler.session.transport.stream?

/-- Changes the stream of the session at a place. -/
def mapStream (server : Server) (place : Nat) (change : Stream → Stream) : Server :=
  { server with
    handlers := server.handlers.modify place fun handler =>
      { handler with
        session := { handler.session with transport := handler.session.transport.mapStream change } } }

end Server

end Courier
