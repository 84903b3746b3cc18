import Courier.Client.Call
import Courier.Server

/-!
# Dialogues

A client and the session at a server that its connection leads to. The owner of
the client, the handler of the session and the connection itself take their steps
in any order; what one end has written reaches the other later, in pieces, and
after all of it the closing of the end. A step that waits is not possible.
-/

namespace Courier

/-- What a connection brings from one end to the other. -/
inductive Stream.Passing where
  /-- So many of the bytes that are under way. -/
  | bytes (count : Nat)
  /-- After all bytes, that the end is closed. -/
  | closing
  deriving DecidableEq

/-- What has been written to one stream reaches the other, as long as there is something to bring. -/
def Stream.pass? (source target : Stream) : Passing → Option (Stream × Stream)
  | .bytes count =>
      if 0 < count ∧ count ≤ source.accepted.length then
        some ({ source with accepted := source.accepted.drop count }, target.feed (source.accepted.take count))
      else none
  | .closing =>
      if source.closed = true ∧ source.accepted = [] ∧ target.ended = false then some (source, target.hangUp)
      else none

/-- A client with the calls on it, a server, and the place of the session that the client is connected to. -/
structure Dialogue where
  caller : Client.Caller
  server : Server
  place : Nat

namespace Dialogue

/-- What takes a step: the owner of the client, the handler of the session or one direction of the connection. -/
inductive Action where
  | call
  | handle
  | forth (passing : Stream.Passing)
  | back (passing : Stream.Passing)
  deriving DecidableEq

/-- The client's end of the connection. -/
def near (dialogue : Dialogue) : Stream := dialogue.caller.client.channel.stream

/-- The server's end of the connection. -/
def far? (dialogue : Dialogue) : Option Stream := dialogue.server.stream? dialogue.place

/-- Changes both ends of the connection. -/
def withStreams (dialogue : Dialogue) (near far : Stream) : Dialogue :=
  { dialogue with
    caller := { dialogue.caller with
      client := { dialogue.caller.client with channel := { dialogue.caller.client.channel with stream := near } } }
    server := dialogue.server.mapStream dialogue.place fun _ => far }

/-- One step, if it is possible. -/
def step? (suite : Suite) (dialogue : Dialogue) : Action → Option Dialogue
  | .call =>
      if dialogue.caller.ready then some { dialogue with caller := dialogue.caller.step suite } else none
  | .handle =>
      if dialogue.server.canAdvance dialogue.place then
        some { dialogue with server := dialogue.server.advance suite dialogue.place }
      else none
  | .forth passing =>
      (dialogue.far?.bind fun far => dialogue.near.pass? far passing).map fun (near, far) =>
        dialogue.withStreams near far
  | .back passing =>
      (dialogue.far?.bind fun far => far.pass? dialogue.near passing).map fun (far, near) =>
        dialogue.withStreams near far

/-- The steps of a schedule, if all of them are possible. -/
def run? (suite : Suite) (dialogue : Dialogue) (schedule : List Action) : Option Dialogue :=
  schedule.foldlM (step? suite) dialogue

end Dialogue

end Courier
