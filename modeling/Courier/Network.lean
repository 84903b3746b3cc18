import Courier.Client
import Courier.Network.Address
import Courier.Server

/-!
# A network inside one machine

Servers listen on ports, and peers connect to them. A connection has two ends:
the peer's, which the peer owns, and the stream of a session. What one end has
taken is carried to the other, and after that the closing of an end. Between any
two operations of a peer the handlers go on until they have to wait, so a peer
finds every answer that it can get.
-/

namespace Courier

/-- A session of one of the servers. -/
structure Link where
  server : Nat
  place : Nat
  deriving DecidableEq, Repr

structure Network where
  suite : Suite
  servers : List Server := []
  /-- The next port for a server that leaves the choice. -/
  nextPort : Nat := 40001
  /-- How many connections were made. -/
  connections : Nat := 0
  /-- What all random values are derived from. -/
  seed : Octets := []

namespace Network

/-! ## Listening -/

def isBound (network : Network) (port : Nat) : Bool :=
  network.servers.any fun server => server.running && server.boundPort.toNat == port

/-- Adds a server that does not listen yet, and tells its number. -/
def addServer (network : Network) (address : String) (port : UInt16) (policy : Policy) : Nat × Network :=
  (network.servers.length, { network with servers := network.servers ++ [{ address, port, policy }] })

def modifyServer (network : Network) (index : Nat) (change : Server → Server) : Network :=
  { network with servers := network.servers.modify index change }

/-- The port for a server that wants a port, or leaves the choice by wanting zero. The next port is given
away by that, even if it turns out to be bound. -/
def choosePort (network : Network) (wanted : UInt16) : UInt16 × Network :=
  if wanted = 0 then
    (UInt16.ofNat network.nextPort, { network with nextPort := network.nextPort + 1 })
  else (wanted, network)

/-- Starts a server. That fails if it is running, if its address is none or if its port is bound. -/
def start (network : Network) (index : Nat) : Bool × Network :=
  match network.servers[index]? with
  | none => (false, network)
  | some server =>
      if server.running || !Address.isLiteral server.address then (false, network)
      else
        let (port, network) := network.choosePort server.port
        if network.isBound port.toNat then (false, network)
        else (true, network.modifyServer index (·.start port))

def shutdown (network : Network) (index : Nat) : Network :=
  network.modifyServer index (·.shutdown network.suite)

/-! ## Connections -/

/-- The server that listens on a port under an address. -/
def listener? (network : Network) (address : String) (port : Nat) : Option Nat :=
  network.servers.findIdx? fun server =>
    server.running && server.boundPort.toNat == port
      && (server.address == address || server.address == Address.any)

/-- The random values of one side of a connection. -/
def entropy (network : Network) (side : Nat) : Entropy :=
  .derived network.seed (2 * network.connections + side)

/-- The address that the next connection comes from. -/
def nextOrigin (network : Network) : String :=
  Address.withPort Address.loopback (50001 + network.connections)

/-- Connects to a host. The result is the peer's end and what it leads to. -/
def connect (network : Network) (host : String) (port : Nat) :
    Except DialError (Link × Stream) × Network :=
  match Address.resolve? host with
  | none => (.error .unknownHost, network)
  | some address =>
      match network.listener? address port with
      | none => (.error .refused, network)
      | some index =>
          let place := ((network.servers[index]?).map fun server => server.handlers.length).getD 0
          let far : Stream := { address := network.nextOrigin, ended := false }
          let near : Stream := { address := Address.withPort address port, ended := false }
          (.ok (⟨index, place⟩, near),
            { network.modifyServer index (·.accept network.suite (network.entropy 0) far) with
              connections := network.connections + 1 })

/-- What one end gets from the other: the bytes that the other has taken, and its closing. -/
def carry (source target : Stream) : Stream :=
  let fed := target.feed source.accepted
  if source.closed then fed.hangUp else fed

/-- Carries everything between the two ends of a connection. -/
def exchange (network : Network) (link : Link) (near : Stream) : Stream × Network :=
  match network.servers[link.server]?.bind fun server => server.stream? link.place with
  | none => (near, network)
  | some far =>
      ((carry far near).takeAccepted.2,
        network.modifyServer link.server fun server =>
          server.mapStream link.place fun far => (carry near far).takeAccepted.2)

/-- Carries what there is, lets the handler go on until it waits, and carries its answers. -/
def settle (network : Network) (link : Link) (near : Stream) : Stream × Network :=
  let (near, network) := network.exchange link near
  (network.modifyServer link.server fun server => server.settle network.suite link.place).exchange link near

end Network

/-! ## Clients -/

/-- A client with what its channel leads to. -/
structure Network.Peer where
  link : Link
  client : Client

namespace Network.Peer

/-- Lets the network do its work on the connection of a client. -/
def settle (peer : Peer) (network : Network) : Peer × Network :=
  let (stream, network) := network.settle peer.link peer.client.channel.stream
  ({ peer with client := { peer.client with channel := { peer.client.channel with stream } } }, network)

/-- Does something on a client, once everything that was sent to it is there. -/
def act {Result : Type} (peer : Peer) (network : Network) (operation : Client → Outcome Client Result) :
    Except Failure Result × Peer × Network :=
  let (peer, network) := peer.settle network
  let (result, client) := operation peer.client
  (result, { peer with client }.settle network)

/-- Greets the server and waits for its answer. -/
def greet (peer : Peer) (network : Network) (version : UInt32) : Except Failure Status × Peer × Network :=
  match peer.act network (·.send network.suite (.greeting version)) with
  | (.error failure, peer, network) => (.error failure, peer, network)
  | (.ok (), peer, network) =>
      peer.act network fun client =>
        (client.receive network.suite).andThen fun message client => client.judgeAnswer message

/-- The steps of a handshake, between which the network does its work. -/
def shake (link : Link) : Nat → Handshake.Party → Network → Handshake.Party × Network
  | 0, party, network => (party, network)
  | steps + 1, party, network =>
      let (stream, network) := network.settle link party.stream
      shake link steps ({ party with stream }.step network.suite) network

/-- Connects to a host and makes a client of the connection. A handshake that did not come to an end
would count as broken off. -/
def dial (network : Network) (host : String) (port : Nat) : Except Failure Peer × Network :=
  let entropy := network.entropy 1
  match network.connect host port with
  | (.error error, network) => (.error (.handshake (.dial error)), network)
  | (.ok (link, stream), network) =>
      let (party, network) :=
        shake link Handshake.Stage.greeting.remaining ⟨.greeting, entropy, stream⟩ network
      match party.stage.result?.getD (.error (.stream .endOfFile)) with
      | .ok keys =>
          let peer : Peer := ⟨link, { channel := Channel.ofKeys party.stream keys }⟩
          let (peer, network) := peer.settle network
          (.ok peer, network)
      | .error error => (.error (.handshake error), (network.settle link party.stream.close.2).2)

/-- Gives a client up. -/
def drop (peer : Peer) (network : Network) : Network :=
  let (peer, network) := peer.settle network
  ({ peer with client := peer.client.drop network.suite }.settle network).2

end Network.Peer

end Courier
