import Courier.Keyed
import Courier.Network

/-!
# Neighbourhoods

A network and the peers on it under their names: clients, and bare ends of
connections on which no handshake is made. A name that is given again takes its
former bearer out of use.
-/

namespace Courier

/-- A peer's end of a connection, and what it leads to. -/
structure Wire where
  link : Link
  stream : Stream

structure Neighbourhood where
  network : Network
  clients : Keyed Network.Peer := []
  wires : Keyed Wire := []

namespace Neighbourhood

/-- The first server, or one that was never started. -/
def first (peers : Neighbourhood) : Server :=
  peers.network.servers.headD { address := "", port := 0, policy := .keepOpen }

/-- Lets the network do its work on every connection. -/
def settle (peers : Neighbourhood) : Neighbourhood :=
  let (clients, network) := peers.clients.foldl
    (fun reached entry =>
      let (peer, network) := entry.2.settle reached.2
      (reached.1 ++ [(entry.1, peer)], network)) (([] : Keyed Network.Peer), peers.network)
  let (wires, network) := peers.wires.foldl
    (fun reached entry =>
      let (stream, network) := reached.2.settle entry.2.link entry.2.stream
      (reached.1 ++ [(entry.1, { entry.2 with stream })], network)) (([] : Keyed Wire), network)
  { clients, wires, network }

def start (peers : Neighbourhood) (index : Nat) : Bool × Neighbourhood :=
  let (started, network) := peers.network.start index
  (started, { peers with network })

def shutdown (peers : Neighbourhood) (index : Nat) : Neighbourhood :=
  ({ peers with network := peers.network.shutdown index } : Neighbourhood).settle

/-! ## Clients -/

/-- Gives up the client with a name, if there is one. -/
def dropClient (peers : Neighbourhood) (name : String) : Neighbourhood :=
  match peers.clients.find? name with
  | some peer =>
      { peers with clients := peers.clients.erase name, network := peer.drop peers.network }
  | none => peers

/-- Connects a client; the result is the address that it is connected to. -/
def dial (peers : Neighbourhood) (name host : String) (port : Nat) : Except Failure String × Neighbourhood :=
  match Network.Peer.dial peers.network host port with
  | (.error failure, network) => (.error failure, { peers with network })
  | (.ok peer, network) =>
      let peers := ({ peers with network } : Neighbourhood).dropClient name
      (.ok peer.client.address, { peers with clients := peers.clients.insert name peer })

/-- Does something with the client that has a name; nothing without one. -/
def withClient {Result : Type} (peers : Neighbourhood) (name : String)
    (operation : Network.Peer → Network → Except Failure Result × Network.Peer × Network) :
    Option (Except Failure Result × Lifecycle) × Neighbourhood :=
  match peers.clients.find? name with
  | none => (none, peers)
  | some peer =>
      let (result, peer, network) := operation peer peers.network
      (some (result, peer.client.state),
        { peers with clients := peers.clients.insert name peer, network })

/-! ## Bare ends -/

/-- Closes and forgets the bare end with a name, if there is one. -/
def dropWire (peers : Neighbourhood) (name : String) : Neighbourhood :=
  match peers.wires.find? name with
  | some wire =>
      { peers with
        wires := peers.wires.erase name
        network := (peers.network.settle wire.link wire.stream.close.2).2 }
  | none => peers

/-- Makes a connection without a handshake; the result is the address that it leads to. -/
def connect (peers : Neighbourhood) (name host : String) (port : Nat) : Except DialError String × Neighbourhood :=
  match peers.network.connect host port with
  | (.error error, network) => (.error error, { peers with network })
  | (.ok (link, stream), network) =>
      let peers := ({ peers with network } : Neighbourhood).dropWire name
      (.ok stream.address, { peers with wires := peers.wires.insert name ⟨link, stream⟩ })

/-- Does something with the bare end that has a name, once everything that was sent to it is there;
nothing without one. -/
def withWire {Result : Type} (peers : Neighbourhood) (name : String)
    (operation : Stream → Result × Stream) : Option Result × Neighbourhood :=
  match peers.wires.find? name with
  | none => (none, peers)
  | some wire =>
      let (stream, network) := peers.network.settle wire.link wire.stream
      let (result, stream) := operation stream
      let (stream, network) := network.settle wire.link stream
      (some result, { peers with wires := peers.wires.insert name { wire with stream }, network })

/-- Writes to a stream and tells how much was taken. Where not one byte would be taken, writing nothing is
a fault too. -/
def writing (data : Octets) (stream : Stream) : (Nat × Option StreamFault) × Stream :=
  let (count, fault, stream) := stream.write data
  ((count, if stream.capacity 1 = 0 then some .brokenPipe else fault), stream)

/-- Reads from a stream and tells how much there was. A closed stream is at its end, so reading nothing
from it is a fault too. -/
def reading (count : Nat) (stream : Stream) : (Nat × Option StreamFault) × Stream :=
  match stream.read count with
  | (.ok _, stream) => ((count, if stream.closed then some .endOfFile else none), stream)
  | (.error found, stream) => ((found, some .endOfFile), stream)

end Neighbourhood

end Courier
