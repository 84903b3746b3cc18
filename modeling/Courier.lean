import Courier.FileSystem.Memory
import Courier.Main
import Courier.Network.Neighbourhood
import Courier.Proofs.Channel.Authenticity
import Courier.Proofs.Channel.Delivery
import Courier.Proofs.Channel.Directions
import Courier.Proofs.Channel.NonceSequence
import Courier.Proofs.Channel.Poisoning
import Courier.Proofs.Client.Call
import Courier.Proofs.Client.LifeCycle
import Courier.Proofs.CommandLine
import Courier.Proofs.Configuration.Quantities
import Courier.Proofs.Configuration.Roots
import Courier.Proofs.Dialogue.Conversing
import Courier.Proofs.Discovery.BreadthFirst
import Courier.Proofs.FileSystem.Ordinary
import Courier.Proofs.Handshake.Agreement
import Courier.Proofs.Handshake.Establishment
import Courier.Proofs.Handshake.Outstanding
import Courier.Proofs.Machine
import Courier.Proofs.Message
import Courier.Proofs.Message.Language
import Courier.Proofs.Plan
import Courier.Proofs.Program
import Courier.Proofs.Registry.Closing
import Courier.Proofs.Server.Isolation
import Courier.Proofs.Server.Shutdown
import Courier.Proofs.Session.Conversation
import Courier.Proofs.Session.Interruption
import Courier.Proofs.Session.LifeCycle
import Courier.Proofs.Session.Operation
import Courier.Proofs.Session.Parting
import Courier.Proofs.Session.Performance
import Courier.Proofs.Session.Serving
import Courier.Proofs.Session.Standoff
import Courier.Proofs.Waking
