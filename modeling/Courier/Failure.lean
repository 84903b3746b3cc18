import Courier.Lifecycle
import Courier.Message

/-!
# Causes of failure

Each kind of failure is a type whose constructors are its causes, and each
cause has one wording. A cause that was met inside another operation is kept,
so that its own wording becomes part of the outer one.
-/

namespace Courier

/-- Why a cryptographic operation was refused. -/
inductive CryptoError where
  | keyGeneration
  | keyConsumed
  | agreement
  | saltGeneration
  | derivation
  | nonceExhausted
  | sealedTooShort
  | tagMismatch
  deriving DecidableEq, Repr

namespace CryptoError

/-- The part of cryptography that a cause belongs to. -/
inductive Area where
  | keyExchange
  | keyDerivation
  | encryption
  | authentication
  deriving DecidableEq, Repr

def Area.heading : Area → String
  | keyExchange => "Key exchange error: "
  | keyDerivation => "Key derivation error: "
  | encryption => "Encryption error: "
  | authentication => "Authentication error: "

def area : CryptoError → Area
  | keyGeneration | keyConsumed | agreement => .keyExchange
  | saltGeneration | derivation => .keyDerivation
  | nonceExhausted => .encryption
  | sealedTooShort | tagMismatch => .authentication

def reason : CryptoError → String
  | keyGeneration => "Failed to generate X25519 key pair"
  | keyConsumed => "Ephemeral private key already consumed"
  | agreement => "Key agreement failed"
  | saltGeneration => "Failed to generate random salt"
  | derivation => "HKDF-SHA256 derivation failed"
  | nonceExhausted => "AEAD cipher: Nonce sequence exhausted"
  | sealedTooShort => "AEAD cipher: Sealed buffer shorter than tag"
  | tagMismatch => "AEAD cipher: Tag verification failed"

def message (error : CryptoError) : String := error.area.heading ++ error.reason

end CryptoError

/-- Why a byte stream moved fewer bytes than it was asked to. -/
inductive StreamFault where
  | endOfFile
  | brokenPipe
  deriving DecidableEq, Repr

def StreamFault.message : StreamFault → String
  | endOfFile => "End of file"
  | brokenPipe => "Broken pipe"

/-- Why a connection to an address could not be made. -/
inductive DialError where
  | unknownHost
  | refused
  deriving DecidableEq, Repr

def DialError.message : DialError → String
  | unknownHost => "resolve: Host not found (authoritative)"
  | refused => "connect: Connection refused"

inductive HandshakeError where
  | stream (fault : StreamFault)
  | crypto (error : CryptoError)
  | reflectedSalt
  | noStream
  | noChannel
  | notAwaiting (address : String)
  | closedMeanwhile (address : String)
  | dial (error : DialError)
  deriving DecidableEq, Repr

def HandshakeError.reason : HandshakeError → String
  | stream fault => fault.message
  | crypto error => error.message
  | reflectedSalt => "peer echoed the local salt"
  | noStream => "no stream"
  | noChannel => "no channel"
  | notAwaiting address => "session " ++ address ++ " is not awaiting a handshake"
  | closedMeanwhile address => "session " ++ address ++ " was closed during the handshake"
  | dial error => "connect failed: " ++ error.message

/-- Why a channel is, or has just become, unusable. -/
inductive FrameError where
  | unusable (address : String)
  | truncatedLength
  | invalidLength (length : Nat)
  | truncatedBody (found wanted : Nat)
  | crypto (error : CryptoError)
  deriving DecidableEq, Repr

def FrameError.reason : FrameError → String
  | unusable address => "channel to " ++ address ++ " is no longer usable"
  | truncatedLength => "truncated length prefix"
  | invalidLength length => "invalid frame length " ++ toString length
  | truncatedBody found wanted =>
      "truncated frame, got " ++ toString found ++ " of " ++ toString wanted ++ " bytes"
  | crypto error => error.message

inductive ConnectionError where
  | ended (fault : StreamFault)
  | writeFailed (fault : StreamFault)
  deriving DecidableEq, Repr

def ConnectionError.reason : ConnectionError → String
  | ended fault => fault.message
  | writeFailed fault => "write failed: " ++ fault.message

/-- Why bytes are no message, or a payload no frame. -/
inductive WireError where
  | oversize (size : Nat)
  | truncated (offset : Nat)
  | unknownTag (tag : Nat)
  | unknownStatus (code : Nat)
  | trailing (count : Nat) (kind : Message.Kind)
  deriving DecidableEq, Repr

def WireError.reason : WireError → String
  | oversize size => "payload of " ++ toString size ++ " bytes exceeds frame limit"
  | truncated offset => "Payload truncated at offset " ++ toString offset
  | unknownTag tag => "Unknown message tag " ++ toString tag
  | unknownStatus code => "Unknown greeting status " ++ toString code
  | trailing count kind => toString count ++ " trailing bytes after " ++ kind.name

/-- A message or an operation that the state of the session does not allow. -/
inductive ProtocolError where
  | received (kind : Message.Kind) (state : Lifecycle)
  | unwelcome (kind : Message.Kind)
  | noChannel (address : String)
  | sendIn (state : Lifecycle)
  | receiveIn (state : Lifecycle)
  | expectedResponse (kind : Message.Kind)
  deriving DecidableEq, Repr

def ProtocolError.reason : ProtocolError → String
  | received kind state => kind.name ++ " received in state " ++ state.name
  | unwelcome kind => "server does not accept " ++ kind.name
  | noChannel address => "session " ++ address ++ " has no established channel"
  | sendIn state => "send in state " ++ state.name
  | receiveIn state => "receive in state " ++ state.name
  | expectedResponse kind => "expected GreetingResponse, got " ++ kind.name

/-- What can end an operation on a channel, a session or a client. -/
inductive Failure where
  | handshake (error : HandshakeError)
  | frame (error : FrameError)
  | connection (error : ConnectionError)
  | wire (error : WireError)
  | protocol (error : ProtocolError)
  | crypto (error : CryptoError)
  | streamClose
  deriving DecidableEq, Repr

namespace Failure

def message : Failure → String
  | handshake error => "Handshake failed: " ++ error.reason
  | frame error => "Frame corrupted: " ++ error.reason
  | connection error => "Connection closed: " ++ error.reason
  | wire error => "Serialization error: " ++ error.reason
  | protocol error => "Protocol violation: " ++ error.reason
  | crypto error => error.message
  | streamClose => "close failed"

/-- The failures of the network, as against those of cryptography and of closing a stream. -/
def isNetwork : Failure → Bool
  | crypto _ | streamClose => false
  | _ => true

end Failure

end Courier
