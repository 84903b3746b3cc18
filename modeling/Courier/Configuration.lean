import Courier.Discovery
import Courier.FileSystem.Disk
import Courier.Json.Document
import Courier.Numeral
import Courier.Plan
import Courier.Session

/-!
# Configurations

A configuration is read from a JSON document. A key that is missing leaves its
default. Values are read from the text of a scalar, so a number may also stand
in a string.
-/

namespace Courier

inductive ConfigurationError where
  | unopenable (path : String)
  | unreadable (fault : PathFault)
  | malformed (source : String)
  | invalid (key data : String)
  | roots
  | noWorkers
  deriving DecidableEq, Repr

/-- A fault in reading is not the configuration's own, and is told without saying whose it is. -/
def ConfigurationError.message : ConfigurationError → String
  | unopenable path => "Config error: cannot open " ++ path
  | unreadable fault => "basic_filebuf::underflow error reading the file: " ++ fault.message
  | malformed source => "Config error: " ++ source ++ ": not a JSON document"
  | invalid key data => "Config error: invalid value for '" ++ key ++ "': " ++ data
  | roots => "Config error: 'roots' must be an array of paths"
  | noWorkers => "Config error: 'discovery_workers' must be positive"

structure Configuration where
  /-- The directories to discover files in. -/
  roots : List String := []
  small : Option UInt64 := none
  large : Option UInt64 := none
  bundle : Option UInt64 := none
  discovery : Discovery.Settings := ⟨Discovery.Settings.defaultWorkers, Discovery.Settings.defaultWorkers_positive⟩
  /-- The address to listen on. -/
  address : String := "127.0.0.1"
  port : UInt16 := 3000
  closeOnUnsupported : Bool := false
  deriving DecidableEq

namespace Configuration

def thresholds (configuration : Configuration) : Thresholds :=
  let standard : Thresholds := {}
  { small := configuration.small.getD standard.small
    large := configuration.large.getD standard.large
    bundle := configuration.bundle.getD standard.bundle }

def policy (configuration : Configuration) : Policy :=
  if configuration.closeOnUnsupported then .close else .keepOpen

/-! ## Reading -/

/-- The value of a key, if the key is there; its text has to be readable. -/
def field {Value : Type} (document : Json) (key : String) (read? : String → Option Value) :
    Except ConfigurationError (Option Value) :=
  match document.child? key with
  | none => .ok none
  | some found =>
      match read? found.data with
      | some value => .ok (some value)
      | none => .error (.invalid key found.data)

def readWord (text : String) : Option UInt64 := (Numeral.unsigned? UInt64.size text).map UInt64.ofNat

def readPort (text : String) : Option UInt16 := (Numeral.unsigned? UInt16.size text).map UInt16.ofNat

/-- The path that an item of a list of paths gives. -/
def readRoot (child : String × Json) : Except ConfigurationError String :=
  if child.1.isEmpty && !child.2.data.isEmpty then .ok child.2.data else .error .roots

/-- The paths in a document; anything without children holds none. -/
def readRoots (document : Json) : Except ConfigurationError (List String) :=
  match document.child? "roots" with
  | none => .ok []
  | some found => found.children.mapM readRoot

/-- The number of workers, which must not be zero. -/
def readWorkers (document : Json) : Except ConfigurationError (Option Discovery.Settings) := do
  match ← field document "discovery_workers" (Numeral.unsigned? UInt64.size) with
  | none => pure none
  | some workers =>
      if positive : 0 < workers then pure (some ⟨workers, positive⟩) else throw .noWorkers

/-- The configuration that a document gives. The first key in this order that is in error decides. -/
def ofJson (document : Json) : Except ConfigurationError Configuration := do
  let standard : Configuration := {}
  let roots ← readRoots document
  let small ← field document "small_file_threshold_bytes" readWord
  let large ← field document "large_file_threshold_bytes" readWord
  let bundle ← field document "bundle_target_size" readWord
  let discovery ← readWorkers document
  let address ← field document "address" some
  let port ← field document "port" readPort
  let closeOnUnsupported ← field document "close_on_unsupported_protocol" Numeral.flag?
  pure
    { roots
      small
      large
      bundle
      discovery := discovery.getD standard.discovery
      address := address.getD standard.address
      port := port.getD standard.port
      closeOnUnsupported := closeOnUnsupported.getD standard.closeOnUnsupported }

/-- The configuration that a text gives; `source` names the text in a complaint. -/
def parse (source text : String) : Except ConfigurationError Configuration :=
  match Json.parse? text with
  | none => .error (.malformed source)
  | some document => ofJson document

/-- The name of a text that comes from no file. -/
def inlineSource : String := "<inline>"

/-- The configuration in a file. A directory can be opened, but not read. -/
def load (disk : Disk) (path : String) : Except ConfigurationError Configuration :=
  match disk.read path with
  | .error .isDirectory => .error (.unreadable .isDirectory)
  | .error _ => .error (.unopenable path)
  | .ok text => parse path text

end Configuration

end Courier
