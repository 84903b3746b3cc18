/-!
# Life cycle of a session

A session moves forward only: it is connecting until both directions have
keys, established while messages flow, disconnecting once one side is leaving,
and closed for good.
-/

namespace Courier

inductive Lifecycle where
  | connecting
  | established
  | disconnecting
  | closed
  deriving DecidableEq, Repr

namespace Lifecycle

def name : Lifecycle → String
  | connecting => "CONNECTING"
  | established => "ESTABLISHED"
  | disconnecting => "DISCONNECTING"
  | closed => "CLOSED"

def code : Lifecycle → Int
  | connecting => 0
  | established => 1
  | disconnecting => 2
  | closed => 3

def ofCode? : Int → Option Lifecycle
  | 0 => some connecting
  | 1 => some established
  | 2 => some disconnecting
  | 3 => some closed
  | _ => none

/-- The name of the state with this number, if there is one. -/
def nameOfCode (code : Int) : String := ((ofCode? code).map name).getD "UNKNOWN"

/-- The steps that a session may take; none leads back and none leaves `closed`. -/
def canBecome : Lifecycle → Lifecycle → Bool
  | connecting, established => true
  | connecting, closed => true
  | established, disconnecting => true
  | established, closed => true
  | disconnecting, closed => true
  | _, _ => false

/-- A numbered step is possible only between numbers that stand for states. -/
def canBecomeCode (source target : Int) : Bool :=
  match ofCode? source, ofCode? target with
  | some source, some target => source.canBecome target
  | _, _ => false

/-- The state after asking for a step: the target if the step is possible, and the same state otherwise. -/
def advance (source target : Lifecycle) : Lifecycle :=
  if source.canBecome target then target else source

/-- `advance` to a numbered state; a number without a state changes nothing. -/
def advanceCode (source : Lifecycle) (target : Int) : Lifecycle :=
  ((ofCode? target).map source.advance).getD source

def isTerminal (state : Lifecycle) : Bool := state == closed

@[simp] theorem advance_closed (source : Lifecycle) : source.advance closed = closed := by
  cases source <;> rfl

end Lifecycle

end Courier
