import Courier.Network

/-!
# Two parties of a handshake

Both ends of a connection take the steps of a handshake in any order in which
neither reads what has not been written.
-/

namespace Courier.Handshake

/-- What a party brings along: its private key, its salt and the address that it is connected to. -/
structure Person where
  key : PrivateKey
  salt : KeyDerivation.Salt
  address : String

/-- The next step of establishing a channel: the handshake's, and a party that fails closes its stream. -/
def Party.proceed (suite : Suite) (party : Party) : Party :=
  match (party.step suite).stage.result? with
  | some (.error _) => { party.step suite with stream := (party.step suite).stream.close.2 }
  | _ => party.step suite

/-- A party and all that it has written. -/
structure Participant where
  party : Party
  written : Octets := []

/-- The two parties at the ends of a connection. -/
abbrev Meeting := Side → Participant

namespace Meeting

/-- Two parties that have taken no step yet. -/
def start (persons : Side → Person) : Meeting := fun side =>
  { party :=
      { stage := .greeting
        entropy := { privateKeys := [(persons side).key], salts := [(persons side).salt] }
        stream := { address := (persons side).address, ended := false } } }

/-- One party takes its next step, and what it wrote and whether it has closed reaches the other. -/
def advance (suite : Suite) (meeting : Meeting) (side : Side) : Meeting := fun each =>
  let next := (meeting side).party.proceed suite
  if each = side then
    { party := { next with stream := next.stream.takeAccepted.2 }
      written := (meeting side).written ++ next.stream.accepted }
  else
    { meeting each with
      party := { (meeting each).party with stream := Network.carry next.stream (meeting each).party.stream } }

/-- Whether a party has a next step and need not wait for it. -/
def Able (meeting : Meeting) (side : Side) : Prop :=
  (meeting side).party.stage.result? = none ∧ (meeting side).party.ready = true

/-- Whether a party waits for bytes to read. -/
def Blocked (meeting : Meeting) (side : Side) : Prop :=
  (meeting side).party.stage.result? = none ∧ (meeting side).party.ready = false

/-- The steps of the two parties in some order, each taken when the party is able to. -/
inductive Interleaving (suite : Suite) : Meeting → List Side → Meeting → Prop where
  | nil (meeting : Meeting) : Interleaving suite meeting [] meeting
  | cons {meeting last : Meeting} {side : Side} {schedule : List Side} (able : meeting.Able side)
      (rest : Interleaving suite (meeting.advance suite side) schedule last) :
      Interleaving suite meeting (side :: schedule) last

end Meeting

end Courier.Handshake
