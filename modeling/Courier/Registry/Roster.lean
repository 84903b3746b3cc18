import Courier.Registry
import Courier.Session.Operation

/-!
# Rosters

A roster is a registry with all sessions that there are, in whatever states their
lives and their streams have brought them to.
-/

namespace Courier

/-- A registry and all sessions that there are, registered or not. -/
structure Roster where
  registry : Registry := {}
  sessions : List Session := []

namespace Roster

/-- What is done with a roster, or happens to it: sessions are made, used, registered and removed, a handler
takes one step from wherever it has got to, and meanwhile the world does what it likes to the streams. -/
inductive Operation where
  | create (address : String) (entropy : Entropy) (given : Option Stream)
  | perform (place : Nat) (operation : Session.Operation)
  | work (place : Nat) (policy : Policy) (activity : Activity)
  | visit (place : Nat) (change : Stream → Stream)
  | insert (place : Nat)
  | remove (address : String)
  | clear
  | closeAll

def closeAll (suite : Suite) (roster : Roster) : Roster :=
  { roster with sessions := roster.registry.closeAll suite roster.sessions }

def apply (suite : Suite) (roster : Roster) : Operation → Roster
  | .create address entropy given =>
      { roster with sessions := roster.sessions ++ [Session.open? address entropy given] }
  | .perform place operation =>
      { roster with sessions := roster.sessions.modify place fun session => operation.apply suite session }
  | .work place policy activity =>
      { roster with
        sessions := roster.sessions.modify place fun session =>
          ((⟨activity, session⟩ : Work).step suite policy).session }
  | .visit place change =>
      { roster with
        sessions := roster.sessions.modify place fun session =>
          { session with transport := session.transport.mapStream change } }
  | .insert place =>
      match roster.sessions[place]? with
      | none => roster
      | some session => { roster with registry := (roster.registry.insert session.address place).2 }
  | .remove address => { roster with registry := (roster.registry.remove address).2 }
  | .clear => { roster with registry := {} }
  | .closeAll => roster.closeAll suite

/-- The roster after a run of operations. -/
def after (suite : Suite) : Roster → List Operation → Roster
  | roster, [] => roster
  | roster, operation :: rest => after suite (roster.apply suite operation) rest

end Roster

end Courier
