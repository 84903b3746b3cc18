import Courier.Keyed
import Courier.Session

/-!
# The registry of sessions

A server looks its sessions up by the address of the peer. The sessions
themselves stand in a list, and the registry holds their places in it; so a
session that has left the registry can still be referred to.
-/

namespace Courier

structure Registry where
  entries : Keyed Nat := []
  deriving DecidableEq

namespace Registry

def size (registry : Registry) : Nat := registry.entries.length

def addresses (registry : Registry) : List String := registry.entries.keys

def get? (registry : Registry) (address : String) : Option Nat := registry.entries.find? address

def has (registry : Registry) (address : String) : Bool := registry.entries.contains address

/-- Registers a session under an address, unless the address is taken. -/
def insert (registry : Registry) (address : String) (place : Nat) : Bool × Registry :=
  if registry.has address then (false, registry)
  else (true, { entries := registry.entries.insert address place })

/-- Removes the entry of an address, if there is one. -/
def remove (registry : Registry) (address : String) : Bool × Registry :=
  if registry.has address then (true, { entries := registry.entries.erase address })
  else (false, registry)

/-- Closes one session after the other, in the order of their addresses. A session whose stream
fails to close holds up no other. -/
def closeAll (suite : Suite) (registry : Registry) (sessions : List Session) : List Session :=
  registry.entries.foldl
    (fun sessions entry => sessions.modify entry.2 fun session => (session.close suite).2) sessions

end Registry

end Courier
