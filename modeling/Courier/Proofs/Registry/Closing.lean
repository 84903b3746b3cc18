import Courier.Proofs.Registry
import Courier.Proofs.Server.Handler
import Courier.Proofs.Session.Closing
import Courier.Proofs.Session.LifeCycle
import Courier.Registry.Roster

/-!
# Closing all that is registered

Closing everything that is registered goes through the sessions one by one; a stream
that refuses to close holds up no other session and leaves its own no less closed,
and the next time it may succeed.
-/

namespace Courier

/-! ## Addresses -/

/-- No operation on a session changes its address. -/
theorem Session.Operation.address_apply (suite : Suite) (session : Session) (operation : Session.Operation) :
    (operation.apply suite session).address = session.address := by
  cases operation with
  | establish => exact (Work.retains_conclude suite .keepOpen ⟨.checking, session⟩).address
  | serve policy => exact (Work.retains_conclude suite policy ⟨.starting, session⟩).address
  | handle policy message => exact (Retains.handle policy session message).address
  | close => exact (Retains.close suite session).address
  | markFinished | arrive bytes => rfl

/-! ## What is registered -/

namespace Roster

/-- Every entry of the registry stands for a session with its address, and every session can tell its peer
that it leaves if it is to. -/
structure IsSound (roster : Roster) : Prop where
  ordered : roster.registry.entries.IsOrdered
  lists : ∀ address place, (address, place) ∈ roster.registry.entries →
    ∃ session, roster.sessions[place]? = some session ∧ session.address = address
  secured : ∀ (place : Nat) (session : Session), roster.sessions[place]? = some session → session.IsSecured

namespace IsSound

variable {suite : Suite} {roster : Roster}

theorem empty : ({} : Roster).IsSound where
  ordered := .nil
  lists := fun _ _ absent => nomatch absent
  secured := by simp

/-- Whatever is done with one session, as long as it keeps its address and its channel. -/
theorem modify (sound : roster.IsSound) (place : Nat) {change : Session → Session}
    (address : ∀ session, (change session).address = session.address)
    (secured : ∀ session, session.IsSecured → (change session).IsSecured) :
    IsSound { roster with sessions := roster.sessions.modify place change } where
  ordered := sound.ordered
  lists := by
    intro name entry present
    obtain ⟨session, found, same⟩ := sound.lists name entry present
    simp only [List.getElem?_modify, found]
    refine ⟨_, rfl, ?_⟩
    split
    · exact (address session).trans same
    · exact same
  secured := by
    intro entry session found
    simp only [List.getElem?_modify, Option.map_eq_map, Option.map_eq_some_iff] at found
    obtain ⟨before, there, rfl⟩ := found
    split
    · exact secured before (sound.secured entry before there)
    · exact sound.secured entry before there

theorem create (sound : roster.IsSound) (address : String) (entropy : Entropy) (given : Option Stream) :
    IsSound { roster with sessions := roster.sessions ++ [Session.open? address entropy given] } where
  ordered := sound.ordered
  lists := by
    intro name place present
    obtain ⟨session, found, same⟩ := sound.lists name place present
    exact ⟨session, by rw [List.getElem?_append_left (List.getElem?_eq_some_iff.mp found).1, found], same⟩
  secured := by
    intro place session found
    rcases List.mem_append.mp (List.mem_of_getElem? found) with former | latter
    · obtain ⟨before, there⟩ := List.mem_iff_getElem?.mp former
      exact sound.secured before session there
    · rw [List.mem_singleton.mp latter]
      exact Session.isSecured_open? address entropy given

theorem insert (sound : roster.IsSound) {place : Nat} {session : Session}
    (found : roster.sessions[place]? = some session) :
    IsSound { roster with registry := (roster.registry.insert session.address place).2 } := by
  cases taken : roster.registry.has session.address with
  | true =>
      rw [Registry.insert_of_has taken]
      exact sound
  | false =>
      rw [Registry.insert_of_not_has taken]
      refine ⟨sound.ordered.insert _ _, fun name entry present => ?_, sound.secured⟩
      rcases (Keyed.mem_insert_iff (Keyed.contains_eq_false_iff.mp taken)).mp present with here | before
      · cases here
        exact ⟨session, found, rfl⟩
      · exact sound.lists name entry before

theorem remove (sound : roster.IsSound) (address : String) :
    IsSound { roster with registry := (roster.registry.remove address).2 } where
  ordered := by
    rw [Registry.entries_remove]
    exact sound.ordered.erase address
  lists := by
    intro name place present
    rw [Registry.entries_remove] at present
    exact sound.lists name place (Keyed.mem_erase_iff.mp present).1
  secured := sound.secured

theorem closeAll (suite : Suite) (sound : roster.IsSound) : (roster.closeAll suite).IsSound := by
  unfold Roster.closeAll Registry.closeAll
  generalize roster.registry.entries = entries
  induction entries generalizing roster with
  | nil => exact sound
  | cons entry rest ih =>
      exact ih (sound.modify entry.2 (fun session => (Session.Retains.close suite session).address)
        fun session secured => secured.apply suite .close)

theorem apply (suite : Suite) (sound : roster.IsSound) (operation : Operation) :
    (roster.apply suite operation).IsSound := by
  cases operation with
  | create address entropy given => exact sound.create address entropy given
  | perform place operation =>
      exact sound.modify place (fun session => operation.address_apply suite session)
        fun session secured => secured.apply suite operation
  | work place policy activity =>
      exact sound.modify place (fun session => (Work.retains_step suite policy ⟨activity, session⟩).address)
        fun session secured => secured.step suite policy activity
  | visit place change =>
      exact sound.modify place (fun _ => rfl) fun session secured => secured.mapStream change
  | insert place =>
      rw [Roster.apply]
      cases found : roster.sessions[place]? with
      | none => exact sound
      | some session => exact sound.insert found
  | remove address => exact sound.remove address
  | clear => exact ⟨.nil, fun _ _ absent => (nomatch absent), sound.secured⟩
  | closeAll => exact sound.closeAll suite

theorem after (suite : Suite) (sound : roster.IsSound) (operations : List Operation) :
    (roster.after suite operations).IsSound := by
  induction operations generalizing roster with
  | nil => exact sound
  | cons operation rest ih => exact ih (sound.apply suite operation)

/-- No session stands in the registry twice. -/
theorem nodup_places (sound : roster.IsSound) : (roster.registry.entries.map Prod.snd).Nodup := by
  have distinct : (roster.registry.entries.map Prod.fst).Nodup := sound.ordered.nodup_keys
  refine distinct.of_map.map_on ?_
  rintro ⟨first, place⟩ present ⟨second, _⟩ again rfl
  obtain ⟨session, found, rfl⟩ := sound.lists first place present
  obtain ⟨other, alsoFound, rfl⟩ := sound.lists second place again
  cases found.symm.trans alsoFound
  rfl

end IsSound

/-! ## Closing everything -/

/-- Each session that has an entry is closed once, and no other is touched. -/
theorem getElem?_closeAll (suite : Suite) {roster : Roster} (sound : roster.IsSound) (place : Nat) :
    (roster.closeAll suite).sessions[place]? =
      if place ∈ roster.registry.entries.map Prod.snd then
        roster.sessions[place]?.map fun session => (session.close suite).2
      else roster.sessions[place]? := by
  have distinct := sound.nodup_places
  unfold closeAll Registry.closeAll
  generalize roster.registry.entries = entries at *
  generalize roster.sessions = sessions
  induction entries generalizing sessions with
  | nil => rfl
  | cons entry rest ih =>
      obtain ⟨absent, others⟩ := List.nodup_cons.mp distinct
      rw [List.foldl_cons, ih others, List.getElem?_modify, List.map_cons]
      by_cases here : entry.2 = place
      · subst here
        simp [absent]
      · simp only [if_neg here, id_map', List.mem_cons, Ne.symm here, false_or]

/-- Closing everything again and again closes each session that has an entry as often. -/
theorem iterate_closeAll (suite : Suite) {roster : Roster} (sound : roster.IsSound) (count : Nat) :
    ((closeAll suite)^[count] roster).registry = roster.registry ∧
    ∀ place, ((closeAll suite)^[count] roster).sessions[place]? =
      if place ∈ roster.registry.entries.map Prod.snd then
        roster.sessions[place]?.map (fun session => (session.close suite).2)^[count]
      else roster.sessions[place]? := by
  induction count generalizing roster with
  | zero => exact ⟨rfl, fun place => by simp⟩
  | succ count ih =>
      obtain ⟨registered, closed⟩ := ih (sound.closeAll suite)
      refine ⟨registered, fun place => ?_⟩
      have same : (roster.closeAll suite).registry = roster.registry := rfl
      rw [Function.iterate_succ_apply, closed, same, getElem?_closeAll suite sound]
      split
      · rw [Option.map_map, ← Function.iterate_succ]
      · rfl

/-- Closing everything reaches every session that is registered, whichever streams refuse, and the peers that
are to be told are told once, however often it is done. -/
theorem closes_all_despite_failures (suite : Suite) {operations : List Operation} {roster : Roster}
    (reached : ({} : Roster).after suite operations = roster) (times : Nat) :
    ((closeAll suite)^[times + 1] roster).registry = roster.registry ∧
    (∀ place, (∀ address, (address, place) ∉ roster.registry.entries) →
      ((closeAll suite)^[times + 1] roster).sessions[place]? = roster.sessions[place]?) ∧
    ∀ address place, (address, place) ∈ roster.registry.entries →
      ∃ session told, roster.sessions[place]? = some session ∧ session.address = address ∧
        ((closeAll suite)^[times + 1] roster).sessions[place]? = some { session with
          state := .closed
          transport := told.mapStream (Stream.closedBy (times + 1)) } ∧
        (session.state = .established ∨ session.state = .disconnecting ∧ session.peerDisconnected = false →
          ∃ channel, session.transport = .secured channel ∧
            told = .secured (channel.send suite .disconnect).2) ∧
        (¬(session.state = .established ∨ session.state = .disconnecting ∧ session.peerDisconnected = false) →
          told = session.transport) ∧
        (session.close suite).1 = (if session.transport.refuses then .error .streamClose else .ok ()) ∧
        ∀ stream, session.transport.stream? = some stream →
          ∃ left, (told.mapStream (Stream.closedBy (times + 1))).stream? = some left ∧
            (left.closed = true ↔ stream.closed = true ∨ stream.failingCloses ≤ times) := by
  have sound : roster.IsSound := reached ▸ IsSound.empty.after suite operations
  obtain ⟨registered, closed⟩ := iterate_closeAll suite sound (times + 1)
  refine ⟨registered, fun place absent => ?_, fun address place present => ?_⟩
  · rw [closed, if_neg]
    rintro listed
    obtain ⟨⟨address, _⟩, present, rfl⟩ := List.mem_map.mp listed
    exact absent address present
  · obtain ⟨session, found, same⟩ := sound.lists address place present
    refine ⟨session, session.told suite, found, same, ?_, ?_, ?_, ?_, ?_⟩
    · rw [closed, if_pos (List.mem_map_of_mem (f := Prod.snd) present), found, Option.map_some,
        Session.iterate_close]
    · intro leaves
      have inside : session.state = .established ∨ session.state = .disconnecting := leaves.imp_right And.left
      obtain ⟨channel, owned⟩ := Transport.isSome_channel?_iff.mp (sound.secured place session found inside)
      exact ⟨channel, owned, Session.told_of_announces ((Session.announces_iff _ _).mpr leaves) owned⟩
    · intro stays
      exact Session.told_of_not_announces (stays ∘ (Session.announces_iff _ _).mp)
    · rw [Session.close_eq]
    · intro stream owned
      obtain ⟨left, found, closes⟩ := Session.exists_closedBy suite owned (times + 1)
      exact ⟨left, found, closes.trans (or_congr_right Nat.lt_succ_iff)⟩

section Strangers

open Handshake Meeting

/-- A session is established and registered, and then its stream refuses the next attempt to close it. -/
def refusing : List Operation :=
  [.create "right" ((strangers .left).entropy 0) (some Session.greeted), .perform 0 .establish, .insert 0,
    .visit 0 fun stream => { stream with failingCloses := 1 }]

/-- The first attempt fails, and the second closes the stream. -/
theorem closes_all_despite_failures_refusing :
    ∃ roster session closed stream, ({} : Roster).after Suite.standard refusing = roster ∧
      roster.sessions[0]? = some session ∧ session.state = .established ∧
      (session.close Suite.standard).1 = .error .streamClose ∧
      ((closeAll Suite.standard)^[2] roster).sessions[0]? = some closed ∧ closed.state = .closed ∧
      closed.transport.stream? = some stream ∧ stream.closed = true := by
  obtain ⟨stream, keys, established⟩ := Session.exists_establish_greeted
  have ready : (Session.Operation.establish.apply Suite.standard
      (Session.open? "right" ((strangers .left).entropy 0) (some Session.greeted))) = _ :=
    congrArg Prod.snd established
  have reached : ({} : Roster).after Suite.standard refusing = {
      registry := ⟨[("right", 0)]⟩
      sessions := [{ Session.open? "right" ((strangers .left).entropy 4) none with
        state := .established
        transport := .secured (Channel.ofKeys { stream with failingCloses := 1 } keys) }] } := by
    simp only [after, refusing, apply, List.nil_append, List.modify_zero_cons, ready, List.getElem?_cons_zero]
    rfl
  obtain ⟨_, _, entries⟩ := closes_all_despite_failures Suite.standard reached 1
  obtain ⟨session, told, found, _, closed, _, _, fails, closes⟩ := entries "right" 0 List.mem_cons_self
  cases found
  obtain ⟨left, there, shut⟩ := closes _ rfl
  exact ⟨_, _, _, left, reached, rfl, rfl, fails, closed, rfl, there, shut.mpr (.inr (Nat.le_refl 1))⟩

end Strangers

end Roster

end Courier
