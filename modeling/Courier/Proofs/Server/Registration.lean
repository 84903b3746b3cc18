import Courier.Proofs.Registry
import Courier.Proofs.Server.Handler
import Courier.Server.Hosting

/-!
# What a registry lists

A session is resident from the moment it is registered until its handler takes it
off the registry. Whatever happens at a server changes the registry and the
residents together, by one at most, so the registry goes on to list exactly the
residents. That a removal takes out no other entry rests on this: the address of
a resident is registered for nobody else.
-/

namespace Courier

theorem Stream.Keeps.visited (stream : Stream) (visit : Stream.Visit) : stream.Keeps (stream.visited visit) := by
  cases visit <;> exact ⟨fun closable => closable, fun closed => closed⟩

namespace Server

variable {suite : Suite} {server next : Server} {handler : Handler} {place : Nat}

/-- The address of the session at a place while it is registered. -/
def resident? (server : Server) (place : Nat) : Option String := server.handlers[place]?.bind Handler.resident?

theorem resident?_of_le (beyond : server.handlers.length ≤ place) : server.resident? place = none := by
  rw [resident?, List.getElem?_eq_none beyond]
  rfl

/-- A new handler stands in the next place. -/
theorem resident?_concat (fresh : Handler) (grown : next.handlers = server.handlers ++ [fresh]) (place : Nat) :
    next.resident? place = if place = server.handlers.length then fresh.resident? else server.resident? place := by
  rw [resident?, grown]
  split
  · rename_i last
    rw [last, List.getElem?_concat_length]
    rfl
  · rename_i other
    rw [resident?]
    rcases Nat.lt_or_ge place server.handlers.length with within | beyond
    · rw [List.getElem?_append_left within]
    · rw [List.getElem?_eq_none beyond, List.getElem?_eq_none]
      rw [List.length_append, List.length_singleton]
      omega

theorem resident?_set (next : Server) (found : server.handlers[place]? = some handler) (after : Handler)
    (changed : next.handlers = server.handlers.set place after) (other : Nat) :
    next.resident? other = if other = place then after.resident? else server.resident? other := by
  have within : place < server.handlers.length := (List.getElem?_eq_some_iff.mp found).1
  rw [resident?, changed]
  split
  · rename_i same
    rw [same, List.getElem?_set_self within]
    rfl
  · rename_i different
    rw [List.getElem?_set_ne (Ne.symm different)]
    rfl

/-- Something is done with a session that leaves it where it is registered. -/
theorem resident?_modify {change : Handler → Handler}
    (kept : ∀ handler, (change handler).resident? = handler.resident?) (changed : Server)
    (modified : changed.handlers = server.handlers.modify place change) (other : Nat) :
    changed.resident? other = server.resident? other := by
  rw [resident?, resident?, modified, List.getElem?_modify]
  cases server.handlers[other]? with
  | none => rfl
  | some handler =>
      simp only [Option.bind_some]
      split
      · exact kept handler
      · rfl

/-! ## Changes -/

open Hosting (Event)

/-- What happens to the registry and to the residents when something happens at a server. -/
inductive Change (server next : Server) : Option Event → Prop where
  | keeps (registry : next.registry = server.registry)
      (residents : ∀ other, next.resident? other = server.resident? other)
      (count : next.handlers.length = server.handlers.length) : Change server next none
  | registers (address : String) (free : server.registry.has address = false)
      (registry : next.registry.entries = server.registry.entries.insert address server.handlers.length)
      (residents : ∀ other, next.resident? other =
        if other = server.handlers.length then some address else server.resident? other)
      (count : next.handlers.length = server.handlers.length + 1) :
      Change server next (some (.registered server.handlers.length))
  | rejects (registry : next.registry = server.registry)
      (residents : ∀ other, next.resident? other = server.resident? other)
      (count : next.handlers.length = server.handlers.length + 1) :
      Change server next (some (.rejected server.handlers.length))
  | removes (place : Nat) (address : String) (resident : server.resident? place = some address)
      (registry : next.registry.entries = server.registry.entries.erase address)
      (residents : ∀ other, next.resident? other = if other = place then none else server.resident? other)
      (count : next.handlers.length = server.handlers.length) : Change server next (some (.removed place))

/-- Only by registering does a resident come. -/
theorem Change.resident_of_ne {event : Option Event} (changed : server.Change next event)
    (other : ∀ place, event ≠ some (.registered place)) {place : Nat} (resident : next.resident? place ≠ none) :
    server.resident? place ≠ none := by
  cases changed with
  | keeps registry residents count | rejects registry residents count => rwa [residents] at resident
  | registers address free registry residents count => exact absurd rfl (other _)
  | removes leaving address leaver registry residents count =>
      rw [residents] at resident
      split at resident
      · exact absurd rfl resident
      · exact resident

/-- Every session is as its handler's stage says. -/
def IsSound (server : Server) : Prop := ∀ handler ∈ server.handlers, handler.IsSound

theorem IsSound.modify (sound : server.IsSound) {change : Handler → Handler}
    (kept : ∀ handler : Handler, handler.IsSound → (change handler).IsSound) (changed : Server)
    (modified : changed.handlers = server.handlers.modify place change) : changed.IsSound := by
  intro handler present
  rw [modified] at present
  obtain ⟨index, found⟩ := List.mem_iff_getElem?.mp present
  rw [List.getElem?_modify] at found
  obtain ⟨before, here, rfl⟩ := Option.map_eq_some_iff.mp found
  have soundBefore := sound before (List.mem_of_getElem? here)
  split
  · exact kept before soundBefore
  · exact soundBefore

/-! ## Accepting -/

/-- The session that is made for a connection. -/
def session (entropy : Entropy) (stream : Stream) : Session := .open? stream.address entropy (some stream)

theorem accept_of_has {entropy : Entropy} {stream : Stream} {spawned : Bool}
    (taken : server.registry.has stream.address = true) :
    server.accept suite entropy stream spawned =
      { server with
        handlers := server.handlers ++ [⟨((session entropy stream).close suite).2, .retired⟩] } := by
  simp only [accept, Session.open?, Registry.insert_of_has taken, session]

theorem accept_of_not_has {entropy : Entropy} {stream : Stream} {spawned : Bool}
    (free : server.registry.has stream.address = false) :
    server.accept suite entropy stream spawned =
      { server with
        registry := ⟨server.registry.entries.insert stream.address server.handlers.length⟩
        handlers := server.handlers ++
          [if spawned then .start (session entropy stream) else .unstarted (session entropy stream)] } := by
  simp only [accept, Session.open?, Registry.insert_of_not_has free, session]

theorem isClosable_session (entropy : Entropy) {stream : Stream} (closable : stream.failingCloses = 0) :
    (session entropy stream).IsClosable := ⟨stream, rfl, closable⟩

theorem resident?_accept_of_not_has {entropy : Entropy} {stream : Stream} {spawned : Bool}
    (free : server.registry.has stream.address = false) :
    (server.accept suite entropy stream spawned).resident? server.handlers.length = some stream.address := by
  rw [accept_of_not_has free, resident?_concat _ rfl, if_pos rfl]
  cases spawned <;> rfl

theorem change_accept (suite : Suite) (server : Server) (entropy : Entropy) (stream : Stream) (spawned : Bool) :
    server.Change (server.accept suite entropy stream spawned)
      (some (if server.registry.has stream.address then .rejected server.handlers.length
        else .registered server.handlers.length)) := by
  cases taken : server.registry.has stream.address with
  | true =>
      rw [accept_of_has taken]
      refine .rejects rfl (fun other => ?_) List.length_append
      rw [resident?_concat _ rfl]
      split
      · rename_i last
        exact (resident?_of_le (Nat.le_of_eq last.symm)).symm
      · rfl
  | false =>
      rw [accept_of_not_has taken]
      refine .registers stream.address taken rfl (fun other => ?_) List.length_append
      rw [resident?_concat _ rfl]
      cases spawned <;> rfl

theorem IsSound.accept (sound : server.IsSound) (suite : Suite) {entropy : Entropy} {stream : Stream}
    (closable : stream.failingCloses = 0) (spawned : Bool) :
    (server.accept suite entropy stream spawned).IsSound := by
  have own := isClosable_session entropy closable
  have grown {fresh : Handler} (new : fresh.IsSound) {grown : Server}
      (added : grown.handlers = server.handlers ++ [fresh]) : grown.IsSound := by
    intro handler present
    rw [added, List.mem_append, List.mem_singleton] at present
    rcases present with before | rfl
    · exact sound handler before
    · exact new
  cases taken : server.registry.has stream.address with
  | true =>
      rw [accept_of_has taken]
      refine grown ?_ rfl
      exact ⟨own.retained (.close suite _), rfl, nofun, fun _ => Session.isClosed_close suite own⟩
  | false =>
      rw [accept_of_not_has taken]
      refine grown ?_ rfl
      cases spawned <;> exact ⟨own, rfl, fun _ => rfl, nofun⟩

/-! ## Steps of handlers -/

theorem change_advance (suite : Suite) (sound : server.IsSound) (found : server.handlers[place]? = some handler) :
    server.Change (server.advance suite place) (if handler.isRemoving then some (.removed place) else none) := by
  have steps := (sound handler (List.mem_of_getElem? found)).resident?_step suite server.policy
  have residents (other : Nat) := resident?_set (server.advance suite place) found
    (handler.step suite server.policy) (by rw [advance, found]) other
  have count : (server.advance suite place).handlers.length = server.handlers.length := by
    rw [advance, found]
    exact List.length_set
  have here : server.resident? place = handler.resident? := by rw [resident?, found]; rfl
  cases removing : handler.isRemoving with
  | false =>
      refine .keeps (by simp only [advance, found, removing]; rfl) (fun other => ?_) count
      rw [residents, steps, removing]
      split
      · rename_i same
        rw [same, here]
        rfl
      · rfl
  | true =>
      have listed : handler.resident? = some handler.session.address := by
        obtain ⟨session, phase⟩ := handler
        cases phase <;> first | rfl | cases removing
      refine .removes place handler.session.address (here.trans listed) ?_ (fun other => ?_) count
      · simp only [advance, found, removing, if_true, Registry.entries_remove]
      · rw [residents, steps, removing]
        rfl

theorem IsSound.advance (sound : server.IsSound) (suite : Suite) (place : Nat) :
    (server.advance suite place).IsSound := by
  unfold Server.advance
  split
  · exact sound
  · rename_i handler found
    intro after present
    rcases List.mem_or_eq_of_mem_set present with before | rfl
    · exact sound after before
    · exact (sound handler (List.mem_of_getElem? found)).step suite server.policy

/-! ## Closing and visiting -/

theorem change_closeAt (suite : Suite) (server : Server) (place : Nat) :
    server.Change (server.closeAt suite place) none := by
  refine .keeps rfl (resident?_modify (fun handler => ?_) _ rfl) (List.length_modify _ _ _)
  have same := (Session.Retains.close suite handler.session).address
  rw [Handler.resident?, Handler.resident?, same]
  rfl

theorem IsSound.closeAt (sound : server.IsSound) (suite : Suite) (place : Nat) :
    (server.closeAt suite place).IsSound :=
  sound.modify (fun _ sound => sound.closeAt suite) _ rfl

theorem change_mapStream (server : Server) (place : Nat) (change : Stream → Stream) :
    server.Change (server.mapStream place change) none := by
  refine .keeps rfl (resident?_modify ?_ _ rfl) (List.length_modify _ _ _)
  exact fun handler => rfl

theorem IsSound.visited (sound : server.IsSound) (place : Nat) (visit : Stream.Visit) :
    (server.mapStream place (·.visited visit)).IsSound :=
  sound.modify (fun _ sound => sound.retained (.mapStream _ fun stream => .visited stream visit) (.inl rfl)) _ rfl

/-! ## The registry and the residents -/

/-- The registry lists exactly the residents, each under its address. -/
structure IsListed (server : Server) : Prop where
  ordered : server.registry.entries.IsOrdered
  lists : ∀ address place, (address, place) ∈ server.registry.entries ↔ server.resident? place = some address

namespace IsListed

variable {event : Option Event}

theorem has_iff (listed : server.IsListed) (address : String) :
    server.registry.has address = true ↔ ∃ place, server.resident? place = some address := by
  rw [Registry.has, Keyed.contains_iff]
  exact exists_congr fun place => listed.lists address place

/-- Two residents never share an address. -/
theorem place_eq (listed : server.IsListed) {address : String} {first second : Nat}
    (resident : server.resident? first = some address) (again : server.resident? second = some address) :
    first = second :=
  listed.ordered.value_eq ((listed.lists _ _).mpr resident) ((listed.lists _ _).mpr again)

/-- What a removal takes out is the entry of the resident that leaves. -/
theorem mem_erase_iff (listed : server.IsListed) {address : String}
    (resident : server.resident? place = some address) (entry : String × Nat) :
    entry ∈ server.registry.entries.erase address ↔ entry ∈ server.registry.entries ∧ entry.2 ≠ place := by
  rw [Keyed.mem_erase_iff]
  -- erasing is by address, and no other resident has this one
  refine and_congr_right fun present => not_congr ⟨?_, ?_⟩
  · rintro rfl
    exact listed.place_eq ((listed.lists _ _).mp present) resident
  · rintro rfl
    exact Option.some.inj (((listed.lists _ _).mp present).symm.trans resident)

theorem change (listed : server.IsListed) (changed : server.Change next event) : next.IsListed := by
  cases changed with
  | keeps registry residents count | rejects registry residents count =>
      refine ⟨registry ▸ listed.ordered, fun address place => ?_⟩
      rw [registry, residents]
      exact listed.lists address place
  | registers address free registry residents count =>
      have absent := Keyed.contains_eq_false_iff.mp free
      refine ⟨registry ▸ listed.ordered.insert address _, fun other place => ?_⟩
      rw [registry, Keyed.mem_insert_iff absent, residents, listed.lists, Prod.mk.injEq]
      split
      · rename_i last
        simp [last, resident?_of_le (Nat.le_refl _), eq_comm]
      · rename_i before
        simp [before]
  | removes place address resident registry residents count =>
      refine ⟨registry ▸ listed.ordered.erase address, fun other place => ?_⟩
      rw [registry, listed.mem_erase_iff resident, residents, listed.lists]
      split <;> simp [*]

/-- An entry stays until the step that removes it, and comes with the step that registers it. -/
theorem mem_entries_iff (listed : server.IsListed) (changed : server.Change next event) (entry : String × Nat) :
    entry ∈ next.registry.entries ↔
      entry ∈ server.registry.entries ∧ event ≠ some (.removed entry.2) ∨
      event = some (.registered entry.2) ∧ next.resident? entry.2 = some entry.1 := by
  cases changed with
  | keeps registry residents count | rejects registry residents count => simp [registry]
  | registers address free registry residents count =>
      have absent := Keyed.contains_eq_false_iff.mp free
      obtain ⟨key, place⟩ := entry
      by_cases last : place = server.handlers.length
      · simp [registry, Keyed.mem_insert_iff absent, residents, last, or_comm, eq_comm]
      · simp [registry, Keyed.mem_insert_iff absent, last, Ne.symm last]
  | removes place address resident registry residents count =>
      simp [registry, listed.mem_erase_iff resident, eq_comm]

end IsListed

/-- A session that is no resident, because it was rejected or removed, is closed, and its handler has retired. -/
theorem IsSound.isClosed_of_resident?_eq_none (sound : server.IsSound)
    (found : server.handlers[place]? = some handler) (nobody : server.resident? place = none) :
    handler.isRetired = true ∧ handler.session.IsClosed := by
  have retired : handler.isRetired = true := by simpa [resident?, found, Handler.resident?] using nobody
  exact ⟨retired, (sound handler (List.mem_of_getElem? found)).isClosed_of_isRetired retired⟩

/-- Without residents the registry is empty, and every session is closed. -/
theorem IsListed.ended_of_nobody (listed : server.IsListed) (sound : server.IsSound)
    (nobody : ∀ place, server.resident? place = none) :
    server.registry.entries = [] ∧
      ∀ handler ∈ server.handlers, handler.isRetired = true ∧ handler.session.IsClosed := by
  refine ⟨List.eq_nil_iff_forall_not_mem.mpr fun entry present => ?_, fun handler present => ?_⟩
  · have resident := (listed.lists entry.1 entry.2).mp present
    rw [nobody] at resident
    cases resident
  · obtain ⟨place, found⟩ := List.mem_iff_getElem?.mp present
    exact sound.isClosed_of_resident?_eq_none found (nobody place)

/-! ## The record of connections -/

/-- How the events at a server stand to its sessions: each was registered or rejected when it was accepted,
and whether it was registered and is no resident any more tells whether it was removed. -/
structure Record (log : List Event) (server : Server) : Prop where
  sound : server.IsSound
  listed : server.IsListed
  accepted : ∀ place, log.count (.registered place) + log.count (.rejected place) =
    if place < server.handlers.length then 1 else 0
  removed : ∀ place, log.count (.removed place) + (server.resident? place).isSome.toNat =
    log.count (.registered place)

namespace Record

variable {log : List Event} {event : Option Event}

/-- A server that has accepted nothing. -/
theorem new (unused : server.handlers = []) (empty : server.registry.entries = []) : server.Record [] where
  sound := by simp [IsSound, unused]
  listed := ⟨by simp [Keyed.IsOrdered, empty], by simp [resident?, unused, empty]⟩
  accepted := by simp [unused]
  removed := by simp [resident?, unused]

theorem change (record : server.Record log) (sound : next.IsSound) (changed : server.Change next event) :
    next.Record (log ++ event.toList) := by
  refine ⟨sound, record.listed.change changed, fun place => ?_, fun place => ?_⟩ <;>
    have accepted := record.accepted place <;> have removed := record.removed place
  · cases changed with
    | keeps registry residents count | removes leaving address resident registry residents count =>
        simpa [List.count_append, count] using accepted
    | registers address free registry residents count | rejects registry residents count =>
        simp only [List.count_append, Option.toList_some, List.count_singleton, beq_iff_eq, count,
          Event.registered.injEq, Event.rejected.injEq, reduceCtorEq, if_false]
        split at accepted <;> split <;> split <;> omega
  · cases changed with
    | keeps registry residents count | rejects registry residents count =>
        simpa [List.count_append, residents] using removed
    | registers address free registry residents count =>
        simp only [List.count_append, Option.toList_some, List.count_singleton, beq_iff_eq, residents,
          Event.registered.injEq, reduceCtorEq, if_false]
        by_cases last : place = server.handlers.length
        -- nobody was resident at a place that did not exist yet
        · rw [resident?_of_le (Nat.le_of_eq last.symm)] at removed
          rw [if_pos last, if_pos last.symm]
          exact congrArg (· + 1) removed
        · rw [if_neg last, if_neg (Ne.symm last)]
          omega
    | removes leaving address resident registry residents count =>
        simp only [List.count_append, Option.toList_some, List.count_singleton, beq_iff_eq, residents,
          Event.removed.injEq, reduceCtorEq, if_false]
        by_cases leaves : place = leaving
        · rw [leaves, resident] at removed
          rw [if_pos leaves, if_pos leaves.symm, leaves]
          exact removed
        · rw [if_neg leaves, if_neg (Ne.symm leaves)]
          omega

theorem count_registered_le (record : server.Record log) (place : Nat) : log.count (.registered place) ≤ 1 := by
  have accepted := record.accepted place
  split at accepted <;> omega

/-- A session that was registered has been removed once, or it is still resident. -/
theorem count_removed (record : server.Record log) (place : Nat) :
    log.count (.removed place) =
      if .registered place ∈ log ∧ server.resident? place = none then 1 else 0 := by
  have removed := record.removed place
  have once := record.count_registered_le place
  by_cases known : .registered place ∈ log
  · have counted := List.count_pos_iff.mpr known
    cases resident : server.resident? place <;> simp [resident, known] at removed ⊢ <;> omega
  · rw [List.count_eq_zero.mpr known] at removed
    simp only [known, false_and, if_false]
    omega

/-- What was registered or rejected has been accepted. -/
theorem place_lt (record : server.Record log)
    (known : .registered place ∈ log ∨ .rejected place ∈ log) : place < server.handlers.length := by
  have accepted := record.accepted place
  rcases known with known | known <;> have counted := List.count_pos_iff.mpr known <;> split at accepted <;> omega

end Record

end Server

end Courier
