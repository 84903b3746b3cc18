import Courier.Proofs.Machine
import Courier.Proofs.Server.Hosting

/-!
# Shutting down without a pause

`Server.shutdown` closes all registered sessions and then lets one handler after
the other go on. A handler whose session is closed never waits again, so each
comes to its end at once. What shutting down comes to is therefore what one of the
schedules comes to, and its owner can always get there.
-/

namespace Courier

/-! ## Handlers of closed sessions -/

theorem Work.ready_of_isHungUp (work : Work) (hungUp : work.session.isHungUp = true) : work.ready = true := by
  obtain ⟨stream, owned, closed⟩ := Session.isHungUp_iff.mp hungUp
  rw [ready, owned]
  split
  · rename_i found
    cases found
    simp [Stream.readable, closed]
  · rfl

namespace Handler

variable {suite : Suite} {policy : Policy} {handler : Handler}

/-- Where the stream is closed, a handler takes its next step, as long as it has one. -/
theorem ready_of_isHungUp (hungUp : handler.session.isHungUp = true) (going : handler.isRetired = false)
    (lasts : handler.isFallen = false) : handler.ready = true := by
  obtain ⟨session, phase⟩ := handler
  cases phase with
  | establishing activity => exact Work.ready_of_isHungUp ⟨activity, session⟩ hungUp
  | serving activity => exact Work.ready_of_isHungUp ⟨activity, session⟩ hungUp
  | closing | marking | removing => rfl
  | retired => cases going
  | fallen => cases lasts

theorem isHungUp_step (suite : Suite) (policy : Policy) (hungUp : handler.session.isHungUp = true) :
    (handler.step suite policy).session.isHungUp = true := by
  have passes := passage suite policy handler
  generalize handler.step suite policy = next at passes
  cases passes with
  | works place retained goesOn => exact retained.isHungUp hungUp
  | closes | falls => exact (Session.Retains.close suite _).isHungUp hungUp
  | marks | yields | removes | rests => exact hungUp

end Handler

namespace Server

variable {suite : Suite} {server : Server} {place : Nat}

/-! ## Closing all sessions -/

/-- A session that is replaced need not be closed before. -/
theorem zipWith_modify (suite : Suite) (handlers : List Handler) (place : Nat) (sessions : List Session) :
    List.zipWith (fun handler session => { handler with session })
        (handlers.modify place fun handler => { handler with session := (handler.session.close suite).2 }) sessions =
      List.zipWith (fun handler session => { handler with session }) handlers sessions := by
  refine List.ext_getElem? fun other => ?_
  rw [List.getElem?_zipWith, List.getElem?_zipWith, List.getElem?_modify]
  cases handlers[other]? with
  | none => rfl
  | some handler => by_cases here : place = other <;> cases sessions[other]? <;> simp [here]

/-- Closing the registered sessions is closing one after the other. -/
theorem closeAll_eq (suite : Suite) (server : Server) :
    server.closeAll suite = (server.registry.entries.map Prod.snd).foldl (closeAt suite) server := by
  rw [closeAll, Registry.closeAll, List.foldl_map]
  generalize server.registry.entries = entries
  induction entries generalizing server with
  | nil =>
      rw [List.foldl_nil, List.foldl_nil, List.zipWith_map_right, List.zipWith_self, List.map_id']
  | cons entry rest ih =>
      have closed : (server.closeAt suite entry.2).handlers.map Handler.session =
          (server.handlers.map Handler.session).modify entry.2 fun session => (session.close suite).2 := by
        refine List.ext_getElem? fun other => ?_
        simp only [closeAt, List.getElem?_map, List.getElem?_modify]
        cases server.handlers[other]? with
        | none => rfl
        | some handler => by_cases here : entry.2 = other <;> simp [here]
      rw [List.foldl_cons, List.foldl_cons, ← ih, closed, closeAt, zipWith_modify]

/-- Where every session is to be closed or its stream is closed already, closing closes all streams. -/
theorem isHungUp_closing (suite : Suite) (sound : server.IsSound) {places : List Nat}
    (left : ∀ place handler, server.handlers[place]? = some handler →
      place ∈ places ∨ handler.session.isHungUp = true) :
    ∀ handler ∈ (places.foldl (closeAt suite) server).handlers, handler.session.isHungUp = true := by
  induction places generalizing server with
  | nil =>
      intro handler present
      obtain ⟨place, found⟩ := List.mem_iff_getElem?.mp present
      rcases left place handler found with listed | hungUp
      · cases listed
      · exact hungUp
  | cons first rest ih =>
      refine ih (sound.closeAt suite first) fun place handler found => ?_
      rw [closeAt, List.getElem?_modify] at found
      obtain ⟨before, here, rfl⟩ := Option.map_eq_some_iff.mp found
      split
      · exact .inr (Session.isClosed_close suite (sound before (List.mem_of_getElem? here)).closable).2
      · rename_i other
        refine (left place before here).imp_left fun listed => ?_
        exact (List.mem_cons.mp listed).resolve_left (Ne.symm other)

/-- A server whose streams are all closed, while handlers may still go on. -/
structure IsClosing (server : Server) : Prop where
  sound : server.IsSound
  listed : server.IsListed
  hungUp : ∀ handler ∈ server.handlers, handler.session.isHungUp = true

/-- Closing all registered sessions closes all streams, since every other session is closed already. -/
theorem isClosing_closeAll (suite : Suite) (sound : server.IsSound) (listed : server.IsListed) :
    (server.closeAll suite).IsClosing := by
  have left (place : Nat) (handler : Handler) (found : server.handlers[place]? = some handler) :
      place ∈ server.registry.entries.map Prod.snd ∨ handler.session.isHungUp = true := by
    cases resident : server.resident? place with
    | none => exact .inr (sound.isClosed_of_resident?_eq_none found resident).2.2
    | some address => exact .inl (List.mem_map.mpr ⟨_, (listed.lists address place).mpr resident, rfl⟩)
  have hungUp := isHungUp_closing suite sound left
  have kept (places : List Nat) : (places.foldl (closeAt suite) server).IsSound ∧
      (places.foldl (closeAt suite) server).IsListed := by
    clear left hungUp
    induction places generalizing server with
    | nil => exact ⟨sound, listed⟩
    | cons first rest ih => exact ih (sound.closeAt suite first) (listed.change (change_closeAt suite server first))
  rw [closeAll_eq]
  exact ⟨(kept _).1, (kept _).2, hungUp⟩

/-! ## Settling -/

namespace IsClosing

theorem advance (closing : server.IsClosing) (suite : Suite) (place : Nat) :
    (server.advance suite place).IsClosing := by
  cases found : server.handlers[place]? with
  | none => rwa [Server.advance, found]
  | some handler =>
      refine ⟨closing.sound.advance suite place, closing.listed.change (change_advance suite closing.sound found),
        fun after present => ?_⟩
      rw [Server.advance, found] at present
      rcases List.mem_or_eq_of_mem_set present with before | rfl
      · exact closing.hungUp after before
      · exact handler.isHungUp_step suite server.policy (closing.hungUp handler (List.mem_of_getElem? found))

theorem resident?_advance (closing : server.IsClosing) (suite : Suite) (place : Nat) {other : Nat}
    (nobody : server.resident? other = none) : (server.advance suite place).resident? other = none := by
  cases found : server.handlers[place]? with
  | none => rwa [Server.advance, found]
  | some handler =>
      by_contra resident
      refine (change_advance suite closing.sound found).resident_of_ne (fun fresh => ?_) resident nobody
      split <;> simp

/-- Only a handler that has retired can take no step. -/
theorem resident?_of_canAdvance_eq_false (closing : server.IsClosing) (stuck : server.canAdvance place = false) :
    server.resident? place = none := by
  cases found : server.handlers[place]? with
  | none =>
      rw [resident?, found]
      rfl
  | some handler =>
      have unready : handler.ready = false := by simpa [canAdvance, found] using stuck
      have retired : handler.isRetired = true := by
        by_contra going
        have present := List.mem_of_getElem? found
        have ready := handler.ready_of_isHungUp (closing.hungUp handler present) (Bool.eq_false_iff.mpr going)
          (closing.sound handler present).lasts
        rw [unready] at ready
        cases ready
      simp [resident?, found, Handler.resident?, retired]

end IsClosing

theorem settle_of_canAdvance_eq_false (suite : Suite) (stuck : server.canAdvance place = false) :
    server.settle suite place = server := by
  have ended : (handling suite place).result? server = some () := by simp [handling, stuck]
  rw [settle, Machine.run_of_result ended]

theorem settle_of_canAdvance (suite : Suite) (able : server.canAdvance place = true) :
    server.settle suite place = (server.advance suite place).settle suite place := by
  have going : (handling suite place).result? server = none := by simp [handling, able]
  rw [settle, Machine.run_of_step going]
  rfl

/-- Settling follows the steps of the handler. -/
theorem settle_induction (suite : Suite) (place : Nat) {motive : Server → Prop}
    (stuck : ∀ server, server.canAdvance place = false → motive server)
    (step : ∀ server, server.canAdvance place = true → motive (server.advance suite place) → motive server)
    (server : Server) : motive server :=
  (handling suite place).run_induction
    (fun server result ended => stuck server (by
      simp only [handling] at ended
      split at ended
      · cases ended
      · exact Bool.eq_false_iff.mpr ‹_›))
    (fun server going => step server (by
      simp only [handling] at going
      split at going
      · assumption
      · cases going))
    server

/-- Where all streams are closed, a handler that settles comes to its end, and nobody becomes resident. -/
theorem IsClosing.settle (closing : server.IsClosing) (suite : Suite) (place : Nat) :
    (server.settle suite place).IsClosing ∧ (server.settle suite place).resident? place = none ∧
      ∀ other, server.resident? other = none → (server.settle suite place).resident? other = none := by
  induction server using settle_induction suite place with
  | stuck server stuck =>
      rw [settle_of_canAdvance_eq_false suite stuck]
      exact ⟨closing, closing.resident?_of_canAdvance_eq_false stuck, fun other nobody => nobody⟩
  | step server able ih =>
      obtain ⟨after, nobody, others⟩ := ih (closing.advance suite place)
      rw [settle_of_canAdvance suite able]
      exact ⟨after, nobody, fun other gone => others other (closing.resident?_advance suite place gone)⟩

/-- Once those who were resident have settled, nobody is. -/
theorem IsClosing.foldl_settle (closing : server.IsClosing) (suite : Suite) {places : List Nat}
    (others : ∀ place, place ∉ places → server.resident? place = none) :
    (places.foldl (Server.settle suite) server).IsClosing ∧
      ∀ place, (places.foldl (Server.settle suite) server).resident? place = none := by
  induction places generalizing server with
  | nil => exact ⟨closing, fun place => others place List.not_mem_nil⟩
  | cons first rest ih =>
      obtain ⟨after, nobody, gone⟩ := closing.settle suite first
      refine ih after fun other absent => ?_
      by_cases here : other = first
      · rw [here, nobody]
      · exact gone other (others other fun listed => (List.mem_cons.mp listed).elim here absent)

theorem IsClosing.settleAll (closing : server.IsClosing) (suite : Suite) :
    (server.settleAll suite).IsClosing ∧ ∀ place, (server.settleAll suite).resident? place = none :=
  closing.foldl_settle suite fun _ absent => resident?_of_le (by simpa using absent)

/-- Shutting down leaves nothing registered, no handler that goes on and no session that is not closed. -/
theorem ended_shutdown (suite : Suite) (sound : server.IsSound) (listed : server.IsListed)
    (running : server.running = true) :
    (server.shutdown suite).registry.entries = [] ∧
      ∀ handler ∈ (server.shutdown suite).handlers, handler.isRetired = true ∧ handler.session.IsClosed := by
  let stopped : Server := { server with running := false }
  have stillSound : stopped.IsSound := sound
  have stillListed : stopped.IsListed := ⟨listed.ordered, listed.lists⟩
  obtain ⟨closing, nobody⟩ := (isClosing_closeAll suite stillSound stillListed).settleAll suite
  rw [shutdown, if_pos running]
  exact closing.listed.ended_of_nobody closing.sound nobody

end Server

/-! ## Shutting down as a schedule -/

namespace Hosting

variable {suite : Suite} {hosting middle final : Hosting} {log : List Event}

theorem run?_append {first second : List Action} (begun : hosting.run? suite first = some middle)
    (ended : middle.run? suite second = some final) : hosting.run? suite (first ++ second) = some final := by
  rw [run?, List.foldlM_append]
  exact Option.bind_eq_some_iff.mpr ⟨middle, begun, ended⟩

theorem run?_cons {action : Action} {rest : List Action} (stepped : hosting.step? suite action = some middle)
    (ended : middle.run? suite rest = some final) : hosting.run? suite (action :: rest) = some final :=
  Option.bind_eq_some_iff.mpr ⟨middle, stepped, ended⟩

/-- The owner closes the sessions that are to be closed. -/
theorem run?_closes (sound : hosting.server.IsSound) {places : List Nat} (closing : hosting.owner = .closing places) :
    hosting.run? suite (places.map fun _ => .close) =
      some { hosting with server := places.foldl (Server.closeAt suite) hosting.server, owner := .closing [] } := by
  induction places generalizing hosting with
  | nil =>
      rw [List.map_nil, List.foldl_nil, ← closing]
      rfl
  | cons place rest ih =>
      have stepped : hosting.step? suite .close =
          some { hosting with server := hosting.server.closeAt suite place, owner := .closing rest } := by
        simp only [step?_eq_act? (isDown_eq_false sound), act?, closing]
      exact run?_cons stepped (ih (sound.closeAt suite place) rfl)

/-- The handler at a place goes on until it has to wait. -/
theorem exists_run?_settle (suite : Suite) (hosting : Hosting) {server : Server} (sound : server.IsSound)
    (place : Nat) :
    ∃ schedule, ({ hosting with server } : Hosting).run? suite schedule =
      some { hosting with server := server.settle suite place } := by
  induction server using Server.settle_induction suite place with
  | stuck server stuck =>
      rw [Server.settle_of_canAdvance_eq_false suite stuck]
      exact ⟨[], rfl⟩
  | step server able ih =>
      obtain ⟨schedule, ran⟩ := ih (sound.advance suite place)
      rw [Server.settle_of_canAdvance suite able]
      have stepped : ({ hosting with server } : Hosting).step? suite (.advance place) =
          some { hosting with server := server.advance suite place } := by
        rw [step?_eq_act? (isDown_eq_false sound)]
        exact if_pos able
      exact ⟨.advance place :: schedule, run?_cons stepped ran⟩

/-- Handlers go on one after the other. -/
theorem exists_run?_foldl_settle (suite : Suite) (hosting : Hosting) {server : Server} (closing : server.IsClosing)
    (places : List Nat) :
    ∃ schedule, ({ hosting with server } : Hosting).run? suite schedule =
      some { hosting with server := places.foldl (Server.settle suite) server } := by
  induction places generalizing server with
  | nil => exact ⟨[], rfl⟩
  | cons place rest ih =>
      obtain ⟨first, begun⟩ := exists_run?_settle suite hosting closing.sound place
      obtain ⟨second, ended⟩ := ih (closing.settle suite place).1
      exact ⟨first ++ second, run?_append begun ended⟩

/-- Once no session is resident, all threads can exit. -/
theorem run?_reports (sound : hosting.server.IsSound) (nobody : ∀ place, hosting.server.resident? place = none) :
    hosting.run? suite (hosting.running.map .report) =
      some { hosting with running := [], reports := hosting.reports ++ hosting.running } := by
  obtain ⟨server, owner, running, threads, reports, unstarted, broken⟩ := hosting
  induction running generalizing reports with
  | nil =>
      simp only [List.append_nil]
      rfl
  | cons place rest ih =>
      let before : Hosting := ⟨server, owner, place :: rest, threads, reports, unstarted, broken⟩
      have retired : before.hasRetired place = true := (hasRetired_iff _ place).mpr (nobody place)
      have stepped : before.step? suite (.report place) =
          some ⟨server, owner, rest, threads, reports ++ [place], unstarted, broken⟩ := by
        rw [step?_eq_act? (isDown_eq_false sound)]
        simp [act?, before, show before.hasRetired place = true from retired]
      refine run?_cons stepped ?_
      simpa only [List.append_assoc, List.singleton_append] using ih (reports ++ [place]) sound nobody

/-- Once no thread runs, the owner waits for none. -/
theorem run?_joins (sound : hosting.server.IsSound) {places : List Nat} (joining : hosting.owner = .joining places)
    (exited : hosting.running = []) :
    hosting.run? suite (places.map fun _ => .join) = some { hosting with owner := .joining [] } := by
  induction places generalizing hosting with
  | nil =>
      rw [List.map_nil, ← joining]
      rfl
  | cons place rest ih =>
      have stepped : hosting.step? suite .join = some { hosting with owner := .joining rest } := by
        rw [step?_eq_act? (isDown_eq_false sound)]
        simp [act?, joining, exited]
      exact run?_cons stepped (ih sound rfl exited)

/-- Once the sessions are closed and none of them is resident, nothing keeps the owner from becoming idle. -/
theorem exists_run?_conclude (suite : Suite) (sound : hosting.server.IsSound) (closed : hosting.owner = .closing [])
    (nobody : ∀ place, hosting.server.resident? place = none) :
    ∃ schedule final, hosting.run? suite schedule = some final ∧ final.owner = .idle ∧
      final.server = hosting.server := by
  let exited : Hosting := { hosting with running := [], reports := hosting.reports ++ hosting.running }
  let joining : Hosting := { exited with owner := .joining hosting.threads, threads := [] }
  let joined : Hosting := { joining with owner := .joining [] }
  have gathered : exited.step? suite .gather = some joining := by
    have lasting : exited.isDown = false := rfl
    simp only [step?_eq_act? lasting, act?]
    simp only [exited, joining, closed]
  have still : joining.server.IsSound := sound
  have joins : joining.run? suite (hosting.threads.map fun _ => .join) = some joined := run?_joins still rfl rfl
  have concluded : joined.run? suite [.conclude] = some { joined with owner := .idle, reports := [] } := rfl
  exact ⟨_, _, run?_append (run?_reports sound nobody) (run?_cons gathered (run?_append joins concluded)), rfl, rfl⟩

/-- Shutting down a server that runs, while the accepting thread is free, comes to what one of the schedules
of its owner comes to, who is idle at the end. -/
theorem exists_run?_shutdown (account : hosting.Account log) (listening : hosting.owner = .listening)
    (free : hosting.isEnding = false) (running : hosting.server.running = true) (suite : Suite) :
    ∃ schedule final, hosting.run? suite schedule = some final ∧ final.owner = .idle ∧
      final.server = hosting.server.shutdown suite := by
  let places := hosting.server.registry.entries.map Prod.snd
  let stopped : Server := { hosting.server with running := false }
  let stopping : Hosting := { hosting with server := stopped, owner := .stopping }
  let closing : Hosting := { stopping with owner := .closing places }
  have sound : stopping.server.IsSound := account.record.sound
  have listed : stopped.IsListed := ⟨account.record.listed.ordered, account.record.listed.lists⟩
  have halted : hosting.step? suite .stop = some stopping :=
    (step?_eq_act? (isDown_eq_false account.record.sound) suite .stop).trans (if_pos listening)
  have lasting : stopping.isDown = false := isDown_eq_false sound
  have surveyed : stopping.step? suite .survey = some closing :=
    (step?_eq_act? lasting suite .survey).trans (if_pos ⟨rfl, free⟩)
  have closes : closing.run? suite (places.map fun _ => .close) =
      some { stopping with server := stopped.closeAll suite, owner := .closing [] } := by
    have still : closing.server.IsSound := sound
    rw [run?_closes still (rfl : closing.owner = _), Server.closeAll_eq]
  have hungUp := Server.isClosing_closeAll suite sound listed
  obtain ⟨settling, settles⟩ := exists_run?_foldl_settle suite { stopping with owner := .closing [] } hungUp
    (List.range (stopped.closeAll suite).handlers.length)
  obtain ⟨ended, nobody⟩ := hungUp.settleAll suite
  let settled : Hosting :=
    { stopping with server := (stopped.closeAll suite).settleAll suite, owner := .closing [] }
  have settledSound : settled.server.IsSound := ended.sound
  obtain ⟨ending, final, concluded, idle, same⟩ := exists_run?_conclude suite settledSound rfl nobody
  refine ⟨_, final, run?_cons halted (run?_cons surveyed (run?_append closes (run?_append settles concluded))),
    idle, ?_⟩
  rw [same, Server.shutdown, if_pos running]

end Hosting

end Courier
