import Courier.Proofs.Server.Registration

/-!
# Schedules of a server

Every step of a schedule is listed here once, with what makes it possible. On the
side of the sessions it is one of the changes of a registry; on the side of the
threads, every resident has somebody who will remove it: a thread that the server
has still to wait for, or the accepting thread itself. So when the owner is idle
again, nobody is left who could have a resident.
-/

namespace Courier

/-- The threads that the owner waits for before it is idle, if these are the ones that are left to wait for. -/
def Owner.awaits (threads : List Nat) : Owner → List Nat
  | idle => []
  | joining rest => rest
  | listening | stopping | closing _ => threads

theorem Owner.awaits_of_isAttended {owner : Owner} (attended : owner.isAttended = true) (threads : List Nat) :
    owner.awaits threads = threads := by
  cases owner <;> first | rfl | cases attended

namespace Hosting

variable {suite : Suite} {hosting next final : Hosting} {action : Action} {schedule : List Action}
  {log : List Event} {place : Nat}

/-! ## Steps -/

/-- What each action does, and when it is possible. -/
inductive Move (suite : Suite) (hosting : Hosting) : Action → Hosting → Prop where
  | starts {port : UInt16} (idle : hosting.owner = .idle) :
      Move suite hosting (.start port)
        { hosting with
          server := hosting.server.start port
          owner := .listening
          unstarted := none
          broken := false }
  | stops (listening : hosting.owner = .listening) :
      Move suite hosting .stop
        { hosting with server := { hosting.server with running := false }, owner := .stopping }
  | surveys (stopping : hosting.owner = .stopping) (ended : hosting.isEnding = false) :
      Move suite hosting .survey
        { hosting with owner := .closing (hosting.server.registry.entries.map Prod.snd) }
  | closes {place : Nat} {rest : List Nat} (closing : hosting.owner = .closing (place :: rest)) :
      Move suite hosting .close
        { hosting with server := hosting.server.closeAt suite place, owner := .closing rest }
  | gathers (closed : hosting.owner = .closing []) :
      Move suite hosting .gather { hosting with owner := .joining hosting.threads, threads := [] }
  | joins {place : Nat} {rest : List Nat} (joining : hosting.owner = .joining (place :: rest))
      (exited : place ∉ hosting.running) : Move suite hosting .join { hosting with owner := .joining rest }
  | concludes (joined : hosting.owner = .joining []) :
      Move suite hosting .conclude { hosting with owner := .idle, reports := [] }
  | accepts {entropy : Entropy} {stream : Stream} {spawned : Bool} (free : hosting.canAccept = true) :
      Move suite hosting (.accept entropy stream spawned) (hosting.accept suite entropy stream spawned)
  | reaps (free : hosting.canAccept = true) :
      Move suite hosting .reap
        { hosting with threads := hosting.threads.filter (· ∉ hosting.reports), reports := [] }
  | advances {place : Nat} (able : hosting.server.canAdvance place = true) :
      Move suite hosting (.advance place) { hosting with server := hosting.server.advance suite place }
  | reports {place : Nat} (running : place ∈ hosting.running) (retired : hosting.hasRetired place = true) :
      Move suite hosting (.report place)
        { hosting with running := hosting.running.erase place, reports := hosting.reports ++ [place] }
  | visits {place : Nat} {visit : Stream.Visit} :
      Move suite hosting (.visit place visit)
        { hosting with server := hosting.server.mapStream place (·.visited visit) }

/-- While nothing has left a handler, what is possible is what the actions allow. -/
theorem step?_eq_act? (lasting : hosting.isDown = false) (suite : Suite) (action : Action) :
    hosting.step? suite action = hosting.act? suite action := by
  rw [step?, lasting]
  rfl

theorem move (stepped : hosting.step? suite action = some next) : Move suite hosting action next := by
  obtain ⟨_, stepped⟩ := Option.ite_none_left_eq_some.mp stepped
  unfold act? at stepped
  cases action with
  | start port =>
      obtain ⟨idle, same⟩ := Option.ite_none_right_eq_some.mp stepped
      cases same
      exact .starts idle
  | stop =>
      obtain ⟨listening, same⟩ := Option.ite_none_right_eq_some.mp stepped
      cases same
      exact .stops listening
  | survey =>
      obtain ⟨⟨stopping, ended⟩, same⟩ := Option.ite_none_right_eq_some.mp stepped
      cases same
      exact .surveys stopping ended
  | close =>
      simp only at stepped
      split at stepped <;> cases stepped
      exact .closes ‹_›
  | gather =>
      simp only at stepped
      split at stepped <;> cases stepped
      exact .gathers ‹_›
  | join =>
      simp only at stepped
      split at stepped
      · obtain ⟨exited, same⟩ := Option.ite_none_left_eq_some.mp stepped
        cases same
        exact .joins ‹_› exited
      · cases stepped
  | conclude =>
      simp only at stepped
      split at stepped <;> cases stepped
      exact .concludes ‹_›
  | accept entropy stream spawned =>
      obtain ⟨free, same⟩ := Option.ite_none_right_eq_some.mp stepped
      cases same
      exact .accepts free
  | reap =>
      obtain ⟨free, same⟩ := Option.ite_none_right_eq_some.mp stepped
      cases same
      exact .reaps free
  | advance place =>
      obtain ⟨able, same⟩ := Option.ite_none_right_eq_some.mp stepped
      cases same
      exact .advances able
  | report place =>
      obtain ⟨⟨running, retired⟩, same⟩ := Option.ite_none_right_eq_some.mp stepped
      cases same
      exact .reports running retired
  | visit place visit =>
      cases stepped
      exact .visits

/-! ## Sessions -/

/-- Whether the stream of a connection can be closed; nothing else that is done brings a stream. -/
def Action.IsClosable : Action → Prop
  | .accept _ stream _ => stream.failingCloses = 0
  | _ => True

/-- Taking a connection whose stream can be closed throws nothing. -/
theorem accept_of_has {entropy : Entropy} {stream : Stream} {spawned : Bool}
    (taken : hosting.server.registry.has stream.address = true) (closable : stream.failingCloses = 0) :
    hosting.accept suite entropy stream spawned =
      { hosting with server := hosting.server.accept suite entropy stream spawned } := by
  have closes : ((Session.open? stream.address entropy (some stream)).close suite).1 = .ok () :=
    Session.close_eq_ok suite (Server.isClosable_session entropy closable)
  simp only [accept, taken, if_true, closes]

/-- A connection from the address of a resident adds a closed session, and nothing else changes. -/
theorem exists_accept_of_has {entropy : Entropy} {stream : Stream} {spawned : Bool}
    (taken : hosting.server.registry.has stream.address = true) (closable : stream.failingCloses = 0) :
    ∃ session : Session, session.IsClosed ∧ hosting.accept suite entropy stream spawned =
      { hosting with server := { hosting.server with
        handlers := hosting.server.handlers ++ [⟨session, .retired⟩] } } := by
  refine ⟨_, Session.isClosed_close suite (Server.isClosable_session entropy closable), ?_⟩
  rw [accept_of_has taken closable, Server.accept_of_has taken]

/-- Only the handler's own step removes a session. -/
theorem eq_advance_of_event? (removed : hosting.event? action = some (.removed place)) :
    action = .advance place := by
  cases action with
  | advance leaver =>
      simp only [event?] at removed
      split at removed <;> cases removed
      rfl
  | accept entropy stream spawned =>
      simp only [event?] at removed
      split at removed <;> cases removed
  | _ => cases removed

theorem server_accept (suite : Suite) (hosting : Hosting) (entropy : Entropy) (stream : Stream) (spawned : Bool) :
    (hosting.accept suite entropy stream spawned).server = hosting.server.accept suite entropy stream spawned := by
  unfold accept
  simp only
  split <;> split <;> rfl

/-- On the side of the sessions, a step is one of the changes of a registry, and it keeps them sound. -/
theorem change (sound : hosting.server.IsSound) (closable : action.IsClosable)
    (stepped : hosting.step? suite action = some next) :
    hosting.server.Change next.server (hosting.event? action) ∧ next.server.IsSound := by
  have idles {server : Server} (registry : server.registry = hosting.server.registry)
      (handlers : server.handlers = hosting.server.handlers) :
      hosting.server.Change server none ∧ server.IsSound := by
    refine ⟨.keeps registry (fun other => ?_) (congrArg List.length handlers), ?_⟩
    · rw [Server.resident?, Server.resident?, handlers]
    · rwa [Server.IsSound, handlers]
  cases move stepped with
  | starts | stops | surveys | gathers | joins | concludes | reaps | reports => exact idles rfl rfl
  | closes closing => exact ⟨Server.change_closeAt suite _ _, sound.closeAt suite _⟩
  | accepts free =>
      rw [server_accept]
      exact ⟨Server.change_accept suite _ _ _ _, sound.accept suite closable _⟩
  | @advances place able =>
      refine ⟨?_, sound.advance suite place⟩
      cases found : hosting.server.handlers[place]? with
      | none => simp [Server.canAdvance, found] at able
      | some handler =>
          have changed := Server.change_advance suite sound found
          simpa only [event?, found, Option.map_some, Option.getD_some] using changed
  | visits => exact ⟨Server.change_mapStream _ _ _, sound.visited _ _⟩

/-! ## Threads -/

theorem hasRetired_iff (hosting : Hosting) (place : Nat) :
    hosting.hasRetired place = true ↔ hosting.server.resident? place = none := by
  unfold hasRetired Server.resident?
  cases hosting.server.handlers[place]? with
  | none => simp
  | some handler => simp [Handler.resident?]

/-- Where all streams can be closed, nothing leaves a handler. -/
theorem hasFallen_eq_false (sound : hosting.server.IsSound) (place : Nat) : hosting.hasFallen place = false := by
  unfold hasFallen
  cases found : hosting.server.handlers[place]? with
  | none => rfl
  | some handler => exact (sound handler (List.mem_of_getElem? found)).lasts

theorem isDown_eq_false (sound : hosting.server.IsSound) : hosting.isDown = false := by
  simp [isDown, hasFallen_eq_false sound]

theorem isEnding_eq_false_iff (sound : hosting.server.IsSound) :
    hosting.isEnding = false ↔
      ∀ place, hosting.unstarted = some place → hosting.server.resident? place = none := by
  unfold isEnding
  cases hosting.unstarted with
  | none => simp
  | some place => simp [hasFallen_eq_false sound, ← hasRetired_iff]

theorem canAccept_iff (sound : hosting.server.IsSound) :
    hosting.canAccept = true ↔
      hosting.owner.isAttended = true ∧ hosting.isEnding = false ∧ hosting.broken = false := by
  have standing : hosting.isBroken = hosting.broken := by
    cases unstarted : hosting.unstarted <;> simp [isBroken, unstarted, hasFallen_eq_false sound]
  simp [canAccept, standing, and_assoc]

/-- How the threads stand to the residents: only sessions that were registered have one, and whoever is
resident has one that runs, or is left to the accepting thread. -/
structure Staff (log : List Event) (hosting : Hosting) : Prop where
  known : ∀ place, place ∈ hosting.running ∨ place ∈ hosting.threads ∨ place ∈ hosting.reports →
    .registered place ∈ log
  once : hosting.running.Nodup
  exited : ∀ place ∈ hosting.reports, place ∉ hosting.running
  awaited : ∀ place ∈ hosting.running, place ∈ hosting.owner.awaits hosting.threads
  staffed : ∀ place, hosting.server.resident? place ≠ none →
    place ∈ hosting.running ∨ hosting.unstarted = some place
  ended : hosting.owner.isAttended = false → ∀ place, hosting.unstarted = some place →
    hosting.server.resident? place = none

/-- Only accepting registers. -/
theorem event?_ne (other : ∀ entropy stream spawned, action ≠ .accept entropy stream spawned) (hosting : Hosting)
    (place : Nat) : hosting.event? action ≠ some (.registered place) := by
  cases action with
  | accept entropy stream spawned => exact absurd rfl (other entropy stream spawned)
  | advance place =>
      simp only [event?]
      split <;> simp
  | _ => exact nofun

namespace Staff

/-- Sessions may leave the registry, and events may be added. -/
theorem fewer (staff : hosting.Staff log) {server : Server} {later : List Event} (grown : log ⊆ later)
    (left : ∀ place, server.resident? place ≠ none → hosting.server.resident? place ≠ none) :
    Staff later { hosting with server } where
  known place someone := grown (staff.known place someone)
  once := staff.once
  exited := staff.exited
  awaited := staff.awaited
  staffed place resident := staff.staffed place (left place resident)
  ended unattended place unstarted := by
    by_contra resident
    exact left place resident (staff.ended unattended place unstarted)

/-- Who still runs is among those whom the owner waits for. -/
theorem awaited_of (staff : hosting.Staff log) {threads : List Nat}
    (same : hosting.owner.awaits hosting.threads = threads) : ∀ place ∈ hosting.running, place ∈ threads :=
  same ▸ staff.awaited

section Accepting

variable {server : Server} (staff : hosting.Staff log) (attended : hosting.owner.isAttended = true)
  (more : ∀ place, server.resident? place ≠ none →
    place = hosting.server.handlers.length ∨ hosting.server.resident? place ≠ none)

include staff attended more

/-- A thread is started for the handler of a new session. -/
theorem spawn (fresh : ∀ place, .registered place ∈ log → place ≠ hosting.server.handlers.length) :
    Staff (log ++ [.registered hosting.server.handlers.length])
      { hosting with
        server
        running := hosting.server.handlers.length :: hosting.running
        threads := hosting.server.handlers.length :: hosting.threads } where
  known := by
    intro place someone
    simp only [List.mem_cons] at someone
    rw [List.mem_append, List.mem_singleton, Event.registered.injEq]
    have before := staff.known place
    tauto
  once := List.nodup_cons.mpr ⟨fun running => fresh _ (staff.known _ (.inl running)) rfl, staff.once⟩
  exited := by
    intro place reported running
    rcases List.mem_cons.mp running with rfl | running
    · exact fresh _ (staff.known _ (.inr (.inr reported))) rfl
    · exact staff.exited place reported running
  awaited := by
    have awaited := staff.awaited_of (Owner.awaits_of_isAttended attended _)
    intro place running
    rw [Owner.awaits_of_isAttended attended]
    rcases List.mem_cons.mp running with rfl | running
    · exact List.mem_cons_self
    · exact List.mem_cons_of_mem _ (awaited place running)
  staffed := by
    intro place resident
    rcases more place resident with rfl | resident
    · exact .inl List.mem_cons_self
    · exact (staff.staffed place resident).imp_left (List.mem_cons_of_mem _)
  ended unattended := by
    rw [attended] at unattended
    cases unattended

/-- There is no thread for the handler of a new session, and none was left to the accepting thread before. -/
theorem burden
    (noneLeft : ∀ place, hosting.unstarted = some place → hosting.server.resident? place = none) :
    Staff (log ++ [.registered hosting.server.handlers.length])
      { hosting with server, unstarted := some hosting.server.handlers.length } where
  known place someone := List.mem_append_left _ (staff.known place someone)
  once := staff.once
  exited := staff.exited
  awaited := staff.awaited
  staffed := by
    intro place resident
    rcases more place resident with rfl | resident
    · exact .inr rfl
    · rcases staff.staffed place resident with running | unstarted
      · exact .inl running
      · exact absurd (noneLeft place unstarted) resident
  ended unattended := by
    rw [attended] at unattended
    cases unattended

end Accepting

/-- A connection is taken: the session is rejected, or gets a thread, or is left to the accepting thread. -/
theorem accept (staff : hosting.Staff log) (record : hosting.server.Record log) (suite : Suite)
    (free : hosting.canAccept = true) (entropy : Entropy) {stream : Stream} (closable : stream.failingCloses = 0)
    (spawned : Bool) :
    (hosting.accept suite entropy stream spawned).Staff
      (log ++ (hosting.event? (.accept entropy stream spawned)).toList) := by
  obtain ⟨attended, noneLeft, _⟩ := (canAccept_iff record.sound).mp free
  rw [isEnding_eq_false_iff record.sound] at noneLeft
  have changed := Server.change_accept suite hosting.server entropy stream spawned
  have fresh (place : Nat) (known : .registered place ∈ log) : place ≠ hosting.server.handlers.length :=
    Nat.ne_of_lt (record.place_lt (.inl known))
  cases taken : hosting.server.registry.has stream.address with
  | true =>
      rw [accept_of_has taken closable]
      rw [taken] at changed
      generalize hosting.server.accept suite entropy stream spawned = server at changed ⊢
      cases changed with
      | rejects registry residents count =>
          refine staff.fewer (List.subset_append_left _ _) fun place resident => ?_
          rwa [residents] at resident
  | false =>
      rw [taken] at changed
      simp only [event?, Hosting.accept, taken]
      generalize hosting.server.accept suite entropy stream spawned = server at changed ⊢
      cases changed with
      | registers address available registry residents count =>
          have more (place : Nat) (resident : server.resident? place ≠ none) :
              place = hosting.server.handlers.length ∨ hosting.server.resident? place ≠ none := by
            rw [residents] at resident
            split at resident
            · exact .inl ‹_›
            · exact .inr resident
          cases spawned with
          | true => exact staff.spawn attended more fresh
          | false => exact staff.burden attended more noneLeft

/-- Every step keeps the staff in order. -/
theorem step (staff : hosting.Staff log) (record : hosting.server.Record log) (closable : action.IsClosable)
    (stepped : hosting.step? suite action = some next) :
    next.Staff (log ++ (hosting.event? action).toList) := by
  obtain ⟨changed, _⟩ := change record.sound closable stepped
  have fewer (other : ∀ entropy stream spawned, action ≠ .accept entropy stream spawned) :
      Staff (log ++ (hosting.event? action).toList) { hosting with server := next.server } :=
    staff.fewer (List.subset_append_left _ _) fun place => changed.resident_of_ne (event?_ne other hosting)
  cases move stepped with
  | accepts free => exact staff.accept record suite free _ closable _
  | advances | visits => exact fewer nofun
  | starts idle =>
      have nobody : ∀ place ∈ hosting.running, place ∈ [] := staff.awaited_of (by rw [idle]; rfl)
      have still := fewer nofun
      -- what was left to the accepting thread of the last start has been ended by it
      have ended := still.ended (by rw [idle]; rfl)
      exact { still with
        awaited := fun place running => absurd (nobody place running) List.not_mem_nil
        staffed := fun place resident =>
          (still.staffed place resident).imp_right fun unstarted => absurd (ended place unstarted) resident
        ended := nofun }
  | stops listening =>
      exact { fewer nofun with
        awaited := staff.awaited_of (by rw [listening]; rfl)
        ended := nofun }
  | surveys stopping ended =>
      exact { fewer nofun with
        awaited := staff.awaited_of (by rw [stopping]; rfl)
        ended := fun _ => (isEnding_eq_false_iff record.sound).mp ended }
  | closes closing =>
      have still := fewer nofun
      exact { still with
        awaited := staff.awaited_of (by rw [closing]; rfl)
        ended := fun _ => still.ended (by rw [closing]; rfl) }
  | gathers closed =>
      have still := fewer nofun
      refine { still with
        known := fun place someone => still.known place ?_
        awaited := staff.awaited_of (by rw [closed]; rfl)
        ended := fun _ => still.ended (by rw [closed]; rfl) }
      exact someone.imp_right fun later => .inr (later.resolve_left List.not_mem_nil)
  | @joins waited rest joining exited =>
      have still := fewer nofun
      have awaited : ∀ place ∈ hosting.running, place ∈ waited :: rest :=
        staff.awaited_of (by rw [joining]; rfl)
      refine { still with
        awaited := fun place running => (List.mem_cons.mp (awaited place running)).resolve_left ?_
        ended := fun _ => still.ended (by rw [joining]; rfl) }
      rintro rfl
      exact exited running
  | concludes joined =>
      have still := fewer nofun
      refine { still with
        known := fun place someone => still.known place ?_
        exited := List.forall_mem_nil _
        awaited := staff.awaited_of (by rw [joined]; rfl)
        ended := fun _ => still.ended (by rw [joined]; rfl) }
      exact someone.imp_right fun later => .inl (later.resolve_right List.not_mem_nil)
  | reaps free =>
      obtain ⟨attended, _⟩ := (canAccept_iff record.sound).mp free
      have still := fewer nofun
      have awaited := staff.awaited_of (Owner.awaits_of_isAttended attended _)
      refine { still with
        known := fun place someone => still.known place ?_
        exited := List.forall_mem_nil _
        awaited := fun place running => ?_ }
      · refine someone.imp_right fun later => .inl ?_
        exact (List.mem_filter.mp (later.resolve_right List.not_mem_nil)).1
      · have unreported : place ∉ hosting.reports := fun reported => staff.exited place reported running
        rw [Owner.awaits_of_isAttended attended]
        exact List.mem_filter.mpr ⟨awaited place running, decide_eq_true unreported⟩
  | @reports leaver running retired =>
      have still := fewer nofun
      have stays {place : Nat} (running : place ∈ hosting.running.erase leaver) : place ∈ hosting.running :=
        List.mem_of_mem_erase running
      refine { still with
        known := fun place someone => ?_
        once := staff.once.erase leaver
        exited := fun place reported running => ?_
        awaited := fun place running => staff.awaited place (stays running)
        staffed := fun place resident => ?_ }
      · rcases someone with running | left | reported
        · exact still.known place (.inl (stays running))
        · exact still.known place (.inr (.inl left))
        · rcases List.mem_append.mp reported with reported | last
          · exact still.known place (.inr (.inr reported))
          · rw [List.mem_singleton.mp last]
            exact still.known leaver (.inl ‹leaver ∈ hosting.running›)
      · rcases List.mem_append.mp reported with reported | last
        · exact staff.exited place reported (stays running)
        · rw [List.mem_singleton.mp last] at running
          exact staff.once.not_mem_erase running
      · -- a thread exits after its session was removed, so no resident loses one
        have other : place ≠ leaver := by
          rintro rfl
          exact resident ((hosting.hasRetired_iff place).mp retired)
        exact (staff.staffed place resident).imp_left (List.mem_erase_of_ne other).mpr

end Staff

/-! ## Whole schedules -/

/-- No connection whose stream can be closed ends the accepting thread. -/
theorem broken_step (whole : hosting.broken = false) (closable : action.IsClosable)
    (stepped : hosting.step? suite action = some next) : next.broken = false := by
  cases move stepped with
  | starts => rfl
  | @accepts entropy stream spawned free =>
      cases taken : hosting.server.registry.has stream.address with
      | true =>
          rw [accept_of_has taken closable]
          exact whole
      | false =>
          rw [accept, taken]
          cases spawned <;> exact whole
  | stops | surveys | closes | gathers | joins | concludes | reaps | advances | reports | visits => exact whole

/-- What is known of a server at work by its events. -/
structure Account (log : List Event) (hosting : Hosting) : Prop where
  record : hosting.server.Record log
  staff : hosting.Staff log
  whole : hosting.broken = false

namespace Account

theorem new (address : String) (port : UInt16) (policy : Policy) : Account [] (.new address port policy) where
  record := .new rfl rfl
  staff :=
    { known := nofun
      once := .nil
      exited := List.forall_mem_nil _
      awaited := List.forall_mem_nil _
      staffed := fun _ resident => absurd rfl resident
      ended := nofun }
  whole := rfl

theorem step (account : hosting.Account log) (closable : action.IsClosable)
    (stepped : hosting.step? suite action = some next) :
    next.Account (log ++ (hosting.event? action).toList) := by
  obtain ⟨changed, sound⟩ := change account.record.sound closable stepped
  exact ⟨account.record.change sound changed, account.staff.step account.record closable stepped,
    broken_step account.whole closable stepped⟩

theorem run? (account : hosting.Account log) (closable : ∀ action ∈ schedule, action.IsClosable)
    (ran : hosting.run? suite schedule = some final) : final.Account (log ++ hosting.log suite schedule) := by
  induction schedule generalizing hosting log with
  | nil =>
      cases ran
      simpa [Hosting.log] using account
  | cons action rest ih =>
      obtain ⟨next, stepped, ran⟩ := Option.bind_eq_some_iff.mp ran
      have later := ih (account.step (closable action List.mem_cons_self) stepped)
        (fun action later => closable action (List.mem_cons_of_mem _ later)) ran
      rw [Hosting.log, stepped, ← List.append_assoc]
      exact later

/-- Once the owner is idle, nobody is resident and no thread runs. -/
theorem of_idle (account : hosting.Account log) (idle : hosting.owner = .idle) :
    hosting.running = [] ∧ ∀ place, hosting.server.resident? place = none := by
  obtain ⟨record, staff, _⟩ := account
  have exited : hosting.running = [] :=
    List.eq_nil_of_subset_nil (staff.awaited_of (by rw [idle]; rfl))
  refine ⟨exited, fun place => ?_⟩
  by_contra resident
  -- a resident has a thread that the owner waited for, or the accepting thread ended it before it exited
  rcases staff.staffed place resident with running | unstarted
  · rw [exited] at running
    cases running
  · exact resident (staff.ended (by rw [idle]; rfl) place unstarted)

/-- A rejected session never gets a thread and is closed from the start. -/
theorem of_rejected (account : hosting.Account log) (rejected : .rejected place ∈ log) :
    .registered place ∉ log ∧ place ∉ hosting.running ∧ place ∉ hosting.threads ∧
      ∃ handler, hosting.server.handlers[place]? = some handler ∧ handler.isRetired = true ∧
        handler.session.IsClosed := by
  obtain ⟨record, staff, _⟩ := account
  have within := record.place_lt (.inr rejected)
  have accepted := record.accepted place
  have removed := record.removed place
  have counted := List.count_pos_iff.mpr rejected
  rw [if_pos within] at accepted
  have never : log.count (.registered place) = 0 := by omega
  have unregistered : .registered place ∉ log := List.count_eq_zero.mp never
  refine ⟨unregistered, fun running => unregistered (staff.known place (.inl running)),
    fun left => unregistered (staff.known place (.inr (.inl left))), _, List.getElem?_eq_getElem within, ?_⟩
  refine record.sound.isClosed_of_resident?_eq_none (List.getElem?_eq_getElem within) ?_
  cases resident : hosting.server.resident? place with
  | none => rfl
  | some address =>
      rw [resident, never] at removed
      simp at removed

end Account

/-- Whatever connections come from whatever addresses, in whatever order the owner, the accepting thread, the
handlers and the peers step, and however often the server is shut down and started again: the registry lists
exactly the sessions that their handlers have not removed, each under its own address, and no two of them
have one address; a session that was registered has been removed once or is still listed, and a rejected one
was neither registered nor given a thread, and is closed; a step adds the entry that it registers, takes out
the one that the handler's own step removes, and leaves all others; a connection can be taken whenever the
accepting thread is free, and where its address has a resident, a closed session is added and nothing else
changes, whereas otherwise it is registered; and whenever the owner is idle, the registry is empty, no thread
of a handler runs, and every session that was ever accepted is closed with its stream. -/
theorem keeps_registry (suite : Suite) (address : String) (port : UInt16) (policy : Policy)
    {schedule : List Action} {now : Hosting} {log : List Event}
    (closable : ∀ action ∈ schedule, action.IsClosable)
    (ran : (new address port policy).run? suite schedule = some now)
    (logged : (new address port policy).log suite schedule = log) :
    now.server.registry.addresses.Nodup ∧
    (∀ address place, (address, place) ∈ now.server.registry.entries ↔
      now.server.resident? place = some address) ∧
    (∀ address first second, now.server.resident? first = some address →
      now.server.resident? second = some address → first = second) ∧
    (∀ place, log.count (.registered place) ≤ 1 ∧
      log.count (.removed place) =
        if .registered place ∈ log ∧ now.server.resident? place = none then 1 else 0) ∧
    (∀ place, .rejected place ∈ log →
      .registered place ∉ log ∧ place ∉ now.running ∧ place ∉ now.threads ∧
        ∃ handler, now.server.handlers[place]? = some handler ∧ handler.isRetired = true ∧
          handler.session.IsClosed) ∧
    (∀ action next, action.IsClosable → now.step? suite action = some next →
      (∀ place, now.event? action = some (.removed place) → action = .advance place) ∧
      ∀ entry, entry ∈ next.server.registry.entries ↔
        entry ∈ now.server.registry.entries ∧ now.event? action ≠ some (.removed entry.2) ∨
        now.event? action = some (.registered entry.2) ∧ next.server.resident? entry.2 = some entry.1) ∧
    (∀ entropy stream spawned, stream.failingCloses = 0 → now.owner.isAttended = true → now.isEnding = false →
      ∃ next, now.step? suite (.accept entropy stream spawned) = some next ∧
        ((∃ place, now.server.resident? place = some stream.address) →
          ∃ session : Session, session.IsClosed ∧
            next = { now with server := { now.server with
              handlers := now.server.handlers ++ [⟨session, .retired⟩] } }) ∧
        ((∀ place, now.server.resident? place ≠ some stream.address) →
          now.event? (.accept entropy stream spawned) = some (.registered now.server.handlers.length) ∧
          next.server.resident? now.server.handlers.length = some stream.address)) ∧
    (now.owner = .idle →
      now.server.registry.entries = [] ∧ now.running = [] ∧
        ∀ handler ∈ now.server.handlers, handler.isRetired = true ∧ handler.session.IsClosed) := by
  have account : now.Account log := by
    have account := (Account.new address port policy).run? closable ran
    rwa [logged] at account
  have record := account.record
  have listed := record.listed
  refine ⟨listed.ordered.nodup_keys, listed.lists, fun _ _ _ => listed.place_eq, fun place => ?_,
    fun place => account.of_rejected, ?_, ?_, fun idle => ?_⟩
  · exact ⟨record.count_registered_le place, record.count_removed place⟩
  · intro action next harmless stepped
    obtain ⟨changed, _⟩ := change record.sound harmless stepped
    exact ⟨fun place => eq_advance_of_event?, listed.mem_entries_iff changed⟩
  · intro entropy stream spawned harmless attended ended
    have free := (canAccept_iff record.sound).mpr ⟨attended, ended, account.whole⟩
    have accepted : now.step? suite (.accept entropy stream spawned) =
        some (now.accept suite entropy stream spawned) :=
      (step?_eq_act? (isDown_eq_false record.sound) suite _).trans (if_pos free)
    refine ⟨now.accept suite entropy stream spawned, accepted, fun taken => ?_, fun available => ?_⟩
    · exact exists_accept_of_has ((listed.has_iff _).mpr taken) harmless
    · have untaken : now.server.registry.has stream.address = false := by
        rw [← Bool.not_eq_true, listed.has_iff]
        rintro ⟨place, resident⟩
        exact available place resident
      rw [server_accept]
      exact ⟨by simp only [event?, untaken]; rfl, Server.resident?_accept_of_not_has untaken⟩
  · obtain ⟨exited, nobody⟩ := account.of_idle idle
    obtain ⟨empty, closed⟩ := listed.ended_of_nobody record.sound nobody
    exact ⟨empty, exited, closed⟩

section Rounds

def guest : Stream := { address := "10.0.0.7:50001" }

/-- Two connections from one address, a shutdown, and a connection from the same address after the restart. -/
def rounds : List Action :=
  [.start 40001, .accept {} guest true, .accept {} guest true, .stop, .survey, .close,
    .advance 0, .advance 0, .advance 0, .advance 0, .advance 0, .report 0, .gather, .join, .conclude,
    .start 40001, .accept {} guest false]

theorem keeps_registry_rounds :
    ∃ now, (new "127.0.0.1" 0 .keepOpen).run? Suite.standard rounds = some now ∧
      (guest.address, 2) ∈ now.server.registry.entries ∧
      ((new "127.0.0.1" 0 .keepOpen).log Suite.standard rounds).count (.removed 0) = 1 ∧
      ∃ handler, now.server.handlers[1]? = some handler ∧ handler.session.IsClosed := by
  have closable : ∀ action ∈ rounds, action.IsClosable := by simp [rounds, Action.IsClosable, guest]
  obtain ⟨now, ran, gone, back⟩ : ∃ now, (new "127.0.0.1" 0 .keepOpen).run? Suite.standard rounds = some now ∧
      now.server.resident? 0 = none ∧ now.server.resident? 2 = some guest.address := ⟨_, rfl, rfl, rfl⟩
  have logged : (new "127.0.0.1" 0 .keepOpen).log Suite.standard rounds =
      [.registered 0, .rejected 1, .removed 0, .registered 2] := rfl
  obtain ⟨_, lists, _, counted, rejected, _⟩ :=
    keeps_registry Suite.standard "127.0.0.1" 0 .keepOpen closable ran logged
  obtain ⟨_, _, _, handler, found, _, closed⟩ := rejected 1 (by decide)
  refine ⟨now, ran, (lists _ _).mpr back, ?_, handler, found, closed⟩
  rw [logged, (counted 0).2, if_pos ⟨by decide, gone⟩]

end Rounds

end Hosting

end Courier
