import Courier.Proofs.Server.Hosting

/-!
# Isolation of sessions

What one connection shows is its session with its handler and whether its address
is registered. While nobody shuts the server down, that is a function of the steps
that are taken on this connection alone: the accepting thread taking it, its handler
stepping and its peer visiting its stream. All other steps leave it as it is, so two
runs that agree on these steps agree on everything that the connection shows.
-/

namespace Courier

/-! ## Callers -/

namespace Handler

/-- Where the session's peer is. -/
def caller (handler : Handler) : String := handler.session.address

/-- The session's stream after its peer has visited it. -/
def visited (visit : Stream.Visit) (handler : Handler) : Handler :=
  { handler with
    session := { handler.session with transport := handler.session.transport.mapStream (·.visited visit) } }

/-- The session after somebody has closed it. -/
def shut (suite : Suite) (handler : Handler) : Handler :=
  { handler with session := (handler.session.close suite).2 }

theorem caller_shut (suite : Suite) (handler : Handler) : (handler.shut suite).caller = handler.caller :=
  (Session.Retains.close suite handler.session).address

theorem caller_visited (visit : Stream.Visit) (handler : Handler) : (handler.visited visit).caller = handler.caller :=
  rfl

theorem caller_step (suite : Suite) (policy : Policy) (handler : Handler) :
    (handler.step suite policy).caller = handler.caller := by
  have passes := passage suite policy handler
  generalize handler.step suite policy = next at passes
  cases passes with
  | works place retained goesOn => exact retained.address
  | closes place | falls place => exact (Session.Retains.close suite handler.session).address
  | marks | yields | removes | rests => rfl

end Handler

namespace Registry

variable {registry : Registry} {address other : String} {place : Nat}

theorem has_insert (free : registry.has other = false) :
    Registry.has ⟨registry.entries.insert other place⟩ address = (registry.has address || other == address) := by
  have absent := Keyed.contains_eq_false_iff.mp free
  rw [Bool.eq_iff_iff, Bool.or_eq_true, beq_iff_eq, has, has, Keyed.contains_iff, Keyed.contains_iff]
  simp only [Keyed.mem_insert_iff absent, Prod.mk.injEq, exists_or, exists_and_left, exists_eq, and_true]
  rw [or_comm, eq_comm]

theorem has_remove (registry : Registry) (address other : String) :
    (registry.remove other).2.has address = (registry.has address && !(other == address)) := by
  rw [Bool.eq_iff_iff, Bool.and_eq_true, Bool.not_eq_true', beq_eq_false_iff_ne, has, has, Keyed.contains_iff,
    Keyed.contains_iff]
  simp only [entries_remove, Keyed.mem_erase_iff, exists_and_right, ne_comm]

end Registry

namespace Server

variable {server : Server} {address : String} {place : Nat}

/-- The addresses of all sessions that were ever accepted. -/
def callers (server : Server) : List String := server.handlers.map Handler.caller

/-- The session from an address with its handler; the first, if there are several. -/
def handler? (server : Server) (address : String) : Option Handler :=
  server.handlers.find? fun handler => handler.caller == address

/-- Whether the session at a place is the one from an address. -/
def isFrom (server : Server) (address : String) (place : Nat) : Bool :=
  server.handlers[place]?.any fun handler => handler.caller == address

theorem handler?_eq_none_iff : server.handler? address = none ↔ address ∉ server.callers := by
  simp [handler?, callers]

theorem handler?_concat {fresh : Handler} {grown : Server} (added : grown.handlers = server.handlers ++ [fresh]) :
    grown.handler? address =
      (server.handler? address).or (if fresh.caller == address then some fresh else none) := by
  rw [handler?, added, List.find?_append, List.find?_singleton]
  rfl

section Asking

variable {Item : Type} {asked : Item → Bool} {item : Item} {rest : List Item}

theorem asked_eq_false (once : (item :: rest).countP asked ≤ 1) (first : asked item = true) :
    ∀ other ∈ rest, asked other = false := by
  simpa [List.countP_cons_of_pos first, List.countP_eq_zero] using once

theorem any_getElem?_eq_false (nobody : ∀ other ∈ rest, asked other = false) (place : Nat) :
    rest[place]?.any asked = false := by
  cases there : rest[place]? with
  | none => rfl
  | some other => exact nobody other (List.mem_of_getElem? there)

/-- Who is asked for at a place is who is found. -/
theorem find?_eq_getElem? (items : List Item) (once : items.countP asked ≤ 1) (place : Nat)
    (here : items[place]?.any asked = true) : items.find? asked = items[place]? := by
  induction items generalizing place with
  | nil => rfl
  | cons item rest ih =>
      cases place with
      | zero => exact List.find?_cons_of_pos here
      | succ place =>
          cases first : asked item with
          | true =>
              have elsewhere := any_getElem?_eq_false (asked_eq_false once first) place
              rw [List.getElem?_cons_succ, elsewhere] at here
              cases here
          | false =>
              rw [List.countP_cons_of_neg (by simp [first])] at once
              rw [List.find?_cons_of_neg (by simp [first]), ih once place here]
              rfl

/-- What happens to one item is seen by those who ask for it, and by nobody else. -/
theorem find?_modify {change : Item → Item} (same : ∀ item, asked (change item) = asked item)
    (items : List Item) (once : items.countP asked ≤ 1) (place : Nat) :
    (items.modify place change).find? asked =
      if items[place]?.any asked then (items.find? asked).map change else items.find? asked := by
  induction items generalizing place with
  | nil => simp
  | cons item rest ih =>
      cases first : asked item with
      | true =>
          cases place with
          | zero => simp [same, first]
          | succ place => simp [first, any_getElem?_eq_false (asked_eq_false once first) place]
      | false =>
          rw [List.countP_cons_of_neg (by simp [first])] at once
          cases place with
          | zero => simp [same, first]
          | succ place => simpa [first] using ih once place

end Asking

theorem handler?_eq_getElem? (once : server.callers.count address ≤ 1)
    (here : server.isFrom address place = true) : server.handler? address = server.handlers[place]? := by
  rw [callers, List.count, List.countP_map] at once
  exact find?_eq_getElem? _ once place here

theorem handler?_modify {change : Handler → Handler} (same : ∀ handler, (change handler).caller = handler.caller)
    (once : server.callers.count address ≤ 1) {after : Server}
    (modified : after.handlers = server.handlers.modify place change) :
    after.handler? address =
      if server.isFrom address place then (server.handler? address).map change else server.handler? address := by
  rw [handler?, modified]
  refine find?_modify (fun handler => by rw [same]) _ ?_ place
  rwa [callers, List.count, List.countP_map] at once

theorem callers_modify {change : Handler → Handler} (same : ∀ handler, (change handler).caller = handler.caller)
    {after : Server} (modified : after.handlers = server.handlers.modify place change) :
    after.callers = server.callers := by
  rw [callers, modified]
  refine List.ext_getElem? fun other => ?_
  rw [List.getElem?_map, List.getElem?_modify, callers, List.getElem?_map]
  cases server.handlers[other]? with
  | none => rfl
  | some handler =>
      split
      · exact congrArg some (same handler)
      · rfl

theorem callers_accept (suite : Suite) (server : Server) (entropy : Entropy) (stream : Stream) (spawned : Bool) :
    (server.accept suite entropy stream spawned).callers = server.callers ++ [stream.address] := by
  cases taken : server.registry.has stream.address with
  | true =>
      rw [accept_of_has taken, callers, List.map_append]
      exact congrArg (server.callers ++ [·]) (Session.Retains.close suite (session entropy stream)).address
  | false =>
      rw [accept_of_not_has taken, callers, List.map_append]
      cases spawned <;> rfl

theorem handlers_advance (suite : Suite) (server : Server) (place : Nat) :
    (server.advance suite place).handlers = server.handlers.modify place (Handler.step suite server.policy) := by
  rw [advance, List.modify_eq_set_getElem?]
  cases server.handlers[place]? <;> rfl

theorem handlers_closeAt (suite : Suite) (server : Server) (place : Nat) :
    (server.closeAt suite place).handlers = server.handlers.modify place (Handler.shut suite) := rfl

theorem handlers_mapStream (server : Server) (place : Nat) (visit : Stream.Visit) :
    (server.mapStream place (·.visited visit)).handlers = server.handlers.modify place (Handler.visited visit) :=
  rfl

/-- Only the removal of its own session takes an address off the registry. -/
theorem has_advance (suite : Suite) (server : Server) (place : Nat) (address : String) :
    (server.advance suite place).registry.has address =
      (server.registry.has address &&
        !(server.isFrom address place && server.handlers[place]?.any Handler.isRemoving)) := by
  unfold advance isFrom
  cases found : server.handlers[place]? with
  | none => simp
  | some handler =>
      cases removing : handler.isRemoving with
      | false => simp [removing]
      | true => simp [removing, Registry.has_remove, Handler.caller]

end Server

namespace Hosting

variable {suite : Suite} {address : String} {hosting next now : Hosting} {action : Action}
  {schedule : List Action}

/-! ## One connection -/

/-- What one connection shows. -/
structure View where
  handler : Option Handler
  listed : Bool

/-- A step on one connection. Where its session stands among the others is not part of it. -/
inductive OwnStep where
  | accept (entropy : Entropy) (stream : Stream) (spawned : Bool)
  | advance
  | visit (visit : Stream.Visit)
  deriving DecidableEq

namespace View

/-- Before the connection is taken. -/
def absent : View := ⟨none, false⟩

/-- What an own step makes of what the connection shows, whatever else there is at the server. -/
def step (suite : Suite) (policy : Policy) (view : View) : OwnStep → View
  | .accept entropy stream spawned =>
      let session := Session.open? stream.address entropy (some stream)
      ⟨some (if spawned then .start session else .unstarted session), true⟩
  | .advance =>
      ⟨view.handler.map (Handler.step suite policy), view.listed && !view.handler.any Handler.isRemoving⟩
  | .visit visit => ⟨view.handler.map (Handler.visited visit), view.listed⟩

/-- Only an address with a session is registered. -/
def IsKnown (view : View) : Prop := view.listed = true → view.handler ≠ none

theorem IsKnown.step {view : View} (known : view.IsKnown) (suite : Suite) (policy : Policy) (own : OwnStep) :
    (view.step suite policy own).IsKnown := by
  cases own with
  | accept entropy stream spawned => exact fun _ => Option.some_ne_none _
  | advance =>
      intro listed nobody
      exact known (Bool.and_eq_true_iff.mp listed).1 (Option.map_eq_none_iff.mp nobody)
  | visit visit => exact fun listed nobody => known listed (Option.map_eq_none_iff.mp nobody)

/-- The own steps, each with what the connection shows after it. -/
def history (suite : Suite) (policy : Policy) : View → List OwnStep → List (OwnStep × View)
  | _, [] => []
  | view, own :: rest =>
      let next := view.step suite policy own
      (own, next) :: history suite policy next rest

end View

/-- What the connection from an address shows. -/
def view (address : String) (hosting : Hosting) : View :=
  ⟨hosting.server.handler? address, hosting.server.registry.has address⟩

/-- Where a connection comes from. -/
def Action.caller? : Action → Option String
  | .accept _ stream _ => some stream.address
  | _ => none

/-- What an action is to the connection from an address, if it is taken on this connection. -/
def own? (address : String) (hosting : Hosting) : Action → Option OwnStep
  | .accept entropy stream spawned =>
      if stream.address == address then some (.accept entropy stream spawned) else none
  | .advance place => if hosting.server.isFrom address place then some .advance else none
  | .visit place visit => if hosting.server.isFrom address place then some (.visit visit) else none
  | _ => none

/-- The steps of a run that are taken on the connection from an address, each with what it shows then. -/
def chronicle (suite : Suite) (address : String) : Hosting → List Action → List (OwnStep × View)
  | _, [] => []
  | hosting, action :: rest =>
      match hosting.step? suite action with
      | none => []
      | some next =>
          (hosting.own? address action).toList.map (fun own => (own, next.view address)) ++
            chronicle suite address next rest

/-! ## Steps -/

/-- Nobody shuts the server down, and at most one connection ever comes from an address. -/
structure IsApart (address : String) (later : List Action) (hosting : Hosting) : Prop where
  unstopped : .stop ∉ later
  attended : hosting.owner = .idle ∨ hosting.owner = .listening
  single : (hosting.server.callers ++ later.filterMap Action.caller?).count address ≤ 1
  known : (hosting.view address).IsKnown

namespace IsApart

variable {rest : List Action} {entropy : Entropy} {stream : Stream} {spawned : Bool}

theorem once (apart : hosting.IsApart address schedule) : hosting.server.callers.count address ≤ 1 := by
  have single := apart.single
  rw [List.count_append] at single
  exact Nat.le_of_add_right_le single

/-- Before its connection is taken, an address has no session. -/
theorem handler?_eq_none (apart : hosting.IsApart address (action :: rest)) (comes : action.caller? = some address) :
    hosting.server.handler? address = none := by
  rw [Server.handler?_eq_none_iff]
  have single := apart.single
  rw [List.filterMap_cons_some comes, List.count_append, List.count_cons_self] at single
  exact List.count_eq_zero.mp (by omega)

theorem view_accept (apart : hosting.IsApart address (.accept entropy stream spawned :: rest)) :
    (hosting.accept suite entropy stream spawned).view address =
      if stream.address == address then
        (hosting.view address).step suite hosting.server.policy (.accept entropy stream spawned)
      else hosting.view address := by
  rw [view, server_accept]
  cases taken : hosting.server.registry.has stream.address with
  | true =>
      have other : stream.address ≠ address := by
        rintro rfl
        exact apart.known taken (apart.handler?_eq_none rfl)
      have address_eq : Handler.caller ⟨((Server.session entropy stream).close suite).2, .retired⟩ = stream.address :=
        (Session.Retains.close suite (Server.session entropy stream)).address
      rw [Server.accept_of_has taken, Server.handler?_concat rfl, address_eq, if_neg (by simpa using other),
        if_neg (by simpa using other), Option.or_none]
      rfl
  | false =>
      let fresh : Handler :=
        if spawned then .start (Server.session entropy stream) else .unstarted (Server.session entropy stream)
      have address_eq : fresh.caller = stream.address := by
        cases spawned <;> rfl
      have found : (hosting.server.accept suite entropy stream spawned).handler? address =
          (hosting.server.handler? address).or (if fresh.caller == address then some fresh else none) := by
        rw [Server.accept_of_not_has taken]
        exact Server.handler?_concat rfl
      rw [found, address_eq, Server.accept_of_not_has taken]
      simp only [Registry.has_insert taken]
      by_cases own : stream.address == address
      · have nobody := apart.handler?_eq_none (congrArg some (beq_iff_eq.mp own))
        rw [if_pos own, if_pos own, nobody, own, Bool.or_true]
        rfl
      · rw [if_neg own, if_neg own, Option.or_none, Bool.eq_false_iff.mpr own, Bool.or_false]
        rfl

theorem view_advance (apart : hosting.IsApart address schedule) (place : Nat) :
    view address { hosting with server := hosting.server.advance suite place } =
      if hosting.server.isFrom address place then
        (hosting.view address).step suite hosting.server.policy .advance
      else hosting.view address := by
  have handler := Server.handler?_modify (Handler.caller_step suite hosting.server.policy) apart.once
    (hosting.server.handlers_advance suite place)
  rw [view, handler, Server.has_advance]
  cases here : hosting.server.isFrom address place with
  | true =>
      have found := Server.handler?_eq_getElem? apart.once here
      simp [view, View.step, found]
  | false => simp [view]

theorem view_visit (suite : Suite) (apart : hosting.IsApart address schedule) (place : Nat)
    (visit : Stream.Visit) :
    view address { hosting with server := hosting.server.mapStream place (·.visited visit) } =
      if hosting.server.isFrom address place then
        (hosting.view address).step suite hosting.server.policy (.visit visit)
      else hosting.view address := by
  have handler := Server.handler?_modify (Handler.caller_visited visit) apart.once
    (hosting.server.handlers_mapStream place visit)
  rw [view, handler]
  split <;> rfl

/-- A step on the connection is what it would be at any server, and every other step leaves the connection. -/
theorem view_step (apart : hosting.IsApart address (action :: rest))
    (stepped : hosting.step? suite action = some next) :
    next.view address =
      ((hosting.own? address action).map ((hosting.view address).step suite hosting.server.policy)).getD
        (hosting.view address) := by
  have attended := apart.attended
  cases move stepped with
  | starts | reaps | reports => rfl
  | stops => exact absurd List.mem_cons_self apart.unstopped
  | surveys owner | closes owner | gathers owner | joins owner | concludes owner => simp [owner] at attended
  | accepts =>
      rw [apart.view_accept, own?]
      split <;> rfl
  | advances =>
      rw [apart.view_advance, own?]
      split <;> rfl
  | visits =>
      rw [apart.view_visit suite, own?]
      split <;> rfl

end IsApart

theorem owner_accept (suite : Suite) (hosting : Hosting) (entropy : Entropy) (stream : Stream) (spawned : Bool) :
    (hosting.accept suite entropy stream spawned).owner = hosting.owner := by
  unfold accept
  simp only
  split <;> split <;> rfl

theorem callers_step (stepped : hosting.step? suite action = some next) :
    next.server.callers = hosting.server.callers ++ action.caller?.toList := by
  cases move stepped with
  | starts | stops | surveys | gathers | joins | concludes | reaps | reports => exact (List.append_nil _).symm
  | @closes place =>
      have same := Handler.caller_shut suite
      exact (Server.callers_modify same (hosting.server.handlers_closeAt suite place)).trans (List.append_nil _).symm
  | accepts =>
      rw [server_accept]
      exact Server.callers_accept ..
  | @advances place =>
      have same := Handler.caller_step suite hosting.server.policy
      exact (Server.callers_modify same (hosting.server.handlers_advance suite place)).trans (List.append_nil _).symm
  | @visits place visit =>
      have same := Handler.caller_visited visit
      exact (Server.callers_modify same (hosting.server.handlers_mapStream place visit)).trans (List.append_nil _).symm

theorem policy_step (stepped : hosting.step? suite action = some next) :
    next.server.policy = hosting.server.policy := by
  cases move stepped with
  | accepts =>
      rw [server_accept, Server.accept]
      split <;> rfl
  | advances =>
      rw [Server.advance]
      split <;> rfl
  | _ => rfl

theorem IsApart.step {rest : List Action} (apart : hosting.IsApart address (action :: rest))
    (stepped : hosting.step? suite action = some next) : next.IsApart address rest where
  unstopped stop := apart.unstopped (List.mem_cons_of_mem _ stop)
  attended := by
    have attended := apart.attended
    cases move stepped with
    | starts => exact .inr rfl
    | stops => exact absurd List.mem_cons_self apart.unstopped
    | surveys owner | closes owner | gathers owner | joins owner | concludes owner => simp [owner] at attended
    | accepts =>
        rw [owner_accept]
        exact attended
    | reaps | advances | reports | visits => exact attended
  single := by
    have single := apart.single
    rw [callers_step stepped, List.append_assoc]
    cases comes : action.caller? <;> simpa [comes] using single
  known := by
    rw [apart.view_step stepped]
    cases hosting.own? address action with
    | none => exact apart.known
    | some own => exact apart.known.step suite hosting.server.policy own

/-! ## Runs -/

/-- The chronicle of a connection is the history of its own steps, and it tells all that the connection shows. -/
theorem IsApart.chronicle_eq (apart : hosting.IsApart address schedule)
    (ran : hosting.run? suite schedule = some now) :
    let own := (hosting.chronicle suite address schedule).map Prod.fst
    hosting.chronicle suite address schedule =
        (hosting.view address).history suite hosting.server.policy own ∧
      now.view address = ((hosting.chronicle suite address schedule).getLast?.map Prod.snd).getD
        (hosting.view address) := by
  induction schedule generalizing hosting with
  | nil =>
      cases ran
      exact ⟨rfl, rfl⟩
  | cons action rest ih =>
      obtain ⟨next, stepped, ran⟩ := Option.bind_eq_some_iff.mp ran
      obtain ⟨history, last⟩ := ih (apart.step stepped) ran
      have shows := apart.view_step stepped
      rw [policy_step stepped] at history
      rw [chronicle, stepped]
      cases own : hosting.own? address action with
      | none =>
          rw [own, Option.map_none, Option.getD_none] at shows
          rw [shows] at history last
          exact ⟨history, last⟩
      | some own =>
          rw [own, Option.map_some, Option.getD_some] at shows
          simp only [Option.toList_some, List.map_cons, List.map_nil, List.singleton_append, View.history,
            List.cons.injEq, List.getLast?_cons, Option.map_some, Option.getD_some]
          rw [← shows]
          refine ⟨⟨rfl, history⟩, ?_⟩
          rw [last]
          cases (next.chronicle suite address rest).getLast? <;> rfl

/-- A server that has accepted nothing, before a schedule in which nobody shuts it down. -/
theorem isApart_new (host : String) (port : UInt16) (policy : Policy) (unstopped : .stop ∉ schedule)
    (single : (schedule.filterMap Action.caller?).count address ≤ 1) :
    (new host port policy).IsApart address schedule where
  unstopped := unstopped
  attended := .inl rfl
  single := single
  known := nofun

/-- Sessions are isolated from one another. Take two runs of a server that nobody shuts down, each with
whatever connections from other addresses, whatever their peers send and whenever they leave, and in
whatever order everybody steps. If the steps on the connection from one address are the same in both, with
the random values that its session draws and what its peer does with its stream among them, then after each
of them the session, its handler, its stream and whether the address is registered are the same in both;
and they change at these steps only. -/
theorem isolates_sessions (suite : Suite) (host : String) (port : UInt16) (policy : Policy) (address : String)
    {schedule other : List Action} {now elsewhere : Hosting}
    (ran : (new host port policy).run? suite schedule = some now)
    (ranOther : (new host port policy).run? suite other = some elsewhere)
    (unstopped : .stop ∉ schedule ∧ .stop ∉ other)
    (single : (schedule.filterMap Action.caller?).count address ≤ 1 ∧
      (other.filterMap Action.caller?).count address ≤ 1)
    (same : ((new host port policy).chronicle suite address schedule).map Prod.fst =
      ((new host port policy).chronicle suite address other).map Prod.fst) :
    (new host port policy).chronicle suite address schedule =
      (new host port policy).chronicle suite address other ∧
    now.view address = elsewhere.view address ∧
    now.view address =
      ((((new host port policy).chronicle suite address schedule).getLast?).map Prod.snd).getD .absent := by
  obtain ⟨history, last⟩ := (isApart_new host port policy unstopped.1 single.1).chronicle_eq ran
  obtain ⟨historyOther, lastOther⟩ := (isApart_new host port policy unstopped.2 single.2).chronicle_eq ranOther
  have alike : (new host port policy).chronicle suite address schedule =
      (new host port policy).chronicle suite address other := by
    rw [history, historyOther, same]
  refine ⟨alike, ?_, last⟩
  rw [last, lastOther, alike]

section Neighbours

def stranger : Stream := { address := "10.0.0.8:50002" }

/-- One connection whose peer leaves during the handshake. -/
def alone : List Action :=
  [.start 40001, .accept {} guest true, .advance 0, .visit 0 .leave, .advance 0, .advance 0, .advance 0, .advance 0,
    .advance 0, .advance 0]

/-- The same connection beside another, which comes first, sends rubbish and leaves. -/
def beside : List Action :=
  [.start 40001, .accept {} stranger true, .advance 0, .accept {} guest true, .visit 0 (.send [0, 1, 2]),
    .advance 1, .visit 1 .leave, .visit 0 .leave, .advance 0, .advance 1, .advance 1, .reap, .advance 1, .advance 0,
    .advance 1, .advance 1, .advance 1]

theorem isolates_sessions_beside :
    ∃ now elsewhere, (new "127.0.0.1" 0 .close).run? Suite.standard alone = some now ∧
      (new "127.0.0.1" 0 .close).run? Suite.standard beside = some elsewhere ∧
      (elsewhere.view guest.address).listed = false ∧
      (now.view guest.address).handler = (elsewhere.view guest.address).handler := by
  obtain ⟨now, elsewhere, ran, ranOther, gone⟩ : ∃ now elsewhere,
      (new "127.0.0.1" 0 .close).run? Suite.standard alone = some now ∧
      (new "127.0.0.1" 0 .close).run? Suite.standard beside = some elsewhere ∧
      (now.view guest.address).listed = false := ⟨_, _, rfl, rfl, rfl⟩
  have isolated := isolates_sessions Suite.standard "127.0.0.1" 0 .close guest.address ran ranOther
    (by decide) (by decide) rfl
  obtain ⟨_, same, _⟩ := isolated
  exact ⟨now, elsewhere, ran, ranOther, same ▸ gone, congrArg View.handler same⟩

end Neighbours

end Hosting

end Courier
