import Courier.Client
import Courier.Machine

/-!
# Calls of a client, step by step

The owner of a client calls its operations one after the other. While a call
waits, others go on, so a call is given by its steps: a write, the two reads of a
frame, the closing of the stream. Taken without a pause, the steps of a call are
the operation of the client.
-/

namespace Courier.Client

/-- What the owner of a client calls. -/
inductive Call where
  | greet (version : UInt32)
  | send (message : Message)
  | receive
  | close
  deriving DecidableEq

/-- What a call gives back. -/
inductive Return where
  | greeted (result : Except Failure Status)
  | sent (result : Except Failure Unit)
  | received (result : Except Failure Message)
  | closed (result : Except Failure Bool)

/-- What a call does next. A call that waits for a message does so for the answer to a greeting or for
whatever comes. -/
inductive Stage where
  | greeting (version : UInt32)
  | sending (message : Message)
  | listening (greeted : Bool)
  | awaitingBody (greeted : Bool) (length : Nat)
  | leaving
  | parting (delivered : Bool)
  | returned (result : Return)

namespace Stage

/-- Where a call begins. -/
def start : Call → Stage
  | .greet version => greeting version
  | .send message => sending message
  | .receive => listening false
  | .close => leaving

def result? : Stage → Option Return
  | returned result => some result
  | _ => none

/-- A bound on the steps until the call returns. -/
def rank : Stage → Nat
  | greeting _ => 3
  | listening _ | leaving => 2
  | sending _ | awaitingBody _ _ | parting _ => 1
  | returned _ => 0

end Stage

/-- Takes note of a message; a disconnect closes the client. -/
def heed (client : Client) (message : Message) : Outcome Client Message :=
  match message with
  | .disconnect => client.leave.andThen fun _ client => (.ok message, client)
  | _ => (.ok message, client)

/-- The message in a frame whose length is known. -/
def receiveBody (suite : Suite) (client : Client) (length : Nat) : Outcome Client Message :=
  (client.withChannel
    (((client.channel.takeBody length).andThen fun body channel => channel.openBody suite body).andThen
      fun payload channel => channel.interpret payload)).andThen fun message client => client.heed message

/-- A client and a call that is under way. -/
structure Calling where
  stage : Stage
  client : Client

namespace Calling

/-- Returns what came of waiting for a message; for a greeting it has to be the answer. -/
def giveBack (greeted : Bool) (outcome : Outcome Client Message) : Calling :=
  match greeted with
  | true =>
      match outcome.andThen fun message client => client.judgeAnswer message with
      | (result, client) => ⟨.returned (.greeted result), client⟩
  | false => ⟨.returned (.received outcome.1), outcome.2⟩

/-- Sends a greeting, whose answer is to be waited for. -/
def ask (suite : Suite) (client : Client) (version : UInt32) : Calling :=
  match client.send suite (.greeting version) with
  | (.error failure, client) => ⟨.returned (.greeted (.error failure)), client⟩
  | (.ok (), client) => ⟨.listening true, client⟩

/-- Reads the length of the next frame, unless the client is closed. -/
def listen (client : Client) (greeted : Bool) : Calling :=
  if client.state ≠ .established then giveBack greeted (.error (.protocol (.receiveIn client.state)), client)
  else
    match client.channel.takeLength with
    | (.error failure, channel) => giveBack greeted (.error failure, { client with channel })
    | (.ok length, channel) => ⟨.awaitingBody greeted length, { client with channel }⟩

/-- Writes the announcement of a close that is not late. One that waits for the peer is given up. -/
def announce (client : Client) (framed : Octets) : Calling :=
  if client.channel.stream.writable then
    match client.channel.transmit framed with
    | (.ok (), channel) => ⟨.parting true, { client with channel }⟩
    | (.error _, channel) => ⟨.parting false, { client with channel }⟩
  else
    match client.announce framed .prompt with
    | (result, client) => ⟨.returned (.closed result), client⟩

/-- Begins to close, with the announcement if there is somebody to tell. -/
def leave (suite : Suite) (client : Client) : Calling :=
  if client.state.canBecome .disconnecting then
    let leaving := { client with state := .disconnecting }
    match leaving.channel.prepare suite Message.disconnect.encode with
    | (.ok framed, channel) => announce { leaving with channel } framed
    | (.error failure, channel) =>
        if failure.isNetwork then ⟨.parting false, { leaving with channel }⟩
        else ⟨.returned (.closed (.error failure)), { leaving with channel }⟩
  else
    match client.close suite .prompt with
    | (result, client) => ⟨.returned (.closed result), client⟩

/-- The next step of a call; one that has returned stays as it is. -/
def step (suite : Suite) (calling : Calling) : Calling :=
  match calling.stage with
  | .greeting version => ask suite calling.client version
  | .sending message =>
      match calling.client.send suite message with
      | (result, client) => ⟨.returned (.sent result), client⟩
  | .listening greeted => listen calling.client greeted
  | .awaitingBody greeted length => giveBack greeted (calling.client.receiveBody suite length)
  | .leaving => leave suite calling.client
  | .parting delivered =>
      match calling.client.conclude delivered with
      | (result, client) => ⟨.returned (.closed result), client⟩
  | .returned _ => calling

/-- Whether the next step returns at once; a call that has returned takes none. -/
def ready (calling : Calling) : Bool :=
  match calling.stage with
  | .listening _ =>
      calling.client.state != .established || calling.client.channel.poisoned ||
        calling.client.channel.stream.readable Channel.lengthSize
  | .awaitingBody _ length => calling.client.channel.stream.readable length
  | .returned _ => false
  | _ => true

theorem rank_giveBack (greeted : Bool) (outcome : Outcome Client Message) :
    (giveBack greeted outcome).stage.rank = 0 := by
  cases greeted <;> rfl

theorem rank_ask_lt (suite : Suite) (client : Client) (version : UInt32) :
    (ask suite client version).stage.rank < 3 := by
  unfold ask
  split
  · exact Nat.zero_lt_succ 2
  · exact Nat.lt_succ_self 2

theorem rank_listen_lt (client : Client) (greeted : Bool) : (listen client greeted).stage.rank < 2 := by
  unfold listen
  split
  · rw [rank_giveBack]
    decide
  · split
    · rw [rank_giveBack]
      decide
    · exact Nat.lt_succ_self 1

theorem rank_announce_lt (client : Client) (framed : Octets) : (announce client framed).stage.rank < 2 := by
  unfold announce
  split
  · split <;> exact Nat.lt_succ_self 1
  · exact Nat.zero_lt_two

theorem rank_leave_lt (suite : Suite) (client : Client) : (leave suite client).stage.rank < 2 := by
  unfold leave
  split
  · simp only
    split
    · exact rank_announce_lt _ _
    · split
      · exact Nat.lt_succ_self 1
      · exact Nat.zero_lt_two
  · exact Nat.zero_lt_two

/-- Every step of a call brings its return closer. -/
theorem rank_step (suite : Suite) (calling : Calling) (unfinished : calling.stage.result? = none) :
    (calling.step suite).stage.rank < calling.stage.rank := by
  unfold step
  split <;> rename_i place <;> rw [place]
  · exact rank_ask_lt suite _ _
  · exact Nat.zero_lt_one
  · exact rank_listen_lt _ _
  · rw [rank_giveBack]
    exact Nat.zero_lt_one
  · exact rank_leave_lt suite _
  · exact Nat.zero_lt_one
  · rw [place] at unfinished
    cases unfinished

/-- A call, step by step. -/
def machine (suite : Suite) : Machine Calling Return where
  result? calling := calling.stage.result?
  step := step suite
  weight calling := calling.stage.rank
  weight_step := rank_step suite

end Calling

/-- What a call comes to without a pause. -/
def perform (suite : Suite) (client : Client) (call : Call) : Return × Client :=
  match (Calling.machine suite).run ⟨.start call, client⟩ with
  | (result, calling) => (result, calling.client)

/-- A client with the calls that are made on it, the first of which may be under way, and what the earlier
ones returned. -/
structure Caller where
  client : Client
  stage? : Option Stage := none
  calls : List Call := []
  returns : List Return := []

namespace Caller

/-- The call that is under way or comes next, and those behind it. -/
def current? (caller : Caller) : Option (Calling × List Call) :=
  match caller.stage?, caller.calls with
  | some stage, calls => some (⟨stage, caller.client⟩, calls)
  | none, call :: rest => some (⟨.start call, caller.client⟩, rest)
  | none, [] => none

def ready (caller : Caller) : Bool := caller.current?.any fun current => current.1.ready

/-- The next step. With it the next call begins, if none is under way. -/
def step (suite : Suite) (caller : Caller) : Caller :=
  match caller.current? with
  | none => caller
  | some (calling, calls) =>
      match calling.step suite with
      | ⟨.returned result, client⟩ => { client, calls, returns := caller.returns ++ [result] }
      | ⟨stage, client⟩ => { client, stage? := some stage, calls, returns := caller.returns }

end Caller

end Courier.Client
