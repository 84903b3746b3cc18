import Courier.Channel

/-!
# Clients

The initiating side of a session. A client is established as soon as it has a
channel, and is closed by its own `close` or by a disconnect of the server's.
Closing announces the departure first, but waits for that only a limited time.
-/

namespace Courier

structure Client where
  channel : Channel
  state : Lifecycle := .established
  deriving DecidableEq

namespace Client

/-- A client on a channel, which there has to be. -/
def onChannel? (channel : Option Channel) : Except Failure Client :=
  match channel with
  | none => .error (.handshake .noChannel)
  | some channel => .ok { channel }

def address (client : Client) : String := client.channel.address

/-- Goes on with the result of an operation on the channel. -/
def withChannel {Result : Type} (client : Client) (outcome : Outcome Channel Result) : Outcome Client Result :=
  (outcome.1, { client with channel := outcome.2 })

def send (suite : Suite) (client : Client) (message : Message) : Outcome Client Unit :=
  if client.state ≠ .established then (.error (.protocol (.sendIn client.state)), client)
  else client.withChannel (client.channel.send suite message)

/-- The server has left: the client closes its end. -/
def leave (client : Client) : Outcome Client Unit :=
  if client.state.canBecome .disconnecting then
    match ({ client with state := .disconnecting } : Client).withChannel client.channel.close with
    | (.error failure, client) => (.error failure, client)
    | (.ok (), client) => (.ok (), { client with state := client.state.advance .closed })
  else (.ok (), client)

/-- The next message; a disconnect closes the client. -/
def receive (suite : Suite) (client : Client) : Outcome Client Message :=
  if client.state ≠ .established then (.error (.protocol (.receiveIn client.state)), client)
  else
    (client.withChannel (client.channel.receive suite)).andThen fun message client =>
      match message with
      | .disconnect => client.leave.andThen fun _ client => (.ok message, client)
      | _ => (.ok message, client)

/-- The status that a message received in answer to a greeting carries. -/
def judgeAnswer (client : Client) : Message → Outcome Client Status
  | .response status => (.ok status, client)
  | message => (.error (.protocol (.expectedResponse message.kind)), client)

/-- Greets the server and waits for its answer. -/
def greet (suite : Suite) (client : Client) (version : UInt32) : Outcome Client Status :=
  ((client.send suite (.greeting version)).andThen fun _ client => client.receive suite).andThen
    fun message client => client.judgeAnswer message

/-- Closes the channel and is closed for good; the result is whether the announcement was delivered. -/
def conclude (client : Client) (delivered : Bool) : Outcome Client Bool :=
  (client.withChannel client.channel.close).andThen fun _ client =>
    (.ok delivered, { client with state := client.state.advance .closed })

/-- How the sending of an announcement that need not wait for the peer ends. -/
inductive Promptness where
  /-- It is done before the time is up. -/
  | prompt
  /-- The time is up before it is done, but it is done before the channel is closed. -/
  | late
  /-- The channel is closed under it. -/
  | overtaken
  deriving DecidableEq, Repr

/-- Writes the announcement. One that waits for the peer is given up, by closing under it. -/
def announce (client : Client) (framed : Octets) (promptness : Promptness) : Outcome Client Bool :=
  if client.channel.stream.writable ∧ promptness ≠ .overtaken then
    match client.channel.transmit framed with
    | (.ok (), channel) => { client with channel }.conclude (promptness == Promptness.prompt)
    | (.error _, channel) => { client with channel }.conclude false
  else
    (client.withChannel client.channel.close).andThen fun _ client =>
      (.ok false,
        { channel := (client.channel.transmit framed).2, state := client.state.advance .closed })

/-- Announces the departure and closes; the result is whether the announcement is known to be delivered.
A refusal by the cipher is passed on. -/
def close (suite : Suite) (client : Client) (promptness : Promptness) : Outcome Client Bool :=
  if client.state.canBecome .disconnecting then
    let leaving := { client with state := .disconnecting }
    match leaving.channel.prepare suite Message.disconnect.encode with
    | (.ok framed, channel) => { leaving with channel }.announce framed promptness
    | (.error failure, channel) =>
        let refused := { leaving with channel }
        if failure.isNetwork then refused.conclude false
        else if promptness = .prompt then (.error failure, refused)
        else (refused.withChannel refused.channel.close).andThen fun _ client => (.error failure, client)
  else
    ({ client with state := client.state.advance .closed }.withChannel client.channel.close).andThen
      fun _ client => (.ok false, client)

/-- What is left of a client that is given up: an established one is closed first, however long its
announcement takes. -/
def givenUp (suite : Suite) (client : Client) (promptness : Promptness) : Client :=
  let client := if client.state = .established then (client.close suite promptness).2 else client
  { client with channel := client.channel.close.2 }

/-- What is left of a client that is given up while its announcement is in time. -/
def drop (suite : Suite) (client : Client) : Client := client.givenUp suite .prompt

/-- The connection, the handshake and the client on the channel that comes of it. -/
def establish (suite : Suite) (entropy : Entropy) (stream : Stream) : Except Failure Client :=
  match (Channel.establish suite entropy stream).1 with
  | (.ok channel, _) => .ok { channel }
  | (.error failure, _) => .error failure

end Client

end Courier
