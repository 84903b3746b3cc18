import Courier.Client.Call
import Courier.Proofs.Session.Performance

/-!
# Calls without a pause

Taken to its return without a pause, a call gives back what the operation of the
client gives, and leaves the client as the operation leaves it. So what the steps
of a call do among the steps of others is said of the operation itself.
-/

namespace Courier.Client

variable {suite : Suite} {client : Client}

namespace Calling

/-- Takes a call to its return. -/
def finish (suite : Suite) (calling : Calling) : Return × Client :=
  match (machine suite).run calling with
  | (result, calling) => (result, calling.client)

@[simp] theorem finish_returned (result : Return) (client : Client) :
    finish suite ⟨.returned result, client⟩ = (result, client) := by
  have ran : (machine suite).run ⟨.returned result, client⟩ = (result, ⟨.returned result, client⟩) :=
    Machine.run_of_result rfl
  rw [finish, ran]

theorem finish_of_step {calling : Calling} (unfinished : calling.stage.result? = none) :
    calling.finish suite = (calling.step suite).finish suite := by
  have next : (machine suite).run calling = (machine suite).run (calling.step suite) :=
    Machine.run_of_step unfinished
  rw [finish, next, finish]

/-- What is returned of waiting for a message. -/
theorem finish_giveBack (greeted : Bool) (outcome : Outcome Client Message) :
    (giveBack greeted outcome).finish suite =
      match greeted with
      | true =>
          let answered := outcome.andThen fun message client => client.judgeAnswer message
          (.greeted answered.1, answered.2)
      | false => (.received outcome.1, outcome.2) := by
  cases greeted <;> exact finish_returned _ _

/-- The two reads of a frame, with what is made of it, are one receipt. -/
theorem finish_listening (client : Client) (greeted : Bool) :
    finish suite ⟨.listening greeted, client⟩ = (giveBack greeted (client.receive suite)).finish suite := by
  rw [finish_of_step rfl]
  change (listen client greeted).finish suite = _
  rw [listen, Client.receive]
  split
  · rfl
  · rw [withChannel, Channel.receive, Channel.receiveFrame]
    rcases client.channel.takeLength with ⟨failure | length, channel⟩
    · rfl
    · exact finish_of_step rfl

end Calling

/-! ## The operations -/

theorem perform_receive (suite : Suite) (client : Client) :
    client.perform suite .receive = (.received (client.receive suite).1, (client.receive suite).2) := by
  change Calling.finish suite ⟨.listening false, client⟩ = _
  rw [Calling.finish_listening, Calling.finish_giveBack]

theorem perform_greet (suite : Suite) (client : Client) (version : UInt32) :
    client.perform suite (.greet version) =
      (.greeted (client.greet suite version).1, (client.greet suite version).2) := by
  change Calling.finish suite ⟨.greeting version, client⟩ = _
  rw [Calling.finish_of_step rfl]
  change (Calling.ask suite client version).finish suite = _
  rw [Calling.ask, greet]
  generalize client.send suite (.greeting version) = outcome
  obtain ⟨failure | _, sent⟩ := outcome
  · exact Calling.finish_returned _ _
  · rw [Outcome.andThen_ok, Calling.finish_listening, Calling.finish_giveBack]

theorem perform_send (suite : Suite) (client : Client) (message : Message) :
    client.perform suite (.send message) =
      (.sent (client.send suite message).1, (client.send suite message).2) := by
  change Calling.finish suite ⟨.sending message, client⟩ = _
  rw [Calling.finish_of_step rfl]
  exact Calling.finish_returned _ _

theorem finish_parting (client : Client) (delivered : Bool) :
    Calling.finish suite ⟨.parting delivered, client⟩ =
      (.closed (client.conclude delivered).1, (client.conclude delivered).2) := by
  rw [Calling.finish_of_step rfl]
  exact Calling.finish_returned _ _

theorem finish_announce (client : Client) (framed : Octets) :
    (Calling.announce client framed).finish suite =
      (.closed (client.announce framed .prompt).1, (client.announce framed .prompt).2) := by
  unfold Calling.announce
  split
  · rename_i writable
    rw [announce, if_pos ⟨writable, nofun⟩]
    rcases client.channel.transmit framed with ⟨failure | _, channel⟩ <;> exact finish_parting _ _
  · exact Calling.finish_returned _ _

/-- A close that is not late. -/
theorem perform_close (suite : Suite) (client : Client) :
    client.perform suite .close = (.closed (client.close suite .prompt).1, (client.close suite .prompt).2) := by
  change Calling.finish suite ⟨.leaving, client⟩ = _
  rw [Calling.finish_of_step rfl]
  change (Calling.leave suite client).finish suite = _
  rw [Calling.leave, close]
  split
  · simp only
    generalize ({ client with state := .disconnecting } : Client).channel.prepare suite
      Message.disconnect.encode = outcome
    obtain ⟨failure | framed, channel⟩ := outcome
    · simp only
      split
      · exact finish_parting _ _
      · exact Calling.finish_returned _ _
    · exact finish_announce _ framed
  · rw [Calling.finish_returned]

end Courier.Client
