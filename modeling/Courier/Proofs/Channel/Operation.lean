import Courier.Proofs.Channel.Framing

/-!
# What operations on a channel have in common

Messages are sent and received as the payloads of frames, so what holds of frames
holds of both.
-/

namespace Courier.Channel

namespace Operation

/-- What an operation that asks for a frame answers, given the payload of the frame. -/
def reading : Operation → Octets → Answer
  | receive, payload =>
      .message (match Message.decode payload with
        | .error error => .error (.wire error)
        | .ok message => .ok message)
  | _, payload => .payload (.ok payload)

/-- Both ways of sending go through the same frame. -/
theorem perform_of_outgoing? (suite : Suite) (channel : Channel) {operation : Operation} {payload : Octets}
    (outgoing : operation.outgoing? = some payload) :
    operation.perform suite channel = Prod.map .done id (channel.sendFrame suite payload) := by
  cases operation with
  | send message =>
      cases outgoing
      rfl
  | sendFrame sent =>
      cases outgoing
      rfl
  | receive | receiveFrame | close | feed bytes => cases outgoing

/-- Both ways of receiving take the same frame off the stream. -/
theorem perform_of_receives {suite : Suite} {channel after : Channel} {operation : Operation}
    {payload : Octets} (receives : operation.receives = true)
    (received : channel.receiveFrame suite = (.ok payload, after)) :
    operation.perform suite channel = (operation.reading payload, after) := by
  cases operation with
  | receive =>
      rw [perform, Channel.receive, received, Outcome.andThen_ok, interpret]
      cases decoded : Message.decode payload with
      | error error => simp [reading, decoded]
      | ok message => simp [reading, decoded]
  | receiveFrame =>
      rw [perform, received]
      rfl
  | send message | sendFrame sent | close | feed bytes => cases receives

end Operation

end Courier.Channel
