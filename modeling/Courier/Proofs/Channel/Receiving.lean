import Courier.Proofs.Channel.Framing
import Courier.Session.Activity

/-!
# What a receipt can do to a channel

A receipt reads, moves the cipher that opens, and may fail the channel. What these
three keep to, and what holds of two such changes if it holds of each, every
part of a receipt keeps to.
-/

namespace Courier.Channel

/-- What a failure leaves of a channel: it is poisoned and closed. -/
theorem snd_fail {Result : Type} (channel : Channel) (error : FrameError) :
    (channel.fail error : Outcome Channel Result).2 = ({ channel with poisoned := true } : Channel).close.2 := by
  rw [fail]
  generalize ({ channel with poisoned := true } : Channel).close = closed
  obtain ⟨result, after⟩ := closed
  cases result <;> rfl

/-- A relation between a channel and what is left of it, which receiving keeps to. -/
structure Receiving (relation : Channel → Channel → Prop) : Prop where
  refl : ∀ channel, relation channel channel
  trans : ∀ {first second third}, relation first second → relation second third → relation first third
  read : ∀ channel count, relation channel { channel with stream := (channel.stream.read count).2 }
  opened : ∀ channel receiver, relation channel { channel with receiver }
  fail : ∀ {Result : Type} (channel : Channel) (error : FrameError),
    relation channel (channel.fail error : Outcome Channel Result).2

namespace Receiving

variable {relation : Channel → Channel → Prop} {channel : Channel}

theorem andThen {Result Next : Type} {first : Outcome Channel Result}
    {next : Result → Channel → Outcome Channel Next} (receiving : Receiving relation)
    (begun : relation channel first.2) (ended : ∀ result, relation first.2 (next result first.2).2) :
    relation channel (first.andThen next).2 := by
  obtain ⟨result, state⟩ := first
  cases result with
  | error failure => exact begun
  | ok result => exact receiving.trans begun (ended result)

theorem judgeLength (receiving : Receiving relation) (channel : Channel)
    (reading : Except Nat (Block lengthSize)) : relation channel (channel.judgeLength reading).2 := by
  unfold Channel.judgeLength
  split
  · exact receiving.refl _
  · exact receiving.fail _ _
  · simp only
    split
    · exact receiving.fail _ _
    · exact receiving.refl _

theorem takeLength (receiving : Receiving relation) (channel : Channel) :
    relation channel channel.takeLength.2 := by
  rw [Channel.takeLength]
  split
  · exact receiving.refl channel
  · apply receiving.trans (receiving.read channel lengthSize)
    exact receiving.judgeLength _ _

theorem judgeBody (receiving : Receiving relation) (channel : Channel) (length : Nat)
    (reading : Except Nat (Block length)) : relation channel (channel.judgeBody length reading).2 := by
  cases reading with
  | error found => exact receiving.fail _ _
  | ok body => exact receiving.refl _

theorem takeBody (receiving : Receiving relation) (channel : Channel) (length : Nat) :
    relation channel (channel.takeBody length).2 := by
  apply receiving.trans (receiving.read channel length)
  exact receiving.judgeBody _ length _

theorem openBody (receiving : Receiving relation) (suite : Suite) (channel : Channel) (body : Octets) :
    relation channel (channel.openBody suite body).2 := by
  rw [Channel.openBody]
  split
  · apply receiving.trans (receiving.opened channel _)
    exact receiving.fail _ _
  · exact receiving.opened channel _

theorem interpret (receiving : Receiving relation) (channel : Channel) (payload : Octets) :
    relation channel (channel.interpret payload).2 := by
  rw [Channel.interpret]
  split <;> exact receiving.refl _

theorem receiveFrame (receiving : Receiving relation) (suite : Suite) (channel : Channel) :
    relation channel (channel.receiveFrame suite).2 := by
  apply receiving.andThen
  · apply receiving.andThen (receiving.takeLength channel)
    intro length
    exact receiving.takeBody _ length
  · intro body
    exact receiving.openBody suite _ body

theorem receive (receiving : Receiving relation) (suite : Suite) (channel : Channel) :
    relation channel (channel.receive suite).2 := by
  apply receiving.andThen (receiving.receiveFrame suite channel)
  intro payload
  exact receiving.interpret _ payload

theorem openFrame (receiving : Receiving relation) (suite : Suite) (channel : Channel) (length : Nat)
    (reading : Except Nat (Block length)) : relation channel (Work.openFrame suite channel length reading).2 := by
  apply receiving.andThen
  · apply receiving.andThen (receiving.judgeBody channel length reading)
    intro body
    exact receiving.openBody suite _ body
  · intro payload
    exact receiving.interpret _ payload

end Receiving

end Courier.Channel
