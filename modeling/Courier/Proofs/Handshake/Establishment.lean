import Courier.Channel
import Courier.Proofs.Handshake.Agreement
import Courier.Proofs.Handshake.Outstanding
import Courier.Proofs.Machine
import Courier.Proofs.Octets
import Courier.Proofs.Stream

/-!
# Establishing a channel against any peer

Whatever the peer has sent and however much the stream takes, a handshake ends in
one of seven ways, told by where it is cut short. Only one of them leaves keys, and
there the whole introduction is written and exactly as much of the peer's is
read. In all others the stream that the channel would have owned is closed.
-/

namespace Courier.Handshake

variable {suite : Suite} {entropy : Entropy} {stream : Stream}

/-- What a party says of itself: its public key and its salt, as far as it can draw them. -/
def introduction (suite : Suite) (entropy : Entropy) : Octets :=
  match entropy.privateKeys.head? with
  | none => []
  | some own => (suite.publicKey own).val ++ (entropy.salts.head?.map Subtype.val).getD []

/-- The ways in which a handshake ends, and the stream that each leaves. -/
inductive Course (suite : Suite) (entropy : Entropy) (stream : Stream) :
    Except HandshakeError ChannelKeys → Stream → Prop where
  | keyless (nothing : entropy.privateKeys.head? = none) :
      Course suite entropy stream (.error (.crypto .keyGeneration)) stream
  | keyCut {own : PrivateKey} (drawn : entropy.privateKeys.head? = some own) (short : ¬ stream.Takes 32) :
      Course suite entropy stream (.error (.stream .brokenPipe)) (stream.write (suite.publicKey own).val).2.2
  | keyMissing {own : PrivateKey} (drawn : entropy.privateKeys.head? = some own) (taken : stream.Takes 32)
      (few : stream.incoming.length < 32) :
      Course suite entropy stream (.error (.stream .endOfFile))
        ((stream.write (suite.publicKey own).val).2.2.withUnread [])
  | saltless {own : PrivateKey} {peer : PublicKey} {rest : Octets}
      (drawn : entropy.privateKeys.head? = some own) (taken : stream.Takes 32)
      (unread : stream.incoming = peer.val ++ rest) (nothing : entropy.salts.head? = none) :
      Course suite entropy stream (.error (.crypto .saltGeneration))
        ((stream.write (suite.publicKey own).val).2.2.withUnread rest)
  | saltCut {own : PrivateKey} {peer : PublicKey} {salt : KeyDerivation.Salt} {rest : Octets}
      (drawn : entropy.privateKeys.head? = some own) (taken : stream.Takes 32)
      (unread : stream.incoming = peer.val ++ rest) (drawnSalt : entropy.salts.head? = some salt)
      (short : ¬ stream.Takes 64) :
      Course suite entropy stream (.error (.stream .brokenPipe))
        (((stream.write (suite.publicKey own).val).2.2.write salt.val).2.2.withUnread rest)
  | saltMissing {own : PrivateKey} {peer : PublicKey} {salt : KeyDerivation.Salt} {rest : Octets}
      (drawn : entropy.privateKeys.head? = some own) (drawnSalt : entropy.salts.head? = some salt)
      (taken : stream.Takes 64) (unread : stream.incoming = peer.val ++ rest) (few : rest.length < 32) :
      Course suite entropy stream (.error (.stream .endOfFile))
        ((stream.write ((suite.publicKey own).val ++ salt.val)).2.2.withUnread [])
  | met {own : PrivateKey} {peer : PublicKey} {salt peerSalt : KeyDerivation.Salt} {rest : Octets}
      (drawn : entropy.privateKeys.head? = some own) (drawnSalt : entropy.salts.head? = some salt)
      (taken : stream.Takes 64) (unread : stream.incoming = peer.val ++ (peerSalt.val ++ rest)) :
      Course suite entropy stream (agreement suite own peer salt peerSalt)
        ((stream.write ((suite.publicKey own).val ++ salt.val)).2.2.withUnread rest)

/-- Where a party is that began with these random values on this stream. -/
inductive Underway (suite : Suite) (entropy : Entropy) (stream : Stream) : Party → Prop where
  | greeting : Underway suite entropy stream ⟨.greeting, entropy, stream⟩
  | awaitingKey {own : PrivateKey} (drawn : entropy.privateKeys.head? = some own) (taken : stream.Takes 32) :
      Underway suite entropy stream
        ⟨.awaitingKey own, entropy.drawKey.2, (stream.write (suite.publicKey own).val).2.2⟩
  | salting {own : PrivateKey} {peer : PublicKey} {rest : Octets}
      (drawn : entropy.privateKeys.head? = some own) (taken : stream.Takes 32)
      (unread : stream.incoming = peer.val ++ rest) :
      Underway suite entropy stream
        ⟨.salting own peer, entropy.drawKey.2, (stream.write (suite.publicKey own).val).2.2.withUnread rest⟩
  | awaitingSalt {own : PrivateKey} {peer : PublicKey} {salt : KeyDerivation.Salt} {rest : Octets}
      (drawn : entropy.privateKeys.head? = some own) (drawnSalt : entropy.salts.head? = some salt)
      (taken : stream.Takes 64) (unread : stream.incoming = peer.val ++ rest) :
      Underway suite entropy stream
        ⟨.awaitingSalt own peer salt, entropy.drawKey.2.drawSalt.2,
          (stream.write ((suite.publicKey own).val ++ salt.val)).2.2.withUnread rest⟩
  | agreeing {own : PrivateKey} {peer : PublicKey} {salt peerSalt : KeyDerivation.Salt} {rest : Octets}
      (drawn : entropy.privateKeys.head? = some own) (drawnSalt : entropy.salts.head? = some salt)
      (taken : stream.Takes 64) (unread : stream.incoming = peer.val ++ (peerSalt.val ++ rest)) :
      Underway suite entropy stream
        ⟨.agreeing own peer salt peerSalt, entropy.drawKey.2.drawSalt.2,
          (stream.write ((suite.publicKey own).val ++ salt.val)).2.2.withUnread rest⟩
  | finished {result : Except HandshakeError ChannelKeys} (left : Entropy) {after : Stream}
      (course : Course suite entropy stream result after) :
      Underway suite entropy stream ⟨.finished result, left, after⟩

/-! ## Single steps -/

theorem Party.receiveBlock_of_lt {party : Party} (next : Block 32 → Stage)
    (opened : party.stream.closed = false) (few : party.stream.incoming.length < 32) :
    party.receiveBlock next =
      ⟨.finished (.error (.stream .endOfFile)), party.entropy, party.stream.withUnread []⟩ := by
  rw [receiveBlock, Stream.read_of_lt opened few]
  rfl

theorem Party.receiveBlock_append {party : Party} (next : Block 32 → Stage) {block : Block 32} {rest : Octets}
    (opened : party.stream.closed = false) (unread : party.stream.incoming = block.val ++ rest) :
    party.receiveBlock next = ⟨next block, party.entropy, party.stream.withUnread rest⟩ := by
  rw [receiveBlock, Stream.read_append opened block unread]

theorem Party.sendKey_of_takes {party : Party} {own : PrivateKey}
    (drawn : party.entropy.privateKeys.head? = some own) (taken : party.stream.Takes 32) :
    party.sendKey suite =
      ⟨.awaitingKey own, party.entropy.drawKey.2, (party.stream.write (suite.publicKey own).val).2.2⟩ := by
  have whole := (Stream.takes_block (suite.publicKey own)).mpr taken
  simp only [sendKey, Entropy.drawKey, drawn, Stream.write_of_takes whole]

theorem Party.sendKey_of_not_takes {party : Party} {own : PrivateKey}
    (drawn : party.entropy.privateKeys.head? = some own) (short : ¬ party.stream.Takes 32) :
    party.sendKey suite =
      ⟨.finished (.error (.stream .brokenPipe)), party.entropy.drawKey.2,
        (party.stream.write (suite.publicKey own).val).2.2⟩ := by
  have cut := mt (Stream.takes_block (suite.publicKey own)).mp short
  simp only [sendKey, Entropy.drawKey, drawn]
  rw [Stream.write_of_not_takes cut]
  rfl

theorem Party.sendSalt_of_takes {party : Party} {salt : KeyDerivation.Salt} (own : PrivateKey)
    (peer : PublicKey) (drawn : party.entropy.salts.head? = some salt) (taken : party.stream.Takes 32) :
    party.sendSalt own peer =
      ⟨.awaitingSalt own peer salt, party.entropy.drawSalt.2, (party.stream.write salt.val).2.2⟩ := by
  have whole := (Stream.takes_block salt).mpr taken
  simp only [sendSalt, Entropy.drawSalt, drawn, Stream.write_of_takes whole]

theorem Party.sendSalt_of_not_takes {party : Party} {salt : KeyDerivation.Salt} (own : PrivateKey)
    (peer : PublicKey) (drawn : party.entropy.salts.head? = some salt) (short : ¬ party.stream.Takes 32) :
    party.sendSalt own peer =
      ⟨.finished (.error (.stream .brokenPipe)), party.entropy.drawSalt.2,
        (party.stream.write salt.val).2.2⟩ := by
  have cut := mt (Stream.takes_block salt).mp short
  simp only [sendSalt, Entropy.drawSalt, drawn]
  rw [Stream.write_of_not_takes cut]
  rfl

namespace Underway

theorem sendKey : Underway suite entropy stream (Party.sendKey suite ⟨.greeting, entropy, stream⟩) := by
  cases drawn : entropy.privateKeys.head? with
  | none =>
      simp only [Party.sendKey, Entropy.drawKey, drawn]
      exact .finished _ (.keyless drawn)
  | some own =>
      by_cases taken : stream.Takes 32
      · rw [Party.sendKey_of_takes drawn taken]
        exact .awaitingKey drawn taken
      · rw [Party.sendKey_of_not_takes drawn taken]
        exact .finished _ (.keyCut drawn taken)

theorem receiveKey {own : PrivateKey} (drawn : entropy.privateKeys.head? = some own)
    (taken : stream.Takes 32) :
    Underway suite entropy stream (Party.receiveBlock
      ⟨.awaitingKey own, entropy.drawKey.2, (stream.write (suite.publicKey own).val).2.2⟩
      (.salting own)) := by
  have opened := taken.opened (by decide)
  rcases Octets.short_or_block 32 stream.incoming with few | ⟨peer, rest, unread⟩
  · rw [Party.receiveBlock_of_lt _ opened few]
    exact .finished _ (.keyMissing drawn taken few)
  · rw [Party.receiveBlock_append _ opened unread]
    exact .salting drawn taken unread

theorem sendSalt {own : PrivateKey} {peer : PublicKey} {rest : Octets}
    (drawn : entropy.privateKeys.head? = some own) (taken : stream.Takes 32)
    (unread : stream.incoming = peer.val ++ rest) :
    Underway suite entropy stream (Party.sendSalt
      ⟨.salting own peer, entropy.drawKey.2, (stream.write (suite.publicKey own).val).2.2.withUnread rest⟩
      own peer) := by
  have begun := (Stream.takes_block (suite.publicKey own)).mpr taken
  cases drawnSalt : entropy.salts.head? with
  | none =>
      have none : entropy.drawKey.2.salts.head? = none := drawnSalt
      simp only [Party.sendSalt, Entropy.drawSalt, none]
      exact .finished _ (.saltless drawn taken unread drawnSalt)
  | some salt =>
      by_cases ended : (stream.write (suite.publicKey own).val).2.2.Takes 32
      · have both := begun.append ((Stream.takes_block salt).mpr ended)
        rw [Party.sendSalt_of_takes own peer drawnSalt ended, Stream.write_withUnread, Stream.write_write both]
        exact .awaitingSalt drawn drawnSalt ((Stream.takes_blocks _ salt).mp both) unread
      · rw [Party.sendSalt_of_not_takes own peer drawnSalt ended]
        refine .finished _ (.saltCut drawn taken unread drawnSalt fun both => ended ?_)
        exact (Stream.takes_block salt).mp ((Stream.takes_blocks (suite.publicKey own) salt).mpr both).of_append.2

theorem receiveSalt {own : PrivateKey} {peer : PublicKey} {salt : KeyDerivation.Salt} {rest : Octets}
    (drawn : entropy.privateKeys.head? = some own) (drawnSalt : entropy.salts.head? = some salt)
    (taken : stream.Takes 64) (unread : stream.incoming = peer.val ++ rest) :
    Underway suite entropy stream (Party.receiveBlock
      ⟨.awaitingSalt own peer salt, entropy.drawKey.2.drawSalt.2,
        (stream.write ((suite.publicKey own).val ++ salt.val)).2.2.withUnread rest⟩
      (.agreeing own peer salt)) := by
  have opened := taken.opened (by decide)
  rcases Octets.short_or_block 32 rest with few | ⟨peerSalt, rest, rfl⟩
  · rw [Party.receiveBlock_of_lt _ opened few]
    exact .finished _ (.saltMissing drawn drawnSalt taken unread few)
  · rw [Party.receiveBlock_append _ opened rfl]
    exact .agreeing drawn drawnSalt taken unread

theorem step {party : Party} (underway : Underway suite entropy stream party) :
    Underway suite entropy stream (party.step suite) := by
  cases underway with
  | greeting => exact sendKey
  | awaitingKey drawn taken => exact receiveKey drawn taken
  | salting drawn taken unread => exact sendSalt drawn taken unread
  | awaitingSalt drawn drawnSalt taken unread => exact receiveSalt drawn drawnSalt taken unread
  | agreeing drawn drawnSalt taken unread => exact .finished _ (.met drawn drawnSalt taken unread)
  | finished left course => exact .finished left course

/-- A party that goes on without a pause comes to one of the ends. -/
theorem course {party : Party} (underway : Underway suite entropy stream party) :
    Course suite entropy stream ((machine suite).run party).1 ((machine suite).run party).2.stream := by
  induction party using (machine suite).run_induction with
  | ended party result found =>
      rw [Machine.run_of_result found]
      cases underway with
      | finished left course =>
          cases found
          exact course
      | greeting | awaitingKey | salting | awaitingSalt | agreeing => cases found
  | step party unfinished ih =>
      rw [Machine.run_of_step unfinished]
      exact ih underway.step

end Underway

/-! ## The ends -/

theorem course_perform (suite : Suite) (entropy : Entropy) (stream : Stream) :
    Course suite entropy stream (perform suite entropy stream).1 (perform suite entropy stream).2.stream :=
  Underway.greeting.course

/-- What it takes for a handshake to succeed: both random values, room for what is written, enough to read
for a key and a salt, another salt than the own one, and a secret that the keys agree on. -/
structure Meets (suite : Suite) (entropy : Entropy) (stream : Stream) (own : PrivateKey) (peer : PublicKey)
    (salt peerSalt : KeyDerivation.Salt) (secret : KeyDerivation.Secret) (rest : Octets) : Prop where
  drawn : entropy.privateKeys.head? = some own
  drawnSalt : entropy.salts.head? = some salt
  taken : stream.Takes 64
  unread : stream.incoming = peer.val ++ (peerSalt.val ++ rest)
  different : salt ≠ peerSalt
  agreed : suite.agree own peer = some secret

namespace Course

variable {result : Except HandshakeError ChannelKeys} {after : Stream}

theorem exists_meets {keys : ChannelKeys} (course : Course suite entropy stream (.ok keys) after) :
    ∃ own peer salt peerSalt secret, Meets suite entropy stream own peer salt peerSalt secret after.incoming ∧
      keys = ⟨suite.channelKey salt secret, suite.channelKey peerSalt secret⟩ ∧
      after.accepted = stream.accepted ++ ((suite.publicKey own).val ++ salt.val) ∧
      after.closed = false := by
  generalize come : Except.ok keys = result at course
  cases course with
  | keyless | keyCut | keyMissing | saltless | saltCut | saltMissing => cases come
  | @met own peer salt peerSalt rest drawn drawnSalt taken unread =>
      have whole := (Stream.takes_blocks (suite.publicKey own) salt).mpr taken
      unfold agreement at come
      split at come
      · cases come
      · rename_i different
        split at come
        · cases come
        · rename_i secret agreed
          cases come
          refine ⟨own, peer, salt, peerSalt, secret, ⟨drawn, drawnSalt, taken, unread, different, agreed⟩,
            rfl, ?_, taken.opened (by decide)⟩
          rw [Stream.write_of_takes whole]
          rfl

theorem isOk_of_meets {own : PrivateKey} {peer : PublicKey} {salt peerSalt : KeyDerivation.Salt}
    {secret : KeyDerivation.Secret} {rest : Octets}
    (meets : Meets suite entropy stream own peer salt peerSalt secret rest)
    (course : Course suite entropy stream result after) : result.isOk = true := by
  obtain ⟨drawn, drawnSalt, taken, unread, different, agreed⟩ := meets
  have length : stream.incoming.length = 32 + (32 + rest.length) := by
    rw [unread, List.length_append, List.length_append, peer.property, peerSalt.property]
  cases course with
  | keyless nothing => simp [nothing] at drawn
  | saltless _ _ _ nothing => simp [nothing] at drawnSalt
  | keyCut _ short => exact absurd (taken.mono (by decide)) short
  | saltCut _ _ _ _ short => exact absurd taken short
  | keyMissing _ _ few => omega
  | @saltMissing _ found _ unread _ _ _ begun few =>
      rw [begun, List.length_append, found.property] at length
      omega
  | @met found peerFound saltFound peerSaltFound restFound drawnFound drawnSaltFound _ unreadFound =>
      rw [drawn] at drawnFound
      rw [drawnSalt] at drawnSaltFound
      rw [unread] at unreadFound
      cases drawnFound
      cases drawnSaltFound
      obtain ⟨samePeer, behind⟩ := List.append_inj unreadFound (peer.property.trans peerFound.property.symm)
      obtain ⟨sameSalt, _⟩ := List.append_inj behind (peerSalt.property.trans peerSaltFound.property.symm)
      rw [← Subtype.ext samePeer, ← Subtype.ext sameSalt, agreement, if_neg different, agreed]
      rfl

/-- However it ends, what was written is a front of the introduction. -/
theorem exists_written (course : Course suite entropy stream result after) :
    ∃ written, after.accepted = stream.accepted ++ written ∧ written <+: introduction suite entropy := by
  have key {own : PrivateKey} (taken : stream.Takes 32) :
      (stream.write (suite.publicKey own).val).2.2.accepted = stream.accepted ++ (suite.publicKey own).val := by
    rw [Stream.write_of_takes ((Stream.takes_block _).mpr taken)]
  have both {own : PrivateKey} {salt : KeyDerivation.Salt} (taken : stream.Takes 64) :
      (stream.write ((suite.publicKey own).val ++ salt.val)).2.2.accepted =
        stream.accepted ++ ((suite.publicKey own).val ++ salt.val) := by
    rw [Stream.write_of_takes ((Stream.takes_blocks _ _).mpr taken)]
  unfold introduction
  cases course with
  | keyless nothing => exact ⟨[], (List.append_nil _).symm, List.nil_prefix⟩
  | keyCut drawn short =>
      rw [drawn]
      exact ⟨_, rfl, (List.take_prefix _ _).trans (List.prefix_append _ _)⟩
  | keyMissing drawn taken few =>
      rw [drawn]
      exact ⟨_, key taken, List.prefix_append _ _⟩
  | saltless drawn taken unread nothing =>
      rw [drawn]
      exact ⟨_, key taken, List.prefix_append _ _⟩
  | @saltCut own _ salt _ drawn taken unread drawnSalt short =>
      rw [drawn, drawnSalt]
      refine ⟨(suite.publicKey own).val ++
          salt.val.take ((stream.write (suite.publicKey own).val).2.2.capacity salt.val.length), ?_,
        (List.prefix_append_right_inj _).mpr (List.take_prefix _ _)⟩
      rw [← List.append_assoc, ← key taken]
      rfl
  | saltMissing drawn drawnSalt taken unread few | met drawn drawnSalt taken unread =>
      rw [drawn, drawnSalt]
      exact ⟨_, both taken, List.prefix_refl _⟩

end Course

/-! ## Establishing -/

/-- The secret is the one that the keys share, and it is not zero. -/
theorem agree_standard_eq_some_iff {own : PrivateKey} {peer : PublicKey} {secret : KeyDerivation.Secret} :
    Suite.standard.agree own peer = some secret ↔
      Curve25519.shared own peer = secret ∧ ∃ octet ∈ secret.val, octet ≠ 0 := by
  simp only [Suite.standard, KeyExchange.agree]
  generalize Curve25519.shared own peer = shared
  split
  · rename_i zero
    simp only [reduceCtorEq, false_iff, not_and, not_exists]
    rintro rfl
    simpa using zero
  · rename_i nonzero
    simp only [Option.some.injEq]
    constructor
    · rintro rfl
      simpa using nonzero
    · exact And.left

theorem derive_channelKey (salt : KeyDerivation.Salt) (secret : KeyDerivation.Secret) :
    KeyDerivation.derive salt.val secret.val KeyDerivation.channelLabel 32 =
      .ok (Suite.standard.channelKey salt secret).val := by
  have block (bytes : Block 32) : bytes.val.isEmpty = false := by
    rw [List.isEmpty_eq_false_iff_exists_mem, ← List.length_pos_iff_exists_mem, bytes.property]
    decide
  have label : ¬ KeyDerivation.longestLabel < KeyDerivation.channelLabel.length := by decide +kernel
  have most : ¬ KeyDerivation.maximumLength < 32 := by decide
  rw [KeyDerivation.derive, block, block, if_neg (by simp [label, most])]
  rfl

/-- On a stream that can be closed, establishing a channel succeeds exactly if the random values can be
drawn, a key and a salt are taken and can be read, the salts differ and the keys agree on a secret. Then
the channel has the keys that the suite makes of the secret with either salt and owns the open stream, on which
the whole introduction was written and what follows the peer's is unread. In the standard suite the secret is
the one that the keys share and is not zero, and the channel's keys are derived from it. Otherwise the handshake
failed, the stream is closed, and a front of the introduction was written. -/
theorem establishes_or_closes {suite : Suite} {entropy left : Entropy} {stream after : Stream}
    {result : Except Failure Channel} (closable : stream.failingCloses = 0)
    (established : Channel.establish suite entropy stream = ((result, after), left)) :
    (result.isOk = true ↔ ∃ own peer salt peerSalt secret rest,
      Meets suite entropy stream own peer salt peerSalt secret rest) ∧
    (∀ channel, result = .ok channel → ∃ own peer salt peerSalt secret,
      Meets suite entropy stream own peer salt peerSalt secret after.incoming ∧
      after.accepted = stream.accepted ++ ((suite.publicKey own).val ++ salt.val) ∧
      after.closed = false ∧
      channel = Channel.ofKeys after ⟨suite.channelKey salt secret, suite.channelKey peerSalt secret⟩ ∧
      (suite = .standard → Curve25519.shared own peer = secret ∧ (∃ octet ∈ secret.val, octet ≠ 0) ∧
        KeyDerivation.derive salt.val secret.val KeyDerivation.channelLabel 32 =
          .ok (suite.channelKey salt secret).val ∧
        KeyDerivation.derive peerSalt.val secret.val KeyDerivation.channelLabel 32 =
          .ok (suite.channelKey peerSalt secret).val)) ∧
    (∀ failure, result = .error failure →
      (∃ error, failure = .handshake error) ∧ after.closed = true ∧
      ∃ written, after.accepted = stream.accepted ++ written ∧ written <+: introduction suite entropy) := by
  have course := course_perform suite entropy stream
  have kept := (keeps_run suite ⟨.greeting, entropy, stream⟩).closable closable
  change (perform suite entropy stream).2.stream.failingCloses = 0 at kept
  rw [Channel.establish] at established
  generalize perform suite entropy stream = performed at course kept established
  obtain ⟨come, party⟩ := performed
  cases come with
  | ok keys =>
      cases established
      obtain ⟨own, peer, salt, peerSalt, secret, meets, rfl, accepted, opened⟩ := course.exists_meets
      refine ⟨⟨fun _ => ⟨own, peer, salt, peerSalt, secret, _, meets⟩, fun _ => rfl⟩, ?_, ?_⟩
      · intro channel same
        cases same
        refine ⟨own, peer, salt, peerSalt, secret, meets, accepted, opened, rfl, ?_⟩
        rintro rfl
        obtain ⟨shared, nonzero⟩ := agree_standard_eq_some_iff.mp meets.agreed
        exact ⟨shared, nonzero, derive_channelKey salt secret, derive_channelKey peerSalt secret⟩
      · intro failure same
        cases same
  | error error =>
      simp only [Stream.close_of_closable kept] at established
      cases established
      refine ⟨⟨fun succeeded => Bool.noConfusion succeeded, ?_⟩, ?_, ?_⟩
      · rintro ⟨own, peer, salt, peerSalt, secret, rest, meets⟩
        exact Bool.noConfusion (course.isOk_of_meets meets)
      · intro channel same
        cases same
      · intro failure same
        cases same
        exact ⟨⟨error, rfl⟩, rfl, course.exists_written⟩

/-- A stranger who finds the other's key and salt, and one byte more, comes to a channel and leaves that byte
unread. -/
theorem establishes_or_closes_strangers :
    ∃ channel after left, Channel.establish Suite.standard
        { privateKeys := [(Meeting.strangers .left).key], salts := [(Meeting.strangers .left).salt] }
        { address := "right"
          incoming := (Suite.standard.publicKey (Meeting.strangers .right).key).val ++
            ((Meeting.strangers .right).salt.val ++ [7])
          room := some 64 } = ((.ok channel, after), left) ∧
      after.closed = false ∧ after.incoming = [7] ∧
      after.accepted = (Suite.standard.publicKey (Meeting.strangers .left).key).val ++
        (Meeting.strangers .left).salt.val := by
  obtain ⟨secret, agreed⟩ := Meeting.agree_strangers
  generalize come : Channel.establish _ _ _ = established
  obtain ⟨⟨result, after⟩, left⟩ := established
  obtain ⟨succeeds, opens, _⟩ := establishes_or_closes rfl come
  have ok := succeeds.mpr ⟨_, _, _, _, secret, [7], rfl, rfl, rfl, rfl, by decide, agreed .left⟩
  cases result with
  | error failure => cases ok
  | ok channel =>
      obtain ⟨own, peer, salt, peerSalt, _, meets, accepted, opened, _⟩ := opens channel rfl
      have key := (Suite.standard.publicKey (Meeting.strangers .right).key).property
      have salted := (Meeting.strangers .right).salt.property
      obtain ⟨_, behind⟩ := List.append_inj meets.unread (key.trans peer.property.symm)
      obtain ⟨_, unread⟩ := List.append_inj behind (salted.trans peerSalt.property.symm)
      cases meets.drawn
      cases meets.drawnSalt
      exact ⟨channel, after, left, rfl, opened, unread.symm, accepted⟩

end Courier.Handshake
