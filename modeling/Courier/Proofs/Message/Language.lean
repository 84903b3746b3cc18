import Courier.Proofs.Message

/-!
# The language of messages

A byte string is the encoding of a message or it has a flaw: it ends too early,
its tag or its status has no meaning, or something follows the message. Reading
gives back the message in the first case and names the flaw in the second, so
that every message has one encoding and none begins with another.
-/

namespace Courier.Message

/-- What keeps a byte string from being a message, and how reading reports it. -/
inductive Flaw : Octets → WireError → Prop where
  | noTag {bytes : Octets} (few : bytes.length < 4) : Flaw bytes (.truncated 0)
  | unknownTag (tag : UInt32) (rest : Octets) (unknown : ∀ kind : Kind, kind.code ≠ tag.toNat) :
      Flaw (Octets.little 4 tag.toNat ++ rest) (.unknownTag tag.toNat)
  | noContent (kind : Kind) {rest : Octets} (carries : kind ≠ .disconnect) (few : rest.length < 4) :
      Flaw (Octets.little 4 kind.code ++ rest) (.truncated 4)
  | unknownStatus (status : Status) (rest : Octets) (unknown : status.isKnown = false) :
      Flaw ((response status).encode ++ rest) (.unknownStatus status.code.toNat)
  | trailing {message : Message} (valid : message.isValid = true) {rest : Octets} (more : rest ≠ []) :
      Flaw (message.encode ++ rest) (.trailing rest.length message.kind)

variable {bytes : Octets} {error : WireError}

/-! ## Flaws are found -/

theorem takeNumber_of_lt (offset : Nat) (few : bytes.length < 4) :
    takeNumber offset bytes = .error (.truncated offset) := if_pos few

theorem ofCode?_eq_none {code : Nat} (unknown : ∀ kind : Kind, kind.code ≠ code) :
    Kind.ofCode? code = none :=
  Option.eq_none_iff_forall_ne_some.mpr fun kind found => unknown kind (Kind.ofCode?_eq_some_iff.mp found)

theorem finish_of_ne_nil (message : Message) {rest : Octets} (more : rest ≠ []) :
    finish message rest = .error (.trailing rest.length message.kind) := by
  rw [finish, if_neg]
  intro empty
  exact more (List.isEmpty_iff.mp empty)

theorem decodeRest_of_lt {kind : Kind} {rest : Octets} (carries : kind ≠ .disconnect)
    (few : rest.length < 4) : decodeRest rest kind = .error (.truncated 4) := by
  cases kind with
  | greeting | response =>
      rw [decodeRest, takeNumber_of_lt 4 few]
      rfl
  | disconnect => exact absurd rfl carries

theorem Flaw.decode_eq (flaw : Flaw bytes error) : decode bytes = .error error := by
  cases flaw with
  | noTag few =>
      rw [decode, takeNumber_of_lt 0 few]
      rfl
  | unknownTag tag rest unknown =>
      rw [decode_append tag.toNat_lt, ofCode?_eq_none unknown]
      rfl
  | noContent kind carries few => rw [decode_of_kind, decodeRest_of_lt carries few]
  | unknownStatus status rest unknown =>
      rw [encode, List.append_assoc, decode_of_kind, decodeRest_response, unknown]
      rfl
  | trailing valid more => rw [decode_encode_append valid, finish_of_ne_nil _ more]

/-! ## Nothing else is refused -/

/-- The first four bytes are a number, if there are so many. -/
theorem short_or_number (bytes : Octets) :
    bytes.length < 4 ∨ ∃ (value : UInt32) (rest : Octets), bytes = Octets.little 4 value.toNat ++ rest := by
  rcases Octets.short_or_block 4 bytes with few | ⟨block, rest, rfl⟩
  · exact .inl few
  · have bound := Octets.ofLittle_lt block.val
    have digits := Octets.little_ofLittle block.val
    rw [block.property] at bound digits
    have value : (UInt32.ofNat (Octets.ofLittle block.val)).toNat = Octets.ofLittle block.val :=
      UInt32.toNat_ofNat_of_lt' bound
    exact .inr ⟨UInt32.ofNat (Octets.ofLittle block.val), rest, by rw [value, digits]⟩

theorem encoding_or_trailing (message : Message) (valid : message.isValid = true) (rest : Octets) :
    (∃ whole : Message, whole.isValid = true ∧ whole.encode = message.encode ++ rest) ∨
      ∃ error, Flaw (message.encode ++ rest) error := by
  by_cases more : rest = []
  · exact .inl ⟨message, valid, by rw [more, List.append_nil]⟩
  · exact .inr ⟨_, .trailing valid more⟩

/-- Every byte string is the encoding of a message or has a flaw. -/
theorem encoding_or_flaw (bytes : Octets) :
    (∃ message : Message, message.isValid = true ∧ message.encode = bytes) ∨ ∃ error, Flaw bytes error := by
  rcases short_or_number bytes with few | ⟨tag, rest, rfl⟩
  · exact .inr ⟨_, .noTag few⟩
  · cases known : Kind.ofCode? tag.toNat with
    | none =>
        refine .inr ⟨_, .unknownTag tag rest fun kind same => ?_⟩
        rw [Kind.ofCode?_eq_some_iff.mpr same] at known
        cases known
    | some kind =>
        rw [← Kind.ofCode?_eq_some_iff.mp known]
        -- what follows the tag is looked at as the kind asks for it
        cases kind with
        | greeting =>
            rcases short_or_number rest with few | ⟨version, rest, rfl⟩
            · exact .inr ⟨_, .noContent .greeting nofun few⟩
            · rw [← List.append_assoc]
              exact encoding_or_trailing (greeting version) rfl rest
        | response =>
            rcases short_or_number rest with few | ⟨code, rest, rfl⟩
            · exact .inr ⟨_, .noContent .response nofun few⟩
            · rw [← List.append_assoc]
              cases meaning : Status.isKnown ⟨code⟩ with
              | true => exact encoding_or_trailing (response ⟨code⟩) meaning rest
              | false => exact .inr ⟨_, .unknownStatus ⟨code⟩ rest meaning⟩
        | disconnect => exact encoding_or_trailing disconnect rfl rest

/-! ## The language -/

theorem decode_eq_ok_iff {message : Message} :
    decode bytes = .ok message ↔ message.isValid = true ∧ message.encode = bytes := by
  constructor
  · intro read
    rcases encoding_or_flaw bytes with ⟨other, valid, rfl⟩ | ⟨error, flaw⟩
    · rw [decode_encode valid] at read
      cases read
      exact ⟨valid, rfl⟩
    · rw [flaw.decode_eq] at read
      cases read
  · rintro ⟨valid, rfl⟩
    exact decode_encode valid

theorem decode_eq_error_iff : decode bytes = .error error ↔ Flaw bytes error := by
  constructor
  · intro refused
    rcases encoding_or_flaw bytes with ⟨message, valid, rfl⟩ | ⟨other, flaw⟩
    · rw [decode_encode valid] at refused
      cases refused
    · rw [flaw.decode_eq] at refused
      cases refused
      exact flaw
  · exact Flaw.decode_eq

/-- An encoding begins with no other. -/
theorem eq_of_encode_prefix {first second : Message} (firstValid : first.isValid = true)
    (secondValid : second.isValid = true) (front : first.encode <+: second.encode) : first = second := by
  obtain ⟨rest, whole⟩ := front
  have read := decode_encode secondValid
  rw [← whole] at read
  by_cases more : rest = []
  · rw [more, List.append_nil, decode_encode firstValid] at read
    cases read
    rfl
  · rw [(Flaw.trailing firstValid more).decode_eq] at read
    cases read

/-- Reading inverts writing and nothing else is read: a byte string is read as a message exactly if the
message is one that the wire can carry and this is its encoding. Every other byte string is refused with
its flaw, the encoding of a response whose status has no meaning among them. Two messages that the wire
can carry have different encodings, and neither is the beginning of the other. -/
theorem decode_inverts_encode :
    (∀ (bytes : Octets) (message : Message),
      decode bytes = .ok message ↔ message.isValid = true ∧ message.encode = bytes) ∧
    (∀ message : Message, message.isValid = true ↔
      ∀ status, message = response status → status = .ok ∨ status = .unsupported) ∧
    (∀ bytes : Octets, (∀ message : Message, message.isValid = true → message.encode ≠ bytes) →
      ∃ error, decode bytes = .error error) ∧
    (∀ (bytes : Octets) (error : WireError), decode bytes = .error error ↔ Flaw bytes error) ∧
    (∀ status : Status, status ≠ .ok → status ≠ .unsupported →
      decode (response status).encode = .error (.unknownStatus status.code.toNat)) ∧
    ∀ first second : Message, first.isValid = true → second.isValid = true →
      first.encode <+: second.encode → first = second := by
  have isValid_iff (message : Message) : message.isValid = true ↔
      ∀ status, message = response status → status = .ok ∨ status = .unsupported := by
    cases message <;> simp [isValid, Status.isKnown]
  refine ⟨fun _ _ => decode_eq_ok_iff, isValid_iff, ?_, fun _ _ => decode_eq_error_iff, ?_,
    fun _ _ => eq_of_encode_prefix⟩
  · intro bytes none
    rcases encoding_or_flaw bytes with ⟨message, valid, same⟩ | ⟨error, flaw⟩
    · exact absurd same (none message valid)
    · exact ⟨error, flaw.decode_eq⟩
  · intro status notOk notUnsupported
    have unknown : status.isKnown = false := by simp [Status.isKnown, notOk, notUnsupported]
    have refused := (Flaw.unknownStatus status [] unknown).decode_eq
    rwa [List.append_nil] at refused

end Courier.Message
