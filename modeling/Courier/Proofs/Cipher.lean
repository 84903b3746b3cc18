import Courier.Cipher
import Courier.Proofs.Octets

/-!
# Ciphers in use

Every use of a cipher takes the nonce of the next counter, whether it succeeds or
not, as long as there is one; after that every use is refused and changes nothing.
So ciphers that begin alike stay in step over any number of uses, and what one has
sealed the other opens.
-/

namespace Courier.Cipher

/-! ## Counters -/

/-- The nonce of a counter that is given as a number. -/
def nonceAt (counter : Nat) : Gcm.Nonce := nonceOf (UInt64.ofNat counter)

/-- The cipher after one more use. -/
def advanced (cipher : Cipher) : Cipher := { cipher with counter := cipher.counter + 1 }

@[simp] theorem key_advanced (cipher : Cipher) : cipher.advanced.key = cipher.key := rfl

theorem next?_of_ne {cipher : Cipher} (more : cipher.counter ≠ lastCounter) :
    cipher.next? = some cipher.advanced := if_neg more

theorem toNat_advanced {cipher : Cipher} (more : cipher.counter ≠ lastCounter) :
    cipher.advanced.counter.toNat = cipher.counter.toNat + 1 :=
  toNat_counter_of_next? (next?_of_ne more)

theorem nonce_advanced (cipher : Cipher) :
    cipher.advanced.nonce = nonceAt (cipher.counter.toNat + 1) := by
  have same : UInt64.ofNat (cipher.counter.toNat + 1) = cipher.counter + 1 := by simp
  rw [nonceAt, same]
  rfl

/-- The cipher after so many more uses. -/
def advancedBy (cipher : Cipher) (count : Nat) : Cipher :=
  { cipher with counter := cipher.counter + UInt64.ofNat count }

@[simp] theorem advancedBy_zero (cipher : Cipher) : cipher.advancedBy 0 = cipher := by
  simp [advancedBy]

@[simp] theorem key_advancedBy (cipher : Cipher) (count : Nat) : (cipher.advancedBy count).key = cipher.key := rfl

theorem advancedBy_advancedBy (cipher : Cipher) (first second : Nat) :
    (cipher.advancedBy first).advancedBy second = cipher.advancedBy (first + second) := by
  simp only [advancedBy, UInt64.ofNat_add, UInt64.add_assoc]

theorem advancedBy_one (cipher : Cipher) : cipher.advancedBy 1 = cipher.advanced := rfl

/-- Uses that do not reach beyond the last counter are counted exactly. -/
theorem toNat_advancedBy {cipher : Cipher} {count : Nat}
    (within : cipher.counter.toNat + count ≤ lastCounter.toNat) :
    (cipher.advancedBy count).counter.toNat = cipher.counter.toNat + count := by
  have last : lastCounter.toNat = 2 ^ 64 - 1 := rfl
  simp only [advancedBy, UInt64.toNat_add, UInt64.toNat_ofNat']
  omega

theorem ne_lastCounter_iff (cipher : Cipher) :
    cipher.counter ≠ lastCounter ↔ cipher.counter.toNat < lastCounter.toNat := by
  have last : lastCounter.toNat = 2 ^ 64 - 1 := rfl
  have bound := cipher.counter.toNat_lt
  rw [ne_eq, ← UInt64.toNat_inj]
  omega

/-! ## Nonces -/

/-- The first eight bytes of a nonce are the digits of its counter. -/
theorem ofLittle_take_nonceOf (counter : UInt64) :
    Octets.ofLittle ((nonceOf counter).val.take 8) = counter.toNat := by
  have digits : (nonceOf counter).val.take 8 = Octets.little 8 counter.toNat :=
    List.take_left' (Octets.length_little 8 counter.toNat)
  have bound : 256 ^ 8 = 2 ^ 64 := rfl
  rw [digits, Octets.ofLittle_little, bound, Nat.mod_eq_of_lt counter.toNat_lt]

theorem drop_nonceOf (counter : UInt64) : (nonceOf counter).val.drop 8 = List.replicate 4 0 :=
  List.drop_left' (Octets.length_little 8 counter.toNat)

/-- Different counters have different nonces. -/
theorem nonceOf_injective {first second : UInt64} (same : nonceOf first = nonceOf second) : first = second := by
  have digits := congrArg (fun nonce : Gcm.Nonce => Octets.ofLittle (nonce.val.take 8)) same
  simp only [ofLittle_take_nonceOf] at digits
  exact UInt64.toNat_inj.mp digits

/-! ## One use -/

/-- What a cipher is used for. -/
inductive Operation where
  | sealBuffer (buffer : Octets)
  | openBuffer (buffer : Octets)
  deriving DecidableEq

namespace Operation

/-- The buffer that an operation works on. -/
def buffer : Operation → Octets
  | sealBuffer buffer | openBuffer buffer => buffer

def use (suite : Suite) (cipher : Cipher) : Operation → Use
  | sealBuffer buffer => cipher.sealBuffer suite buffer
  | openBuffer buffer => cipher.openBuffer suite buffer

/-- What an operation comes to under a key and a nonce: the cause if it fails, and what is then in its
buffer. -/
def under (suite : Suite) (key : Gcm.Key) (nonce : Gcm.Nonce) : Operation → Option CryptoError × Octets
  | sealBuffer buffer => (none, suite.encrypt key nonce buffer)
  | openBuffer buffer =>
      if buffer.length < Gcm.tagSize then (some .sealedTooShort, [])
      else
        match suite.decrypt key nonce buffer with
        | none => (some .tagMismatch, [])
        | some text => (none, text)

variable {suite : Suite} {cipher : Cipher}

/-- At the last counter an operation is refused and changes nothing. -/
theorem use_of_exhausted (exhausted : cipher.counter = lastCounter) (operation : Operation) :
    operation.use suite cipher = ⟨some .nonceExhausted, operation.buffer, cipher⟩ := by
  have refused : cipher.next? = none := (next?_eq_none_iff cipher).mpr exhausted
  cases operation with
  | sealBuffer buffer => rw [use, Cipher.sealBuffer, refused, Operation.buffer]
  | openBuffer buffer => rw [use, Cipher.openBuffer, refused, Operation.buffer]

/-- Before that it is done under the next nonce, and the cipher moves on whatever it comes to. -/
theorem use_of_ne (more : cipher.counter ≠ lastCounter) (operation : Operation) :
    operation.use suite cipher =
      ⟨(operation.under suite cipher.key cipher.advanced.nonce).1,
        (operation.under suite cipher.key cipher.advanced.nonce).2, cipher.advanced⟩ := by
  have moved : cipher.next? = some cipher.advanced := next?_of_ne more
  cases operation with
  | sealBuffer buffer =>
      rw [use, Cipher.sealBuffer, moved]
      rfl
  | openBuffer buffer =>
      rw [use, Cipher.openBuffer, moved, under]
      by_cases short : buffer.length < Gcm.tagSize
      · simp only [if_pos short]
      · simp only [if_neg short, key_advanced]
        cases suite.decrypt cipher.key cipher.advanced.nonce buffer with
        | none => rfl
        | some text => rfl

/-- What fails under a nonce leaves nothing in its buffer. -/
theorem buffer_of_failed (key : Gcm.Key) (nonce : Gcm.Nonce) {operation : Operation}
    (failed : (operation.under suite key nonce).1.isSome) : (operation.under suite key nonce).2 = [] := by
  cases operation with
  | sealBuffer buffer => cases failed
  | openBuffer buffer =>
      rw [under] at failed ⊢
      split
      · rfl
      · rename_i long
        rw [if_neg long] at failed
        split
        · rfl
        · rename_i opened
          rw [opened] at failed
          cases failed

theorem use_sealBuffer (more : cipher.counter ≠ lastCounter) (text : Octets) :
    (sealBuffer text).use suite cipher =
      ⟨none, suite.encrypt cipher.key cipher.advanced.nonce text, cipher.advanced⟩ := use_of_ne more _

/-- What was sealed is opened again by a cipher with the same key and counter. -/
theorem use_openBuffer_sealBuffer (lawful : suite.Lawful) (more : cipher.counter ≠ lastCounter) (text : Octets) :
    (openBuffer ((sealBuffer text).use suite cipher).buffer).use suite cipher = ⟨none, text, cipher.advanced⟩ := by
  have long : ¬ (suite.encrypt cipher.key cipher.advanced.nonce text).length < Gcm.tagSize := by
    rw [lawful.length_encrypt]
    exact Nat.not_lt_of_le (Nat.le_add_left _ _)
  rw [use_sealBuffer more, use_of_ne more]
  simp only [under, if_neg long, lawful.decrypt_encrypt]

/-- What could not be sealed for want of a nonce is left as it was on both sides. -/
theorem buffer_openBuffer_sealBuffer (lawful : suite.Lawful) (cipher : Cipher) (text : Octets) :
    ((openBuffer ((sealBuffer text).use suite cipher).buffer).use suite cipher).buffer = text := by
  by_cases more : cipher.counter = lastCounter
  · rw [use_of_exhausted more, use_of_exhausted more]
    rfl
  · rw [use_openBuffer_sealBuffer lawful more]

end Operation

/-! ## Uses in a row -/

/-- The uses that operations make of a cipher, one after the other. -/
def uses (suite : Suite) : Cipher → List Operation → List Use
  | _, [] => []
  | cipher, operation :: rest =>
      operation.use suite cipher :: uses suite (operation.use suite cipher).cipher rest

/-- How many uses there are nonces for. -/
def supply (cipher : Cipher) : Nat := lastCounter.toNat - cipher.counter.toNat

/-- The cipher after so many uses. -/
def usedBy (cipher : Cipher) (count : Nat) : Cipher := cipher.advancedBy (min count cipher.supply)

variable {suite : Suite} {cipher : Cipher}

theorem toNat_usedBy (cipher : Cipher) (count : Nat) :
    (cipher.usedBy count).counter.toNat = min (cipher.counter.toNat + count) lastCounter.toNat := by
  have last : lastCounter.toNat = 2 ^ 64 - 1 := rfl
  have bound := cipher.counter.toNat_lt
  rw [usedBy, toNat_advancedBy] <;> rw [supply] <;> omega

theorem usedBy_usedBy (cipher : Cipher) (first second : Nat) :
    (cipher.usedBy first).usedBy second = cipher.usedBy (first + second) := by
  have last : lastCounter.toNat = 2 ^ 64 - 1 := rfl
  have counters : ((cipher.usedBy first).usedBy second).counter = (cipher.usedBy (first + second)).counter := by
    rw [← UInt64.toNat_inj, toNat_usedBy, toNat_usedBy, toNat_usedBy]
    omega
  exact congrArg (Cipher.mk cipher.key) counters

/-- A use moves the cipher by one, unless it is at the last counter. -/
theorem cipher_use (suite : Suite) (cipher : Cipher) (operation : Operation) :
    (operation.use suite cipher).cipher = cipher.usedBy 1 := by
  by_cases more : cipher.counter = lastCounter
  · have none : cipher.supply = 0 := by rw [supply, more, Nat.sub_self]
    rw [Operation.use_of_exhausted more, usedBy, none, Nat.min_zero, advancedBy_zero]
  · have some : 1 ≤ cipher.supply := Nat.sub_pos_of_lt ((ne_lastCounter_iff cipher).mp more)
    rw [Operation.use_of_ne more, usedBy, Nat.min_eq_left some, advancedBy_one]

/-- What came before a use shows in the counter alone. -/
theorem getElem?_uses (suite : Suite) (cipher : Cipher) (operations : List Operation) (i : Nat) :
    (cipher.uses suite operations)[i]? = operations[i]?.map fun operation => operation.use suite (cipher.usedBy i) := by
  induction operations generalizing cipher i with
  | nil => rfl
  | cons operation rest ih =>
      cases i with
      | zero =>
          rw [usedBy, Nat.zero_min, advancedBy_zero]
          rfl
      | succ i =>
          rw [uses, List.getElem?_cons_succ, List.getElem?_cons_succ, ih, cipher_use, usedBy_usedBy,
            Nat.add_comm 1 i]

theorem length_uses (suite : Suite) (cipher : Cipher) (operations : List Operation) :
    (cipher.uses suite operations).length = operations.length := by
  induction operations generalizing cipher with
  | nil => rfl
  | cons operation rest ih => rw [uses, List.length_cons, List.length_cons, ih]

/-- The uses in which a cipher seals one text after the other. -/
def sealings (suite : Suite) (cipher : Cipher) (texts : List Octets) : List Use :=
  cipher.uses suite (texts.map .sealBuffer)

/-- The uses in which a cipher with the same key and counter opens what came of them. -/
def openings (suite : Suite) (cipher : Cipher) (texts : List Octets) : List Use :=
  cipher.uses suite ((cipher.sealings suite texts).map fun sealing => .openBuffer sealing.buffer)

theorem getElem?_sealings (suite : Suite) (cipher : Cipher) (texts : List Octets) (i : Nat) :
    (cipher.sealings suite texts)[i]? =
      texts[i]?.map fun text => (Operation.sealBuffer text).use suite (cipher.usedBy i) := by
  rw [sealings, getElem?_uses, List.getElem?_map, Option.map_map]
  rfl

theorem getElem?_openings (suite : Suite) (cipher : Cipher) (texts : List Octets) (i : Nat) :
    (cipher.openings suite texts)[i]? =
      texts[i]?.map fun text =>
        (Operation.openBuffer ((Operation.sealBuffer text).use suite (cipher.usedBy i)).buffer).use suite
          (cipher.usedBy i) := by
  rw [openings, getElem?_uses, List.getElem?_map, getElem?_sealings, Option.map_map, Option.map_map]
  rfl

theorem usedBy_ne_lastCounter {count : Nat} (more : cipher.counter.toNat + count < lastCounter.toNat) :
    (cipher.usedBy count).counter ≠ lastCounter := by
  rw [ne_lastCounter_iff, toNat_usedBy, Nat.min_eq_left (Nat.le_of_lt more)]
  exact more

/-- As long as there are nonces, a use takes the one that is one further on than there were uses before. -/
theorem use_usedBy_of_lt (suite : Suite) {count : Nat}
    (more : cipher.counter.toNat + count < lastCounter.toNat) (operation : Operation) :
    ∃ counter : UInt64, counter.toNat = cipher.counter.toNat + count + 1 ∧
      operation.use suite (cipher.usedBy count) =
        ⟨(operation.under suite cipher.key (nonceOf counter)).1,
          (operation.under suite cipher.key (nonceOf counter)).2, ⟨cipher.key, counter⟩⟩ := by
  have further := usedBy_ne_lastCounter more
  refine ⟨(cipher.usedBy count).advanced.counter, ?_, Operation.use_of_ne further operation⟩
  rw [toNat_advanced further, toNat_usedBy, Nat.min_eq_left (Nat.le_of_lt more)]

theorem use_usedBy_of_le {count : Nat} (exhausted : lastCounter.toNat ≤ cipher.counter.toNat + count)
    (operation : Operation) :
    operation.use suite (cipher.usedBy count) =
      ⟨some .nonceExhausted, operation.buffer, ⟨cipher.key, lastCounter⟩⟩ := by
  have reached : (cipher.usedBy count).counter = lastCounter := by
    rw [← UInt64.toNat_inj, toNat_usedBy, Nat.min_eq_right exhausted]
  rw [Operation.use_of_exhausted reached, ← reached]
  rfl

/-- Whatever a cipher is used for and in whatever order: the use that follows `i` others takes the nonce of the
counter `i + 1` further on, leaves the cipher at that counter whether it succeeds or fails, and leaves its buffer
empty if it fails; from the last counter on every use is refused and changes nothing. A nonce is the digits of its
counter and four zeros, so different counters have different nonces. And in a suite in which decryption inverts
encryption, whatever texts are sealed with a cipher, another one with the same key and counter gives them back in
the same order, each from sixteen bytes more for as long as there are nonces. -/
theorem takes_nonces_in_turn (suite : Suite) (cipher : Cipher) (operations : List Operation)
    (texts : List Octets) :
    (cipher.uses suite operations).length = operations.length ∧
    (∀ i operation use, operations[i]? = some operation → (cipher.uses suite operations)[i]? = some use →
      (cipher.counter.toNat + i < lastCounter.toNat →
        ∃ counter : UInt64, counter.toNat = cipher.counter.toNat + i + 1 ∧
          (use.refusal, use.buffer) = operation.under suite cipher.key (nonceOf counter) ∧
          use.cipher = ⟨cipher.key, counter⟩ ∧ (use.refusal.isSome → use.buffer = [])) ∧
      (lastCounter.toNat ≤ cipher.counter.toNat + i →
        use = ⟨some .nonceExhausted, operation.buffer, ⟨cipher.key, lastCounter⟩⟩)) ∧
    (∀ counter : UInt64, Octets.ofLittle ((nonceOf counter).val.take 8) = counter.toNat ∧
      (nonceOf counter).val.drop 8 = List.replicate 4 0) ∧
    (∀ first second : UInt64, nonceOf first = nonceOf second → first = second) ∧
    (suite.Lawful → (cipher.openings suite texts).map Use.buffer = texts ∧
      ∀ i text, texts[i]? = some text → cipher.counter.toNat + i < lastCounter.toNat →
        ∃ sealing opening, (cipher.sealings suite texts)[i]? = some sealing ∧
          (cipher.openings suite texts)[i]? = some opening ∧ sealing.refusal = none ∧
          sealing.buffer.length = text.length + 16 ∧ opening.refusal = none ∧ opening.buffer = text) := by
  refine ⟨length_uses suite cipher operations, ?_,
    fun counter => ⟨ofLittle_take_nonceOf counter, drop_nonceOf counter⟩,
    fun first second => nonceOf_injective, fun lawful => ⟨?_, ?_⟩⟩
  · intro i operation use given taken
    have used : operation.use suite (cipher.usedBy i) = use := by
      rw [getElem?_uses, given] at taken
      exact Option.some.inj taken
    constructor
    · intro more
      obtain ⟨counter, further, comes⟩ := use_usedBy_of_lt suite more operation
      rw [← used, comes]
      exact ⟨counter, further, rfl, rfl, Operation.buffer_of_failed cipher.key (nonceOf counter)⟩
    · intro exhausted
      rw [← used]
      exact use_usedBy_of_le exhausted operation
  · apply List.ext_getElem?
    intro i
    rw [List.getElem?_map, getElem?_openings, Option.map_map]
    cases texts[i]? with
    | none => rfl
    | some text => exact congrArg some (Operation.buffer_openBuffer_sealBuffer lawful _ text)
  · intro i text given more
    have further := usedBy_ne_lastCounter more
    have sealed : (cipher.sealings suite texts)[i]? = some
        ⟨none, suite.encrypt cipher.key (cipher.usedBy i).advanced.nonce text, (cipher.usedBy i).advanced⟩ := by
      rw [getElem?_sealings, given, Option.map_some, Operation.use_sealBuffer further]
      rfl
    have opened : (cipher.openings suite texts)[i]? = some ⟨none, text, (cipher.usedBy i).advanced⟩ := by
      rw [getElem?_openings, given, Option.map_some, Operation.use_openBuffer_sealBuffer lawful further]
    exact ⟨_, _, sealed, opened, rfl, lawful.length_encrypt _ _ text, rfl, rfl⟩

/-- Two texts, one of them empty, under the standard suite. -/
theorem takes_nonces_in_turn_standard :
    Suite.standard.Lawful ∧
      ((ofKey ⟨List.replicate 32 0, rfl⟩).openings .standard [[1, 2], []]).map Use.buffer = [[1, 2], []] :=
  have lawful := Suite.standard_lawful
  ⟨lawful, ((takes_nonces_in_turn .standard (ofKey ⟨List.replicate 32 0, rfl⟩) [] [[1, 2], []]).2.2.2.2 lawful).1⟩

end Courier.Cipher
