import Courier.Cipher.Aes

/-!
# Sealing with AES-256 in Galois counter mode

The text is combined with a key stream that depends on the key, the nonce and
the position only, so combining twice gives the text back. A tag of sixteen
bytes over the sealed text is appended; `decrypt` gives nothing unless the tag
is the one that this key and nonce give. Main statement: `decrypt_encrypt`.
-/

namespace Courier.Gcm

abbrev Key := Block 32

abbrev Nonce := Block 12

def tagSize : Nat := 16

/-- An element of the field of the tag, its first 64 coefficients in `high`. -/
structure Element where
  high : UInt64
  low : UInt64
  deriving DecidableEq

namespace Element

def zero : Element := ⟨0, 0⟩

def add (first second : Element) : Element := ⟨first.high ^^^ second.high, first.low ^^^ second.low⟩

/-- The product with the generator: every coefficient moves one place down. -/
def shift (element : Element) : Element :=
  let low := (element.low >>> 1) ||| (element.high <<< 63)
  let high := element.high >>> 1
  if element.low &&& 1 == 0 then ⟨high, low⟩ else ⟨high ^^^ 0xe100000000000000, low⟩

/-- Adds to `sum` the product of `factor` with the highest `count` coefficients of a word. -/
def addProduct : Nat → UInt64 → Element → Element → Element × Element
  | 0, _, factor, sum => (factor, sum)
  | count + 1, bits, factor, sum =>
      addProduct count (bits <<< 1) factor.shift
        (if bits &&& 0x8000000000000000 == 0 then sum else sum.add factor)

def multiply (first second : Element) : Element :=
  let (factor, sum) := addProduct 64 first.high second zero
  (addProduct 64 first.low factor sum).2

def ofOctets (octets : Octets) : Element :=
  let block := (Block.ofOctets 16 octets).val
  ⟨UInt64.ofNat (Octets.ofBig (block.take 8)), UInt64.ofNat (Octets.ofBig (block.drop 8))⟩

def toOctets (element : Element) : Octets :=
  Octets.big 8 element.high.toNat ++ Octets.big 8 element.low.toNat

end Element

/-- Takes a text into a running hash, sixteen bytes at a time, the last block filled up with zeros. -/
def absorb (factor sum : Element) (text : Octets) : Element :=
  if text.isEmpty then sum
  else absorb factor ((sum.add (Element.ofOctets (text.take 16))).multiply factor) (text.drop 16)
termination_by text.length
decreasing_by
  cases text with
  | nil => simp_all
  | cons _ rest =>
      simp only [List.length_drop, List.length_cons]
      omega

/-- The block that counts `index` for a nonce. -/
def counterBlock (nonce : Nonce) (index : Nat) : Aes.Columns :=
  Aes.Columns.ofOctets (nonce.val ++ Octets.big 4 index)

/-- At least `length` bytes of the key stream of a nonce. -/
def keyStream (schedule : Aes.Schedule) (nonce : Nonce) (length : Nat) : Octets :=
  (List.range ((length + 15) / 16)).flatMap fun index =>
    (Aes.encrypt schedule (counterBlock nonce (index + 2))).toOctets

/-- Combines a text with the key stream. -/
def combine (schedule : Aes.Schedule) (nonce : Nonce) (text : Octets) : Octets :=
  Octets.xor text (keyStream schedule nonce text.length)

/-- The tag of a sealed text. -/
def tag (schedule : Aes.Schedule) (nonce : Nonce) (text : Octets) : Octets :=
  let factor := Element.ofOctets (Aes.encrypt schedule ⟨0, 0, 0, 0⟩).toOctets
  let sum := (absorb factor Element.zero text).add ⟨0, UInt64.ofNat (8 * text.length)⟩
  let mask := Element.ofOctets (Aes.encrypt schedule (counterBlock nonce 1)).toOctets
  ((sum.multiply factor).add mask).toOctets

/-- The sealed text followed by its tag. -/
def encrypt (key : Key) (nonce : Nonce) (text : Octets) : Octets :=
  let schedule := Aes.Schedule.ofKey key
  let body := combine schedule nonce text
  body ++ tag schedule nonce body

/-- The text under a seal, if its last sixteen bytes are the tag of what stands before them. -/
def decrypt (key : Key) (nonce : Nonce) (sealedText : Octets) : Option Octets :=
  let schedule := Aes.Schedule.ofKey key
  let body := sealedText.take (sealedText.length - tagSize)
  if sealedText.drop (sealedText.length - tagSize) = tag schedule nonce body then
    some (combine schedule nonce body)
  else none

@[simp] theorem length_tag (schedule : Aes.Schedule) (nonce : Nonce) (text : Octets) :
    (tag schedule nonce text).length = tagSize := by
  simp [tag, Element.toOctets, tagSize]

theorem length_keyStream (schedule : Aes.Schedule) (nonce : Nonce) (length : Nat) :
    length ≤ (keyStream schedule nonce length).length := by
  simp only [keyStream, List.length_flatMap, Aes.Columns.length_toOctets, List.map_const',
    List.sum_replicate_nat, List.length_range]
  omega

@[simp] theorem length_combine (schedule : Aes.Schedule) (nonce : Nonce) (text : Octets) :
    (combine schedule nonce text).length = text.length := by
  have enough := length_keyStream schedule nonce text.length
  simp only [combine, Octets.xor, List.length_zipWith]
  omega

theorem xor_xor (text stream : Octets) (enough : text.length ≤ stream.length) :
    Octets.xor (Octets.xor text stream) stream = text := by
  induction text generalizing stream with
  | nil => rfl
  | cons byte rest ih =>
      cases stream with
      | nil => simp at enough
      | cons other stream =>
          have shorter : rest.length ≤ stream.length := by simpa using enough
          have twice : byte ^^^ other ^^^ other = byte := by
            rw [UInt8.xor_assoc, UInt8.xor_self, UInt8.xor_zero]
          simpa [Octets.xor, twice] using ih stream shorter

theorem combine_combine (schedule : Aes.Schedule) (nonce : Nonce) (text : Octets) :
    combine schedule nonce (combine schedule nonce text) = text := by
  have enough := length_keyStream schedule nonce text.length
  rw [combine, length_combine]
  exact xor_xor text _ enough

@[simp] theorem length_encrypt (key : Key) (nonce : Nonce) (text : Octets) :
    (encrypt key nonce text).length = text.length + tagSize := by
  simp [encrypt]

/-- Decryption gives back what was encrypted under the same key and nonce. -/
theorem decrypt_encrypt (key : Key) (nonce : Nonce) (text : Octets) :
    decrypt key nonce (encrypt key nonce text) = some text := by
  have body : (encrypt key nonce text).length - tagSize =
      (combine (Aes.Schedule.ofKey key) nonce text).length := by simp
  simp only [decrypt, body]
  simp only [encrypt, List.take_left', List.drop_left', combine_combine, if_true]

end Courier.Gcm
