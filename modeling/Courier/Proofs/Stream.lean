import Courier.Stream

/-!
# Reading and writing on an open stream

What a read takes is decided by how many bytes are unread, and what a write
leaves by how much is taken. These are the two equations and their frame
conditions; a stream that loses nothing takes every write whole.
-/

namespace Courier

namespace Stream

/-- Every byte that is written to this stream is taken. -/
structure IsLossless (stream : Stream) : Prop where
  opened : stream.closed = false
  unlimited : stream.room = none

/-- No write to this stream is taken any more. -/
def IsSpent (stream : Stream) : Prop := stream.closed = true ∨ stream.room = some 0

/-- The stream when these bytes are unread. -/
def withUnread (stream : Stream) (bytes : Octets) : Stream := { stream with incoming := bytes }

@[simp] theorem withUnread_withUnread (stream : Stream) (first second : Octets) :
    (stream.withUnread first).withUnread second = stream.withUnread second := rfl

@[simp] theorem withUnread_incoming (stream : Stream) : stream.withUnread stream.incoming = stream := rfl

/-! ## Reading -/

theorem read_of_le {stream : Stream} {count : Nat} (opened : stream.closed = false)
    (enough : count ≤ stream.incoming.length) :
    stream.read count =
      (.ok ⟨stream.incoming.take count, List.length_take_of_le enough⟩,
        stream.withUnread (stream.incoming.drop count)) := by
  have length : (stream.incoming.take count).length = count := List.length_take_of_le enough
  simp [read, available, opened, Block.ofOctets?, length, withUnread]

theorem read_of_lt {stream : Stream} {count : Nat} (opened : stream.closed = false)
    (few : stream.incoming.length < count) :
    stream.read count = (.error stream.incoming.length, stream.withUnread []) := by
  have all : stream.incoming.take count = stream.incoming := List.take_of_length_le (Nat.le_of_lt few)
  have unequal : stream.incoming.length ≠ count := Nat.ne_of_lt few
  simp [read, available, opened, Block.ofOctets?, all, unequal, withUnread]

/-- A block that stands at the front is read, whatever follows it. -/
theorem read_append {stream : Stream} {count : Nat} (opened : stream.closed = false)
    (block : Block count) {rest : Octets} (front : stream.incoming = block.val ++ rest) :
    stream.read count = (.ok block, stream.withUnread rest) := by
  have enough : count ≤ stream.incoming.length := by
    rw [front, List.length_append, block.property]
    exact Nat.le_add_right count rest.length
  have taken : stream.incoming.take count = block.val := by
    rw [front, List.take_left' block.property]
  have left : stream.incoming.drop count = rest := by
    rw [front, List.drop_left' block.property]
  rw [read_of_le opened enough]
  simp only [taken, left]

theorem read_of_closed {stream : Stream} {count : Nat} (closed : stream.closed = true) (positive : 0 < count) :
    stream.read count = (.error 0, stream) := by
  have none : Block.ofOctets? count [] = none := dif_neg (Nat.ne_of_lt positive)
  simp only [read, available, if_pos closed, none, List.length_nil, List.drop_zero]

/-- The bytes that a read can still take. -/
def offered (stream : Stream) : Octets := if stream.closed then [] else stream.incoming

theorem offered_of_closed {stream : Stream} (closed : stream.closed = true) : stream.offered = [] := if_pos closed

theorem offered_of_opened {stream : Stream} (opened : stream.closed = false) :
    stream.offered = stream.incoming := if_neg (Bool.not_eq_true _ ▸ opened)

/-- Where something is offered the stream is open, and that is what has arrived. -/
theorem of_offered_ne_nil {stream : Stream} (something : stream.offered ≠ []) :
    stream.closed = false ∧ stream.offered = stream.incoming := by
  cases opened : stream.closed with
  | false => exact ⟨rfl, offered_of_opened opened⟩
  | true => exact absurd (offered_of_closed opened) something

/-! ## Writing -/

theorem capacity_le (stream : Stream) (count : Nat) : stream.capacity count ≤ count := by
  unfold capacity
  split
  · exact Nat.zero_le count
  · split
    · exact Nat.le_refl count
    · exact Nat.min_le_right _ count

theorem write_of_isLossless {stream : Stream} (lossless : stream.IsLossless) (data : Octets) :
    stream.write data = (data.length, none, { stream with accepted := stream.accepted ++ data }) := by
  obtain ⟨opened, unlimited⟩ := lossless
  have whole : stream.capacity data.length = data.length := by
    simp [capacity, opened, unlimited]
  simp [write, whole, unlimited]

/-- Writing does not look at what is unread. -/
theorem write_withUnread (stream : Stream) (bytes data : Octets) :
    (stream.withUnread bytes).write data =
      ((stream.write data).1, (stream.write data).2.1, (stream.write data).2.2.withUnread bytes) := rfl

/-- Whether a write of so many bytes is taken whole. -/
def Takes (stream : Stream) (count : Nat) : Prop := stream.capacity count = count

theorem takes_iff (stream : Stream) (count : Nat) :
    stream.Takes count ↔
      count = 0 ∨ (stream.closed = false ∧ ∀ room, stream.room = some room → count ≤ room) := by
  unfold Takes capacity
  cases closed : stream.closed with
  | true => simp [eq_comm]
  | false =>
      cases limited : stream.room with
      | none => simp
      | some room =>
          simp only [Bool.false_eq_true, if_false, Option.some.injEq, true_and, forall_eq']
          omega

/-- What is written when everything is taken. -/
theorem write_of_takes {stream : Stream} {data : Octets} (taken : stream.Takes data.length) :
    stream.write data =
      (data.length, none,
        { stream with
          accepted := stream.accepted ++ data
          room := stream.room.map (· - data.length) }) := by
  have whole : stream.capacity data.length = data.length := taken
  simp [write, whole]

/-- What is written without a fault is taken whole. -/
theorem accepted_of_write {stream next : Stream} {data : Octets} {count : Nat}
    (written : stream.write data = (count, none, next)) : next.accepted = stream.accepted ++ data := by
  have faultless := congrArg (fun result => result.2.1) written
  have accepted := congrArg (fun result => result.2.2.accepted) written
  simp only [write, ite_eq_right_iff, reduceCtorEq, imp_false, Nat.not_lt] at faultless accepted
  rw [← accepted, List.take_of_length_le faultless]

/-- A stream that takes something is open. -/
theorem Takes.opened {stream : Stream} {count : Nat} (taken : stream.Takes count) (positive : 0 < count) :
    stream.closed = false := by
  rcases (stream.takes_iff count).mp taken with nothing | ⟨opened, _⟩
  · exact absurd nothing (Nat.ne_of_gt positive)
  · exact opened

/-- A stream that takes so much takes less as well. -/
theorem Takes.mono {stream : Stream} {less count : Nat} (taken : stream.Takes count) (within : less ≤ count) :
    stream.Takes less := by
  rw [takes_iff] at taken ⊢
  rcases taken with nothing | ⟨opened, limit⟩
  · exact .inl (by omega)
  · exact .inr ⟨opened, fun room limited => Nat.le_trans within (limit room limited)⟩

theorem takes_block {stream : Stream} {count : Nat} (block : Block count) :
    stream.Takes block.val.length ↔ stream.Takes count := by rw [block.property]

theorem takes_blocks {stream : Stream} {first second : Nat} (block : Block first) (other : Block second) :
    stream.Takes (block.val ++ other.val).length ↔ stream.Takes (first + second) := by
  rw [List.length_append, block.property, other.property]

/-- A write of which not everything is taken breaks. -/
theorem write_of_not_takes {stream : Stream} {data : Octets} (short : ¬ stream.Takes data.length) :
    stream.write data =
      (stream.capacity data.length, some .brokenPipe, (stream.write data).2.2) := by
  have less : stream.capacity data.length < data.length :=
    Nat.lt_of_le_of_ne (stream.capacity_le data.length) short
  simp [write, less]

/-- Where two writes together are taken whole, the first is, and after it the second. -/
theorem Takes.of_append {stream : Stream} {first second : Octets}
    (taken : stream.Takes (first ++ second).length) :
    stream.Takes first.length ∧ (stream.write first).2.2.Takes second.length := by
  rw [List.length_append, takes_iff] at taken
  have begun : stream.Takes first.length := by
    rw [takes_iff]
    rcases taken with nothing | ⟨opened, within⟩
    · exact Or.inl (by omega)
    · refine Or.inr ⟨opened, fun room limited => ?_⟩
      have bound := within room limited
      omega
  refine ⟨begun, ?_⟩
  rw [write_of_takes begun, takes_iff]
  rcases taken with nothing | ⟨opened, within⟩
  · exact Or.inl (by omega)
  · refine Or.inr ⟨opened, fun room limited => ?_⟩
    obtain ⟨before, unlimited, rest⟩ := Option.map_eq_some_iff.mp limited
    have bound := within before unlimited
    omega

/-- What is taken in two writes is taken in one. -/
theorem Takes.append {stream : Stream} {first second : Octets} (begun : stream.Takes first.length)
    (ended : (stream.write first).2.2.Takes second.length) : stream.Takes (first ++ second).length := by
  rw [write_of_takes begun] at ended
  rw [takes_iff] at begun ended ⊢
  rw [List.length_append]
  rcases ended with nothing | ⟨opened, within⟩
  · rw [nothing]
    exact begun
  · refine Or.inr ⟨opened, fun room limited => ?_⟩
    have bound := within (room - first.length) (by simp only [limited, Option.map_some])
    rcases begun with nothing | ⟨_, before⟩
    · omega
    · have bound' := before room limited
      omega

/-- Writing twice is writing once, as long as everything is taken. -/
theorem write_write {stream : Stream} {first second : Octets}
    (taken : stream.Takes (first ++ second).length) :
    ((stream.write first).2.2.write second).2.2 = (stream.write (first ++ second)).2.2 := by
  obtain ⟨begun, ended⟩ := taken.of_append
  rw [write_of_takes ended, write_of_takes begun, write_of_takes taken]
  simp only [List.append_assoc, List.length_append, Option.map_map]
  congr 1
  refine congrArg (fun change => stream.room.map change) (funext fun room => ?_)
  exact Nat.sub_sub room first.length second.length

theorem capacity_of_isSpent {stream : Stream} (spent : stream.IsSpent) (count : Nat) :
    stream.capacity count = 0 := by
  unfold capacity
  rcases spent with closed | empty
  · rw [if_pos closed]
  · rw [empty]
    split
    · rfl
    · exact Nat.zero_min count

/-- A write of which not everything was taken is the last of which anything is taken. -/
theorem isSpent_of_short {stream : Stream} {data : Octets}
    (short : stream.capacity data.length < data.length) : (stream.write data).2.2.IsSpent := by
  unfold capacity at short
  split at short
  · rename_i closed
    exact Or.inl closed
  · rename_i opened
    split at short
    · exact absurd short (Nat.lt_irrefl _)
    · rename_i room limited
      have all : min room data.length = room := by omega
      refine Or.inr ?_
      simp [write, capacity, opened, limited, all]

theorem IsSpent.write {stream : Stream} (spent : stream.IsSpent) (data : Octets) :
    (stream.write data).2.2.IsSpent := by
  have nothing := capacity_of_isSpent spent data.length
  rcases spent with closed | empty
  · exact Or.inl closed
  · refine Or.inr ?_
    simp [Stream.write, empty, nothing]

theorem IsSpent.close {stream : Stream} (spent : stream.IsSpent) : stream.close.2.IsSpent := by
  unfold Stream.close
  split
  · exact Or.inl rfl
  · exact spent

theorem IsSpent.read {stream : Stream} (spent : stream.IsSpent) (count : Nat) :
    (stream.read count).2.IsSpent := by
  unfold Stream.read
  simp only
  split <;> exact spent

/-! ## What stays -/

@[simp] theorem accepted_read (stream : Stream) (count : Nat) :
    (stream.read count).2.accepted = stream.accepted := by
  unfold read
  simp only
  split <;> rfl

@[simp] theorem accepted_close (stream : Stream) : stream.close.2.accepted = stream.accepted := by
  unfold close
  split <;> rfl

/-- One that closes at the first attempt still does, and one that is closed stays so. -/
structure Keeps (before after : Stream) : Prop where
  closable : before.failingCloses = 0 → after.failingCloses = 0
  closed : before.closed = true → after.closed = true

namespace Keeps

theorem refl (stream : Stream) : Keeps stream stream := ⟨fun closable => closable, fun closed => closed⟩

theorem trans {first second third : Stream} (begun : Keeps first second) (ended : Keeps second third) :
    Keeps first third where
  closable := fun closable => ended.closable (begun.closable closable)
  closed := fun closed => ended.closed (begun.closed closed)

theorem read (stream : Stream) (count : Nat) : Keeps stream (stream.read count).2 := by
  unfold Stream.read
  simp only
  split <;> exact ⟨fun closable => closable, fun closed => closed⟩

theorem write (stream : Stream) (data : Octets) : Keeps stream (stream.write data).2.2 :=
  ⟨fun closable => closable, fun closed => closed⟩

theorem feed (stream : Stream) (bytes : Octets) : Keeps stream (stream.feed bytes) :=
  ⟨fun closable => closable, fun closed => closed⟩

theorem close (stream : Stream) : Keeps stream stream.close.2 := by
  unfold Stream.close
  split
  · exact ⟨fun closable => closable, fun _ => rfl⟩
  · rename_i failing
    exact ⟨fun closable => absurd (failing.symm.trans closable) (Nat.succ_ne_zero _), fun closed => closed⟩

end Keeps

/-- A stream that closes at the first attempt. -/
theorem close_of_closable {stream : Stream} (closable : stream.failingCloses = 0) :
    stream.close = (true, { stream with closed := true }) := by
  unfold close
  rw [closable]

/-- Closing again changes nothing. -/
theorem close_of_closed {stream : Stream} (closable : stream.failingCloses = 0)
    (closed : stream.closed = true) : stream.close = (true, stream) := by
  rw [close_of_closable closable, ← closed]

end Stream

end Courier
