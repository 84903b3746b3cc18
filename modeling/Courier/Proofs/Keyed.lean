import Courier.Keyed
import Mathlib.Data.List.Nodup
import Mathlib.Data.String.Basic

/-!
# What a table holds

A table has at most one entry for a key, as its keys ascend. An insertion shows up at its
key alone, and tables in order that have the same values are equal. Strings that ascend by
their code points ascend by their bytes as well: a character that comes later has later
bytes from the first place on in which the bytes differ.
-/

namespace Courier.Keyed

variable {Value : Type} {key other : String} {value : Value} {table first second : Keyed Value}
  {entry : String × Value}

theorem contains_iff : table.contains key = true ↔ ∃ value, (key, value) ∈ table := by
  simp only [contains, find?, Option.isSome_map, List.find?_isSome, beq_iff_eq]
  constructor
  · rintro ⟨⟨found, value⟩, present, rfl⟩
    exact ⟨value, present⟩
  · rintro ⟨value, present⟩
    exact ⟨(key, value), present, rfl⟩

theorem contains_eq_false_iff : table.contains key = false ↔ ∀ value, (key, value) ∉ table := by
  rw [← Bool.not_eq_true, contains_iff, not_exists]

theorem mem_keys_iff : key ∈ table.keys ↔ table.contains key = true := by
  simp [keys, contains_iff]

theorem mem_insert_iff (absent : ∀ value, (key, value) ∉ table) :
    entry ∈ table.insert key value ↔ entry = (key, value) ∨ entry ∈ table := by
  induction table with
  | nil => simp [insert]
  | cons head rest ih =>
      have other : key ≠ head.1 := by
        rintro rfl
        exact absent head.2 List.mem_cons_self
      have later := ih fun value present => absent value (List.mem_cons_of_mem head present)
      rw [insert, if_neg other]
      split
      · exact List.mem_cons
      · rw [List.mem_cons, later, List.mem_cons, or_left_comm]

theorem mem_erase_iff : entry ∈ table.erase key ↔ entry ∈ table ∧ entry.1 ≠ key := by
  simp [erase]

/-! ## Values -/

theorem find?_cons (key : String) (entry : String × Value) (rest : Keyed Value) :
    find? key (entry :: rest) = if entry.1 = key then some entry.2 else rest.find? key := by
  by_cases same : entry.1 = key <;> simp [find?, same]

/-- An insertion shows up at its key and nowhere else. -/
theorem find?_insert (table : Keyed Value) (key : String) (value : Value) (other : String) :
    (table.insert key value).find? other = if key = other then some value else table.find? other := by
  induction table with
  | nil => exact find?_cons other (key, value) []
  | cons head rest ih =>
      rw [insert]
      split
      · exact find?_cons other (key, value) _
      · split
        · rename_i same
          rw [find?_cons, find?_cons, ← same]
          split <;> rfl
        · rename_i different
          rw [find?_cons, find?_cons, ih]
          by_cases sought : head.1 = other
          · rw [if_pos sought, if_pos sought, if_neg (sought ▸ different)]
          · rw [if_neg sought, if_neg sought]

theorem contains_insert_iff :
    (table.insert key value).contains other = true ↔ other = key ∨ table.contains other = true := by
  rw [contains, find?_insert]
  split
  · rename_i same
    simp [same]
  · rename_i different
    simp [contains, Ne.symm different]

theorem find?_isSome_iff : (∃ value, table.find? key = some value) ↔ table.contains key = true := by
  rw [contains, Option.isSome_iff_exists]

/-! ## Order -/

def IsOrdered (table : Keyed Value) : Prop := table.Pairwise fun earlier later => earlier.1 < later.1

theorem IsOrdered.nil : IsOrdered ([] : Keyed Value) := List.Pairwise.nil

theorem IsOrdered.insert (ordered : table.IsOrdered) (key : String) (value : Value) :
    (table.insert key value).IsOrdered := by
  induction table with
  | nil => exact List.pairwise_singleton _ _
  | cons head rest ih =>
      obtain ⟨least, among⟩ := List.pairwise_cons.mp ordered
      rw [Keyed.insert]
      split
      · rename_i below
        refine List.pairwise_cons.mpr ⟨fun entry present => ?_, ordered⟩
        rcases List.mem_cons.mp present with rfl | present
        · exact below
        · exact lt_trans below (least entry present)
      · split
        · rename_i same
          exact List.pairwise_cons.mpr ⟨fun entry present => lt_of_eq_of_lt same (least entry present), among⟩
        · rename_i above other
          refine List.pairwise_cons.mpr ⟨fun entry present => ?_, ih among⟩
          have there : contains entry.1 (Keyed.insert key value rest) = true := contains_iff.mpr ⟨entry.2, present⟩
          rcases contains_insert_iff.mp there with same | before
          · rw [same]
            exact lt_of_le_of_ne (not_lt.mp above) (Ne.symm other)
          · obtain ⟨value, present⟩ := contains_iff.mp before
            exact least (entry.1, value) present

theorem IsOrdered.erase (ordered : table.IsOrdered) (key : String) : (table.erase key).IsOrdered :=
  List.Pairwise.filter _ ordered

theorem IsOrdered.nodup_keys (ordered : table.IsOrdered) : table.keys.Nodup :=
  List.pairwise_map.mpr (ordered.imp fun below => ne_of_lt below)

/-- A key has one value. -/
theorem IsOrdered.value_eq (ordered : table.IsOrdered) {first second : Value} (present : (key, first) ∈ table)
    (again : (key, second) ∈ table) : first = second :=
  congrArg Prod.snd (List.inj_on_of_nodup_map ordered.nodup_keys present again rfl)

/-- A key that comes before all keys of a table has no value. -/
theorem find?_eq_none_of_lt (least : ∀ entry ∈ table, key < entry.1) : table.find? key = none := by
  rw [← Option.not_isSome_iff_eq_none]
  intro there
  obtain ⟨value, present⟩ := contains_iff.mp there
  exact lt_irrefl key (least _ present)

/-- No key that has a value comes before the first. -/
theorem IsOrdered.head_le (ordered : IsOrdered (entry :: table)) (there : find? key (entry :: table) = some value) :
    entry.1 ≤ key := by
  obtain ⟨value, present⟩ := contains_iff.mp (find?_isSome_iff.mp ⟨value, there⟩)
  rcases List.mem_cons.mp present with rfl | later
  · exact le_refl key
  · exact le_of_lt ((List.pairwise_cons.mp ordered).1 _ later)

/-- Tables in order that have the same values are equal. -/
theorem IsOrdered.eq (ordered : first.IsOrdered) (alsoOrdered : second.IsOrdered)
    (same : ∀ key, first.find? key = second.find? key) : first = second := by
  have found (entry : String × Value) (rest : Keyed Value) : find? entry.1 (entry :: rest) = some entry.2 := by
    rw [find?_cons, if_pos rfl]
  induction first generalizing second with
  | nil =>
      cases second with
      | nil => rfl
      | cons front others => cases (same front.1).trans (found front others)
  | cons head rest ih =>
      cases second with
      | nil => cases (same head.1).symm.trans (found head rest)
      | cons front others =>
          have key : head.1 = front.1 :=
            le_antisymm (ordered.head_le ((same front.1).trans (found front others)))
              (alsoOrdered.head_le ((same head.1).symm.trans (found head rest)))
          have value : head.2 = front.2 := by
            have there := (same head.1).symm.trans (found head rest)
            rw [key, found] at there
            exact (Option.some.inj there).symm
          obtain ⟨least, among⟩ := List.pairwise_cons.mp ordered
          obtain ⟨alsoLeast, alsoAmong⟩ := List.pairwise_cons.mp alsoOrdered
          have tails (sought : String) : find? sought rest = find? sought others := by
            have there := same sought
            rw [find?_cons, find?_cons, key] at there
            split at there
            · rename_i here
              rw [find?_eq_none_of_lt fun entry present => here ▸ key ▸ least entry present,
                find?_eq_none_of_lt fun entry present => here ▸ alsoLeast entry present]
            · exact there
          rw [Prod.ext key value, ih among alsoAmong tails]

/-! ## The order of bytes -/

/-- The bytes of a text in UTF-8. -/
def bytesOf (text : String) : List UInt8 := text.toUTF8.data.toList

theorem bytesOf_eq (text : String) : bytesOf text = text.toList.flatMap String.utf8EncodeChar := by
  have encoded : text.toUTF8 = (text.toList.flatMap String.utf8EncodeChar).toByteArray := by
    conv_lhs => rw [← String.ofList_toList (s := text)]
    rfl
  rw [bytesOf, encoded, List.data_toByteArray, List.toList_toArray]

theorem byte_lt_iff {low high : Nat} (small : low < 256) (alsoSmall : high < 256) :
    UInt8.ofNat low < UInt8.ofNat high ↔ low < high := by
  rw [UInt8.lt_iff_toNat_lt, UInt8.toNat_ofNat', UInt8.toNat_ofNat', Nat.mod_eq_of_lt small,
    Nat.mod_eq_of_lt alsoSmall]

theorem byte_eq_iff {low high : Nat} (small : low < 256) (alsoSmall : high < 256) :
    UInt8.ofNat low = UInt8.ofNat high ↔ low = high := by
  rw [← UInt8.toNat_inj, UInt8.toNat_ofNat', UInt8.toNat_ofNat', Nat.mod_eq_of_lt small,
    Nat.mod_eq_of_lt alsoSmall]

/-- A character that comes earlier has lesser bytes, whatever follows. -/
theorem encode_append_lt {first second : Char} (below : first < second) (more others : List UInt8) :
    String.utf8EncodeChar first ++ more < String.utf8EncodeChar second ++ others := by
  have less : first.val.toNat < second.val.toNat := below
  have bounded : second.val.toNat < 1114112 := by
    rcases second.valid with low | high <;> omega
  simp only [String.utf8EncodeChar]
  generalize first.val.toNat = low at *
  generalize second.val.toNat = high at *
  -- every byte goes on with the next six bits
  have third (number : Nat) : number / 4096 = number / 64 / 64 := by omega
  have fourth (number : Nat) : number / 262144 = number / 64 / 64 / 64 := by omega
  split_ifs <;> simp (disch := omega) only [List.cons_append, List.nil_append, List.cons_lt_cons_iff, byte_lt_iff,
    byte_eq_iff, third, fourth] <;> omega

/-- What comes earlier by code points comes earlier by bytes. -/
theorem bytesOf_lt_of_lt {first second : String} (below : first < second) : bytesOf first < bytesOf second := by
  rw [String.lt_iff_toList_lt] at below
  rw [bytesOf_eq, bytesOf_eq]
  generalize first.toList = left at below
  generalize second.toList = right at below
  induction left generalizing right with
  | nil =>
      cases right with
      | nil => exact absurd below (List.not_lt_nil _)
      | cons char rest =>
          have some : (String.utf8EncodeChar char).length ≠ 0 := by
            rw [String.length_utf8EncodeChar]
            exact Nat.ne_of_gt char.utf8Size_pos
          rw [List.flatMap_cons]
          cases bytes : String.utf8EncodeChar char with
          | nil => exact absurd (congrArg List.length bytes) some
          | cons byte more => exact List.nil_lt_cons _ _
  | cons char rest ih =>
      cases right with
      | nil => exact absurd below (List.not_lt_nil _)
      | cons other others =>
          rw [List.flatMap_cons, List.flatMap_cons]
          rcases List.cons_lt_cons_iff.mp below with less | ⟨rfl, later⟩
          · exact encode_append_lt less _ _
          · exact List.append_left_lt (ih _ later)

end Courier.Keyed
