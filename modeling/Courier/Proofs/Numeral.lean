import Courier.Numeral
import Courier.Proofs.Json
import Mathlib

/-!
# What a numeral is worth

A literal that is nothing but an integer is worth that integer. Read as an unsigned
number it gives the integer itself if that is not negative, and if it is, the
difference to the limit, as long as its magnitude is below the limit. All other
literals are refused.
-/

namespace Courier.Numeral

theorem trim_of_forall_not_blank {text : List Char} (solid : ∀ c ∈ text, isBlank c = false) : trim text = text := by
  have kept {characters : List Char} (solid : ∀ c ∈ characters, isBlank c = false) :
      characters.dropWhile isBlank = characters := by
    cases characters with
    | nil => rfl
    | cons c rest => rw [List.dropWhile_cons_of_neg (by simp [solid c List.mem_cons_self])]
  have turned : ∀ c ∈ text.reverse, isBlank c = false := fun c present => solid c (List.mem_reverse.mp present)
  rw [trim, kept solid, kept turned, List.reverse_reverse]

/-- Without an underscore, what consists of digits is what writes a natural number. -/
theorem isNat_iff {text : List Char} (plain : '_' ∉ text) :
    (String.ofList text).isNat = true ↔ (!text.isEmpty && text.all Char.isDigit) = true := by
  rw [Bool.and_eq_true, Bool.not_eq_true', List.isEmpty_eq_false_iff, List.all_eq_true]
  constructor
  · intro natural
    obtain ⟨inhabited, characters, _⟩ := String.isNat_iff.mp natural
    rw [String.toList_ofList] at characters
    refine ⟨?_, fun c present => (characters c present).resolve_right ?_⟩
    · rintro rfl
      exact inhabited rfl
    · rintro rfl
      exact plain present
  · rintro ⟨inhabited, digits⟩
    refine String.isNat_of_isDigit ?_ (by rwa [String.toList_ofList])
    intro empty
    exact inhabited (by rw [← String.toList_ofList (l := text), empty]; rfl)

theorem magnitude?_eq_toNat? {text : List Char} (plain : '_' ∉ text) :
    magnitude? text = (String.ofList text).toNat? := by
  rw [magnitude?]
  split
  · rename_i digits
    have kept : text.filter (· != '_') = text :=
      List.filter_eq_self.mpr fun c present => by
        rw [bne_iff_ne]
        rintro rfl
        exact plain present
    rw [String.toNat?_eq_some_ofDigitChars ((isNat_iff plain).mpr digits), String.toList_ofList, kept]
    rfl
  · rename_i others
    exact (String.toNat?_eq_none (Bool.eq_false_iff.mpr (mt (isNat_iff plain).mp others))).symm

/-- The unsigned number that an integer turns into; its magnitude has to be below the limit. -/
def wrapped? (limit : Nat) (value : Int) : Option Nat :=
  if value.natAbs < limit then some (value % limit).toNat else none

theorem isBlank_of_isNumeric {c : Char} (numeric : Json.IsNumeric c) : isBlank c = false := by
  rcases numeric with digit | rfl | rfl | rfl | rfl | rfl
  · have low : 48 ≤ c.val ∧ c.val ≤ 57 := by simpa [Char.isDigit] using digit
    rw [isBlank, Bool.or_eq_false_iff, beq_eq_false_iff_ne]
    constructor
    · rintro rfl
      exact absurd low.1 (by decide)
    · rw [Bool.and_eq_false_iff, decide_eq_false_iff_not, decide_eq_false_iff_not]
      refine .inr fun below => ?_
      exact absurd (UInt32.le_trans low.1 below) (by decide)
  all_goals decide

/-- The sign at the front of a literal, if there is one, is a minus. -/
theorem signed?_eq_toInt? {literal : String} (numeral : Json.IsNumeral literal) :
    (signed? literal.toList).map (fun number => if number.1 then -(number.2 : Int) else number.2) =
      literal.toInt? := by
  obtain ⟨numeric, front⟩ := numeral
  have plain : '_' ∉ literal.toList := fun present => absurd (numeric '_' present) (by decide)
  rw [← String.ofList_toList (s := literal), String.toList_ofList]
  generalize literal.toList = text at plain front
  unfold signed?
  split
  · rename_i digits
    have signed : String.ofList ('-' :: digits) = "-" ++ String.ofList digits := by simp
    rw [magnitude?_eq_toNat? fun present => plain (List.mem_cons_of_mem '-' present), signed,
      String.toInt?_minus_append, Option.map_map]
    rfl
  · exact absurd rfl front
  · rename_i noMinus _
    have unsigned : (String.ofList text).startsWith '-' = false := by
      rw [String.startsWith_char_eq_head?, String.toList_ofList, beq_eq_false_iff_ne]
      intro minus
      obtain ⟨digits, rfl⟩ := List.head?_eq_some_iff.mp minus
      exact noMinus digits rfl
    rw [magnitude?_eq_toNat? plain, String.toInt?_eq_toNat?_of_startsWith_eq_false unsigned, Option.map_map]
    rfl

theorem wrapped?_natCast (limit magnitude : Nat) :
    wrapped? limit magnitude = if magnitude < limit then some magnitude else none := by
  rw [wrapped?, Int.natAbs_natCast]
  split
  · rename_i below
    rw [← Int.natCast_mod, Int.toNat_natCast, Nat.mod_eq_of_lt below]
  · rfl

theorem wrapped?_neg (limit magnitude : Nat) :
    wrapped? limit (-magnitude) = if magnitude < limit then some ((limit - magnitude) % limit) else none := by
  rw [wrapped?, Int.natAbs_neg, Int.natAbs_natCast]
  split
  · rename_i below
    have counted : -(magnitude : Int) + limit = (limit - magnitude : Nat) := by omega
    rw [← Int.add_emod_right, counted, ← Int.natCast_mod, Int.toNat_natCast]
  · rfl

theorem toNat_emod_lt {limit : Nat} {value : Int} (below : value.natAbs < limit) : (value % limit).toNat < limit := by
  have positive : (0 : Int) < limit := by omega
  have nonneg := Int.emod_nonneg value positive.ne'
  have less := Int.emod_lt_of_pos value positive
  omega

/-- Only zero wraps to zero. -/
theorem toNat_emod_eq_zero_iff {limit : Nat} {value : Int} (below : value.natAbs < limit) :
    (value % limit).toNat = 0 ↔ value = 0 := by
  have nonneg := Int.emod_nonneg value (show (limit : Int) ≠ 0 by omega)
  constructor
  · intro none
    have divides : (limit : Int) ∣ value := Int.dvd_of_emod_eq_zero (by omega)
    exact Int.eq_zero_of_dvd_of_natAbs_lt_natAbs divides (by rwa [Int.natAbs_natCast])
  · rintro rfl
    rw [Int.zero_emod, Int.toNat_zero]

/-- What is not negative stays as it is, and the rest is counted down from the limit. -/
theorem natCast_toNat_emod {limit : Nat} {value : Int} (below : value.natAbs < limit) :
    ((value % limit).toNat : Int) = if 0 ≤ value then value else limit + value := by
  have nonneg := Int.emod_nonneg value (show (limit : Int) ≠ 0 by omega)
  rw [Int.toNat_of_nonneg nonneg]
  split
  · exact Int.emod_eq_of_lt ‹_› (by omega)
  · rw [← Int.add_emod_left]
    exact Int.emod_eq_of_lt (by omega) (by omega)

/-- Reading a literal as an unsigned number is reading it as an integer and then wrapping it. -/
theorem unsigned?_eq (limit : Nat) {literal : String} (numeral : Json.IsNumeral literal) :
    unsigned? limit literal = literal.toInt?.bind (wrapped? limit) := by
  have solid : ∀ c ∈ literal.toList, isBlank c = false := fun c present =>
    isBlank_of_isNumeric (numeral.numeric c present)
  rw [unsigned?, trim_of_forall_not_blank solid, ← signed?_eq_toInt? numeral]
  cases signed? literal.toList with
  | none => rfl
  | some number =>
      obtain ⟨negative, magnitude⟩ := number
      cases negative with
      | false => exact (wrapped?_natCast limit magnitude).symm
      | true => exact (wrapped?_neg limit magnitude).symm

end Courier.Numeral
