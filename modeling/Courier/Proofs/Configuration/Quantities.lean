import Courier.Proofs.Configuration
import Courier.Proofs.Numeral

/-!
# Numbers in a configuration

Three sizes, the number of workers and the port are read as unsigned numbers of their
widths. A literal that is an integer is taken if its magnitude is below the limit of
the width: what is negative is not refused but counted down from the limit. Only the
number of workers must not be zero.
-/

namespace Courier.Configuration

open Numeral (wrapped?)

/-- What a configuration says in numbers. -/
inductive Quantity where
  | small
  | large
  | bundle
  | workers
  | port
  deriving DecidableEq

namespace Quantity

def key : Quantity → String
  | small => "small_file_threshold_bytes"
  | large => "large_file_threshold_bytes"
  | bundle => "bundle_target_size"
  | workers => "discovery_workers"
  | port => "port"

def limit : Quantity → Nat
  | port => UInt16.size
  | _ => UInt64.size

/-- The number that a configuration says. -/
def of (configuration : Configuration) : Quantity → Nat
  | small => configuration.thresholds.small.toNat
  | large => configuration.thresholds.large.toNat
  | bundle => configuration.thresholds.bundle.toNat
  | workers => configuration.discovery.workers
  | port => configuration.port.toNat

/-- Whether an integer that is written for a quantity is taken. -/
def Takes (quantity : Quantity) (value : Int) : Prop :=
  value.natAbs < quantity.limit ∧ (quantity = workers → value ≠ 0)

instance (quantity : Quantity) (value : Int) : Decidable (quantity.Takes value) := inferInstanceAs (Decidable (_ ∧ _))

/-- The document that gives some quantities, each by a literal. -/
def document (given : List (Quantity × String)) : Json :=
  .object (given.map fun entry => (entry.1.key, .number entry.2))

/-- The number that is read from a document for a quantity. -/
def read (document : Json) : Quantity → Except ConfigurationError (Option Nat)
  | small => (field document small.key readWord).map (Option.map UInt64.toNat)
  | large => (field document large.key readWord).map (Option.map UInt64.toNat)
  | bundle => (field document bundle.key readWord).map (Option.map UInt64.toNat)
  | workers => (readWorkers document).map (Option.map Discovery.Settings.workers)
  | port => (field document port.key readPort).map (Option.map UInt16.toNat)

variable {quantity : Quantity} {given : List (Quantity × String)} {literal : String} {value : Int}
  {configuration : Configuration} {error : ConfigurationError} {json : Json}

/-! ## Keys -/

theorem key_injective : Function.Injective key := by
  intro first second same
  cases first <;> cases second <;> first | rfl | (revert same; decide)

theorem child?_of_mem (once : (given.map Prod.fst).Nodup) (present : (quantity, literal) ∈ given) :
    (document given).child? quantity.key = some (.number literal) := by
  induction given with
  | nil => cases present
  | cons entry rest ih =>
      obtain ⟨absent, others⟩ := List.nodup_cons.mp once
      rw [document, List.map_cons, Json.child?_object_cons]
      rcases List.mem_cons.mp present with rfl | later
      · rw [if_pos rfl]
      · rw [if_neg, ← document, ih others later]
        intro same
        exact absent (key_injective same ▸ List.mem_map_of_mem later)

theorem child?_of_missing (missing : ∀ literal, (quantity, literal) ∉ given) :
    (document given).child? quantity.key = none := by
  refine Json.child?_object_eq_none fun member present => ?_
  obtain ⟨⟨other, literal⟩, there, rfl⟩ := List.mem_map.mp present
  intro same
  exact missing literal (key_injective same ▸ there)

/-- Nothing else is in such a document. -/
theorem child?_of_foreign {name : String} (foreign : ∀ quantity : Quantity, quantity.key ≠ name) :
    (document given).child? name = none := by
  refine Json.child?_object_eq_none fun member present => ?_
  obtain ⟨⟨other, literal⟩, there, rfl⟩ := List.mem_map.mp present
  exact foreign other

/-! ## One quantity -/

theorem read_of_missing (missing : json.child? quantity.key = none) : quantity.read json = .ok none := by
  cases quantity with
  | small | large | bundle | port =>
      rw [read, field_of_missing missing]
      rfl
  | workers =>
      rw [read, readWorkers_of_missing missing]
      rfl

/-- An integer that is not too large is taken, with what it wraps to. -/
theorem read_of_takes (found : json.child? quantity.key = some (.number literal))
    (numeral : Json.IsNumeral literal) (whole : literal.toInt? = some value) (takes : quantity.Takes value) :
    quantity.read json = .ok (some (value % quantity.limit).toNat) := by
  have number : Numeral.unsigned? quantity.limit literal = some (value % quantity.limit).toNat := by
    rw [Numeral.unsigned?_eq _ numeral, whole, Option.bind_some, wrapped?, if_pos takes.1]
  have bounded := Numeral.toNat_emod_lt takes.1
  cases quantity with
  | small | large | bundle =>
      have readable : readWord literal = some (UInt64.ofNat _) := congrArg (Option.map UInt64.ofNat) number
      rw [read, field_of_readable found readable, Except.map, Option.map_some, UInt64.toNat_ofNat_of_lt' bounded]
  | port =>
      have readable : readPort literal = some (UInt16.ofNat _) := congrArg (Option.map UInt16.ofNat) number
      rw [read, field_of_readable found readable, Except.map, Option.map_some, UInt16.toNat_ofNat_of_lt' bounded]
  | workers =>
      have positive := Nat.pos_of_ne_zero (mt (Numeral.toNat_emod_eq_zero_iff takes.1).mp (takes.2 rfl))
      rw [read, readWorkers_of_readable found number, dif_pos positive]
      rfl

theorem read_of_unsigned?_eq_none (found : json.child? quantity.key = some (.number literal))
    (unreadable : Numeral.unsigned? quantity.limit literal = none) :
    quantity.read json = .error (.invalid quantity.key literal) := by
  cases quantity with
  | small | large | bundle =>
      have unread : readWord literal = none := congrArg (Option.map UInt64.ofNat) unreadable
      rw [read, field_of_unreadable found unread]
      rfl
  | port =>
      have unread : readPort literal = none := congrArg (Option.map UInt16.ofNat) unreadable
      rw [read, field_of_unreadable found unread]
      rfl
  | workers =>
      rw [read, readWorkers_of_unreadable found unreadable]
      rfl

/-- Everything else is refused. -/
theorem read_of_not_takes (found : json.child? quantity.key = some (.number literal))
    (numeral : Json.IsNumeral literal) (refused : ∀ value, literal.toInt? = some value → ¬quantity.Takes value) :
    quantity.read json = .error (.invalid quantity.key literal) ∨
      quantity.read json = .error .noWorkers ∧ quantity = workers ∧ literal.toInt? = some 0 := by
  have number := Numeral.unsigned?_eq quantity.limit numeral
  cases whole : literal.toInt? with
  | none =>
      rw [whole] at number
      exact .inl (read_of_unsigned?_eq_none found number)
  | some value =>
      rw [whole, Option.bind_some, wrapped?] at number
      by_cases below : value.natAbs < quantity.limit
      · obtain ⟨rfl, rfl⟩ : quantity = workers ∧ value = 0 := by
          have untaken := refused value whole
          rw [Takes] at untaken
          tauto
        rw [if_pos below] at number
        refine .inr ⟨?_, rfl, rfl⟩
        rw [read, readWorkers_of_readable found number, dif_neg (by decide)]
        rfl
      · rw [if_neg below] at number
        exact .inl (read_of_unsigned?_eq_none found number)

theorem exists_takes_of_read {number? : Option Nat} (found : json.child? quantity.key = some (.number literal))
    (numeral : Json.IsNumeral literal) (done : quantity.read json = .ok number?) :
    ∃ value, literal.toInt? = some value ∧ quantity.Takes value ∧
      number? = some (value % quantity.limit).toNat := by
  by_cases taken : ∃ value, literal.toInt? = some value ∧ quantity.Takes value
  · obtain ⟨value, whole, takes⟩ := taken
    cases done.symm.trans (read_of_takes found numeral whole takes)
    exact ⟨value, whole, takes, rfl⟩
  · have refused value (whole : literal.toInt? = some value) (takes : quantity.Takes value) :=
      taken ⟨value, whole, takes⟩
    rcases read_of_not_takes found numeral refused with failed | ⟨failed, _⟩
    · cases done.symm.trans failed
    · cases done.symm.trans failed

theorem not_takes_of_read (found : json.child? quantity.key = some (.number literal))
    (numeral : Json.IsNumeral literal) (failed : quantity.read json = .error error) :
    ∀ value, literal.toInt? = some value → ¬quantity.Takes value := by
  intro value whole takes
  cases failed.symm.trans (read_of_takes found numeral whole takes)

/-! ## All quantities -/

theorem read_of_ofJson (done : ofJson json = .ok configuration) (quantity : Quantity) :
    ∃ number?, quantity.read json = .ok number? ∧ quantity.of configuration = number?.getD (quantity.of {}) := by
  obtain ⟨roots, _, small, hasSmall, large, hasLarge, bundle, hasBundle, discovery, hasDiscovery, _, _, port,
    hasPort, _, _, rfl⟩ := ofJson_eq_ok_iff.mp done
  cases quantity with
  | small => exact ⟨_, congrArg (Except.map _) hasSmall, by cases small <;> rfl⟩
  | large => exact ⟨_, congrArg (Except.map _) hasLarge, by cases large <;> rfl⟩
  | bundle => exact ⟨_, congrArg (Except.map _) hasBundle, by cases bundle <;> rfl⟩
  | workers => exact ⟨_, congrArg (Except.map _) hasDiscovery, by cases discovery <;> rfl⟩
  | port => exact ⟨_, congrArg (Except.map _) hasPort, by cases port <;> rfl⟩

/-- A document of quantities has no other keys. -/
theorem child?_others (given : List (Quantity × String)) :
    (document given).child? "roots" = none ∧ (document given).child? "address" = none ∧
      (document given).child? "close_on_unsupported_protocol" = none := by
  refine ⟨child?_of_foreign ?_, child?_of_foreign ?_, child?_of_foreign ?_⟩ <;>
    intro quantity <;> cases quantity <;> decide

/-- A document of quantities fails at one that it gives. -/
theorem exists_read_eq_error (failed : ofJson (document given) = .error error) :
    ∃ quantity literal, (quantity, literal) ∈ given ∧ quantity.read (document given) = .error error := by
  obtain ⟨quantity, reads⟩ : ∃ quantity : Quantity, quantity.read (document given) = .error error := by
    obtain ⟨noRoots, noAddress, noPolicy⟩ := child?_others given
    rcases ofJson_eq_error failed with roots | small | large | bundle | workers | address | port | policy
    · cases (readRoots_of_missing noRoots).symm.trans roots
    · exact ⟨.small, congrArg (Except.map _) small⟩
    · exact ⟨.large, congrArg (Except.map _) large⟩
    · exact ⟨.bundle, congrArg (Except.map _) bundle⟩
    · exact ⟨.workers, congrArg (Except.map _) workers⟩
    · cases (field_of_missing noAddress).symm.trans address
    · exact ⟨.port, congrArg (Except.map _) port⟩
    · cases (field_of_missing noPolicy).symm.trans policy
  by_contra none
  have missing := child?_of_missing fun literal present => none ⟨quantity, literal, present, reads⟩
  cases (read_of_missing missing).symm.trans reads

/-- What is not a quantity keeps its default. -/
theorem defaults_of_ofJson (done : ofJson (document given) = .ok configuration) :
    configuration.roots = [] ∧ configuration.address = ({} : Configuration).address ∧
      configuration.closeOnUnsupported = ({} : Configuration).closeOnUnsupported := by
  obtain ⟨noRoots, noAddress, noPolicy⟩ := child?_others given
  obtain ⟨roots, hasRoots, _, _, _, _, _, _, _, _, address, hasAddress, _, _, policy, hasPolicy, rfl⟩ :=
    ofJson_eq_ok_iff.mp done
  cases (readRoots_of_missing noRoots).symm.trans hasRoots
  cases (field_of_missing noAddress).symm.trans hasAddress
  cases (field_of_missing noPolicy).symm.trans hasPolicy
  exact ⟨rfl, rfl, rfl⟩

theorem isNumeral_of_parse? {text : String} (parsed : Json.parse? text = some (document given))
    (present : (quantity, literal) ∈ given) : Json.IsNumeral literal := by
  have written := Json.isWritten_parse? parsed
  cases written with
  | object inside =>
      have number := inside _ (List.mem_map_of_mem present)
      cases number with
      | number numeral => exact numeral

end Quantity

open Quantity in
/-- Numbers are read by their magnitudes, so a negative one is taken for one near the limit. -/
theorem reads_quantities_by_magnitude (source : String) {text : String} {given : List (Quantity × String)}
    (once : (given.map Prod.fst).Nodup) (parsed : Json.parse? text = some (Quantity.document given)) :
    ((∃ configuration, parse source text = .ok configuration) ↔
      ∀ quantity literal, (quantity, literal) ∈ given →
        ∃ value, literal.toInt? = some value ∧ quantity.Takes value) ∧
    (∀ configuration, parse source text = .ok configuration →
      (∀ quantity literal value, (quantity, literal) ∈ given → literal.toInt? = some value →
        (quantity.of configuration : Int) = if 0 ≤ value then value else quantity.limit + value) ∧
      (∀ quantity, (∀ literal, (quantity, literal) ∉ given) → quantity.of configuration = quantity.of {}) ∧
      configuration.roots = [] ∧ configuration.address = ({} : Configuration).address ∧
      configuration.closeOnUnsupported = ({} : Configuration).closeOnUnsupported) ∧
    ∀ error, parse source text = .error error →
      (∃ quantity literal, (quantity, literal) ∈ given ∧ error = .invalid quantity.key literal ∧
        ∀ value, literal.toInt? = some value → ¬quantity.Takes value) ∨
      ∃ literal, (Quantity.workers, literal) ∈ given ∧ error = .noWorkers ∧ literal.toInt? = some 0 := by
  have found {quantity : Quantity} {literal : String} (present : (quantity, literal) ∈ given) :=
    child?_of_mem once present
  have numeral {quantity : Quantity} {literal : String} (present : (quantity, literal) ∈ given) :=
    isNumeral_of_parse? parsed present
  have parses : parse source text = ofJson (document given) := by rw [parse, parsed]
  rw [parses]
  refine ⟨⟨?_, ?_⟩, ?_, ?_⟩
  · rintro ⟨configuration, done⟩ quantity literal present
    obtain ⟨number?, reads, _⟩ := read_of_ofJson done quantity
    obtain ⟨value, whole, takes, _⟩ := exists_takes_of_read (found present) (numeral present) reads
    exact ⟨value, whole, takes⟩
  · intro all
    cases outcome : ofJson (document given) with
    | ok configuration => exact ⟨configuration, rfl⟩
    | error error =>
        obtain ⟨quantity, literal, present, failed⟩ := exists_read_eq_error outcome
        obtain ⟨value, whole, takes⟩ := all quantity literal present
        exact absurd takes (not_takes_of_read (found present) (numeral present) failed value whole)
  · intro configuration done
    refine ⟨?_, ?_, defaults_of_ofJson done⟩
    · intro quantity literal value present whole
      obtain ⟨number?, reads, result⟩ := read_of_ofJson done quantity
      obtain ⟨_, same, takes, rfl⟩ := exists_takes_of_read (found present) (numeral present) reads
      cases whole.symm.trans same
      rw [result, Option.getD_some, Numeral.natCast_toNat_emod takes.1]
    · intro quantity missing
      obtain ⟨number?, reads, result⟩ := read_of_ofJson done quantity
      cases (read_of_missing (child?_of_missing missing)).symm.trans reads
      exact result
  · intro error failed
    obtain ⟨quantity, literal, present, reads⟩ := exists_read_eq_error failed
    have untaken := not_takes_of_read (found present) (numeral present) reads
    rcases read_of_not_takes (found present) (numeral present) untaken with invalid | ⟨zero, rfl, whole⟩
    · cases invalid.symm.trans reads
      exact .inl ⟨quantity, literal, present, rfl, untaken⟩
    · cases zero.symm.trans reads
      exact .inr ⟨literal, present, rfl, whole⟩

/-- A port below zero is taken for one near the limit, beside a size that is taken as it is. -/
theorem reads_quantities_by_magnitude_mixed :
    ∃ configuration, parse inlineSource "\x7b\"port\": -1, \"bundle_target_size\": 7\x7d" = .ok configuration ∧
      Quantity.port.of configuration = 65535 ∧ Quantity.bundle.of configuration = 7 ∧
      Quantity.workers.of configuration = 16 := by
  have parsed : Json.parse? "\x7b\"port\": -1, \"bundle_target_size\": 7\x7d" =
      some (Quantity.document [(.port, "-1"), (.bundle, "7")]) := by with_unfolding_all rfl
  have below : "-1".toInt? = some (-1) := by cbv
  have above : "7".toInt? = some 7 := by cbv
  obtain ⟨succeeds, results, _⟩ := reads_quantities_by_magnitude inlineSource (by decide) parsed
  obtain ⟨configuration, done⟩ := succeeds.mpr (by
    intro quantity literal present
    rcases List.mem_pair.mp present with same | same <;> cases same
    · exact ⟨-1, below, by decide⟩
    · exact ⟨7, above, by decide⟩)
  obtain ⟨given, missing, _⟩ := results configuration done
  refine ⟨configuration, done, ?_, ?_, missing .workers (by simp)⟩
  · exact Int.natCast_inj.mp (given .port "-1" (-1) (by simp) below)
  · exact Int.natCast_inj.mp (given .bundle "7" 7 (by simp) above)

/-- A number of workers that is not positive is taken. -/
theorem takes_negative_workers :
    ∃ configuration, parse inlineSource "\x7b\"discovery_workers\": -1\x7d" = .ok configuration ∧
      configuration.discovery.workers = 18446744073709551615 := by
  refine ⟨{ discovery := ⟨18446744073709551615, by decide⟩ }, ?_, rfl⟩
  with_unfolding_all rfl

end Courier.Configuration
