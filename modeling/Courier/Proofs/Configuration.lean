import Courier.Configuration

/-!
# Reading a configuration

Reading goes through the keys one after the other and ends at the first one that is
in error. A key that is missing is never in error.
-/

namespace Courier

namespace Json

variable {members : List (String × Json)} {key : String}

theorem child?_object_cons (member : String × Json) (members : List (String × Json)) (key : String) :
    (object (member :: members)).child? key =
      if member.1 = key then some member.2 else (object members).child? key := by
  by_cases same : member.1 = key <;> simp [child?, children, same]

theorem child?_object_eq_none (missing : ∀ member ∈ members, member.1 ≠ key) : (object members).child? key = none := by
  rw [child?, Option.map_eq_none_iff, List.find?_eq_none]
  intro member present
  rw [beq_iff_eq]
  exact missing member present

end Json

namespace Configuration

/-! ## Sequences of readings -/

section Sequences

variable {Value Result : Type} {reading : Except ConfigurationError Value}
  {next : Value → Except ConfigurationError Result}

theorem bind_eq_ok_iff {result : Result} :
    (reading >>= next) = .ok result ↔ ∃ value, reading = .ok value ∧ next value = .ok result := by
  cases reading <;> simp [bind, Except.bind]

theorem bind_eq_error_iff {error : ConfigurationError} :
    (reading >>= next) = .error error ↔
      reading = .error error ∨ ∃ value, reading = .ok value ∧ next value = .error error := by
  cases reading <;> simp [bind, Except.bind]

/-- What fails for a list fails for an item of it. -/
theorem exists_eq_error_of_mapM {Item : Type} {read : Item → Except ConfigurationError Value} {items : List Item}
    {error : ConfigurationError} (failed : items.mapM read = .error error) :
    ∃ item ∈ items, read item = .error error := by
  induction items with
  | nil => cases failed
  | cons item rest ih =>
      rw [List.mapM_cons, bind_eq_error_iff] at failed
      rcases failed with first | ⟨value, _, later⟩
      · exact ⟨item, List.mem_cons_self, first⟩
      · rcases bind_eq_error_iff.mp later with others | ⟨_, _, impossible⟩
        · obtain ⟨found, present, same⟩ := ih others
          exact ⟨found, List.mem_cons_of_mem item present, same⟩
        · cases impossible

end Sequences

/-! ## One key -/

variable {document value : Json} {key : String} {Value : Type} {read? : String → Option Value}

theorem field_of_missing (missing : document.child? key = none) : field document key read? = .ok none := by
  rw [field, missing]

theorem field_of_readable {result : Value} (found : document.child? key = some value)
    (readable : read? value.data = some result) : field document key read? = .ok (some result) := by
  simp only [field, found, readable]

theorem field_of_unreadable (found : document.child? key = some value) (unreadable : read? value.data = none) :
    field document key read? = .error (.invalid key value.data) := by
  simp only [field, found, unreadable]

theorem readRoots_of_missing (missing : document.child? "roots" = none) : readRoots document = .ok [] := by
  rw [readRoots, missing]

theorem readWorkers_of_missing (missing : document.child? "discovery_workers" = none) :
    readWorkers document = .ok none := by
  rw [readWorkers, field_of_missing missing]
  rfl

theorem readWorkers_of_readable {number : Nat} (found : document.child? "discovery_workers" = some value)
    (readable : Numeral.unsigned? UInt64.size value.data = some number) :
    readWorkers document =
      if positive : 0 < number then .ok (some ⟨number, positive⟩) else .error .noWorkers := by
  rw [readWorkers, field_of_readable found readable]
  rfl

theorem readWorkers_of_unreadable (found : document.child? "discovery_workers" = some value)
    (unreadable : Numeral.unsigned? UInt64.size value.data = none) :
    readWorkers document = .error (.invalid "discovery_workers" value.data) := by
  rw [readWorkers, field_of_unreadable found unreadable]
  rfl

/-! ## All keys -/

variable {configuration : Configuration} {error : ConfigurationError}

/-- A configuration is what all keys give, each by itself. -/
theorem ofJson_eq_ok_iff :
    ofJson document = .ok configuration ↔
      ∃ roots, readRoots document = .ok roots ∧
      ∃ small, field document "small_file_threshold_bytes" readWord = .ok small ∧
      ∃ large, field document "large_file_threshold_bytes" readWord = .ok large ∧
      ∃ bundle, field document "bundle_target_size" readWord = .ok bundle ∧
      ∃ discovery, readWorkers document = .ok discovery ∧
      ∃ address, field document "address" some = .ok address ∧
      ∃ port, field document "port" readPort = .ok port ∧
      ∃ closeOnUnsupported, field document "close_on_unsupported_protocol" Numeral.flag? = .ok closeOnUnsupported ∧
        { roots
          small
          large
          bundle
          discovery := discovery.getD ({} : Configuration).discovery
          address := address.getD ({} : Configuration).address
          port := port.getD ({} : Configuration).port
          closeOnUnsupported := closeOnUnsupported.getD ({} : Configuration).closeOnUnsupported } =
        configuration := by
  simp only [ofJson, bind_eq_ok_iff, pure, Except.pure, Except.ok.injEq]

/-- An error is that of one key. -/
theorem ofJson_eq_error (failed : ofJson document = .error error) :
    readRoots document = .error error ∨
    field document "small_file_threshold_bytes" readWord = .error error ∨
    field document "large_file_threshold_bytes" readWord = .error error ∨
    field document "bundle_target_size" readWord = .error error ∨
    readWorkers document = .error error ∨
    field document "address" some = .error error ∨
    field document "port" readPort = .error error ∨
    field document "close_on_unsupported_protocol" Numeral.flag? = .error error := by
  simp only [ofJson, bind_eq_error_iff, pure, Except.pure, reduceCtorEq, and_false, exists_false, or_false] at failed
  grind

end Configuration

end Courier
