import Courier.Proofs.Configuration

/-!
# Paths in a configuration

The paths are the texts of what is inside the value of their key, and nothing in there
may have a key, be a container or be empty. A scalar has nothing inside, so it gives no
paths and is no error; neither are scalars under empty keys.
-/

namespace Courier

/-- Whether a value is no container. -/
def Json.IsScalar : Json → Prop
  | .array _ | .object _ => False
  | _ => True

theorem Json.children_of_isScalar {value : Json} (scalar : value.IsScalar) : value.children = [] := by
  cases value with
  | null | bool | number | string => rfl
  | array | object => exact scalar.elim

theorem Json.data_of_not_isScalar {value : Json} (container : ¬value.IsScalar) : value.data = "" := by
  cases value with
  | null | bool | number | string => exact absurd trivial container
  | array | object => rfl

namespace Configuration

/-- The paths that a value gives, by its kind. -/
inductive GivesRoots : Json → List String → Prop
  | scalar {value : Json} (scalar : value.IsScalar) : GivesRoots value []
  | array {items : List Json} (some : ∀ item ∈ items, item.data ≠ "") :
      GivesRoots (.array items) (items.map Json.data)
  | object {members : List (String × Json)} (keyless : ∀ member ∈ members, member.1 = "")
      (some : ∀ member ∈ members, member.2.data ≠ "") :
      GivesRoots (.object members) (members.map fun member => member.2.data)

variable {document value : Json} {child : String × Json} {path : String} {paths : List String}
  {error : ConfigurationError}

/-! ## What is inside -/

theorem readRoot_eq_ok_iff : readRoot child = .ok path ↔ child.1 = "" ∧ child.2.data ≠ "" ∧ child.2.data = path := by
  rw [readRoot]
  split
  · rename_i fit
    rw [Bool.and_eq_true, Bool.not_eq_true', String.isEmpty_iff, String.isEmpty_eq_false_iff] at fit
    simp only [Except.ok.injEq, fit.1, fit.2, true_and, ne_eq, not_false_eq_true]
  · rename_i unfit
    simp only [reduceCtorEq, false_iff]
    rintro ⟨keyless, some, _⟩
    simp [keyless, some] at unfit

theorem eq_roots_of_readRoot (failed : readRoot child = .error error) : error = .roots := by
  unfold readRoot at failed
  split at failed <;> cases failed
  rfl

theorem mapM_readRoot_eq_ok_iff {children : List (String × Json)} :
    children.mapM readRoot = .ok paths ↔
      (∀ child ∈ children, child.1 = "" ∧ child.2.data ≠ "") ∧ children.map (fun child => child.2.data) = paths := by
  induction children generalizing paths with
  | nil => simp [pure, Except.pure]
  | cons child rest ih =>
      simp only [List.mapM_cons, bind_eq_ok_iff, ih, readRoot_eq_ok_iff, pure, Except.pure, Except.ok.injEq,
        List.forall_mem_cons, List.map_cons]
      constructor
      · rintro ⟨_, ⟨keyless, some, rfl⟩, _, ⟨others, rfl⟩, rfl⟩
        exact ⟨⟨⟨keyless, some⟩, others⟩, rfl⟩
      · rintro ⟨⟨⟨keyless, some⟩, others⟩, rfl⟩
        exact ⟨_, ⟨keyless, some, rfl⟩, _, ⟨others, rfl⟩, rfl⟩

theorem readRoots_eq_ok_iff (found : document.child? "roots" = some value) :
    readRoots document = .ok paths ↔ GivesRoots value paths := by
  rw [readRoots, found]
  simp only [mapM_readRoot_eq_ok_iff]
  constructor
  · rintro ⟨fit, rfl⟩
    cases value with
    | null | bool | number | string => exact .scalar trivial
    | array items =>
        rw [Json.children, List.map_map]
        exact .array fun item present => (fit ("", item) (List.mem_map_of_mem present)).2
    | object members =>
        exact .object (fun member present => (fit member present).1) fun member present => (fit member present).2
  · intro gives
    cases gives with
    | scalar scalar =>
        rw [Json.children_of_isScalar scalar]
        exact ⟨List.forall_mem_nil _, rfl⟩
    | array some =>
        rw [Json.children, List.map_map, List.forall_mem_map]
        exact ⟨fun item present => ⟨rfl, some item present⟩, rfl⟩
    | object keyless some => exact ⟨fun member present => ⟨keyless member present, some member present⟩, rfl⟩

theorem eq_roots_of_readRoots (failed : readRoots document = .error error) : error = .roots := by
  unfold readRoots at failed
  split at failed
  · cases failed
  · obtain ⟨child, _, failed⟩ := exists_eq_error_of_mapM failed
    exact eq_roots_of_readRoot failed

/-- In a document of nothing but roots they decide alone. -/
theorem ofJson_roots (value : Json) :
    ofJson (.object [("roots", value)]) =
      (readRoots (.object [("roots", value)])).map fun roots => { roots := roots } := by
  have missing (key : String) (other : "roots" ≠ key) : (Json.object [("roots", value)]).child? key = none :=
    Json.child?_object_eq_none (by simpa using other)
  rw [ofJson, field_of_missing (missing "small_file_threshold_bytes" (by decide)),
    field_of_missing (missing "large_file_threshold_bytes" (by decide)),
    field_of_missing (missing "bundle_target_size" (by decide)),
    readWorkers_of_missing (missing "discovery_workers" (by decide)),
    field_of_missing (missing "address" (by decide)), field_of_missing (missing "port" (by decide)),
    field_of_missing (missing "close_on_unsupported_protocol" (by decide))]
  cases readRoots (.object [("roots", value)]) <;> rfl

/-! ## Kinds of values -/

theorem not_givesRoots_array {items : List Json} {item : Json} (present : item ∈ items) (none : item.data = "") :
    ¬GivesRoots (.array items) paths := by
  rintro (scalar | some)
  · exact scalar
  · exact some item present none

theorem not_givesRoots_object {members : List (String × Json)} {member : String × Json} (present : member ∈ members)
    (unfit : member.1 ≠ "" ∨ member.2.data = "") : ¬GivesRoots (.object members) paths := by
  rintro (scalar | _ | ⟨keyless, some⟩)
  · exact scalar
  · rcases unfit with keyed | none
    · exact keyed (keyless member present)
    · exact some member present none

/-- The empty string and the containers have nothing to say. -/
theorem data_eq_empty (unfit : value = .string "" ∨ ¬value.IsScalar) : value.data = "" := by
  rcases unfit with rfl | container
  · rfl
  · exact Json.data_of_not_isScalar container

/-- A configuration takes as paths the texts of what has no key, is no container and is not empty. -/
theorem reads_roots_without_keys (source : String) {text : String} {value : Json}
    (parsed : Json.parse? text = some (.object [("roots", value)])) :
    (∀ configuration, parse source text = .ok configuration ↔
      ∃ paths, GivesRoots value paths ∧ configuration = { roots := paths }) ∧
    (∀ error, parse source text = .error error → error = .roots) ∧
    (∀ paths, value = .array (paths.map .string) → (∀ path ∈ paths, path ≠ "") →
      parse source text = .ok { roots := paths }) ∧
    (∀ items item, value = .array items → item ∈ items → item = .string "" ∨ ¬item.IsScalar →
      parse source text = .error .roots) ∧
    ∀ members name inside, value = .object members → (name, inside) ∈ members →
      name ≠ "" ∨ inside = .string "" ∨ ¬inside.IsScalar → parse source text = .error .roots := by
  have found : (Json.object [("roots", value)]).child? "roots" = some value := by
    rw [Json.child?_object_cons, if_pos rfl]
  have parses : parse source text =
      (readRoots (.object [("roots", value)])).map fun roots => { roots := roots } := by
    rw [parse, parsed]
    exact ofJson_roots value
  have accepts (configuration : Configuration) : parse source text = .ok configuration ↔
      ∃ paths, GivesRoots value paths ∧ configuration = { roots := paths } := by
    rw [parses]
    constructor
    · intro done
      cases read : readRoots (.object [("roots", value)]) with
      | error error => cases read ▸ done
      | ok paths =>
          cases read ▸ done
          exact ⟨paths, (readRoots_eq_ok_iff found).mp read, rfl⟩
    · rintro ⟨paths, gives, rfl⟩
      rw [(readRoots_eq_ok_iff found).mpr gives]
      rfl
  have blames (error : ConfigurationError) (failed : parse source text = .error error) : error = .roots := by
    rw [parses] at failed
    cases read : readRoots (.object [("roots", value)]) with
    | ok paths => cases read ▸ failed
    | error error =>
        cases read ▸ failed
        exact eq_roots_of_readRoots read
  have refuses (unfit : ∀ paths, ¬GivesRoots value paths) : parse source text = .error .roots := by
    cases outcome : parse source text with
    | ok configuration =>
        obtain ⟨paths, gives, _⟩ := (accepts configuration).mp outcome
        exact absurd gives (unfit paths)
    | error error => rw [blames error outcome]
  refine ⟨accepts, blames, ?_, ?_, ?_⟩
  · rintro paths rfl some
    have texts : (paths.map Json.string).map Json.data = paths := by
      rw [List.map_map]
      exact List.map_id paths
    have gives : GivesRoots (.array (paths.map .string)) ((paths.map Json.string).map Json.data) :=
      .array (List.forall_mem_map.mpr some)
    rw [texts] at gives
    exact (accepts _).mpr ⟨paths, gives, rfl⟩
  · rintro items item rfl present unfit
    exact refuses fun paths => not_givesRoots_array present (data_eq_empty unfit)
  · rintro members name inside rfl present unfit
    exact refuses fun paths => not_givesRoots_object present (unfit.imp_right data_eq_empty)

/-- An array of paths is taken, and one with an empty path in it is not. -/
theorem reads_roots_without_keys_array :
    parse inlineSource "\x7b\"roots\": [\"/srv\", \"/data\"]\x7d" = .ok { roots := ["/srv", "/data"] } ∧
      parse inlineSource "\x7b\"roots\": [\"/srv\", \"\"]\x7d" = .error .roots := by
  have full : Json.parse? "\x7b\"roots\": [\"/srv\", \"/data\"]\x7d" =
      some (.object [("roots", .array [.string "/srv", .string "/data"])]) := by with_unfolding_all rfl
  have partly : Json.parse? "\x7b\"roots\": [\"/srv\", \"\"]\x7d" =
      some (.object [("roots", .array [.string "/srv", .string ""])]) := by with_unfolding_all rfl
  obtain ⟨_, _, taken, _⟩ := reads_roots_without_keys inlineSource full
  obtain ⟨_, _, _, refused, _⟩ := reads_roots_without_keys inlineSource partly
  exact ⟨taken _ rfl (by decide), refused _ _ rfl (by simp) (.inl rfl)⟩

/-- A path that stands in no array is passed over in silence. -/
theorem ignores_scalar_roots : parse inlineSource "\x7b\"roots\": \"/srv\"\x7d" = .ok {} := by
  with_unfolding_all rfl

end Configuration

end Courier
