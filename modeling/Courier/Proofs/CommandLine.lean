import Courier.CommandLine

/-!
# The grammar of command lines

A command line is a sequence of items: the flag for serving, a flag with the argument
after it, or a root directory. Its first argument tells what an item is, so that an
argument in the place of a value is never read as a flag and no command line splits
into items in two ways. What the items ask for is told from the whole sequence; reading
finds the same and refuses everything else.
-/

namespace Courier

/-- How the flag for an option that takes a value is written. -/
def Setting.flag : Setting → (long : Bool) → String
  | configFile, false => "-c"
  | configFile, true => "--config"
  | logFile, false => "-l"
  | logFile, true => "--log-file"
  | logLevel, false => "-v"
  | logLevel, true => "--log-level"

namespace CommandLine

/-- How the flag for serving is written. -/
def serveFlag : (long : Bool) → String
  | false => "-s"
  | true => "--serve"

/-- A part of a command line that has a meaning of its own. -/
inductive Item where
  | serve (long : Bool)
  /-- A flag and the argument after it, whatever that is. -/
  | setting (option : Setting) (long : Bool) (value : String)
  /-- A directory to discover files in. Its path may be empty, but does not begin like a flag. -/
  | root (path : String) (plain : path.toList.head? ≠ some '-')

/-- What an item decides about. -/
inductive Subject where
  | serve
  | setting (option : Setting)
  | root
  deriving DecidableEq

namespace Item

/-- The arguments that an item consists of. -/
def spell : Item → List String
  | serve long => [serveFlag long]
  | setting option long value => [option.flag long, value]
  | root path _ => [path]

def subject : Item → Subject
  | serve _ => .serve
  | setting option _ _ => .setting option
  | root .. => .root

def root? : Item → Option String
  | root path _ => some path
  | serve _ | setting .. => none

/-- The value that an item gives to an option. -/
def value? (option : Setting) : Item → Option String
  | setting other _ value => if other = option then some value else none
  | serve _ | root .. => none

end Item

/-- The arguments that a sequence of items consists of. -/
def spell (items : List Item) : List String := items.flatMap Item.spell

/-- The directories that are named, in their order. -/
def roots (items : List Item) : List String := items.filterMap Item.root?

/-- The values that are given to an option, in their order. -/
def values (items : List Item) (option : Setting) : List String := items.filterMap (Item.value? option)

/-- Options after what some items ask for. Of the values that are given to one option the last counts. -/
def amend (options : Options) (items : List Item) : Options where
  root := (roots items).getLastD options.root
  configFile := (values items .configFile).getLastD options.configFile
  logFile := (values items .logFile).getLastD options.logFile
  logLevel := (values items .logLevel).getLastD options.logLevel
  serve := options.serve || items.any fun item => item.subject = .serve

/-- Whether options ask for one thing: to serve, or to discover files somewhere. -/
def IsPurposeful (options : Options) : Prop :=
  options.serve = true ∧ options.root = "" ∨
    options.serve = false ∧ (options.root ≠ "" ∨ options.configFile ≠ "")

instance (options : Options) : Decidable (IsPurposeful options) := inferInstanceAs (Decidable (_ ∨ _))

/-- What makes a sequence of items a command line. -/
structure IsWellFormed (items : List Item) : Prop where
  /-- A directory that is named before another one has no name. -/
  roots : ∀ path ∈ (roots items).dropLast, path = ""
  purpose : IsPurposeful (amend {} items)

variable {options final : Options} {items others : List Item} {first second : Item}
  {arguments left right : List String} {argument : String} {long otherLong : Bool} {option other : Setting}

/-! ## Flags -/

theorem flag_injective (same : option.flag long = other.flag otherLong) : option = other ∧ long = otherLong := by
  revert same
  cases option <;> cases long <;> cases other <;> cases otherLong <;> decide

theorem serveFlag_injective (same : serveFlag long = serveFlag otherLong) : long = otherLong := by
  revert same
  cases long <;> cases otherLong <;> decide

theorem serveFlag_ne_flag (long : Bool) (option : Setting) (otherLong : Bool) :
    serveFlag long ≠ option.flag otherLong := by
  cases long <;> cases option <;> cases otherLong <;> decide

theorem head?_flag (option : Setting) (long : Bool) : (option.flag long).toList.head? = some '-' := by
  cases option <;> cases long <;> rfl

theorem head?_serveFlag (long : Bool) : (serveFlag long).toList.head? = some '-' := by
  cases long <;> rfl

theorem isServeFlag_iff : isServeFlag argument = true ↔ ∃ long, serveFlag long = argument := by
  rw [isServeFlag, Bool.or_eq_true, beq_iff_eq, beq_iff_eq]
  constructor
  · rintro (rfl | rfl)
    · exact ⟨false, rfl⟩
    · exact ⟨true, rfl⟩
  · rintro ⟨long, rfl⟩
    cases long <;> decide

theorem ofFlag?_flag (option : Setting) (long : Bool) : Setting.ofFlag? (option.flag long) = some option := by
  cases option <;> cases long <;> rfl

theorem exists_flag_of_ofFlag? (known : Setting.ofFlag? argument = some option) :
    ∃ long, option.flag long = argument := by
  unfold Setting.ofFlag? at known
  split at known
  · cases known; exact ⟨false, rfl⟩
  · cases known; exact ⟨true, rfl⟩
  · cases known; exact ⟨false, rfl⟩
  · cases known; exact ⟨true, rfl⟩
  · cases known; exact ⟨false, rfl⟩
  · cases known; exact ⟨true, rfl⟩
  · cases known

theorem looksLikeFlag_eq_false_iff : looksLikeFlag argument = false ↔ argument.toList.head? ≠ some '-' := by
  simp [looksLikeFlag]

/-! ## Splitting -/

/-- Arguments begin with one item only. -/
theorem spell_append_inj (same : first.spell ++ left = second.spell ++ right) : first = second ∧ left = right := by
  cases first with
  | serve long =>
      cases second with
      | serve otherLong =>
          obtain ⟨flags, rest⟩ := List.cons.inj same
          exact ⟨congrArg Item.serve (serveFlag_injective flags), rest⟩
      | setting option otherLong value => exact absurd (List.cons.inj same).1 (serveFlag_ne_flag _ _ _)
      | root path plain =>
          obtain ⟨rfl, _⟩ := List.cons.inj same
          exact absurd (head?_serveFlag long) plain
  | setting option long value =>
      cases second with
      | serve otherLong => exact absurd (List.cons.inj same).1.symm (serveFlag_ne_flag _ _ _)
      | setting other otherLong otherValue =>
          obtain ⟨flags, more⟩ := List.cons.inj same
          obtain ⟨rfl, rfl⟩ := flag_injective flags
          have ⟨value, rest⟩ : value = otherValue ∧ left = right := List.cons.inj more
          rw [value]
          exact ⟨rfl, rest⟩
      | root path plain =>
          obtain ⟨rfl, _⟩ := List.cons.inj same
          exact absurd (head?_flag option long) plain
  | root path plain =>
      cases second with
      | serve otherLong =>
          obtain ⟨rfl, _⟩ := List.cons.inj same
          exact absurd (head?_serveFlag otherLong) plain
      | setting option otherLong value =>
          obtain ⟨rfl, _⟩ := List.cons.inj same
          exact absurd (head?_flag option otherLong) plain
      | root other otherPlain =>
          obtain ⟨rfl, rest⟩ := List.cons.inj same
          exact ⟨rfl, rest⟩

theorem spell_ne_nil (item : Item) : item.spell ≠ [] := by
  cases item <;> exact List.cons_ne_nil _ _

theorem spell_cons (item : Item) (items : List Item) : spell (item :: items) = item.spell ++ spell items :=
  List.flatMap_cons

/-- No arguments split into items in two ways. -/
theorem spell_injective (same : spell items = spell others) : items = others := by
  induction items generalizing others with
  | nil =>
      cases others with
      | nil => rfl
      | cons second others =>
          rw [spell_cons] at same
          exact absurd (List.append_eq_nil_iff.mp same.symm).1 (spell_ne_nil second)
  | cons first items ih =>
      cases others with
      | nil =>
          rw [spell_cons] at same
          exact absurd (List.append_eq_nil_iff.mp same).1 (spell_ne_nil first)
      | cons second others =>
          rw [spell_cons, spell_cons] at same
          obtain ⟨rfl, rest⟩ := spell_append_inj same
          rw [ih rest]

/-! ## Reading items -/

/-- What reading an item makes of options; nothing if it names a directory after another. -/
def take? (options : Options) : Item → Option Options
  | .serve _ => some { options with serve := true }
  | .setting option _ value => some (options.set option value)
  | .root path _ => if options.root = "" then some { options with root := path } else none

theorem scan_item (options : Options) (item : Item) (rest : List String) :
    scan options (item.spell ++ rest) =
      match take? options item with
      | some next => scan next rest
      | none => (options, some .secondRoot) := by
  cases item with
  | serve long =>
      rw [Item.spell, List.singleton_append, scan, if_pos (isServeFlag_iff.mpr ⟨long, rfl⟩)]
      rfl
  | setting option long value =>
      have other : ¬isServeFlag (option.flag long) = true := fun flag =>
        let ⟨_, same⟩ := isServeFlag_iff.mp flag
        serveFlag_ne_flag _ _ _ same
      rw [Item.spell, List.cons_append, scan, if_neg other, ofFlag?_flag]
      rfl
  | root path plain =>
      have unserving : ¬isServeFlag path = true := fun flag => by
        obtain ⟨long, rfl⟩ := isServeFlag_iff.mp flag
        exact plain (head?_serveFlag long)
      have unknown : Setting.ofFlag? path = none := by
        cases known : Setting.ofFlag? path with
        | none => rfl
        | some option =>
            obtain ⟨long, rfl⟩ := exists_flag_of_ofFlag? known
            exact absurd (head?_flag option long) plain
      rw [Item.spell, List.singleton_append, scan, if_neg unserving, unknown]
      simp only [looksLikeFlag_eq_false_iff.mpr plain, Bool.false_eq_true, if_false, take?, String.isEmpty_iff]
      split <;> rfl

/-- What reading some items makes of options; nothing if a directory is named after another. -/
def takeAll? (options : Options) (items : List Item) : Option Options := items.foldlM take? options

theorem scan_items (taken : takeAll? options items = some final) (rest : List String) :
    scan options (spell items ++ rest) = scan final rest := by
  induction items generalizing options with
  | nil =>
      cases taken
      rfl
  | cons item items ih =>
      obtain ⟨next, first, others⟩ := Option.bind_eq_some_iff.mp taken
      rw [spell_cons, List.append_assoc, scan_item, first]
      exact ih others

theorem scan_items_refused (refused : takeAll? options items = none) (rest : List String) :
    (scan options (spell items ++ rest)).2 = some .secondRoot := by
  induction items generalizing options with
  | nil => cases refused
  | cons item items ih =>
      rw [spell_cons, List.append_assoc, scan_item]
      cases first : take? options item with
      | none => rfl
      | some next =>
          rw [takeAll?, List.foldlM_cons, first] at refused
          exact ih refused

/-- What is read without a fault is a sequence of items. -/
theorem exists_items_of_scan (scanned : scan options arguments = (final, none)) :
    ∃ items, spell items = arguments ∧ takeAll? options items = some final := by
  -- along the reading, which takes a flag and its value at once, so that each step gives one item or a fault
  fun_induction scan options arguments with
  | case1 options =>
      cases scanned
      exact ⟨[], rfl, rfl⟩
  | case2 options argument rest serving ih =>
      obtain ⟨long, rfl⟩ := isServeFlag_iff.mp serving
      obtain ⟨items, spelled, taken⟩ := ih scanned
      exact ⟨.serve long :: items, by rw [spell_cons, spelled]; rfl, taken⟩
  | case3 => cases scanned
  | case4 options argument _ option known value rest ih =>
      obtain ⟨long, rfl⟩ := exists_flag_of_ofFlag? known
      obtain ⟨items, spelled, taken⟩ := ih scanned
      exact ⟨.setting option long value :: items, by rw [spell_cons, spelled]; rfl, taken⟩
  | case5 => cases scanned
  | case6 options path rest _ _ unflagged unnamed ih =>
      have plain := looksLikeFlag_eq_false_iff.mp (Bool.eq_false_iff.mpr unflagged)
      obtain ⟨items, spelled, taken⟩ := ih scanned
      refine ⟨.root path plain :: items, by rw [spell_cons, spelled]; rfl, ?_⟩
      rw [takeAll?, List.foldlM_cons, take?, if_pos (String.isEmpty_iff.mp unnamed)]
      exact taken
  | case7 => cases scanned

theorem scan_accepts_iff : scan options arguments = (final, none) ↔
    ∃ items, spell items = arguments ∧ takeAll? options items = some final := by
  refine ⟨exists_items_of_scan, ?_⟩
  rintro ⟨items, rfl, taken⟩
  have scanned := scan_items taken []
  rwa [List.append_nil] at scanned

/-! ## What items ask for -/

/-- The last value that items give is that of the first item if no other gives one. -/
theorem getLastD_filterMap_cons (pick : Item → Option String) (item : Item) (items : List Item) (default : String) :
    ((item :: items).filterMap pick).getLastD default =
      (items.filterMap pick).getLastD ((pick item).getD default) := by
  cases picked : pick item with
  | none => rw [List.filterMap_cons_none picked, Option.getD_none]
  | some value => rw [List.filterMap_cons_some picked, List.getLastD_cons, Option.getD_some]

/-- What is asked for first is what reading the first item makes of the options. -/
theorem amend_cons {item : Item} (taken : take? options item = some final) (items : List Item) :
    amend options (item :: items) = amend final items := by
  simp only [amend, roots, values, getLastD_filterMap_cons, List.any_cons, ← Bool.or_assoc]
  cases item with
  | serve long =>
      cases taken
      simp [Item.root?, Item.value?, Item.subject]
  | setting option long value =>
      cases taken
      cases option <;> simp [Item.root?, Item.value?, Item.subject, Options.set]
  | root path plain =>
      rw [take?] at taken
      split at taken
      · cases taken
        simp [Item.root?, Item.value?, Item.subject]
      · cases taken

/-- An item is refused exactly if it names a directory and one has been named. -/
theorem take?_eq_none_iff {item : Item} :
    take? options item = none ↔ ∃ path, item.root? = some path ∧ options.root ≠ "" := by
  cases item <;> simp [take?, Item.root?]

/-- Whether no directory is named after another, where one may have been named before. -/
def NamesOnce (earlier : String) (paths : List String) : Prop := ∀ path ∈ (earlier :: paths).dropLast, path = ""

theorem namesOnce_cons {earlier path : String} {paths : List String} :
    NamesOnce earlier (path :: paths) ↔ earlier = "" ∧ NamesOnce path paths := by
  simp [NamesOnce]

theorem namesOnce_empty {paths : List String} : NamesOnce "" paths ↔ ∀ path ∈ paths.dropLast, path = "" := by
  cases paths with
  | nil => simp [NamesOnce]
  | cons path paths => simp [NamesOnce]

/-- Items are read without a fault if no directory is named after another, and what they ask for is read. -/
theorem takeAll?_eq_some_iff :
    takeAll? options items = some final ↔ NamesOnce options.root (roots items) ∧ final = amend options items := by
  induction items generalizing options with
  | nil => simp [takeAll?, NamesOnce, roots, values, amend, eq_comm]
  | cons item items ih =>
      cases taken : take? options item with
      | some next =>
          rw [takeAll?, List.foldlM_cons, taken, amend_cons taken]
          refine ih.trans (and_congr_left fun _ => ?_)
          cases item with
          | serve long =>
              cases taken
              rfl
          | setting option long value =>
              cases taken
              cases option <;> rfl
          | root path plain =>
              -- what follows meets this directory as the one that was named before
              obtain ⟨unnamed, rfl⟩ : options.root = "" ∧ { options with root := path } = next := by
                simpa [take?] using taken
              have first : roots (.root path plain :: items) = path :: roots items := List.filterMap_cons_some rfl
              rw [first, namesOnce_cons]
              exact (and_iff_right unnamed).symm
      | none =>
          obtain ⟨path, names, named⟩ := take?_eq_none_iff.mp taken
          rw [takeAll?, List.foldlM_cons, taken, roots, List.filterMap_cons_some names, namesOnce_cons]
          exact iff_of_false nofun fun ⟨⟨unnamed, _⟩, _⟩ => named unnamed

/-! ## Judging -/

theorem judge_eq_none_iff : judge options = none ↔ IsPurposeful options := by
  unfold judge IsPurposeful
  cases options.serve with
  | true => simp
  | false => by_cases unnamed : options.root = "" <;> simp [unnamed]

theorem read_accepts_iff :
    read arguments = (options, none) ↔ scan {} arguments = (options, none) ∧ IsPurposeful options := by
  unfold read
  rw [← judge_eq_none_iff]
  rcases scan {} arguments with ⟨left, _ | error⟩
  · simp only [Prod.mk.injEq, and_true]
    exact and_congr_right fun same => by rw [same]
  · simp

theorem snd_read_of_scan {error : UsageError} (refused : (scan {} arguments).2 = some error) :
    (read arguments).2 = some error := by
  unfold read
  split
  · rename_i found scanned
    rw [scanned] at refused
    exact refused
  · rename_i scanned
    rw [scanned] at refused
    cases refused

/-! ## Exchanging items -/

theorem set_comm (different : option ≠ other) (options : Options) (value otherValue : String) :
    (options.set option value).set other otherValue = (options.set other otherValue).set option value := by
  cases option <;> cases other <;> first | rfl | exact absurd rfl different

/-- What else is asked for makes no difference to the directory. -/
theorem take?_root_comm {item : Item} (different : item.subject ≠ .root) (options : Options) (path : String)
    (plain : path.toList.head? ≠ some '-') :
    (take? options item).bind (take? · (.root path plain)) =
      (take? options (.root path plain)).bind (take? · item) := by
  cases item with
  | serve long => by_cases unnamed : options.root = "" <;> simp [take?, unnamed]
  | setting option long value =>
      cases option <;> by_cases unnamed : options.root = "" <;> simp [take?, Options.set, unnamed]
  | root path plain => exact absurd rfl different

/-- Items that decide about different things can be read in either order. -/
theorem take?_comm (different : first.subject ≠ second.subject) (options : Options) :
    (take? options first).bind (take? · second) = (take? options second).bind (take? · first) := by
  cases first with
  | serve long =>
      cases second with
      | serve otherLong => exact absurd rfl different
      | setting other otherLong otherValue => cases other <;> rfl
      | root path plain => exact take?_root_comm different options path plain
  | setting option long value =>
      cases second with
      | serve otherLong => cases option <;> rfl
      | setting other otherLong otherValue =>
          have apart : option ≠ other := fun same => different (congrArg Subject.setting same)
          exact congrArg some (set_comm apart options value otherValue)
      | root path plain => exact take?_root_comm different options path plain
  | root path plain => exact (take?_root_comm different.symm options path plain).symm

theorem takeAll?_exchange (before : List Item) (different : first.subject ≠ second.subject) (options : Options) :
    takeAll? options (before ++ [first, second]) = takeAll? options (before ++ [second, first]) := by
  have pair (one two : Item) (options : Options) :
      [one, two].foldlM take? options = (take? options one).bind (take? · two) := by
    rw [List.foldlM_cons]
    exact bind_congr fun next => bind_pure _
  unfold takeAll?
  rw [List.foldlM_append, List.foldlM_append]
  refine bind_congr fun next => ?_
  rw [pair, pair, take?_comm different]

/-- Items of which reading makes the same can stand in each other's place, whatever arguments follow. -/
theorem read_congr (same : takeAll? {} items = takeAll? {} others) (rest : List String) :
    (read (spell items ++ rest)).2 = (read (spell others ++ rest)).2 ∧
      ((read (spell items ++ rest)).2 = none → read (spell items ++ rest) = read (spell others ++ rest)) := by
  cases taken : takeAll? {} items with
  | some next =>
      have reads : read (spell items ++ rest) = read (spell others ++ rest) := by
        rw [read, read, scan_items taken, scan_items (same ▸ taken)]
      exact ⟨congrArg Prod.snd reads, fun _ => reads⟩
  | none =>
      have refused := snd_read_of_scan (scan_items_refused taken rest)
      have alsoRefused := snd_read_of_scan (scan_items_refused (same ▸ taken) rest)
      refine ⟨refused.trans alsoRefused.symm, fun accepted => ?_⟩
      rw [refused] at accepted
      cases accepted

/-! ## The grammar -/

/-- A command line is accepted exactly if it is the spelling of a well-formed sequence of items, and what is read
then is what the items ask for. There is one such sequence at most. Two neighbouring items that decide about
different things can be exchanged, whatever follows them: either both command lines are accepted and mean the same,
or both are refused for the same reason. -/
theorem reads_exactly_its_grammar :
    (∀ arguments options, read arguments = (options, none) ↔
      ∃ items, spell items = arguments ∧ IsWellFormed items ∧ options = amend {} items) ∧
    (∀ items others, spell items = spell others → items = others) ∧
    ∀ before first second rest, first.subject ≠ second.subject →
      let here := read (spell (before ++ [first, second]) ++ rest)
      let there := read (spell (before ++ [second, first]) ++ rest)
      here.2 = there.2 ∧ (here.2 = none → here = there) := by
  refine ⟨fun arguments options => ?_, fun _ _ => spell_injective,
    fun before first second rest different => read_congr (takeAll?_exchange before different {}) rest⟩
  rw [read_accepts_iff, scan_accepts_iff]
  constructor
  · rintro ⟨⟨items, spelled, taken⟩, purpose⟩
    obtain ⟨once, rfl⟩ := takeAll?_eq_some_iff.mp taken
    exact ⟨items, spelled, ⟨namesOnce_empty.mp once, purpose⟩, rfl⟩
  · rintro ⟨items, spelled, ⟨once, purpose⟩, rfl⟩
    exact ⟨⟨items, spelled, takeAll?_eq_some_iff.mpr ⟨namesOnce_empty.mpr once, rfl⟩⟩, purpose⟩

/-- A flag in the place of a value, a directory without a name before the one that counts, and a second spelling:
the last value counts, and the last two items can be exchanged. -/
theorem reads_exactly_its_grammar_overridden :
    Subject.root ≠ .setting .configFile ∧
      read ["-c", "-s", "", "data", "--config", "new.json"] = ({ root := "data", configFile := "new.json" }, none) ∧
      read ["-c", "-s", "", "--config", "new.json", "data"] = ({ root := "data", configFile := "new.json" }, none) := by
  have different : Subject.root ≠ .setting .configFile := by decide
  have accepted : read ["-c", "-s", "", "data", "--config", "new.json"] =
      ({ root := "data", configFile := "new.json" }, none) :=
    (reads_exactly_its_grammar.1 _ _).mpr
      ⟨[.setting .configFile false "-s", .root "" (by decide), .root "data" (by decide),
          .setting .configFile true "new.json"], rfl, ⟨by decide, by decide⟩, by decide⟩
  have exchanged := reads_exactly_its_grammar.2.2 [.setting .configFile false "-s", .root "" (by decide)]
    (.root "data" (by decide)) (.setting .configFile true "new.json") [] different
  have same := exchanged.2 (congrArg Prod.snd accepted)
  exact ⟨different, accepted, same.symm.trans accepted⟩

end CommandLine

end Courier
