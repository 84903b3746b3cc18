import Courier.Json.Document

/-!
# What a document holds

Every number in a document has a literal that begins with a digit or a minus and
goes on with digits, signs, points and marks of an exponent only. This holds of each
token, and of all that is put together from tokens.
-/

namespace Courier.Json

/-! ## Literals -/

/-- A character that may stand in the literal of a number. -/
def IsNumeric (c : Char) : Prop := c.isDigit = true ∨ c = '-' ∨ c = '+' ∨ c = '.' ∨ c = 'e' ∨ c = 'E'

instance (c : Char) : Decidable (IsNumeric c) := inferInstanceAs (Decidable (_ ∨ _))

/-- A text that may be the literal of a number. -/
structure IsNumeral (literal : String) : Prop where
  numeric : ∀ c ∈ literal.toList, IsNumeric c
  front : literal.toList.head? ≠ some '+'

namespace Token

variable {c : Char} {front text : List Char}

theorem isDigit_of_mem_digits (present : c ∈ digits text) : c.isDigit = true :=
  List.all_eq_true.mp List.all_takeWhile c present

theorem isNumeric_of_mem_withDigits (numeric : ∀ c ∈ front, IsNumeric c) (present : c ∈ withDigits front text) :
    IsNumeric c := by
  unfold withDigits at present
  split at present
  · cases present
  · rcases List.mem_append.mp present with before | after
    · exact numeric c before
    · exact .inl (isDigit_of_mem_digits after)

theorem isDigit_of_mem_integer (present : c ∈ integer text) : c.isDigit = true := by
  unfold integer at present
  split at present
  · rw [List.mem_singleton.mp present]
    decide
  · exact isDigit_of_mem_digits present

theorem isNumeric_of_mem_fraction (present : c ∈ fraction text) : IsNumeric c := by
  unfold fraction at present
  split at present
  · exact isNumeric_of_mem_withDigits (by simp [IsNumeric]) present
  · cases present

theorem isNumeric_of_mem_exponent (present : c ∈ exponent text) : IsNumeric c := by
  unfold exponent at present
  split at present
  · split at present
    · rename_i mark sign rest marked
      have marks : IsNumeric mark := by rcases marked with rfl | rfl <;> simp [IsNumeric]
      split at present
      · rename_i signed
        have signs : IsNumeric sign := by rcases signed with rfl | rfl <;> simp [IsNumeric]
        exact isNumeric_of_mem_withDigits (by simp [marks, signs]) present
      · exact isNumeric_of_mem_withDigits (by simp [marks]) present
    · cases present
  · cases present

theorem isNumeric_of_mem_magnitude (present : c ∈ magnitude text) : IsNumeric c := by
  unfold magnitude at present
  simp only at present
  split at present
  · cases present
  · rcases List.mem_append.mp present with before | after
    · rcases List.mem_append.mp before with whole | part
      · exact .inl (isDigit_of_mem_integer whole)
      · exact isNumeric_of_mem_fraction part
    · exact isNumeric_of_mem_exponent after

/-- What has no sign begins with a digit. -/
theorem isDigit_of_head?_magnitude (found : (magnitude text).head? = some c) : c.isDigit = true := by
  unfold magnitude at found
  simp only at found
  split at found
  · cases found
  · rename_i inhabited
    cases whole : integer text with
    | nil => simp [whole] at inhabited
    | cons digit more =>
        rw [whole] at found
        cases found
        exact isDigit_of_mem_integer (whole ▸ List.mem_cons_self)

theorem isNumeral_number (text : List Char) : IsNumeral (String.ofList (number text)) := by
  constructor
  · intro c present
    rw [String.toList_ofList] at present
    unfold number at present
    split at present
    · split at present
      · cases present
      · rcases List.mem_cons.mp present with rfl | after
        · exact .inr (.inl rfl)
        · exact isNumeric_of_mem_magnitude after
    · exact isNumeric_of_mem_magnitude present
  · rw [String.toList_ofList]
    intro plus
    unfold number at plus
    split at plus
    · split at plus <;> cases plus
    · exact absurd (isDigit_of_head?_magnitude plus) (by decide)

end Token

/-! ## Values -/

/-- A value whose numbers have literals that they may have. -/
inductive IsWritten : Json → Prop
  | null : IsWritten .null
  | bool (value : Bool) : IsWritten (.bool value)
  | number {literal : String} (numeral : IsNumeral literal) : IsWritten (.number literal)
  | string (text : String) : IsWritten (.string text)
  | array {items : List Json} (inside : ∀ item ∈ items, IsWritten item) : IsWritten (.array items)
  | object {members : List (String × Json)} (inside : ∀ member ∈ members, IsWritten member.2) :
      IsWritten (.object members)

namespace Token

def IsWritten : Token → Prop
  | .scalar value => value.IsWritten
  | _ => True

theorem isWritten_word? {text rest : List Char} {value : Json} (found : word? text = some (value, rest)) :
    value.IsWritten := by
  unfold word? at found
  split at found <;> cases found
  · exact .null
  · exact .bool true
  · exact .bool false

theorem isWritten_first? {text rest : List Char} {token : Token} (found : first? text = some (token, rest)) :
    token.IsWritten := by
  unfold first? at found
  split at found
  case h_7 =>
    simp only [Option.map_eq_some_iff, Prod.mk.injEq] at found
    obtain ⟨_, _, rfl, _⟩ := found
    exact .string _
  case h_8 =>
    split at found
    · rename_i word
      cases found
      exact isWritten_word? word
    · split at found <;> cases found
      exact .number (isNumeral_number _)
  all_goals
    cases found
    trivial

theorem isWritten_scan {text : List Char} {tokens : List Token} (found : scan text = some tokens) :
    ∀ token ∈ tokens, token.IsWritten := by
  fun_induction scan text generalizing tokens with
  | case1 =>
      cases found
      exact List.forall_mem_nil _
  | case2 c rest space ih => exact ih found
  | case3 => cases found
  | case4 c rest space token after first ih =>
      simp only [Option.map_eq_some_iff] at found
      obtain ⟨more, scanned, rfl⟩ := found
      exact List.forall_mem_cons.mpr ⟨isWritten_first? first, ih scanned⟩

end Token

/-! ## Readings -/

def Frame.IsWritten : Frame → Prop
  | .array items => ∀ item ∈ items, item.IsWritten
  | .object members _ => ∀ member ∈ members, member.2.IsWritten

theorem Frame.IsWritten.item {items : List Json} {value : Json} (former : (Frame.array items).IsWritten)
    (whole : value.IsWritten) : ∀ item ∈ items ++ [value], item.IsWritten :=
  List.forall_mem_append.mpr ⟨former, List.forall_mem_singleton.mpr whole⟩

theorem Frame.IsWritten.member {members : List (String × Json)} {key : String} {value : Json}
    (former : (Frame.object members key).IsWritten) (whole : value.IsWritten) :
    ∀ member ∈ members ++ [(key, value)], member.2.IsWritten := by
  refine List.forall_mem_append.mpr ⟨former, fun member present => ?_⟩
  rw [List.mem_singleton.mp present]
  exact whole

def Expected.IsWritten : Expected → Prop
  | .value | .firstItem | .firstKey => True
  | .key members | .colon members _ => ∀ member ∈ members, member.2.IsWritten
  | .after whole => whole.IsWritten

namespace Reading

/-- Everything that has been read so far is written as it may be. -/
structure IsWritten (reading : Reading) : Prop where
  expected : reading.expected.IsWritten
  frames : ∀ frame ∈ reading.frames, frame.IsWritten

variable {reading next : Reading} {frames : List Frame} {token : Token} {value : Json}

theorem isWritten_begin? (inside : ∀ frame ∈ frames, frame.IsWritten) (written : token.IsWritten)
    (found : begin? frames token = some next) : next.IsWritten := by
  cases token <;> cases found
  case scalar value => exact ⟨written, inside⟩
  all_goals exact ⟨trivial, inside⟩

theorem isWritten_continue? (whole : value.IsWritten) (inside : ∀ frame ∈ frames, frame.IsWritten)
    (found : continue? value frames token = some next) : next.IsWritten := by
  unfold continue? at found
  split at found
  case h_5 => cases found
  all_goals
    cases found
    obtain ⟨front, rest⟩ := List.forall_mem_cons.mp inside
  · exact ⟨trivial, List.forall_mem_cons.mpr ⟨front.item whole, rest⟩⟩
  · exact ⟨.array (front.item whole), rest⟩
  · exact ⟨front.member whole, rest⟩
  · exact ⟨.object (front.member whole), rest⟩

/-- One more token keeps what has been read as it may be. -/
theorem IsWritten.step? (sound : reading.IsWritten) (written : token.IsWritten)
    (found : reading.step? token = some next) : next.IsWritten := by
  obtain ⟨expected, frames⟩ := reading
  obtain ⟨whole, inside⟩ := sound
  unfold Reading.step? at found
  simp only at found whole inside
  split at found
  case h_1 => exact isWritten_begin? inside written found
  case h_2 =>
    cases found
    exact ⟨.array (List.forall_mem_nil _), inside⟩
  case h_3 =>
    have empty : (Frame.array []).IsWritten := List.forall_mem_nil _
    exact isWritten_begin? (List.forall_mem_cons.mpr ⟨empty, inside⟩) written found
  case h_4 =>
    cases found
    exact ⟨.object (List.forall_mem_nil _), inside⟩
  case h_5 =>
    cases found
    exact ⟨List.forall_mem_nil _, inside⟩
  case h_6 =>
    cases found
    exact ⟨whole, inside⟩
  case h_7 =>
    cases found
    exact ⟨trivial, List.forall_mem_cons.mpr ⟨whole, inside⟩⟩
  case h_8 => exact isWritten_continue? whole inside found
  case h_9 => cases found

theorem IsWritten.foldlM_step? {tokens : List Token} (sound : reading.IsWritten)
    (written : ∀ token ∈ tokens, token.IsWritten) (found : tokens.foldlM Reading.step? reading = some next) :
    next.IsWritten := by
  induction tokens generalizing reading with
  | nil =>
      cases found
      exact sound
  | cons token rest ih =>
      obtain ⟨front, others⟩ := List.forall_mem_cons.mp written
      rw [List.foldlM_cons, Option.bind_eq_bind, Option.bind_eq_some_iff] at found
      obtain ⟨middle, first, later⟩ := found
      exact ih (sound.step? front first) others later

end Reading

/-- Every number in a document has a literal that it may have. -/
theorem isWritten_parse? {text : String} {value : Json} (parsed : parse? text = some value) :
    value.IsWritten := by
  simp only [parse?, ofTokens?, Option.bind_eq_some_iff] at parsed
  obtain ⟨tokens, scanned, reading, read, complete⟩ := parsed
  have start : Reading.IsWritten ⟨.value, []⟩ := ⟨trivial, List.forall_mem_nil _⟩
  have sound := start.foldlM_step? (Token.isWritten_scan scanned) read
  unfold Reading.value? at complete
  split at complete <;> cases complete
  exact sound.expected

end Courier.Json
