import LiveChat.Proofs.Json.Scalars
import Mathlib.Data.List.DropRight

/-!
Whatever is read is spelled by the grammar, and whatever the grammar spells is read, down to the
depth that is allowed.
-/

set_option autoImplicit false

namespace LiveChat.Json

/-- A reader takes what is spelled, and nothing else. That it stops there is asked only where no
digit, point or exponent follows, with which a number could go on. -/
structure Reads {Value : Type} (spelled : Value → List Char → Prop) (reader : Reader Value) :
    Prop where
  sound {value : Value} {input rest : List Char} (read : reader input = some (value, rest)) :
    ∃ chars, spelled value chars ∧ input = chars ++ rest
  complete {value : Value} {chars rest : List Char} (spells : spelled value chars)
    (stops : Stops rest) : reader (chars ++ rest) = some (value, rest)
  opens {value : Value} {chars : List Char} (spells : spelled value chars) :
    ∃ first more, chars = first :: more ∧ Opens first

theorem reads_string : Reads Quoted readString where
  sound := read_string_sound
  complete spells _ := read_string_complete spells _
  opens spells := by
    obtain ⟨inner, _, rfl⟩ := spells
    exact ⟨_, _, rfl, by decide⟩

/-! With blanks around them. -/

/-- What stands here does not belong to a value, nor to the blanks around it. -/
def Closes (rest : List Char) : Prop :=
  Stops rest ∧ ∀ char, rest.head? = some char → isSpace char = false

theorem closes_nil : Closes [] := ⟨nofun, nofun⟩

theorem closes_mark {mark : Char} (marked : mark = ',' ∨ mark = ':' ∨ mark = ']' ∨ mark = '\x7d')
    (rest : List Char) : Closes (mark :: rest) := by
  rcases marked with rfl | rfl | rfl | rfl
  all_goals exact ⟨by rintro char ⟨⟩; decide, by rintro char ⟨⟩; decide⟩

theorem stops_after {after rest : List Char} (blank : Blank after) (closes : Closes rest) :
    Stops (after ++ rest) := by
  cases after with
  | nil => exact closes.1
  | cons space after =>
      rintro char ⟨⟩
      have spaced : space = ' ' ∨ space = '\n' ∨ space = '\r' ∨ space = '\t' := by
        simpa [isSpace, or_assoc] using blank space List.mem_cons_self
      rcases spaced with rfl | rfl | rfl | rfl
      all_goals decide

section

variable {Value : Type} {spelled : Value → List Char → Prop} {reader : Reader Value}
  {value : Value} {chars input rest : List Char}

theorem Reads.padded_sound (reads : Reads spelled reader)
    (read : reader (skipSpaces input) = some (value, rest)) :
    ∃ chars, Padded (spelled value) chars ∧ input = chars ++ skipSpaces rest := by
  obtain ⟨before, blank, same⟩ := skip_spaces_split input
  obtain ⟨inner, spells, skipped⟩ := reads.sound read
  obtain ⟨after, blankAfter, rested⟩ := skip_spaces_split rest
  refine ⟨before ++ (inner ++ after), ⟨before, inner, after, blank, spells, blankAfter, rfl⟩, ?_⟩
  rw [List.append_assoc, List.append_assoc, ← rested, ← skipped, ← same]

theorem Reads.padded_complete (reads : Reads spelled reader) (padded : Padded (spelled value) chars)
    (closes : Closes rest) :
    ∃ left, reader (skipSpaces (chars ++ rest)) = some (value, left) ∧ skipSpaces left = rest := by
  obtain ⟨before, inner, after, blank, spells, blankAfter, rfl⟩ := padded
  obtain ⟨first, more, rfl, solid, _⟩ := reads.opens spells
  refine ⟨after ++ rest, ?_, skip_spaces_append blankAfter closes.2⟩
  rw [List.append_assoc, List.append_assoc,
    skip_spaces_append blank (by rintro char ⟨⟩; exact solid)]
  exact reads.complete spells (stops_after blankAfter closes)

theorem Reads.padded_opens (reads : Reads spelled reader) (padded : Padded (spelled value) chars)
    (rest : List Char) :
    ∃ first more, skipSpaces (chars ++ rest) = first :: more ∧ Opens first ∧
      rest.length ≤ more.length := by
  obtain ⟨before, inner, after, blank, spells, _, rfl⟩ := padded
  obtain ⟨first, more, rfl, opens⟩ := reads.opens spells
  refine ⟨first, more ++ (after ++ rest), ?_, opens, by simp only [List.length_append]; omega⟩
  rw [List.append_assoc, List.append_assoc,
    skip_spaces_append blank (by rintro char ⟨⟩; exact opens.1)]
  rfl

/-- Behind the blanks there is the start of a value, and a character for each value. -/
theorem listed_opens
    (each : ∀ {value : Value} {chars : List Char}, spelled value chars → ∀ rest : List Char,
      ∃ first more, skipSpaces (chars ++ rest) = first :: more ∧ Opens first ∧
        rest.length ≤ more.length)
    {values : List Value} (listed : Listed spelled values chars) (rest : List Char) :
    ∃ first more, skipSpaces (chars ++ rest) = first :: more ∧ Opens first ∧
      values.length ≤ (first :: more).length := by
  induction listed with
  | last only =>
      obtain ⟨first, more, same, opens, _⟩ := each only rest
      exact ⟨first, more, same, opens, Nat.succ_le_succ (Nat.zero_le _)⟩
  | @more value values chars others only listed induction =>
      obtain ⟨first, more, same, opens, longer⟩ := each only (',' :: (others ++ rest))
      obtain ⟨_, _, skipped, _, enough⟩ := induction
      have shorter : (skipSpaces (others ++ rest)).length ≤ (others ++ rest).length :=
        (List.dropWhile_suffix isSpace).length_le
      rw [skipped] at shorter
      refine ⟨first, more, by rw [List.append_assoc, List.cons_append, same], opens, ?_⟩
      simp only [List.length_cons] at *
      omega

end

theorem skip_skip_spaces (input : List Char) :
    skipSpaces (skipSpaces input) = skipSpaces input :=
  List.dropWhile_idempotent isSpace input

/-! Arrays. -/

section

variable {item : Json → List Char → Prop} {reader : Reader Json} {input chars rest : List Char}

theorem read_items_sound (reads : Reads item reader) {fuel : Nat} {seen values : List Json}
    (read : readItems reader fuel seen input = some (values, rest)) :
    ∃ items chars, values = seen.reverse ++ items ∧
      Listed (fun value => Padded (item value)) items chars ∧ input = chars ++ ']' :: rest := by
  induction fuel generalizing seen input with
  | zero => cases read
  | succ fuel induction =>
      rw [readItems] at read
      split at read
      · cases read
      · next value left first =>
        obtain ⟨chars, padded, same⟩ := reads.padded_sound first
        split at read
        · next later comma =>
          obtain ⟨items, others, rfl, listed, rfl⟩ := induction read
          refine ⟨value :: items, chars ++ ',' :: others, by simp, .more padded listed, ?_⟩
          rw [same, comma, List.append_assoc, List.cons_append]
        · next later bracket =>
          cases read
          exact ⟨[value], chars, List.reverse_cons, .last padded, by rw [same, bracket]⟩
        · cases read

theorem read_items_complete (reads : Reads item reader) {values : List Json}
    (listed : Listed (fun value => Padded (item value)) values chars) {fuel : Nat}
    (enough : values.length ≤ fuel) (seen : List Json) (rest : List Char) :
    readItems reader fuel seen (chars ++ ']' :: rest) = some (seen.reverse ++ values, rest) := by
  -- Each item takes one from the fuel.
  induction listed generalizing fuel seen with
  | last padded =>
      obtain ⟨left, read, skipped⟩ :=
        reads.padded_complete padded (closes_mark (.inr (.inr (.inl rfl))) rest)
      cases fuel with
      | zero => cases enough
      | succ fuel =>
          rw [readItems, read]
          simp only [skipped, List.reverse_cons]
  | @more value values chars others padded listed induction =>
      obtain ⟨left, read, skipped⟩ :=
        reads.padded_complete padded (closes_mark (.inl rfl) (others ++ ']' :: rest))
      cases fuel with
      | zero => cases enough
      | succ fuel =>
          rw [List.append_assoc, List.cons_append, readItems, read]
          simp only [skipped]
          rw [induction (Nat.le_of_succ_le_succ enough)]
          simp

theorem read_items_skip (fuel : Nat) (seen : List Json) (input : List Char) :
    readItems reader fuel seen (skipSpaces input) = readItems reader fuel seen input := by
  cases fuel with
  | zero => rfl
  | succ fuel => rw [readItems, readItems, skip_skip_spaces]

theorem read_array_sound (reads : Reads item reader) {value : Json}
    (read : readArray reader input = some (value, rest)) :
    ∃ chars, ArrayOf item value chars ∧ '[' :: input = chars ++ rest := by
  obtain ⟨before, blank, same⟩ := skip_spaces_split input
  unfold readArray at read
  split at read
  · next later bracket =>
    cases read
    refine ⟨'[' :: (before ++ [']']), .empty blank, ?_⟩
    rw [same, bracket]
    simp
  · obtain ⟨⟨values, _⟩, items, same⟩ := Option.map_eq_some_iff.mp read
    cases same
    rw [read_items_skip] at items
    obtain ⟨values, chars, rfl, listed, rfl⟩ := read_items_sound reads items
    exact ⟨'[' :: (chars ++ [']']), .filled listed, by simp⟩

theorem read_array_complete (reads : Reads item reader) {value : Json}
    (spells : ArrayOf item value chars) (rest : List Char) :
    ∃ inner, chars = '[' :: inner ∧ readArray reader (inner ++ rest) = some (value, rest) := by
  cases spells with
  | @empty inner blank =>
      refine ⟨inner ++ [']'], rfl, ?_⟩
      have skipped : skipSpaces (inner ++ [']'] ++ rest) = ']' :: rest := by
        rw [List.append_assoc]
        exact skip_spaces_append blank (by rintro char ⟨⟩; rfl)
      rw [readArray, skipped]
      rfl
  | @filled values inner listed =>
      refine ⟨inner ++ [']'], rfl, ?_⟩
      obtain ⟨first, more, same, opens, enough⟩ :=
        listed_opens reads.padded_opens listed (']' :: rest)
      have read := read_items_complete reads listed enough [] rest
      rw [← read_items_skip, same] at read
      rw [List.append_assoc, List.singleton_append, readArray, same]
      -- No value opens with a closing bracket, so the array is not taken for an empty one.
      split
      · next bracket =>
        cases bracket
        exact absurd rfl opens.2.1
      · rw [read]
        rfl

/-! Objects. -/

/-- The fields as they are collected. -/
def collect (seen : Fields) (written : List (String × Json)) : Fields :=
  written.foldl (fun sorted (key, value) => Fields.insert key value sorted) seen

theorem read_fields_sound (reads : Reads item reader) {fuel : Nat} {seen fields : Fields}
    (read : readFields reader fuel seen input = some (fields, rest)) :
    ∃ written chars, fields = collect seen written ∧ Listed (Member item) written chars ∧
      input = chars ++ '\x7d' :: rest := by
  induction fuel generalizing seen input with
  | zero => cases read
  | succ fuel induction =>
      rw [readFields] at read
      split at read
      · cases read
      · next key left named =>
        obtain ⟨name, paddedName, rfl⟩ := reads_string.padded_sound named
        split at read
        · next body colon =>
          split at read
          · cases read
          · next value left spelled =>
            obtain ⟨chars, padded, rfl⟩ := reads.padded_sound spelled
            have member : Member item (key, value) (name ++ ':' :: chars) :=
              ⟨name, chars, paddedName, padded, rfl⟩
            rw [colon]
            split at read
            · next later comma =>
              obtain ⟨written, others, rfl, listed, rfl⟩ := induction read
              refine ⟨(key, value) :: written, name ++ ':' :: chars ++ ',' :: others, rfl,
                .more member listed, ?_⟩
              rw [comma]
              simp
            · next later brace =>
              cases read
              exact ⟨[(key, value)], name ++ ':' :: chars, rfl, .last member, by simp [brace]⟩
            · cases read
        · cases read

theorem read_fields_complete (reads : Reads item reader) {written : List (String × Json)}
    (listed : Listed (Member item) written chars) {fuel : Nat} (enough : written.length ≤ fuel)
    (seen : Fields) (rest : List Char) :
    readFields reader fuel seen (chars ++ '\x7d' :: rest) = some (collect seen written, rest) := by
  induction listed generalizing fuel seen with
  | @last field chars member =>
      obtain ⟨name, body, named, padded, rfl⟩ := member
      obtain ⟨left, first, skipped⟩ := reads_string.padded_complete named
        (closes_mark (.inr (.inl rfl)) (body ++ '\x7d' :: rest))
      obtain ⟨more, second, ended⟩ := reads.padded_complete padded
        (closes_mark (.inr (.inr (.inr rfl))) rest)
      cases fuel with
      | zero => cases enough
      | succ fuel =>
          rw [List.append_assoc, List.cons_append, readFields, first]
          simp only [skipped, second, ended]
          rfl
  | @more field written chars others member listed induction =>
      obtain ⟨name, body, named, padded, rfl⟩ := member
      obtain ⟨left, first, skipped⟩ := reads_string.padded_complete named
        (closes_mark (.inr (.inl rfl)) (body ++ ',' :: (others ++ '\x7d' :: rest)))
      obtain ⟨more, second, ended⟩ := reads.padded_complete padded
        (closes_mark (.inl rfl) (others ++ '\x7d' :: rest))
      cases fuel with
      | zero => cases enough
      | succ fuel =>
          simp only [List.append_assoc, List.cons_append]
          rw [readFields, first]
          simp only [skipped, second, ended]
          rw [induction (Nat.le_of_succ_le_succ enough)]
          rfl

theorem read_fields_skip (fuel : Nat) (seen : Fields) (input : List Char) :
    readFields reader fuel seen (skipSpaces input) = readFields reader fuel seen input := by
  cases fuel with
  | zero => rfl
  | succ fuel => rw [readFields, readFields, skip_skip_spaces]

theorem read_object_sound (reads : Reads item reader) {value : Json}
    (read : readObject reader input = some (value, rest)) :
    ∃ chars, ObjectOf item value chars ∧ '\x7b' :: input = chars ++ rest := by
  obtain ⟨before, blank, same⟩ := skip_spaces_split input
  unfold readObject at read
  split at read
  · next later brace =>
    cases read
    refine ⟨'\x7b' :: (before ++ ['\x7d']), .empty blank, ?_⟩
    rw [same, brace]
    simp
  · obtain ⟨⟨fields, _⟩, members, same⟩ := Option.map_eq_some_iff.mp read
    cases same
    rw [read_fields_skip] at members
    obtain ⟨written, chars, rfl, listed, rfl⟩ := read_fields_sound reads members
    exact ⟨'\x7b' :: (chars ++ ['\x7d']), .filled listed (Fields.gathers_of_list written), by simp⟩

theorem member_opens (field : String × Json) {chars : List Char} (member : Member item field chars)
    (rest : List Char) :
    ∃ first more, skipSpaces (chars ++ rest) = first :: more ∧ Opens first ∧
      rest.length ≤ more.length := by
  obtain ⟨name, body, named, _, rfl⟩ := member
  obtain ⟨first, more, same, opens, longer⟩ :=
    reads_string.padded_opens named (':' :: (body ++ rest))
  refine ⟨first, more, by rw [List.append_assoc, List.cons_append, same], opens, ?_⟩
  simp only [List.length_cons, List.length_append] at longer
  omega

theorem read_object_complete (reads : Reads item reader) {value : Json}
    (spells : ObjectOf item value chars) (rest : List Char) :
    ∃ inner, chars = '\x7b' :: inner ∧ readObject reader (inner ++ rest) = some (value, rest) := by
  cases spells with
  | @empty inner blank =>
      refine ⟨inner ++ ['\x7d'], rfl, ?_⟩
      have skipped : skipSpaces (inner ++ ['\x7d'] ++ rest) = '\x7d' :: rest := by
        rw [List.append_assoc]
        exact skip_spaces_append blank (by rintro char ⟨⟩; rfl)
      rw [readObject, skipped]
      rfl
  | @filled written fields inner listed gathers =>
      refine ⟨inner ++ ['\x7d'], rfl, ?_⟩
      obtain ⟨first, more, same, opens, enough⟩ :=
        listed_opens (member_opens _) listed ('\x7d' :: rest)
      have read := read_fields_complete reads listed enough [] rest
      rw [← read_fields_skip, same] at read
      rw [List.append_assoc, List.singleton_append, readObject, same]
      split
      · next brace =>
        cases brace
        exact absurd rfl opens.2.2
      · rw [read, (Fields.gathers_iff written fields).mp gathers]
        rfl

end

/-! Values. -/

theorem reads_value (depth : Nat) : Reads (Spells depth) (readValue depth) := by
  induction depth with
  | zero =>
      exact
        { sound := read_scalar_sound
          complete := read_scalar_complete
          opens := fun spells => by
            obtain ⟨first, more, same, opens, _⟩ := scalar_starts spells
            exact ⟨first, more, same, opens⟩ }
  | succ depth reads =>
      constructor
      · intro value input rest read
        simp only [readValue] at read
        split at read
        · obtain ⟨chars, spells, same⟩ := read_array_sound reads read
          exact ⟨chars, .inr (.inl spells), same⟩
        · obtain ⟨chars, spells, same⟩ := read_object_sound reads read
          exact ⟨chars, .inr (.inr spells), same⟩
        · obtain ⟨chars, spells, same⟩ := read_scalar_sound read
          exact ⟨chars, .inl spells, same⟩
      · intro value chars rest spells stops
        rcases spells with scalar | array | object
        · obtain ⟨first, more, rfl, _, bracket, brace⟩ := scalar_starts scalar
          have read := read_scalar_complete scalar stops
          -- Arrays and objects are tried first, and no scalar opens like one.
          simp only [readValue, List.cons_append]
          split
          · next same =>
            cases same
            exact absurd rfl bracket
          · next same =>
            cases same
            exact absurd rfl brace
          · exact read
        · obtain ⟨inner, rfl, read⟩ := read_array_complete reads array rest
          exact read
        · obtain ⟨inner, rfl, read⟩ := read_object_complete reads object rest
          exact read
      · intro value chars spells
        rcases spells with scalar | array | object
        · obtain ⟨first, more, same, opens, _⟩ := scalar_starts scalar
          exact ⟨first, more, same, opens⟩
        · cases array <;> exact ⟨_, _, rfl, by decide⟩
        · cases object <;> exact ⟨_, _, rfl, by decide⟩

/-- A text is read as a value exactly if it is a JSON text of that value. -/
theorem parse_iff (text : String) (value : Json) :
    parse text = some value ↔ IsText value text := by
  unfold parse IsText
  constructor
  · intro parsed
    split at parsed
    · cases parsed
    · next read rest reading =>
      split at parsed
      · next ended =>
        cases parsed
        obtain ⟨chars, padded, same⟩ := (reads_value depthLimit).padded_sound reading
        rw [List.isEmpty_iff.mp ended, List.append_nil] at same
        rwa [same]
      · cases parsed
  · intro padded
    obtain ⟨left, read, ended⟩ := (reads_value depthLimit).padded_complete padded closes_nil
    rw [List.append_nil] at read
    rw [read]
    simp [ended]

end LiveChat.Json
