import MessageRouting.Proofs.Json.Exact
import MessageRouting.Proofs.Json.Numbers
import MessageRouting.Proofs.Json.Quoting

/-!
# Documents read back

A document without floats is read back from its compact text, if it does not nest
deeper than the reader goes. The induction is on the document; each of its parts is
read up to what closes it, and the length of the text is fuel enough.
-/

namespace MessageRouting.Json

/-! ## The parts of a text -/

/-- The items with commas between them. -/
def itemsText : List Json → List Char
  | [] => []
  | first :: rest => chars first ++ tailItems rest

/-- The members with commas between them. -/
def membersText : List (String × Json) → List Char
  | [] => []
  | (name, first) :: rest => quote name ++ ':' :: chars first ++ tailMembers rest

theorem chars_array (items : List Json) : chars (array items) = '[' :: (itemsText items ++ [']']) := by
  cases items <;> simp [chars, itemsText]

theorem chars_object (members : List (String × Json)) :
    chars (object members) = '{' :: (membersText members ++ ['}']) := by
  cases members <;> simp [chars, membersText]

/-- The first character of a document is no blank and ends no list. -/
def Begins (c : Char) : Prop :=
  isSpace c = false ∧ c ≠ ']'

theorem begins_of_digit {c : Char} (isDigit : '0' ≤ c ∧ c ≤ '9') : Begins c := by
  obtain ⟨low, high⟩ := isDigit
  have above : ∀ other : Char, other < '0' → c ≠ other := by
    rintro other below rfl
    exact absurd low (Char.not_le.mpr below)
  refine ⟨?_, ?_⟩
  · simp [isSpace, above]
  · rintro rfl
    exact absurd high (by decide)

theorem begins_intChars (i : Int) : ∃ c text, Text.intChars i = c :: text ∧
    Begins c ∧ (c = '-' ∨ '0' ≤ c ∧ c ≤ '9') := by
  obtain ⟨first, others, digits, isDigit, _⟩ := Text.exists_decimalDigits i.natAbs
  unfold Text.intChars
  split
  · exact ⟨'-', _, rfl, ⟨rfl, by decide⟩, .inl rfl⟩
  · exact ⟨first, others, digits, begins_of_digit isDigit, .inr isDigit⟩

theorem begins_chars (document : Json) (isExact : document.isExact = true) :
    ∃ c text, document.chars = c :: text ∧ Begins c := by
  cases document with
  | null => exact ⟨_, _, rfl, rfl, by decide⟩
  | bool value => cases value <;> exact ⟨_, _, rfl, rfl, by decide⟩
  | int value =>
      obtain ⟨c, text, written, begins, _⟩ := begins_intChars value
      exact ⟨c, text, by rw [chars, written], begins⟩
  | float => contradiction
  | string value => exact ⟨_, _, rfl, rfl, by decide⟩
  | array items => exact ⟨_, _, chars_array items, rfl, by decide⟩
  | object members => exact ⟨_, _, chars_object members, rfl, by decide⟩

/-! ## Steps of the reader -/

variable {depth fuel : Nat} {text rest behind : List Char} {c : Char} {item : Json}
  {items : List Json} {members : List (String × Json)} {name : String}

theorem Begins.skipSpace_eq (begins : Begins c) : skipSpace (c :: text) = c :: text := by
  rw [skipSpace, List.dropWhile_cons_of_neg]
  rw [begins.1]
  exact Bool.false_ne_true

theorem Begins.behindComma_eq (begins : Begins c) :
    behindComma ']' (c :: text) = .ok (c :: text) := by
  rw [behindComma, begins.skipSpace_eq]
  exact if_neg begins.2

/-- What begins like a number is read as one. -/
theorem readValue_number (begins : Begins c) (number : c = '-' ∨ '0' ≤ c ∧ c ≤ '9') :
    readValue depth (fuel + 1) (c :: text) = readNumber (c :: text) := by
  have other : ∀ {letter : Char} {after : List Char}, c :: text = letter :: after →
      ¬(letter = '-' ∨ '0' ≤ letter ∧ letter ≤ '9') → False := by
    intro letter after same different
    exact different ((List.cons.inj same).1 ▸ number)
  rw [readValue, begins.skipSpace_eq]
  split
  case h_8 same =>
    obtain ⟨rfl, rfl⟩ := List.cons.inj same
    exact if_pos number
  case h_1 same => exact absurd same (List.cons_ne_nil c text)
  all_goals
    rename_i same
    exact (other same (by decide)).elim

/-- A list with items is read item by item. -/
theorem readValue_list (begins : Begins c)
    (read : readItems depth fuel (c :: text) = .ok (items, rest)) :
    readValue (depth + 1) (fuel + 1) ('[' :: c :: text) = .ok (array items, rest) := by
  have opened : skipSpace ('[' :: c :: text) = '[' :: c :: text := rfl
  rw [readValue, opened]
  simp only [begins.skipSpace_eq]
  split
  · rename_i same
    exact absurd same (List.cons_ne_nil c text)
  · rename_i same
    exact absurd (List.cons.inj same).1 begins.2
  · rw [read]
    rfl

/-- An object with members is read member by member. -/
theorem readValue_members
    (read : readMembers depth fuel ('"' :: text) = .ok (members, rest)) :
    readValue (depth + 1) (fuel + 1) ('{' :: '"' :: text) = .ok (object members, rest) := by
  have opened : skipSpace ('{' :: '"' :: text) = '{' :: '"' :: text := rfl
  rw [readValue, opened]
  change (readMembers depth fuel ('"' :: text)).map _ = _
  rw [read]
  rfl

theorem readItems_last (read : readValue depth fuel text = .ok (item, ']' :: rest)) :
    readItems depth (fuel + 1) text = .ok ([item], rest) := by
  have closed : skipSpace (']' :: rest) = ']' :: rest := rfl
  rw [readItems, read]
  simp only [Except.bind, bind, closed]

theorem readItems_next (read : readValue depth fuel text = .ok (item, ',' :: c :: behind))
    (begins : Begins c) (later : readItems depth fuel (c :: behind) = .ok (items, rest)) :
    readItems depth (fuel + 1) text = .ok (item :: items, rest) := by
  have further : skipSpace (',' :: c :: behind) = ',' :: c :: behind := rfl
  rw [readItems, read]
  simp only [Except.bind, bind, further, begins.behindComma_eq, later]

theorem quote_append (text : String) (behind : List Char) :
    quote text ++ behind = '"' :: (text.toList.flatMap escapeChar ++ '"' :: behind) := by
  simp [quote]

theorem readMembers_last (read : readValue depth fuel text = .ok (item, '}' :: rest)) :
    readMembers depth (fuel + 1) (quote name ++ ':' :: text) = .ok ([(name, item)], rest) := by
  have opened : skipSpace (quote name ++ ':' :: text) = quote name ++ ':' :: text := rfl
  have named : behindName (':' :: text) = .ok text := rfl
  have closed : skipSpace ('}' :: rest) = '}' :: rest := rfl
  rw [readMembers, opened, quote_append]
  simp only [readString_quoted, named, read, Except.bind, bind, closed]

theorem readMembers_next (read : readValue depth fuel text = .ok (item, ',' :: '"' :: behind))
    (later : readMembers depth fuel ('"' :: behind) = .ok (members, rest)) :
    readMembers depth (fuel + 1) (quote name ++ ':' :: text) =
      .ok ((name, item) :: members, rest) := by
  have opened : skipSpace (quote name ++ ':' :: text) = quote name ++ ':' :: text := rfl
  have named : behindName (':' :: text) = .ok text := rfl
  have further : skipSpace (',' :: '"' :: behind) = ',' :: '"' :: behind := rfl
  have quoted : behindComma '}' ('"' :: behind) = .ok ('"' :: behind) := rfl
  rw [readMembers, opened, quote_append]
  simp only [readString_quoted, named, read, Except.bind, bind, further, quoted, later]

/-! ## Whole documents -/

theorem tailItems_cons (item : Json) (more : List Json) :
    tailItems (item :: more) = ',' :: itemsText (item :: more) :=
  rfl

theorem tailMembers_cons (member : String × Json) (more : List (String × Json)) :
    tailMembers (member :: more) = ',' :: membersText (member :: more) :=
  rfl

theorem readWord_append (word rest : List Char) : readWord word (word ++ rest) = .ok rest := by
  induction word with
  | nil => rfl
  | cons c word inductionHypothesis =>
      rw [List.cons_append, readWord, if_pos rfl]
      exact inductionHypothesis

theorem map_readWord (word rest : List Char) (document : Json) :
    (readWord word (word ++ rest)).map (fun after => (document, after)) = .ok (document, rest) := by
  rw [readWord_append]
  rfl

theorem readValue_null : readValue depth (fuel + 1) ("null".toList ++ rest) = .ok (null, rest) :=
  map_readWord "ull".toList rest null

theorem readValue_bool (value : Bool) :
    readValue depth (fuel + 1) ((bool value).chars ++ rest) = .ok (bool value, rest) := by
  cases value with
  | true => exact map_readWord "rue".toList rest (bool true)
  | false => exact map_readWord "alse".toList rest (bool false)

theorem readValue_string (value : String) :
    readValue depth (fuel + 1) (quote value ++ rest) = .ok (string value, rest) := by
  rw [quote_append]
  change (readString _).map _ = _
  rw [readString_quoted]
  rfl

theorem readValue_int {value : Int} (lower : Text.minI64 ≤ value) (upper : value ≤ Text.maxU64)
    (closes : Closes rest) :
    readValue depth (fuel + 1) (Text.intChars value ++ rest) = .ok (int value, rest) := by
  obtain ⟨c, text, digits, begins, number⟩ := begins_intChars value
  have read := readNumber_intChars lower upper closes
  rw [digits] at read ⊢
  exact (readValue_number begins number).trans read

theorem closes_tailItems (items : List Json) (rest : List Char) :
    Closes (tailItems items ++ ']' :: rest) := by
  cases items with
  | nil => exact .inr (.inl rfl)
  | cons => exact .inl rfl

theorem closes_tailMembers (members : List (String × Json)) (rest : List Char) :
    Closes (tailMembers members ++ '}' :: rest) := by
  cases members with
  | nil => exact .inr (.inr rfl)
  | cons => exact .inl rfl

mutual

theorem readValue_chars {depth fuel : Nat} {rest : List Char} (document : Json)
    (isExact : document.isExact = true)
    (shallow : document.nesting ≤ depth) (enough : document.chars.length ≤ fuel)
    (closes : Closes rest) :
    readValue depth fuel (document.chars ++ rest) = .ok (document, rest) := by
  obtain ⟨_, _, written, _⟩ := begins_chars document isExact
  cases fuel with
  | zero =>
      rw [written] at enough
      contradiction
  | succ fuel =>
      cases document with
      | null => exact readValue_null
      | bool value => exact readValue_bool value
      | int value =>
          obtain ⟨lower, upper⟩ := of_decide_eq_true isExact
          exact readValue_int lower upper closes
      | float => contradiction
      | string value => exact readValue_string value
      | array items =>
          cases depth with
          | zero => contradiction
          | succ depth =>
              have within := Nat.le_of_succ_le_succ shallow
              rw [chars_array, List.length_cons, List.length_append, List.length_singleton] at enough
              rw [chars_array, List.cons_append, List.append_assoc, List.singleton_append]
              cases items with
              | nil => rfl
              | cons item more =>
                  have read := readItems_itemsText (item :: more) (List.cons_ne_nil item more)
                    isExact within (by omega : _ < fuel) rest
                  obtain ⟨itemExact, _⟩ := Bool.and_eq_true_iff.mp isExact
                  obtain ⟨c, text, written, begins⟩ := begins_chars item itemExact
                  rw [itemsText, written, List.cons_append, List.cons_append] at read ⊢
                  exact readValue_list begins read
      | object members =>
          cases depth with
          | zero => contradiction
          | succ depth =>
              have within := Nat.le_of_succ_le_succ shallow
              obtain ⟨_, membersExact⟩ := Bool.and_eq_true_iff.mp isExact
              rw [chars_object, List.length_cons, List.length_append, List.length_singleton]
                at enough
              rw [chars_object, List.cons_append, List.append_assoc, List.singleton_append]
              cases members with
              | nil => rfl
              | cons member more =>
                  have read := readMembers_membersText (member :: more)
                    (List.cons_ne_nil member more) membersExact within (by omega : _ < fuel) rest
                  exact readValue_members read

theorem readItems_itemsText {depth fuel : Nat} (items : List Json) (nonempty : items ≠ [])
    (isExact : exactItems items = true) (shallow : nestingOfItems items ≤ depth)
    (enough : (itemsText items).length < fuel) (rest : List Char) :
    readItems depth fuel (itemsText items ++ ']' :: rest) = .ok (items, rest) := by
  cases items with
  | nil => contradiction
  | cons item more =>
      cases fuel with
      | zero => contradiction
      | succ fuel =>
          obtain ⟨itemExact, moreExact⟩ := Bool.and_eq_true_iff.mp isExact
          obtain ⟨itemShallow, moreShallow⟩ := Nat.max_le.mp shallow
          rw [itemsText, List.length_append] at enough
          have read := readValue_chars item itemExact itemShallow (by omega : _ ≤ fuel)
            (closes_tailItems more rest)
          rw [itemsText, List.append_assoc]
          cases more with
          | nil => exact readItems_last read
          | cons second others =>
              obtain ⟨secondExact, _⟩ := Bool.and_eq_true_iff.mp moreExact
              obtain ⟨c, text, written, begins⟩ := begins_chars second secondExact
              rw [tailItems_cons, List.length_cons] at enough
              have later := readItems_itemsText (second :: others)
                (List.cons_ne_nil second others) moreExact moreShallow (by omega : _ < fuel) rest
              rw [tailItems_cons, List.cons_append] at read ⊢
              rw [itemsText, written, List.cons_append, List.cons_append] at read later ⊢
              exact readItems_next read begins later

theorem readMembers_membersText {depth fuel : Nat} (members : List (String × Json))
    (nonempty : members ≠ [])
    (isExact : exactMembers members = true) (shallow : nestingOfMembers members ≤ depth)
    (enough : (membersText members).length < fuel) (rest : List Char) :
    readMembers depth fuel (membersText members ++ '}' :: rest) = .ok (members, rest) := by
  cases members with
  | nil => contradiction
  | cons member more =>
      obtain ⟨name, value⟩ := member
      cases fuel with
      | zero => contradiction
      | succ fuel =>
          obtain ⟨valueExact, moreExact⟩ := Bool.and_eq_true_iff.mp isExact
          obtain ⟨valueShallow, moreShallow⟩ := Nat.max_le.mp shallow
          rw [membersText, List.length_append, List.length_append, List.length_cons] at enough
          have read := readValue_chars value valueExact valueShallow (by omega : _ ≤ fuel)
            (closes_tailMembers more rest)
          rw [membersText, List.append_assoc, List.append_assoc, List.cons_append]
          cases more with
          | nil => exact readMembers_last read
          | cons second others =>
              rw [tailMembers_cons, List.length_cons] at enough
              have later := readMembers_membersText (second :: others)
                (List.cons_ne_nil second others) moreExact moreShallow (by omega : _ < fuel) rest
              exact readMembers_next read later

end

/-! ## Whole texts -/

/-- A document without floats is read back from its compact text. -/
theorem read?_compact (document : Json) (isExact : document.isExact = true)
    (shallow : document.nesting ≤ maximumDepth) : read? document.compact = some document := by
  have enough : document.chars.length ≤ 2 * document.chars.length + 1 := by omega
  have nothing : Closes [] := trivial
  have read := readValue_chars document isExact shallow enough nothing
  rw [List.append_nil] at read
  rw [read?, compact, String.toList_ofList, readAll, read]
  rfl

end MessageRouting.Json
