import MessageRouting.Json.Number

/-!
# Reading JSON

`Json.read?` keeps the members of an object as they are written, repeated names
included; `Json.parse?` sorts them and lets the last one of a name count.
Documents nest at most 127 levels deep.
-/

namespace MessageRouting.Json

/-- The blanks allowed between tokens. -/
def isSpace (c : Char) : Bool :=
  c == ' ' || c == '\n' || c == '\t' || c == '\r'

/-- The text behind leading blanks. -/
def skipSpace (chars : List Char) : List Char :=
  chars.dropWhile isSpace

/-- The text behind a given word. -/
def readWord : List Char → List Char → Except SyntaxError (List Char)
  | [], chars => .ok chars
  | _ :: _, [] => .error (.before .endInValue [])
  | w :: word, c :: chars =>
      if w = c then readWord word chars else .error (.atNext .expectedWord (c :: chars))

/-- The value of a hexadecimal digit of either case. -/
def hexValue? (c : Char) : Option Nat :=
  if '0' ≤ c ∧ c ≤ '9' then some (c.toNat - '0'.toNat)
  else if 'a' ≤ c ∧ c ≤ 'f' then some (c.toNat - 'a'.toNat + 10)
  else if 'A' ≤ c ∧ c ≤ 'F' then some (c.toNat - 'A'.toNat + 10)
  else none

/-- The value of four hexadecimal digits. -/
def hexQuad? (a b c d : Char) : Option Nat := do
  return 4096 * (← hexValue? a) + 256 * (← hexValue? b) + 16 * (← hexValue? c) + (← hexValue? d)

/-- The character that a backslash and a letter stand for. -/
def unescape? : Char → Option Char
  | '"' => some '"'
  | '\\' => some '\\'
  | '/' => some '/'
  | 'b' => some '\x08'
  | 'f' => some '\x0c'
  | 'n' => some '\n'
  | 'r' => some '\r'
  | 't' => some '\t'
  | _ => none

/-- Four hexadecimal digits at the front, and the rest. -/
def readHexQuad : List Char → Except SyntaxError (Nat × List Char)
  | a :: b :: c :: d :: rest =>
      match hexQuad? a b c d with
      | some code => .ok (code, rest)
      | none => .error ⟨.invalidEscape, byteLength (a :: b :: c :: d :: rest) - 4⟩
  | chars =>
      if byteLength chars < 4 then .error (.before .endInString [])
      else .error ⟨.invalidEscape, byteLength chars - 4⟩

def readTrailingSurrogate : List Char → Except SyntaxError (Nat × List Char)
  | '\\' :: 'u' :: rest => do
      let (code, after) ← readHexQuad rest
      if 0xDC00 ≤ code ∧ code ≤ 0xDFFF then .ok (code, after)
      else .error (.before .loneSurrogate after)
  | '\\' :: rest =>
      .error (.atNext (if rest.isEmpty then .endInString else .endOfSurrogatePair) rest)
  | rest => .error (.atNext (if rest.isEmpty then .endInString else .endOfSurrogatePair) rest)

/-- The character of a `u` escape and the rest. A character beyond the basic plane is written as
two surrogates; a surrogate alone is refused. -/
def readCodePoint (chars : List Char) : Except SyntaxError (Char × List Char) := do
  let (code, rest) ← readHexQuad chars
  if 0xDC00 ≤ code ∧ code ≤ 0xDFFF then .error (.before .loneSurrogate rest)
  else if 0xD800 ≤ code ∧ code ≤ 0xDBFF then
    let (second, after) ← readTrailingSurrogate rest
    .ok (Char.ofNat (0x10000 + (code - 0xD800) * 0x400 + (second - 0xDC00)), after)
  else .ok (Char.ofNat code, rest)

def readEscape : List Char → Except SyntaxError (Char × List Char)
  | [] => .error (.before .endInString [])
  | 'u' :: rest => readCodePoint rest
  | letter :: rest =>
      match unescape? letter with
      | some c => .ok (c, rest)
      | none => .error (.atNext .invalidEscape (letter :: rest))

/-- The rest of a quoted text up to its closing quote: the text and what follows it. A bare
control character is refused. `fuel` bounds the number of characters. -/
def readQuoted : Nat → List Char → Except SyntaxError (List Char × List Char)
  | 0, _ => .error (.before .endInString [])
  | _, [] => .error (.before .endInString [])
  | _, '"' :: rest => .ok ([], rest)
  | fuel + 1, '\\' :: rest => do
      let (c, afterEscape) ← readEscape rest
      let (text, after) ← readQuoted fuel afterEscape
      .ok (c :: text, after)
  | fuel + 1, c :: rest =>
      if c.toNat < 0x20 then .error (.atNext .controlCharacter (c :: rest))
      else do
        let (text, after) ← readQuoted fuel rest
        .ok (c :: text, after)

def readString (chars : List Char) : Except SyntaxError (String × List Char) := do
  let (text, after) ← readQuoted (chars.length + 1) chars
  .ok (String.ofList text, after)

/-- The text behind a comma and blanks; the list or object may not end there. -/
def behindComma (close : Char) (chars : List Char) : Except SyntaxError (List Char) :=
  match skipSpace chars with
  | [] => .error (.before .endInValue [])
  | c :: rest => if c = close then .error (.atNext .trailingComma (c :: rest)) else .ok (c :: rest)

def behindName (chars : List Char) : Except SyntaxError (List Char) :=
  match skipSpace chars with
  | ':' :: rest => .ok rest
  | [] => .error (.before .endInObject [])
  | rest => .error (.atNext .expectedColon rest)

mutual

/-- A document at the front of the text, and the rest. `depth` is the number of levels that may
still be opened; `fuel` bounds the number of calls and never runs out before the text does. -/
def readValue (depth : Nat) : Nat → List Char → Except SyntaxError (Json × List Char)
  | 0, chars => .error (.before .nestedTooDeep chars)
  | fuel + 1, chars =>
      match skipSpace chars with
      | [] => .error (.before .endInValue [])
      | 'n' :: rest => (readWord "ull".toList rest).map fun after => (null, after)
      | 't' :: rest => (readWord "rue".toList rest).map fun after => (bool true, after)
      | 'f' :: rest => (readWord "alse".toList rest).map fun after => (bool false, after)
      | '"' :: rest => (readString rest).map fun (text, after) => (string text, after)
      | '[' :: rest =>
          match depth with
          | 0 => .error (.atNext .nestedTooDeep ('[' :: rest))
          | depth + 1 =>
              match skipSpace rest with
              | [] => .error (.before .endInList [])
              | ']' :: after => .ok (array [], after)
              | items => (readItems depth fuel items).map fun (read, after) => (array read, after)
      | '{' :: rest =>
          match depth with
          | 0 => .error (.atNext .nestedTooDeep ('{' :: rest))
          | depth + 1 =>
              match skipSpace rest with
              | [] => .error (.before .endInObject [])
              | '}' :: after => .ok (object [], after)
              | members =>
                  (readMembers depth fuel members).map fun (read, after) => (object read, after)
      | c :: rest =>
          if c = '-' ∨ '0' ≤ c ∧ c ≤ '9' then readNumber (c :: rest)
          else .error (.atNext .expectedValue (c :: rest))

/-- Items up to the closing bracket; at least one. -/
def readItems (depth : Nat) : Nat → List Char → Except SyntaxError (List Json × List Char)
  | 0, chars => .error (.before .nestedTooDeep chars)
  | fuel + 1, chars => do
      let (item, after) ← readValue depth fuel chars
      match skipSpace after with
      | ',' :: rest => do
          let (items, after) ← readItems depth fuel (← behindComma ']' rest)
          .ok (item :: items, after)
      | ']' :: rest => .ok ([item], rest)
      | [] => .error (.before .endInList [])
      | rest => .error (.atNext .expectedListSeparator rest)

/-- Members up to the closing brace; at least one. -/
def readMembers (depth : Nat) :
    Nat → List Char → Except SyntaxError (List (String × Json) × List Char)
  | 0, chars => .error (.before .nestedTooDeep chars)
  | fuel + 1, chars =>
      match skipSpace chars with
      | '"' :: quoted => do
          let (name, afterName) ← readString quoted
          let (value, after) ← readValue depth fuel (← behindName afterName)
          match skipSpace after with
          | ',' :: rest => do
              let (members, after) ← readMembers depth fuel (← behindComma '}' rest)
              .ok ((name, value) :: members, after)
          | '}' :: rest => .ok ([(name, value)], rest)
          | [] => .error (.before .endInObject [])
          | rest => .error (.atNext .expectedObjectSeparator rest)
      | rest => .error (.atNext .keyIsNoString rest)

end

/-- The deepest nesting that is read. -/
def maximumDepth : Nat := 127

/-- A whole text as one document, members as written. -/
def readAll (chars : List Char) : Except SyntaxError Json := do
  let (document, rest) ← readValue maximumDepth (2 * chars.length + 1) chars
  match skipSpace rest with
  | [] => .ok document
  | rest => .error (.atNext .trailingCharacters rest)

/-- A whole text as one document, members as written, if it is one. -/
def read? (text : String) : Option Json :=
  (readAll text.toList).toOption

/-- The reason why a text is no document, in words. -/
def syntaxError? (text : String) : Option String :=
  match readAll text.toList with
  | .ok _ => none
  | .error error => some (error.message text.toList)

mutual

def sorted : Json → Json
  | array items => array (sortedItems items)
  | object members => ofMembers (sortedMembers members)
  | document => document

def sortedItems : List Json → List Json
  | [] => []
  | item :: rest => sorted item :: sortedItems rest

def sortedMembers : List (String × Json) → List (String × Json)
  | [] => []
  | (name, value) :: rest => (name, sorted value) :: sortedMembers rest

end

/-- A whole text as one document with sorted members, if it is one. -/
def parse? (text : String) : Option Json :=
  (read? text).map sorted

end MessageRouting.Json
