import MessageRouting.Toml.Scalar

/-!
# Lines of a configuration text

A text is read line by line into headers and assignments. Lists may spread
over several lines; inline tables may not.
-/

namespace MessageRouting.Toml

/-! ## Keys -/

def isBare (c : Char) : Bool :=
  ('a' ≤ c && c ≤ 'z') || ('A' ≤ c && c ≤ 'Z') || isDecimal c || c == '_' || c == '-'

/-- One name of a key: bare or a string of one line; and the rest. -/
def readName (chars : List Char) : Option (String × List Char) :=
  match chars with
  | '"' :: rest =>
      (readBasic (rest.length + 1) rest).map fun (text, after) => (String.ofList text, after)
  | '\'' :: rest => (readLiteral rest).map fun (text, after) => (String.ofList text, after)
  | _ =>
      match chars.takeWhile isBare with
      | [] => none
      | name => some (String.ofList name, chars.dropWhile isBare)

/-- The deepest nesting that is read: of lists and inline tables in a value, of names in a key. -/
def maximumDepth : Nat := 79

/-- Names separated by points, blanks allowed around them; and the rest behind blanks. At most
`depth` names are read. -/
def readPath : Nat → List Char → Option (Path × List Char)
  | 0, _ => none
  | depth + 1, chars => do
      let (name, rest) ← readName (skipSpace chars)
      match skipSpace rest with
      | '.' :: more => do
          let (path, after) ← readPath depth more
          return (name :: path, after)
      | after => return ([name], after)

/-! ## Line ends -/

def skipComment : List Char → List Char
  | '#' :: rest => rest.dropWhile isText
  | chars => chars

/-- The text behind the end of a line: blanks, an optional comment and a line break, or the end of
the text. -/
def endLine? (chars : List Char) : Option (List Char) :=
  match skipComment (skipSpace chars) with
  | [] => some []
  | rest => lineBreak? rest

/-- The text behind blanks, comments and line breaks. `fuel` bounds the number of lines. -/
def skipFiller : Nat → List Char → List Char
  | 0, chars => chars
  | fuel + 1, chars =>
      let rest := skipComment (skipSpace chars)
      match lineBreak? rest with
      | some below => skipFiller fuel below
      | none => rest

/-! ## Inline tables -/

/-- Entries of an inline table while it is read: a table made by dotted keys can be extended, a
value cannot. -/
inductive Inline where
  | value (value : Toml)
  | dotted (entries : List (String × Inline))
deriving Inhabited

mutual

def Inline.toToml : Inline → Toml
  | .value held => held
  | .dotted entries => .table (Inline.toEntries entries)

/-- The values for several entries. -/
def Inline.toEntries : List (String × Inline) → List (String × Toml)
  | [] => []
  | (name, entry) :: rest => (name, entry.toToml) :: Inline.toEntries rest

end

def Inline.find? (name : String) : List (String × Inline) → Option Inline
  | [] => none
  | (other, entry) :: rest => if name = other then some entry else Inline.find? name rest

def Inline.replace (name : String) (entry : Inline) :
    List (String × Inline) → List (String × Inline)
  | [] => [(name, entry)]
  | (other, held) :: rest =>
      if name = other then (name, entry) :: rest
      else (other, held) :: Inline.replace name entry rest

/-- Adds an assignment to the entries of an inline table; no name may be assigned twice. -/
def Inline.assign (value : Toml) : Path → List (String × Inline) → Option (List (String × Inline))
  | [], _ => none
  | [name], entries =>
      match Inline.find? name entries with
      | some _ => none
      | none => some (entries ++ [(name, .value value)])
  | name :: path, entries =>
      match Inline.find? name entries with
      | some (.value _) => none
      | some (.dotted inner) =>
          (Inline.assign value path inner).map fun inner =>
            Inline.replace name (.dotted inner) entries
      | none =>
          (Inline.assign value path []).map fun inner => entries ++ [(name, .dotted inner)]

/-! ## Values -/

mutual

/-- A value at the front of the text, and the rest. `depth` is the number of levels of lists and
inline tables that may still be opened; `fuel` bounds the number of calls. -/
def readValue (depth : Nat) : Nat → List Char → Option (Toml × List Char)
  | 0, _ => none
  | fuel + 1, chars =>
      match chars with
      | '"' :: _ | '\'' :: _ => (readString chars).map fun (text, after) => (.string text, after)
      | '[' :: rest =>
          match depth with
          | 0 => none
          | depth + 1 => (readItems depth fuel rest).map fun (items, after) => (.array items, after)
      | '{' :: rest =>
          match depth with
          | 0 => none
          | depth + 1 =>
              match skipSpace rest with
              | '}' :: after => some (.table [], after)
              | body =>
                  (readEntries depth fuel [] body).map fun (entries, after) =>
                    (.table (Inline.toEntries entries), after)
      | _ => readPlain chars

/-- Items up to the closing bracket; the last one may be followed by a comma. -/
def readItems (depth : Nat) : Nat → List Char → Option (List Toml × List Char)
  | 0, _ => none
  | fuel + 1, chars =>
      match skipFiller chars.length chars with
      | ']' :: rest => some ([], rest)
      | body => do
          let (item, after) ← readValue depth fuel body
          match skipFiller after.length after with
          | ',' :: rest => do
              let (items, after) ← readItems depth fuel rest
              return (item :: items, after)
          | ']' :: rest => return ([item], rest)
          | _ => none

/-- Assignments up to the closing brace, added to those that were read; at least one. -/
def readEntries (depth : Nat) :
    Nat → List (String × Inline) → List Char → Option (List (String × Inline) × List Char)
  | 0, _, _ => none
  | fuel + 1, entries, chars => do
      let (path, afterPath) ← readPath maximumDepth chars
      let rest ← readMark '=' afterPath
      let (value, after) ← readValue depth fuel (skipSpace rest)
      let entries ← Inline.assign value path entries
      match skipSpace after with
      | ',' :: rest => readEntries depth fuel entries rest
      | '}' :: rest => return (entries, rest)
      | _ => none

end

def readHeader (chars : List Char) : Option (Line × List Char) :=
  match chars with
  | '[' :: rest => do
      let (path, after) ← readPath maximumDepth rest
      let after ← readMark ']' after
      let after ← readMark ']' after
      return (.arrayHeader path, after)
  | _ => do
      let (path, after) ← readPath maximumDepth chars
      let after ← readMark ']' after
      return (.tableHeader path, after)

def readAssignment (chars : List Char) : Option (Line × List Char) := do
  let (path, afterPath) ← readPath maximumDepth chars
  let rest ← readMark '=' afterPath
  let (value, after) ← readValue maximumDepth (2 * rest.length + 1) (skipSpace rest)
  return (.assignment path value, after)

/-- The lines with content, up to the end of the text. `fuel` bounds the number of lines. -/
def readLines : Nat → List Char → Option (List Line)
  | 0, _ => none
  | fuel + 1, chars =>
      match skipFiller (chars.length + 1) chars with
      | [] => some []
      | '[' :: rest => do
          let (line, after) ← readHeader rest
          let below ← endLine? after
          let lines ← readLines fuel below
          return line :: lines
      | body => do
          let (line, after) ← readAssignment body
          let below ← endLine? after
          let lines ← readLines fuel below
          return line :: lines

/-- The text without a byte order mark. -/
def dropMark : List Char → List Char
  | '\uFEFF' :: rest => rest
  | chars => chars

def lines? (text : String) : Option (List Line) :=
  let chars := dropMark text.toList
  readLines (chars.length + 1) chars

end MessageRouting.Toml
