import MessageRouting.Json.Parser
import MessageRouting.Toml.Basic

/-!
# Scalars of a configuration text

Strings in their four forms, numbers, truth values, dates and times. Each
reader takes its scalar from the front of the text and gives the rest.
-/

namespace MessageRouting.Toml

/-! ## Characters -/

/-- A blank within a line. -/
def isSpace (c : Char) : Bool :=
  c == ' ' || c == '\t'

/-- The text behind leading blanks. -/
def skipSpace (chars : List Char) : List Char :=
  chars.dropWhile isSpace

/-- The text behind a line break, if it begins with one. -/
def lineBreak? : List Char → Option (List Char)
  | '\n' :: rest => some rest
  | '\r' :: '\n' :: rest => some rest
  | _ => none

/-- A character that may stand in a comment or in a literal string: no control character but the
tab. -/
def isText (c : Char) : Bool :=
  c == '\t' || (0x20 ≤ c.toNat && c.toNat != 0x7F)

/-! ## Strings -/

def hexValue? (digits : List Char) : Option Nat :=
  digits.foldlM (fun value c => (Json.hexValue? c).map fun digit => 16 * value + digit) 0

def charOfCode? (code : Nat) : Option Char :=
  if code.isValidChar then some (Char.ofNat code) else none

/-- The character of a code point written with the given number of digits, and the rest. -/
def readCode (width : Nat) (chars : List Char) : Option (Char × List Char) := do
  if chars.length < width then none
  let code ← hexValue? (chars.take width)
  let c ← charOfCode? code
  return (c, chars.drop width)

def readEscape : List Char → Option (Char × List Char)
  | 'b' :: rest => some ('\x08', rest)
  | 't' :: rest => some ('\t', rest)
  | 'n' :: rest => some ('\n', rest)
  | 'f' :: rest => some ('\x0c', rest)
  | 'r' :: rest => some ('\r', rest)
  | '"' :: rest => some ('"', rest)
  | '\\' :: rest => some ('\\', rest)
  | 'u' :: rest => readCode 4 rest
  | 'U' :: rest => readCode 8 rest
  | _ => none

/-- A basic string behind its opening quote. `fuel` bounds the number of characters. -/
def readBasic : Nat → List Char → Option (List Char × List Char)
  | 0, _ => none
  | _, '"' :: rest => some ([], rest)
  | fuel + 1, '\\' :: rest => do
      let (c, rest) ← readEscape rest
      let (text, after) ← readBasic fuel rest
      return (c :: text, after)
  | fuel + 1, c :: rest =>
      if isText c then do
        let (text, after) ← readBasic fuel rest
        return (c :: text, after)
      else none
  | _, [] => none

/-- A literal string behind its opening quote. -/
def readLiteral : List Char → Option (List Char × List Char)
  | '\'' :: rest => some ([], rest)
  | c :: rest =>
      if isText c then do
        let (text, after) ← readLiteral rest
        return (c :: text, after)
      else none
  | [] => none

/-- The end of a string of several lines: three quotes, and one or two more that belong to the
string. -/
def endOfLines? (quote : Char) (chars : List Char) : Option (List Char × List Char) :=
  let quotes := chars.takeWhile (· == quote)
  if quotes.length < 3 then none
  else
    let own := min (quotes.length - 3) 2
    some (List.replicate own quote, chars.drop (own + 3))

/-- The blanks and line breaks behind a backslash that ends its line. -/
def skipLines : Nat → List Char → List Char
  | 0, chars => chars
  | fuel + 1, chars =>
      match lineBreak? (skipSpace chars) with
      | some rest => skipLines fuel rest
      | none => skipSpace chars

/-- A basic string of several lines behind its opening quotes. `fuel` bounds the number of
characters. -/
def readBasicLines : Nat → List Char → Option (List Char × List Char)
  | 0, _ => none
  | fuel + 1, chars =>
      match endOfLines? '"' chars with
      | some found => some found
      | none =>
          match lineBreak? chars with
          | some rest => do
              let (text, after) ← readBasicLines fuel rest
              return ('\n' :: text, after)
          | none =>
              match chars with
              | [] => none
              | '\\' :: rest =>
                  match lineBreak? (skipSpace rest) with
                  | some below => readBasicLines fuel (skipLines below.length below)
                  | none => do
                      let (c, rest) ← readEscape rest
                      let (text, after) ← readBasicLines fuel rest
                      return (c :: text, after)
              | c :: rest =>
                  if isText c then do
                    let (text, after) ← readBasicLines fuel rest
                    return (c :: text, after)
                  else none

/-- A literal string of several lines behind its opening quotes. `fuel` bounds the number of
characters. -/
def readLiteralLines : Nat → List Char → Option (List Char × List Char)
  | 0, _ => none
  | fuel + 1, chars =>
      match endOfLines? '\'' chars with
      | some found => some found
      | none =>
          match lineBreak? chars with
          | some rest => do
              let (text, after) ← readLiteralLines fuel rest
              return ('\n' :: text, after)
          | none =>
              match chars with
              | [] => none
              | c :: rest =>
                  if isText c then do
                    let (text, after) ← readLiteralLines fuel rest
                    return (c :: text, after)
                  else none

/-- The text behind one line break, if it begins with one. -/
def dropLineBreak (chars : List Char) : List Char :=
  (lineBreak? chars).getD chars

def readString : List Char → Option (String × List Char)
  | '"' :: '"' :: '"' :: rest =>
      (readBasicLines (rest.length + 1) (dropLineBreak rest)).map fun (text, after) =>
        (String.ofList text, after)
  | '"' :: rest =>
      (readBasic (rest.length + 1) rest).map fun (text, after) => (String.ofList text, after)
  | '\'' :: '\'' :: '\'' :: rest =>
      (readLiteralLines (rest.length + 1) (dropLineBreak rest)).map fun (text, after) =>
        (String.ofList text, after)
  | '\'' :: rest => (readLiteral rest).map fun (text, after) => (String.ofList text, after)
  | _ => none

/-! ## Numbers -/

/-- Digits of the given class, single underscores allowed between two of them: the digits without
underscores, and the rest. At least one digit. -/
def readGrouped (isDigit : Char → Bool) : List Char → Option (List Char × List Char)
  | [] => none
  | [c] => if isDigit c then some ([c], []) else none
  | c :: '_' :: rest =>
      if isDigit c then (readGrouped isDigit rest).map fun (digits, after) => (c :: digits, after)
      else none
  | c :: d :: rest =>
      if isDigit c && isDigit d then
        (readGrouped isDigit (d :: rest)).map fun (digits, after) => (c :: digits, after)
      else if isDigit c then some ([c], d :: rest)
      else none

def isDecimal (c : Char) : Bool :=
  '0' ≤ c && c ≤ '9'

/-- The sign at the front: whether it is a minus, whether there is one, and the rest. -/
def readSign : List Char → Bool × Bool × List Char
  | '-' :: rest => (true, true, rest)
  | '+' :: rest => (false, true, rest)
  | chars => (false, false, chars)

def readWhole (chars : List Char) : Option (List Char × List Char) :=
  match chars with
  | '0' :: rest => some (['0'], rest)
  | _ => readGrouped isDecimal chars

/-- The integer, if it fits 64 bits. -/
def fitInteger (i : Int) : Option Toml :=
  if Text.minI64 ≤ i ∧ i ≤ Text.maxI64 then some (.integer i) else none

def readPowerBase (base : Nat) (chars : List Char) : Option (Toml × List Char) := do
  let isDigit := fun c => match Json.hexValue? c with
    | some value => value < base
    | none => false
  let (digits, rest) ← readGrouped isDigit chars
  let value := digits.foldl (fun value c => base * value + (Json.hexValue? c).getD 0) 0
  let integer ← fitInteger value
  return (integer, rest)

def readExponent? : List Char → Option (Int × List Char)
  | 'e' :: rest | 'E' :: rest =>
      let (negative, _, body) := readSign rest
      (readGrouped isDecimal body).map fun (digits, after) =>
        let value : Int := Text.digitsValue digits
        (if negative then -value else value, after)
  | _ => none

/-- A float: digits with a fraction, an exponent, or both; and the rest. A text beyond the finite
range is refused unless it is negative. -/
def readFloat (chars : List Char) : Option (Toml × List Char) := do
  let (negative, _, body) := readSign chars
  let (whole, afterWhole) ← readWhole body
  let (fraction, afterFraction) ← match afterWhole with
    | '.' :: rest => readGrouped isDecimal rest
    | 'e' :: _ | 'E' :: _ => some ([], afterWhole)
    | _ => none
  let (exponent, rest) ← match afterFraction with
    | 'e' :: _ | 'E' :: _ => readExponent? afterFraction
    | _ => some (0, afterFraction)
  let value := Binary64.ofDecimal negative (Text.digitsValue (whole ++ fraction))
    (exponent - fraction.length)
  if value.isInfinite && !negative then none else return (.float value, rest)

def readSpecial (chars : List Char) : Option (Toml × List Char) :=
  let (negative, _, body) := readSign chars
  match body with
  | 'i' :: 'n' :: 'f' :: rest => some (.float (.infinity negative), rest)
  | 'n' :: 'a' :: 'n' :: rest => some (.float .nan, rest)
  | _ => none

/-- An integer in decimal, or in another base without a sign; and the rest. -/
def readInteger (chars : List Char) : Option (Toml × List Char) :=
  match chars with
  | '0' :: 'x' :: rest => readPowerBase 16 rest
  | '0' :: 'o' :: rest => readPowerBase 8 rest
  | '0' :: 'b' :: rest => readPowerBase 2 rest
  | _ => do
      let (negative, _, body) := readSign chars
      let (digits, rest) ← readWhole body
      let value : Int := Text.digitsValue digits
      let integer ← fitInteger (if negative then -value else value)
      return (integer, rest)

/-! ## Dates and times -/

/-- A number of exactly `width` digits within bounds, and the rest. -/
def readFixed (width low high : Nat) (chars : List Char) : Option (Nat × List Char) :=
  let digits := chars.take width
  let value := Text.digitsValue digits
  if digits.length = width ∧ digits.all isDecimal ∧ low ≤ value ∧ value ≤ high then
    some (value, chars.drop width)
  else none

/-- The text behind the given character. -/
def readMark (mark : Char) : List Char → Option (List Char)
  | c :: rest => if c = mark then some rest else none
  | [] => none

def daysOfMonth (year month : Nat) : Nat :=
  if month = 2 then
    if year % 4 = 0 ∧ (year % 100 ≠ 0 ∨ year % 400 = 0) then 29 else 28
  else if month = 4 ∨ month = 6 ∨ month = 9 ∨ month = 11 then 30
  else 31

def readDate (chars : List Char) : Option (List Char) := do
  let (year, rest) ← readFixed 4 0 9999 chars
  let (month, rest) ← readFixed 2 1 12 (← readMark '-' rest)
  let (_, rest) ← readFixed 2 1 (daysOfMonth year month) (← readMark '-' rest)
  return rest

/-- A time of day, and what follows it. -/
def readTime (chars : List Char) : Option (List Char) := do
  let (_, rest) ← readFixed 2 0 23 chars
  let (_, rest) ← readFixed 2 0 59 (← readMark ':' rest)
  let (_, rest) ← readFixed 2 0 60 (← readMark ':' rest)
  match rest with
  | '.' :: d :: more => if isDecimal d then return more.dropWhile isDecimal else return rest
  | _ => return rest

/-- The offset from universal time, if there is one, and what follows it. -/
def skipOffset (chars : List Char) : List Char :=
  match chars with
  | 'Z' :: rest | 'z' :: rest => rest
  | '+' :: rest | '-' :: rest =>
      ((do
        let (_, rest) ← readFixed 2 0 23 rest
        let (_, rest) ← readFixed 2 0 59 (← readMark ':' rest)
        return rest) : Option (List Char)).getD chars
  | _ => chars

/-- A date, a time of day, or a date with a time; and what follows it. -/
def readMoment (chars : List Char) : Option (List Char) :=
  match readDate chars with
  | some (c :: rest) =>
      if c = 'T' ∨ c = 't' ∨ c = ' ' then
        match readTime rest with
        | some after => some (skipOffset after)
        | none => some (c :: rest)
      else some (c :: rest)
  | some [] => some []
  | none => readTime chars

/-- A scalar that is no string, and the rest. -/
def readPlain (chars : List Char) : Option (Toml × List Char) :=
  match chars with
  | 't' :: rest =>
      (Json.readWord "rue".toList rest).toOption.map fun after => (.boolean true, after)
  | 'f' :: rest =>
      (Json.readWord "alse".toList rest).toOption.map fun after => (.boolean false, after)
  | _ =>
      match readMoment chars with
      | some rest => some (.moment, rest)
      | none =>
          match readFloat chars with
          | some found => some found
          | none =>
              match readSpecial chars with
              | some found => some found
              | none => readInteger chars

end MessageRouting.Toml
