import MessageRouting.Json.Basic
import MessageRouting.Text.Numeral

/-!
# Syntax errors in JSON

A syntax error names its cause and the place where reading stopped, as a line
and a column in bytes.
-/

namespace MessageRouting.Json

/-- Why a text is no JSON document. -/
inductive SyntaxError.Cause where
  | endInList
  | endInObject
  | endInString
  | endInValue
  | expectedColon
  | expectedListSeparator
  | expectedObjectSeparator
  | expectedWord
  | expectedValue
  | invalidEscape
  | invalidNumber
  | numberOutOfRange
  | controlCharacter
  | keyIsNoString
  | loneSurrogate
  | trailingComma
  | trailingCharacters
  | endOfSurrogatePair
  | nestedTooDeep
deriving DecidableEq, Repr

/-- A cause, and the number of bytes behind the place where reading stopped. -/
structure SyntaxError where
  cause : SyntaxError.Cause
  bytesLeft : Nat
deriving DecidableEq, Repr

def byteLength (chars : List Char) : Nat :=
  chars.foldr (fun c total => c.utf8Size + total) 0

namespace SyntaxError

def Cause.message : Cause → String
  | endInList => "EOF while parsing a list"
  | endInObject => "EOF while parsing an object"
  | endInString => "EOF while parsing a string"
  | endInValue => "EOF while parsing a value"
  | expectedColon => "expected `:`"
  | expectedListSeparator => "expected `,` or `]`"
  | expectedObjectSeparator => "expected `,` or `\x7d`"
  | expectedWord => "expected ident"
  | expectedValue => "expected value"
  | invalidEscape => "invalid escape"
  | invalidNumber => "invalid number"
  | numberOutOfRange => "number out of range"
  | controlCharacter => "control character (\\u0000-\\u001F) found while parsing a string"
  | keyIsNoString => "key must be a string"
  | loneSurrogate => "lone leading surrogate in hex escape"
  | trailingComma => "trailing comma"
  | trailingCharacters => "trailing characters"
  | endOfSurrogatePair => "unexpected end of hex escape"
  | nestedTooDeep => "recursion limit exceeded"

/-- The error in front of the given rest of the text. -/
def before (cause : Cause) (rest : List Char) : SyntaxError :=
  ⟨cause, byteLength rest⟩

/-- The error at the first byte of the given rest of the text, which counts as read. -/
def atNext (cause : Cause) (rest : List Char) : SyntaxError :=
  ⟨cause, byteLength rest - 1⟩

/-- The first `count` bytes of a text, as far as they are whole characters. -/
def takeBytes : Nat → List Char → List Char
  | _, [] => []
  | count, c :: rest => if c.utf8Size ≤ count then c :: takeBytes (count - c.utf8Size) rest else []

/-- The error with its place in the text: lines count from one, columns are bytes from the start
of the line. -/
def message (text : List Char) (error : SyntaxError) : String :=
  let offset := byteLength text - error.bytesLeft
  let passed := takeBytes offset text
  let line := passed.count '\n' + 1
  let lastLine := (passed.reverse.takeWhile (· ≠ '\n')).reverse
  let column := offset - (byteLength passed - byteLength lastLine)
  error.cause.message ++ " at line " ++ Text.showNat line ++ " column " ++ Text.showNat column

end SyntaxError

end MessageRouting.Json
