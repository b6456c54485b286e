import MessageRouting.Value.Basic
import MessageRouting.Json.Parser

/-!
# Conversions between kinds

A conversion gives a value of the target kind or nothing; it never fails in
another way. A value of the target kind is given back as it is. Nothing
converts to the null kind but null itself.
-/

namespace MessageRouting

/-- Converts a value to a kind where there is a way. -/
structure Converter where
  convert : Value → Kind → Option Value

namespace Value

/-- A signed 64-bit numeral between blanks. -/
def readInt? (text : String) : Option Int64 :=
  (Text.readSigned Text.minI64 Text.maxI64 (Text.trimChars text.toList)).map Int64.ofInt

/-- The 64-bit integer nearest to a whole finite float; nothing for any other float. -/
def wholeToInt? (x : Binary64) : Option Int64 :=
  x.toInt?.map fun i => Int64.ofInt (max Text.minI64 (min i Text.maxI64))

/-- The value as a text. A JSON string gives its content, any other JSON its compact form, and
bytes their UTF-8 reading. -/
def toText? : Value → Option String
  | null => none
  | bytes value => String.fromUTF8? value
  | json (.string value) => some value
  | value => some value.display

def toInt? : Value → Option Int64
  | bool value => some (if value then 1 else 0)
  | int value => some value
  | float value => wholeToInt? value
  | text value => readInt? value
  | json (.int value) => if value ≤ Text.maxI64 then some (Int64.ofInt value) else none
  | json (.string value) => readInt? value
  | _ => none

def toFloat? : Value → Option Binary64
  | int value => some (Binary64.ofInt value.toInt)
  | float value => some value
  | text value => Binary64.read (Text.trimChars value.toList)
  | json (.int value) => some (Binary64.ofInt value)
  | json (.float value) => some value
  | _ => none

/-- The value as a truth value: a number is true unless it is zero, and a text is read without
regard to case. -/
def toBool? : Value → Option Bool
  | bool value => some value
  | int value => some (value != 0)
  | text value =>
      match Text.lowerAscii (Text.trim value) with
      | "true" => some true
      | "false" => some false
      | _ => none
  | json (.bool value) => some value
  | _ => none

def toBytes? : Value → Option ByteArray
  | bytes value => some value
  | json document => some document.compact.toUTF8
  | value => value.toText?.map String.toUTF8

def toJson? : Value → Option Json
  | null => some .null
  | bool value => some (.bool value)
  | int value => some (.int value.toInt)
  | float value => if value.isFinite then some (.float value) else none
  | text value => Json.parse? value
  | bytes value => (String.fromUTF8? value).bind Json.parse?
  | json document => some document

def convert? (value : Value) (target : Kind) : Option Value :=
  if value.kind = target then some value
  else
    match target with
    | .null => none
    | .text => value.toText?.map text
    | .int => value.toInt?.map int
    | .float => value.toFloat?.map float
    | .bool => value.toBool?.map bool
    | .bytes => value.toBytes?.map bytes
    | .json => value.toJson?.map json

end Value

namespace Converter

/-- Conversions between the primitive kinds, UTF-8 bytes and JSON text. -/
def standard : Converter where
  convert := Value.convert?

def never : Converter where
  convert _ _ := none

/-- Reads a value through `read`, which accepts one kind; a value of another kind is converted to
that kind first. -/
def readAs (converter : Converter) (kind : Kind) (read : Value → Option α) (value : Value) :
    Option α :=
  match read value with
  | some found => some found
  | none => (converter.convert value kind).bind read

def asBool (converter : Converter) : Value → Option Bool :=
  converter.readAs .bool Value.bool?

def asInt (converter : Converter) : Value → Option Int64 :=
  converter.readAs .int Value.int?

def asText (converter : Converter) : Value → Option String :=
  converter.readAs .text Value.text?

/-- The value as a value of the given kind; nothing reads as the null kind. -/
def asKind (converter : Converter) (kind : Kind) (value : Value) : Option Value :=
  if kind = .null then none
  else converter.readAs kind (fun v => if v.kind = kind then some v else none) value

end Converter

end MessageRouting
