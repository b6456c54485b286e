import MessageRouting.Json.Printer

/-!
# Values

The payload of a header, a body or a property has a kind that is known only
when the exchange runs. `Value` is that tagged payload.
-/

namespace MessageRouting

/-- The kind of a value, and the target of a conversion. -/
inductive Kind where
  | null
  | bool
  | int
  | float
  | text
  | bytes
  | json
deriving DecidableEq, Repr

/-- A value of a kind known at run time. -/
inductive Value where
  | null
  | bool (value : Bool)
  | int (value : Int64)
  | float (value : Binary64)
  | text (value : String)
  | bytes (value : ByteArray)
  | json (document : Json)
deriving Inhabited

namespace Kind

def all : List Kind := [null, bool, int, float, text, bytes, json]

def name : Kind → String
  | null => "null"
  | bool => "bool"
  | int => "int"
  | float => "float"
  | text => "text"
  | bytes => "bytes"
  | json => "json"

def ofName? (name : String) : Option Kind :=
  all.find? fun kind => kind.name == name

end Kind

namespace Value

def kind : Value → Kind
  | null => .null
  | bool _ => .bool
  | int _ => .int
  | float _ => .float
  | text _ => .text
  | bytes _ => .bytes
  | json _ => .json

def isNull : Value → Bool
  | null => true
  | _ => false

def text? : Value → Option String
  | text value => some value
  | _ => none

/-- The integer of an integer value. -/
def int? : Value → Option Int64
  | int value => some value
  | _ => none

def bool? : Value → Option Bool
  | bool value => some value
  | _ => none

def bytes? : Value → Option ByteArray
  | bytes value => some value
  | _ => none

/-- A count as an integer value; a count beyond 63 bits gives the largest integer. -/
def ofNat (n : Nat) : Value :=
  int (Int64.ofInt (min (n : Int) Text.maxI64))

def ofOption : Option Value → Value
  | some value => value
  | none => null

/-- Equality of values: same kind and same content, floats compared as numbers. -/
def same : Value → Value → Bool
  | null, null => true
  | bool a, bool b => a == b
  | int a, int b => a == b
  | float a, float b => a.same b
  | text a, text b => a == b
  | bytes a, bytes b => a == b
  | json a, json b => a.same b
  | _, _ => false

/-- A value for people to read; bytes show their number only. -/
def display : Value → String
  | null => "null"
  | bool true => "true"
  | bool false => "false"
  | int value => Text.showInt value.toInt
  | float value => value.showPlain
  | text value => value
  | bytes value => "<" ++ Text.showNat value.size ++ " bytes>"
  | json document => document.compact

end Value

end MessageRouting
