import MessageRouting.Value.Basic
import MessageRouting.Json.Parser

/-!
# The written form of a value

A value is written as an object with the members `type` and `value`; null has
no `value`. Reading also accepts the two members in either order, a list of
the two, and members of other names, which are ignored.
-/

namespace MessageRouting

namespace Json

def choice? : Json → Option String
  | string name => some name
  | object [(name, null)] => some name
  | _ => none

def kind? (document : Json) : Option Kind :=
  document.choice?.bind Kind.ofName?

def members? (name : String) : List (String × Json) → List Json
  | [] => []
  | (other, value) :: rest =>
      if other = name then value :: members? name rest else members? name rest

def byte? : Json → Option UInt8
  | int value => if 0 ≤ value ∧ value ≤ 255 then some (UInt8.ofNat value.toNat) else none
  | _ => none

end Json

namespace Value

/-- The document for a value. A float that is no finite number is written as null. -/
def toDocument (value : Value) : Json :=
  let tag : String × Json := ("type", .string value.kind.name)
  let content (document : Json) := Json.object [tag, ("value", document)]
  match value with
  | null => .object [tag]
  | bool b => content (.bool b)
  | int i => content (.int i.toInt)
  | float x => content (Json.ofBinary64 x)
  | text s => content (.string s)
  | bytes data => content (.array (data.toList.map fun byte => .int byte.toNat))
  | json document => content document

/-- The text of a value as it is stored. -/
def serialize (value : Value) : String :=
  value.toDocument.compact

def ofContent? : Kind → Json → Option Value
  | .null, .null => some null
  | .bool, .bool b => some (bool b)
  | .int, .int i => if i ≤ Text.maxI64 then some (int (Int64.ofInt i)) else none
  | .float, .float x => some (float x)
  | .float, .int i => some (float (Binary64.ofInt i))
  | .text, .string s => some (text s)
  | .bytes, .array items => (items.mapM Json.byte?).map fun data => bytes ⟨data.toArray⟩
  | .json, document => some (json document.sorted)
  | _, _ => none

def ofDocument? : Json → Option Value
  | .array [tag, content] => do ofContent? (← tag.kind?) content
  | .object members =>
      match Json.members? "type" members, Json.members? "value" members with
      | [tag], [content] => do ofContent? (← tag.kind?) content
      | [tag], [] => do if (← tag.kind?) = .null then some null else none
      | _, _ => none
  | _ => none

def deserialize? (stored : String) : Option Value :=
  (Json.read? stored).bind ofDocument?

end Value

end MessageRouting
