import MessageRouting.Proofs.Json.Reading
import MessageRouting.Value.Codec

/-!
# Values read back

A value without floats is read back from its stored text. The document of a value is
exact if the value is, and it adds one level to the nesting of what the value holds.
-/

namespace MessageRouting

/-! ## Bytes -/

theorem toList_loop (data : ByteArray) (index : Nat) (taken : List UInt8) :
    ByteArray.toList.loop data index taken = taken.reverse ++ data.data.toList.drop index := by
  induction index, taken using ByteArray.toList.loop.induct data with
  | case1 index taken within inductionHypothesis =>
      have found : data.get! index = data.data.toList[index] := getElem!_pos data.data index within
      have rest := List.drop_eq_getElem_cons (l := data.data.toList) within
      rw [ByteArray.toList.loop, if_pos within, inductionHypothesis, rest, found,
        List.reverse_cons, List.append_assoc]
      rfl
  | case2 index taken beyond =>
      have all : data.data.toList.length ≤ index := Nat.le_of_not_lt beyond
      rw [ByteArray.toList.loop, if_neg beyond, List.drop_eq_nil_of_le all, List.append_nil]

/-- The bytes of an array make up the array. -/
theorem toArray_toList (data : ByteArray) : (⟨data.toList.toArray⟩ : ByteArray) = data := by
  have bytes : data.toList = data.data.toList := toList_loop data 0 []
  rw [bytes, Array.toArray_toList]

namespace Json

def ofBytes (bytes : List UInt8) : List Json :=
  bytes.map fun byte => .int byte.toNat

theorem mapM_byte?_ofBytes (bytes : List UInt8) : (ofBytes bytes).mapM byte? = some bytes := by
  induction bytes with
  | nil => rfl
  | cons byte rest inductionHypothesis =>
      have small := byte.toNat_lt
      have lower : 0 ≤ (byte.toNat : Int) ∧ (byte.toNat : Int) ≤ 255 := by omega
      have first : byte? (.int byte.toNat) = some byte := by
        rw [byte?, if_pos lower, Int.toNat_natCast, UInt8.ofNat_toNat]
      change List.mapM byte? (.int byte.toNat :: ofBytes rest) = _
      rw [List.mapM_cons, first, inductionHypothesis]
      rfl

theorem exact_ofBytes (bytes : List UInt8) :
    exactItems (ofBytes bytes) = true ∧ nestingOfItems (ofBytes bytes) = 0 := by
  induction bytes with
  | nil => exact ⟨rfl, rfl⟩
  | cons byte rest inductionHypothesis =>
      obtain ⟨exactRest, flat⟩ := inductionHypothesis
      have small := byte.toNat_lt
      have fits : Text.minI64 ≤ (byte.toNat : Int) ∧ (byte.toNat : Int) ≤ Text.maxU64 := by
        unfold Text.minI64 Text.maxU64
        omega
      refine ⟨?_, ?_⟩
      · exact Bool.and_eq_true_iff.mpr ⟨decide_eq_true fits, exactRest⟩
      · change max 0 (nestingOfItems (ofBytes rest)) = 0
        rw [flat]
        rfl

end Json

namespace Value

/-! ## Exact values -/

def isExact : Value → Bool
  | float _ => false
  | json document => document.isExact
  | _ => true

/-- How many levels of lists and objects are nested in the value. -/
def nesting : Value → Nat
  | json document => document.nesting
  | _ => 0

def content : Value → Json
  | null => .null
  | bool b => .bool b
  | int i => .int i.toInt
  | float x => Json.ofBinary64 x
  | text s => .string s
  | bytes data => .array (Json.ofBytes data.toList)
  | json document => document

theorem toDocument_eq (value : Value) :
    value.toDocument = .object (("type", .string value.kind.name) ::
      if value.isNull then [] else [("value", value.content)]) := by
  cases value <;> rfl

variable {value : Value}

theorem isExact_content (isExact : value.isExact = true) : value.content.isExact = true := by
  cases value with
  | int i =>
      have upper := i.toInt_lt
      have fits : Text.minI64 ≤ i.toInt ∧ i.toInt ≤ Text.maxU64 := by
        refine ⟨i.le_toInt, ?_⟩
        unfold Text.maxU64
        omega
      exact decide_eq_true fits
  | float => contradiction
  | bytes data => exact (Json.exact_ofBytes data.toList).1
  | json document => exact isExact
  | _ => rfl

theorem nesting_content (isExact : value.isExact = true) :
    value.content.nesting ≤ max 1 value.nesting := by
  cases value with
  | bytes data =>
      have flat := (Json.exact_ofBytes data.toList).2
      exact Nat.le_of_eq (congrArg (· + 1) flat)
  | json document => exact Nat.le_max_right 1 document.nesting
  | float => contradiction
  | _ => exact Nat.zero_le _

theorem isExact_toDocument (isExact : value.isExact = true) : value.toDocument.isExact = true := by
  have content := isExact_content isExact
  have ascending : ∀ tag held : Json, Json.Ascending [("type", tag), ("value", held)] := by
    intro tag held
    change List.Pairwise (· < ·) ["type", "value"]
    decide
  rw [toDocument_eq]
  cases value.isNull with
  | true => rfl
  | false =>
      apply Bool.and_eq_true_iff.mpr
      refine ⟨decide_eq_true (ascending _ _), ?_⟩
      exact Bool.and_eq_true_iff.mpr ⟨rfl, Bool.and_eq_true_iff.mpr ⟨content, rfl⟩⟩

theorem nesting_toDocument (isExact : value.isExact = true) :
    value.toDocument.nesting ≤ max 2 (value.nesting + 1) := by
  have content := nesting_content isExact
  rw [toDocument_eq]
  cases value.isNull with
  | true =>
      change max 0 0 + 1 ≤ _
      omega
  | false =>
      change max 0 (max value.content.nesting 0) + 1 ≤ _
      omega

/-! ## Reading back -/

theorem kind?_name (kind : Kind) : (Json.string kind.name).kind? = some kind := by
  cases kind <;> decide

/-- The content of an exact value tells the value, if its kind is known. -/
theorem ofContent?_content (isExact : value.isExact = true) :
    ofContent? value.kind value.content = some value := by
  cases value with
  | int i =>
      have upper : i.toInt ≤ Text.maxI64 := Int.le_of_lt_add_one i.toInt_lt
      change (if i.toInt ≤ Text.maxI64 then _ else _) = _
      rw [if_pos upper, Int64.ofInt_toInt]
  | float => contradiction
  | bytes data =>
      change ((Json.ofBytes data.toList).mapM Json.byte?).map _ = _
      rw [Json.mapM_byte?_ofBytes, Option.map_some, toArray_toList]
  | json document =>
      change some (json document.sorted) = _
      rw [Json.sorted_of_isExact document isExact]
  | _ => rfl

theorem ofDocument?_toDocument (isExact : value.isExact = true) :
    ofDocument? value.toDocument = some value := by
  rw [toDocument_eq]
  cases absent : value.isNull with
  | true =>
      cases value with
      | null =>
          change ((Json.string Kind.null.name).kind?.bind fun kind =>
            if kind = .null then some null else none) = _
          rw [kind?_name]
          rfl
      | _ => contradiction
  | false =>
      change ((Json.string value.kind.name).kind?.bind fun kind => ofContent? kind value.content) = _
      rw [kind?_name]
      exact ofContent?_content isExact

/-- A value without floats that does not nest too deep is read back from its stored text, and stored
again it gives the same text. -/
theorem deserialize?_serialize (value : Value) (isExact : value.isExact = true)
    (shallow : value.nesting ≤ 126) :
    deserialize? value.serialize = some value ∧
      (deserialize? value.serialize).map serialize = some value.serialize := by
  have document : value.toDocument.nesting ≤ Json.maximumDepth := by
    have nested := nesting_toDocument isExact
    have deepest : Json.maximumDepth = 127 := rfl
    omega
  have read := Json.read?_compact value.toDocument (isExact_toDocument isExact) document
  have back : deserialize? value.serialize = some value := by
    rw [deserialize?, serialize, read]
    exact ofDocument?_toDocument isExact
  refine ⟨back, ?_⟩
  rw [back]
  rfl

/-- A value with the largest integers, a text full of escapes and an empty object. -/
def motley : Value :=
  .json (.object
    [("a", .array [.int Text.minI64, .int Text.maxU64, .null, .bool true]),
      ("b", .string "\"\\/\t\x01\x1f\x7fé"),
      ("c", .object [])])

theorem deserialize?_serialize_motley :
    motley.isExact = true ∧ motley.nesting = 2 ∧ deserialize? motley.serialize = some motley := by
  have isExact : motley.isExact = true := by
    decide +kernel
  have nested : motley.nesting = 2 := by
    decide +kernel
  have shallow : motley.nesting ≤ 126 := by
    rw [nested]
    decide
  obtain ⟨back, _⟩ := deserialize?_serialize motley isExact shallow
  exact ⟨isExact, nested, back⟩

end Value

end MessageRouting
