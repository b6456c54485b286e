import MessageRouting.Proofs.Json.Reading
import MessageRouting.Proofs.Text.Spelled
import MessageRouting.Value.Convert

/-!
# Conversions that lose nothing

A value that is converted to a text, to bytes or to a document and back again is the value
it was. A text converts to an integer only if it spells one that fits 64 bits, and then to
that integer.
-/

namespace MessageRouting

/-! ## Bytes of texts -/

theorem fromUTF8?_toUTF8 (text : String) : String.fromUTF8? text.toUTF8 = some text :=
  dif_pos text.isValidUTF8

theorem toUTF8_of_fromUTF8? {data : ByteArray} {text : String}
    (read : String.fromUTF8? data = some text) : text.toUTF8 = data := by
  unfold String.fromUTF8? at read
  split at read
  · cases read
    rfl
  · cases read

theorem isSome_fromUTF8?_iff {data : ByteArray} :
    (String.fromUTF8? data).isSome = true ↔ data.IsValidUTF8 := by
  unfold String.fromUTF8?
  split
  · rename_i valid
    exact ⟨fun _ => valid, fun _ => rfl⟩
  · rename_i invalid
    exact ⟨nofun, fun valid => absurd valid invalid⟩

/-! ## Texts of integers -/

namespace Text

theorem spellsInt_intChars (i : Int) : SpellsInt (intChars i) i := by
  have digits := spellsDigits_decimalDigits i.natAbs
  unfold intChars
  split
  · have magnitude : i = -(i.natAbs : Int) := by omega
    have spells := SpellsInt.neg digits
    rw [← magnitude] at spells
    exact spells
  · have magnitude : i = (i.natAbs : Int) := by omega
    have spells := SpellsInt.nonneg ⟨_, digits, Or.inl rfl⟩
    rw [← magnitude] at spells
    exact spells

/-- A numeral spells one integer only. -/
theorem SpellsInt.unique {numeral : List Char} {i j : Int} (spells : SpellsInt numeral i)
    (spellsOther : SpellsInt numeral j) : i = j := by
  have first : readSigned (min i j) (max i j) numeral = some i :=
    readSigned_eq_some_iff.mpr ⟨spells, by omega, by omega⟩
  have second : readSigned (min i j) (max i j) numeral = some j :=
    readSigned_eq_some_iff.mpr ⟨spellsOther, by omega, by omega⟩
  rw [first] at second
  exact Option.some.inj second

end Text

namespace Value

open Text (SpellsInt Surrounds)

/-- A text that spells an integer between blanks is read as that integer if it fits 64 bits, and not
at all if it does not. -/
theorem readInt?_of_spells {text : String} {numeral : List Char} {i : Int}
    (spells : SpellsInt numeral i) (surrounds : Surrounds numeral text.toList) :
    readInt? text = if Text.minI64 ≤ i ∧ i ≤ Text.maxI64 then some (Int64.ofInt i) else none := by
  unfold readInt?
  split
  · rename_i fits
    rw [Text.readSigned_trimChars.mpr ⟨numeral, spells, fits, surrounds⟩]
    rfl
  · rename_i beyond
    cases read : Text.readSigned Text.minI64 Text.maxI64 (Text.trimChars text.toList) with
    | none => rfl
    | some j =>
        obtain ⟨spellsOther, fits⟩ := Text.readSigned_eq_some_iff.mp read
        rw [surrounds.trimChars_eq spells.visible] at spellsOther
        rw [spells.unique spellsOther] at beyond
        exact absurd fits beyond

/-- A text that spells no integer is not read as one. -/
theorem readInt?_eq_none {text : String}
    (malformed : ∀ numeral i, SpellsInt numeral i → ¬Surrounds numeral text.toList) :
    readInt? text = none := by
  unfold readInt?
  cases read : Text.readSigned Text.minI64 Text.maxI64 (Text.trimChars text.toList) with
  | none => rfl
  | some i =>
      obtain ⟨numeral, spells, _, surrounds⟩ := Text.readSigned_trimChars.mp read
      exact absurd surrounds (malformed numeral i spells)

theorem readInt?_showInt (i : Int64) : readInt? (Text.showInt i.toInt) = some i := by
  have upper : i.toInt ≤ Text.maxI64 := Int.le_of_lt_add_one i.toInt_lt
  have surrounds : Surrounds (Text.intChars i.toInt) (Text.showInt i.toInt).toList := by
    rw [Text.showInt, String.toList_ofList]
    exact Text.surrounds_self _
  rw [readInt?_of_spells (Text.spellsInt_intChars i.toInt) surrounds, if_pos ⟨i.le_toInt, upper⟩,
    Int64.ofInt_toInt]

end Value

/-! ## Texts of documents -/

section Documents

variable {document : Json}

theorem Json.parse?_compact (isExact : document.isExact = true)
    (shallow : document.nesting ≤ maximumDepth) : parse? document.compact = some document := by
  rw [parse?, read?_compact document isExact shallow, Option.map_some,
    sorted_of_isExact document isExact]

/-- A document is shown as its compact text, unless it is a string, which is shown bare. -/
theorem Value.toText?_json (noString : ∀ text, document ≠ .string text) :
    toText? (.json document) = some document.compact := by
  cases document with
  | string text => exact absurd rfl (noString text)
  | _ => rfl

end Documents

/-! ## There and back -/

namespace Converter

open Text (SpellsInt Surrounds)

def along (converter : Converter) (kinds : List Kind) (value : Value) : Option Value :=
  kinds.foldlM converter.convert value

theorem along_nil (converter : Converter) (value : Value) : converter.along [] value = some value :=
  rfl

theorem along_cons {converter : Converter} {kind : Kind} {kinds : List Kind} {value next : Value}
    (converted : converter.convert value kind = some next) :
    converter.along (kind :: kinds) value = converter.along kinds next := by
  rw [along, List.foldlM_cons, converted]
  rfl

theorem convert_text_int (text : String) :
    standard.convert (.text text) .int = (Value.readInt? text).map .int :=
  rfl

theorem convert_bytes_text (data : ByteArray) :
    standard.convert (.bytes data) .text = (String.fromUTF8? data).map .text :=
  rfl

theorem convert_text_bytes (text : String) :
    standard.convert (.text text) .bytes = some (.bytes text.toUTF8) :=
  rfl

theorem int_via_text (i : Int64) : standard.along [.text, .int] (.int i) = some (.int i) := by
  have there : standard.convert (.int i) .text = some (.text (Text.showInt i.toInt)) := rfl
  have back : standard.convert (.text (Text.showInt i.toInt)) .int = some (.int i) := by
    rw [convert_text_int, Value.readInt?_showInt, Option.map_some]
  rw [along_cons there, along_cons back, along_nil]

theorem int_via_json (i : Int64) : standard.along [.json, .int] (.int i) = some (.int i) := by
  have upper : i.toInt ≤ Text.maxI64 := Int.le_of_lt_add_one i.toInt_lt
  have there : standard.convert (.int i) .json = some (.json (.int i.toInt)) := rfl
  have back : standard.convert (.json (.int i.toInt)) .int = some (.int i) := by
    change Option.map Value.int (if i.toInt ≤ Text.maxI64 then _ else none) = _
    rw [if_pos upper, Int64.ofInt_toInt, Option.map_some]
  rw [along_cons there, along_cons back, along_nil]

theorem text_via_bytes (text : String) :
    standard.along [.bytes, .text] (.text text) = some (.text text) := by
  have back : standard.convert (.bytes text.toUTF8) .text = some (.text text) := by
    rw [convert_bytes_text, fromUTF8?_toUTF8, Option.map_some]
  rw [along_cons (convert_text_bytes text), along_cons back, along_nil]

theorem int_via_bytes (i : Int64) :
    standard.along [.bytes, .text, .int] (.int i) = some (.int i) := by
  have there : standard.convert (.int i) .bytes = some (.bytes (Text.showInt i.toInt).toUTF8) := rfl
  have read : standard.convert (.bytes (Text.showInt i.toInt).toUTF8) .text =
      some (.text (Text.showInt i.toInt)) := by
    rw [convert_bytes_text, fromUTF8?_toUTF8, Option.map_some]
  have shown : standard.convert (.int i) .text = some (.text (Text.showInt i.toInt)) := rfl
  rw [along_cons there, along_cons read, ← along_cons shown, int_via_text]

theorem bytes_via_text {data : ByteArray} {value : Value}
    (read : standard.convert (.bytes data) .text = some value) :
    standard.convert value .bytes = some (.bytes data) := by
  rw [convert_bytes_text] at read
  obtain ⟨text, decoded, rfl⟩ := Option.map_eq_some_iff.mp read
  rw [convert_text_bytes, toUTF8_of_fromUTF8? decoded]

theorem bool_via_text (b : Bool) : standard.along [.text, .bool] (.bool b) = some (.bool b) := by
  cases b <;> rfl

theorem bool_via_int (b : Bool) : standard.along [.int, .bool] (.bool b) = some (.bool b) := by
  cases b <;> rfl

variable {document : Json}

theorem json_via_bytes (isExact : document.isExact = true)
    (shallow : document.nesting ≤ Json.maximumDepth) :
    standard.along [.bytes, .json] (.json document) = some (.json document) := by
  have there : standard.convert (.json document) .bytes = some (.bytes document.compact.toUTF8) := rfl
  have back : standard.convert (.bytes document.compact.toUTF8) .json = some (.json document) := by
    change Option.map Value.json ((String.fromUTF8? document.compact.toUTF8).bind Json.parse?) = _
    rw [fromUTF8?_toUTF8, Option.bind_some, Json.parse?_compact isExact shallow, Option.map_some]
  rw [along_cons there, along_cons back, along_nil]

theorem json_via_text (isExact : document.isExact = true)
    (shallow : document.nesting ≤ Json.maximumDepth) (noString : ∀ text, document ≠ .string text) :
    standard.along [.text, .json] (.json document) = some (.json document) := by
  have there : standard.convert (.json document) .text = some (.text document.compact) := by
    change (Value.toText? (.json document)).map Value.text = _
    rw [Value.toText?_json noString, Option.map_some]
  have back : standard.convert (.text document.compact) .json = some (.json document) := by
    change (Json.parse? document.compact).map Value.json = _
    rw [Json.parse?_compact isExact shallow, Option.map_some]
  rw [along_cons there, along_cons back, along_nil]

/-- A conversion gives a value of the kind that was asked for. -/
theorem kind_of_convert {value converted : Value} {kind : Kind}
    (found : standard.convert value kind = some converted) : converted.kind = kind := by
  have unfolded : value.convert? kind = some converted := found
  unfold Value.convert? at unfolded
  split at unfolded
  · cases unfolded
    assumption
  · cases kind with
    | null => cases unfolded
    | _ =>
        obtain ⟨_, _, rfl⟩ := Option.map_eq_some_iff.mp unfolded
        rfl

/-- A value is read as a value of a kind by converting it to that kind. -/
theorem asKind_eq_convert {kind : Kind} (notNull : kind ≠ .null) (value : Value) :
    standard.asKind kind value = standard.convert value kind := by
  rw [asKind, if_neg notNull, readAs]
  by_cases same : value.kind = kind
  · have unchanged : standard.convert value kind = some value := if_pos same
    rw [if_pos same, unchanged]
  · rw [if_neg same]
    cases found : standard.convert value kind with
    | none => rfl
    | some converted => exact if_pos (kind_of_convert found)

/-- Integers, texts, valid bytes, truth values and documents without floats survive the conversion to
another kind and back. A text that spells an integer between blanks converts to that integer if it
fits 64 bits, any other text to no integer. A value is read as a kind by the same conversions. -/
theorem conversions_lossless :
    (∀ i : Int64,
      standard.along [.text, .int] (.int i) = some (.int i) ∧
      standard.along [.json, .int] (.int i) = some (.int i) ∧
      standard.along [.bytes, .text, .int] (.int i) = some (.int i)) ∧
    (∀ text, standard.along [.bytes, .text] (.text text) = some (.text text)) ∧
    (∀ data : ByteArray,
      ((standard.convert (.bytes data) .text).isSome = true ↔ data.IsValidUTF8) ∧
      ∀ value, standard.convert (.bytes data) .text = some value →
        standard.convert value .bytes = some (.bytes data)) ∧
    (∀ b,
      standard.along [.text, .bool] (.bool b) = some (.bool b) ∧
      standard.along [.int, .bool] (.bool b) = some (.bool b)) ∧
    (∀ document : Json, document.isExact = true → document.nesting ≤ 127 →
      standard.along [.bytes, .json] (.json document) = some (.json document) ∧
      ((∀ text, document ≠ .string text) →
        standard.along [.text, .json] (.json document) = some (.json document))) ∧
    (∀ text numeral i, SpellsInt numeral i → Surrounds numeral text.toList →
      standard.convert (.text text) .int =
        if Text.minI64 ≤ i ∧ i ≤ Text.maxI64 then some (.int (Int64.ofInt i)) else none) ∧
    (∀ text, (∀ numeral i, SpellsInt numeral i → ¬Surrounds numeral text.toList) →
      standard.convert (.text text) .int = none) ∧
    ∀ kind value, kind ≠ .null → standard.asKind kind value = standard.convert value kind := by
  refine ⟨fun i => ⟨int_via_text i, int_via_json i, int_via_bytes i⟩, text_via_bytes,
    fun data => ⟨?_, fun _ => bytes_via_text⟩, fun b => ⟨bool_via_text b, bool_via_int b⟩,
    fun document isExact shallow => ⟨json_via_bytes isExact shallow, json_via_text isExact shallow⟩,
    ?_, ?_, fun _ value notNull => asKind_eq_convert notNull value⟩
  · rw [convert_bytes_text, Option.isSome_map]
    exact isSome_fromUTF8?_iff
  · intro text numeral i spells surrounds
    rw [convert_text_int, Value.readInt?_of_spells spells surrounds]
    split
    · rfl
    · rfl
  · intro text malformed
    rw [convert_text_int, Value.readInt?_eq_none malformed]
    rfl

/-- A document with the smallest and the largest integer and a name that needs quoting. -/
def quotedBounds : Json :=
  .array [.int Text.minI64, .object [("\"é", .int Text.maxU64)], .null]

/-- The smallest integer is read between blanks, one more than the largest is refused, and so is a
sign without digits. -/
theorem conversions_lossless_at_bounds :
    standard.along [.bytes, .json] (.json quotedBounds) = some (.json quotedBounds) ∧
      standard.along [.text, .json] (.json quotedBounds) = some (.json quotedBounds) ∧
      standard.convert (.text "é") .bytes = some (.bytes "é".toUTF8) ∧
      standard.convert (.text "\t-9223372036854775808 ") .int =
        some (.int (Int64.ofInt (-9223372036854775808))) ∧
      standard.convert (.text "+9223372036854775808") .int = none ∧
      standard.convert (.text "+") .int = none ∧
      standard.asKind .int (.text "+") = none := by
  obtain ⟨_, _, bytes, _, documents, spelled, malformed, typed⟩ := conversions_lossless
  obtain ⟨viaBytes, viaText⟩ := documents quotedBounds (by decide +kernel) (by decide +kernel)
  have encoded : standard.convert (.bytes "é".toUTF8) .text = some (.text "é") := by
    rw [convert_bytes_text, fromUTF8?_toUTF8, Option.map_some]
  have digits : Text.SpellsDigits "9223372036854775808".toList 9223372036854775808 := by
    have written : Text.decimalDigits 9223372036854775808 = "9223372036854775808".toList := by
      decide +kernel
    rw [← written]
    exact Text.spellsDigits_decimalDigits _
  have smallest := spelled "\t-9223372036854775808 " _ _ (.neg digits)
    ⟨['\t'], [' '], List.forall_mem_singleton.mpr (by decide),
      List.forall_mem_singleton.mpr (by decide), by decide⟩
  have beyond := spelled "+9223372036854775808" _ _ (.nonneg ⟨_, digits, Or.inr rfl⟩)
    (Text.surrounds_self _)
  have bare : standard.convert (.text "+") .int = none := by
    apply malformed
    intro numeral i spells surrounds
    have sign : numeral = ['+'] := (surrounds.trimChars_eq spells.visible).symm
    have read := Text.readSigned_eq_some_iff.mpr ⟨spells, Int.le_refl i, Int.le_refl i⟩
    rw [sign] at read
    cases read
  refine ⟨viaBytes, viaText nofun, (bytes _).2 _ encoded, smallest, beyond, bare, ?_⟩
  rw [typed .int _ (by decide)]
  exact bare

end Converter

end MessageRouting
