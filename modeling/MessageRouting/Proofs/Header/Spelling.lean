import MessageRouting.Header
import MessageRouting.Proofs.Text.Spelling

/-!
# Headers under another spelling

A header is found under every spelling of its name with the same letters that agrees with it
at the dotted capital I and at a capital sigma that ends a word. Under a spelling that does
not, it is another header.
-/

namespace MessageRouting

/-! ## Setting an entry twice -/

theorem setEntry_setEntry (name : String) (value later : α) (entries : List (String × α)) :
    setEntry name later (setEntry name value entries) = setEntry name later entries := by
  induction entries with
  | nil => simp [setEntry]
  | cons entry rest inductionHypothesis =>
      obtain ⟨other, held⟩ := entry
      by_cases before : name < other
      · simp [setEntry, before]
      · by_cases same : name = other
        · simp [setEntry, same]
        · simp [setEntry, before, same, inductionHypothesis]

theorem length_setEntry (name : String) (value later : α) (entries : List (String × α)) :
    (setEntry name value entries).length = (setEntry name later entries).length := by
  induction entries with
  | nil => rfl
  | cons entry rest inductionHypothesis =>
      obtain ⟨other, held⟩ := entry
      rw [setEntry, setEntry]
      split
      · rfl
      split
      · rfl
      · rw [List.length_cons, List.length_cons, inductionHypothesis]

namespace Headers

variable {first second : String} (headers : Headers) (value later : Value)

theorem get?_insert_of_fold_eq (same : fold first = fold second) :
    (headers.insert first value).2.get? second = some value := by
  rw [get?, ← same]
  exact get?_insert_self headers first value

theorem insert_insert_of_fold_eq (same : fold first = fold second) :
    ((headers.insert first value).2.insert second later).2 = (headers.insert second later).2 := by
  simp [insert, same, Table.set, setEntry_setEntry]

theorem size_insert_of_fold_eq (same : fold first = fold second) :
    (headers.insert first value).2.size = (headers.insert second later).2.size := by
  rw [insert, insert, same]
  exact length_setEntry (fold second) (⟨first, value⟩ : Header) ⟨second, later⟩ headers.table.entries

theorem contains_eq (name : String) : headers.contains name = (headers.get? name).isSome := by
  rw [contains, Table.contains, get?, Option.isSome_map]

/-- A header is written under one spelling of a name and looked up under another with the same
letters. If both spellings agree wherever a letter has another lower-case form than by itself, the
header is found, and writing under the other spelling replaces it and answers its value. If they do
not, the headers under the other spelling are what they were, and writing there leaves the header
beside the new one. -/
theorem lookup_of_same_letters
    (same : first.toList.map Text.lowerAlone = second.toList.map Text.lowerAlone) :
    let written := (headers.insert first value).2
    let rewritten := written.insert second later
    (Text.AgreeInForm first.toList second.toList →
      written.get? second = some value ∧ written.contains second = true ∧
        rewritten.1 = some value ∧ rewritten.2 = (headers.insert second later).2 ∧
        rewritten.2.size = written.size) ∧
    (¬Text.AgreeInForm first.toList second.toList →
      written.get? second = headers.get? second ∧
        written.contains second = headers.contains second ∧
        rewritten.1 = headers.get? second ∧
        rewritten.2.get? first = some value ∧ rewritten.2.get? second = some later) := by
  intro written rewritten
  have folded := Text.lower_eq_iff same
  constructor
  · intro agree
    have sameKey : fold first = fold second := folded.mpr agree
    have found : written.get? second = some value := get?_insert_of_fold_eq headers value sameKey
    have replaced : rewritten.2 = (headers.insert second later).2 :=
      insert_insert_of_fold_eq headers value later sameKey
    refine ⟨found, ?_, found, replaced, ?_⟩
    · rw [contains_eq, found]
      rfl
    · rw [replaced]
      exact (size_insert_of_fold_eq headers value later sameKey).symm
  · intro disagree
    have otherKey : fold second ≠ fold first := fun equal => disagree (folded.mp equal.symm)
    have kept : written.get? second = headers.get? second :=
      get?_insert_of_fold_ne headers otherKey value
    refine ⟨kept, ?_, kept, ?_, get?_insert_self written second later⟩
    · rw [contains_eq, contains_eq, kept]
    · exact (get?_insert_of_fold_ne written (Ne.symm otherKey) later).trans
        (get?_insert_self headers first value)

/-- A capital sigma within a word is found in lower case. -/
theorem lookup_of_same_letters_within_word :
    "Σωσίας ΣΩΣΙΑΣ".toList.map Text.lowerAlone = "σωΣίας σωσιαΣ".toList.map Text.lowerAlone ∧
      (empty.insert "Σωσίας ΣΩΣΙΑΣ" .null).2.get? "σωΣίας σωσιαΣ" = some .null ∧
      ((empty.insert "Σωσίας ΣΩΣΙΑΣ" .null).2.insert "σωΣίας σωσιαΣ" (.bool true)).2.size = 1 := by
  have same : "Σωσίας ΣΩΣΙΑΣ".toList.map Text.lowerAlone =
      "σωΣίας σωσιαΣ".toList.map Text.lowerAlone := by
    decide +kernel
  have agree : Text.AgreeInForm "Σωσίας ΣΩΣΙΑΣ".toList "σωΣίας σωσιαΣ".toList := by
    apply (Text.lower_eq_iff same).mp
    decide +kernel
  obtain ⟨found, _, _, _, replaced⟩ :=
    (lookup_of_same_letters empty .null (.bool true) same).1 agree
  exact ⟨same, found, replaced⟩

/-- A capital sigma that ends a word is not found in lower case: the names differ in the case of
two letters, and yet each has an entry of its own. -/
theorem final_capital_sigma_missed :
    "ΑΣ".toList.map Text.lowerAlone = "ασ".toList.map Text.lowerAlone ∧
      (empty.insert "ΑΣ" .null).2.get? "ασ" = none ∧
      (empty.insert "ΑΣ" .null).2.contains "ασ" = false ∧
      ((empty.insert "ΑΣ" .null).2.insert "ασ" (.bool true)).2.size = 2 := by
  decide +kernel

end Headers

end MessageRouting
