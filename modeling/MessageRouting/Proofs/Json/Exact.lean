import MessageRouting.Json.Parser

/-!
# Documents without floats

The members of every object are sorted by name, each name once, and integers fit 64
bits. A document of that form without floats is exact: sorting it changes nothing,
and its text says all about it.
-/

namespace MessageRouting.Json

/-- The names are in ascending order, so that each occurs once. -/
def Ascending (members : List (String × Json)) : Prop :=
  (members.map Prod.fst).Pairwise (· < ·)

instance (members : List (String × Json)) : Decidable (Ascending members) :=
  inferInstanceAs (Decidable (List.Pairwise _ _))

mutual

/-- The document has no floats. Its integers fit 64 bits and the members of its objects are sorted, as
they are in all documents. -/
def isExact : Json → Bool
  | int value => decide (Text.minI64 ≤ value ∧ value ≤ Text.maxU64)
  | float _ => false
  | array items => exactItems items
  | object members => decide (Ascending members) && exactMembers members
  | null | bool _ | string _ => true

def exactItems : List Json → Bool
  | [] => true
  | item :: rest => isExact item && exactItems rest

def exactMembers : List (String × Json) → Bool
  | [] => true
  | (_, value) :: rest => isExact value && exactMembers rest

end

mutual

/-- How many levels of lists and objects are nested. -/
def nesting : Json → Nat
  | array items => nestingOfItems items + 1
  | object members => nestingOfMembers members + 1
  | _ => 0

def nestingOfItems : List Json → Nat
  | [] => 0
  | item :: rest => max (nesting item) (nestingOfItems rest)

def nestingOfMembers : List (String × Json) → Nat
  | [] => 0
  | (_, value) :: rest => max (nesting value) (nestingOfMembers rest)

end

/-! ## Sorting -/

theorem setEntry_behind {α : Type} {name : String} {value : α} {entries : List (String × α)}
    (behind : ∀ entry ∈ entries, entry.1 < name) :
    setEntry name value entries = entries ++ [(name, value)] := by
  induction entries with
  | nil => rfl
  | cons entry rest inductionHypothesis =>
      have below : entry.1 < name := behind entry List.mem_cons_self
      have notBelow : ¬name < entry.1 := String.lt_asymm below
      have different : name ≠ entry.1 := by
        intro same
        rw [same] at below
        exact String.lt_irrefl _ below
      have later := inductionHypothesis fun other listed =>
        behind other (List.mem_cons_of_mem entry listed)
      rw [setEntry, if_neg notBelow, if_neg different, later]
      rfl

theorem foldl_setEntry {entries members : List (String × Json)}
    (ascending : Ascending (entries ++ members)) :
    members.foldl (fun sorted (name, value) => setEntry name value sorted) entries =
      entries ++ members := by
  induction members generalizing entries with
  | nil => exact (List.append_nil entries).symm
  | cons member rest inductionHypothesis =>
      obtain ⟨name, value⟩ := member
      have behind : ∀ entry ∈ entries, entry.1 < name := by
        intro entry listed
        rw [Ascending, List.map_append] at ascending
        exact (List.pairwise_append.mp ascending).2.2 entry.1 (List.mem_map_of_mem listed) name
          List.mem_cons_self
      have whole : entries ++ (name, value) :: rest = entries ++ [(name, value)] ++ rest :=
        List.append_cons entries (name, value) rest
      rw [whole] at ascending ⊢
      rw [List.foldl_cons]
      simp only [setEntry_behind behind]
      exact inductionHypothesis ascending

theorem ofMembers_of_ascending {members : List (String × Json)}
    (ascending : Ascending members) : ofMembers members = object members :=
  congrArg object (foldl_setEntry ascending)

mutual

/-- An exact document is sorted. -/
theorem sorted_of_isExact (document : Json) (isExact : document.isExact = true) :
    sorted document = document := by
  cases document with
  | array items =>
      rw [sorted, sortedItems_of_exact items isExact]
  | object members =>
      obtain ⟨ascending, membersExact⟩ := Bool.and_eq_true_iff.mp isExact
      rw [sorted, sortedMembers_of_exact members membersExact]
      exact ofMembers_of_ascending (of_decide_eq_true ascending)
  | _ => rfl

theorem sortedItems_of_exact (items : List Json) (isExact : exactItems items = true) :
    sortedItems items = items := by
  cases items with
  | nil => rfl
  | cons item rest =>
      obtain ⟨itemExact, restExact⟩ := Bool.and_eq_true_iff.mp isExact
      rw [sortedItems, sorted_of_isExact item itemExact, sortedItems_of_exact rest restExact]

theorem sortedMembers_of_exact (members : List (String × Json))
    (isExact : exactMembers members = true) : sortedMembers members = members := by
  cases members with
  | nil => rfl
  | cons member rest =>
      obtain ⟨name, value⟩ := member
      obtain ⟨valueExact, restExact⟩ := Bool.and_eq_true_iff.mp isExact
      rw [sortedMembers, sorted_of_isExact value valueExact, sortedMembers_of_exact rest restExact]

end

end MessageRouting.Json
