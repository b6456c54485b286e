/-!
# Tables by name

A table holds at most one entry for each name and lists its entries sorted by
name, so two tables that were filled in a different order are equal. Lookup
after a write sees that write, and no other name is touched.
-/

namespace MessageRouting

/-! ## Sorted entries -/

/-- Puts an entry in its place; the entry of the same name is replaced. -/
def setEntry (name : String) (value : α) : List (String × α) → List (String × α)
  | [] => [(name, value)]
  | (other, held) :: rest =>
      if name < other then (name, value) :: (other, held) :: rest
      else if name = other then (name, value) :: rest
      else (other, held) :: setEntry name value rest

/-- The first entry of the given name. -/
def valueIn? (name : String) : List (String × α) → Option α
  | [] => none
  | (other, held) :: rest => if name = other then some held else valueIn? name rest

theorem valueIn?_setEntry_self (name : String) (value : α) (entries : List (String × α)) :
    valueIn? name (setEntry name value entries) = some value := by
  induction entries with
  | nil => simp [setEntry, valueIn?]
  | cons head tail inductionHypothesis =>
      obtain ⟨other, held⟩ := head
      simp only [setEntry]
      split
      · simp [valueIn?]
      · split
        · simp [valueIn?]
        · simp [valueIn?, *]

theorem valueIn?_setEntry_of_ne {name other : String} (different : other ≠ name) (value : α)
    (entries : List (String × α)) :
    valueIn? other (setEntry name value entries) = valueIn? other entries := by
  induction entries with
  | nil => simp [setEntry, valueIn?, different]
  | cons head tail inductionHypothesis =>
      obtain ⟨third, held⟩ := head
      simp only [setEntry]
      split
      · simp [valueIn?, different]
      · split
        · rename_i _ same
          subst same
          simp [valueIn?, different]
        · simp [valueIn?, inductionHypothesis]

theorem valueIn?_filter_self (name : String) (entries : List (String × α)) :
    valueIn? name (entries.filter fun entry => entry.1 ≠ name) = none := by
  induction entries with
  | nil => rfl
  | cons head tail inductionHypothesis =>
      obtain ⟨other, held⟩ := head
      by_cases same : other = name
      · simpa [List.filter_cons, same] using inductionHypothesis
      · simpa [List.filter_cons, same, valueIn?, Ne.symm same] using inductionHypothesis

theorem valueIn?_filter_of_ne {name other : String} (different : other ≠ name)
    (entries : List (String × α)) :
    valueIn? other (entries.filter fun entry => entry.1 ≠ name) = valueIn? other entries := by
  induction entries with
  | nil => rfl
  | cons head tail inductionHypothesis =>
      obtain ⟨third, held⟩ := head
      by_cases same : third = name
      · subst same
        simpa [List.filter_cons, valueIn?, different] using inductionHypothesis
      · by_cases found : other = third
        · simp [same, valueIn?, found]
        · simpa [List.filter_cons, same, valueIn?, found] using inductionHypothesis

/-! ## Tables -/

/-- A finite map from names, its entries sorted by name. -/
structure Table (α : Type u) where
  entries : List (String × α) := []
deriving Inhabited

namespace Table

/-- The table without entries. -/
def empty : Table α := {}

def get? (table : Table α) (name : String) : Option α :=
  valueIn? name table.entries

def contains (table : Table α) (name : String) : Bool :=
  (table.get? name).isSome

def set (table : Table α) (name : String) (value : α) : Table α :=
  ⟨setEntry name value table.entries⟩

def erase (table : Table α) (name : String) : Table α :=
  ⟨table.entries.filter fun entry => entry.1 ≠ name⟩

def update (table : Table α) (name : String) (change : α → α) : Table α :=
  match table.get? name with
  | some value => table.set name (change value)
  | none => table

def names (table : Table α) : List String :=
  table.entries.map (·.1)

def size (table : Table α) : Nat :=
  table.entries.length

/-- The table filled with the given entries, a later one replacing an earlier one. -/
def ofEntries (entries : List (String × α)) : Table α :=
  entries.foldl (fun table entry => table.set entry.1 entry.2) empty

@[simp]
theorem get?_set_self (table : Table α) (name : String) (value : α) :
    (table.set name value).get? name = some value :=
  valueIn?_setEntry_self name value table.entries

theorem get?_set_of_ne (table : Table α) {name other : String} (different : other ≠ name)
    (value : α) : (table.set name value).get? other = table.get? other :=
  valueIn?_setEntry_of_ne different value table.entries

theorem get?_set (table : Table α) (name other : String) (value : α) :
    (table.set name value).get? other = if other = name then some value else table.get? other := by
  by_cases same : other = name
  · subst same
    simp
  · simp [same, get?_set_of_ne table same]

@[simp]
theorem get?_erase_self (table : Table α) (name : String) : (table.erase name).get? name = none :=
  valueIn?_filter_self name table.entries

theorem get?_erase_of_ne (table : Table α) {name other : String} (different : other ≠ name) :
    (table.erase name).get? other = table.get? other :=
  valueIn?_filter_of_ne different table.entries

theorem get?_erase (table : Table α) (name other : String) :
    (table.erase name).get? other = if other = name then none else table.get? other := by
  by_cases same : other = name
  · subst same
    simp
  · simp [same, get?_erase_of_ne table same]

theorem get?_update (table : Table α) (name other : String) (change : α → α) :
    (table.update name change).get? other =
      if other = name then (table.get? other).map change else table.get? other := by
  unfold update
  cases found : table.get? name with
  | none =>
      by_cases same : other = name
      · subst same
        simp [found]
      · simp [same]
  | some value =>
      by_cases same : other = name
      · subst same
        simp [found]
      · simp [same, get?_set_of_ne table same]

end Table

end MessageRouting
