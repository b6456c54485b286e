import MessageRouting.Table
import MessageRouting.Text.Case
import MessageRouting.Value.Codec
import MessageRouting.Value.Convert

/-!
# Headers

Header names are compared without regard to case: a name is looked up in its
folded form, the full lower-case form of the text. Listing reports each name
as it was spelled in the last write.
-/

namespace MessageRouting

/-- A header, under its name in the last spelling. -/
structure Header where
  name : String
  value : Value
deriving Inhabited

/-- The headers of a message, by folded name. -/
structure Headers where
  table : Table Header := {}
deriving Inhabited

namespace Headers

/-- The headers without any entry. -/
def empty : Headers := {}

/-- The form in which names are compared. -/
def fold (name : String) : String :=
  Text.lower name

def get? (headers : Headers) (name : String) : Option Value :=
  (headers.table.get? (fold name)).map Header.value

def getAs? (headers : Headers) (read : Value → Option α) (name : String) : Option α :=
  (headers.get? name).bind read

def contains (headers : Headers) (name : String) : Bool :=
  headers.table.contains (fold name)

/-- Writes a header; a header whose name folds to the same form is replaced, and its value given. -/
def insert (headers : Headers) (name : String) (value : Value) : Option Value × Headers :=
  (headers.get? name, ⟨headers.table.set (fold name) ⟨name, value⟩⟩)

def remove (headers : Headers) (name : String) : Option Value × Headers :=
  (headers.get? name, ⟨headers.table.erase (fold name)⟩)

/-- Writes several headers in order. -/
def extend (headers : Headers) (entries : List (String × Value)) : Headers :=
  entries.foldl (fun held entry => (held.insert entry.1 entry.2).2) headers

/-- The headers written by the given entries, in order. -/
def ofList (entries : List (String × Value)) : Headers :=
  empty.extend entries

/-- All headers, by folded name. -/
def toList (headers : Headers) : List Header :=
  headers.table.entries.map (·.2)

/-- The names in their last spelling. -/
def names (headers : Headers) : List String :=
  headers.toList.map Header.name

def size (headers : Headers) : Nat :=
  headers.table.size

def isEmpty (headers : Headers) : Bool :=
  headers.size == 0

def toDocument (headers : Headers) : Json :=
  Json.ofMembers (headers.toList.map fun header => (header.name, header.value.toDocument))

@[simp]
theorem get?_insert_self (headers : Headers) (name : String) (value : Value) :
    (headers.insert name value).2.get? name = some value := by
  simp [get?, insert]

theorem get?_insert_of_fold_ne (headers : Headers) {name other : String}
    (different : fold other ≠ fold name) (value : Value) :
    (headers.insert name value).2.get? other = headers.get? other := by
  simp [get?, insert, Table.get?_set_of_ne _ different]

end Headers

end MessageRouting
