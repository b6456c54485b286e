/-!
# Registers

A register hands out a handle for each item that is put into it. Items are
changed through their handle and never taken out, so a handle stays valid.
-/

namespace MessageRouting

/-- Items by handle: the first item has handle 0, the next one handle 1. -/
structure Register (α : Type u) where
  items : List α := []
deriving Inhabited

namespace Register

def next (register : Register α) : Nat :=
  register.items.length

/-- Puts an item in; its handle was `next`. -/
def add (register : Register α) (item : α) : Register α :=
  ⟨register.items ++ [item]⟩

def get? (register : Register α) (handle : Nat) : Option α :=
  register.items[handle]?

/-- The item of a handle, or the standard item where the handle is unknown. -/
def getD [Inhabited α] (register : Register α) (handle : Nat) : α :=
  (register.get? handle).getD default

def modify (register : Register α) (handle : Nat) (change : α → α) : Register α :=
  ⟨register.items.modify handle change⟩

@[simp]
theorem next_add (register : Register α) (item : α) :
    (register.add item).next = register.next + 1 :=
  List.length_append

@[simp]
theorem get?_add_next (register : Register α) (item : α) :
    (register.add item).get? register.next = some item := by
  simp [get?, add, next]

theorem get?_modify (register : Register α) (handle other : Nat) (change : α → α) :
    (register.modify handle change).get? other =
      if handle = other then (register.get? other).map change else register.get? other := by
  simp only [get?, modify, List.getElem?_modify]
  split <;> simp

end Register

end MessageRouting
