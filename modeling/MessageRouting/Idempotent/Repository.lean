import MessageRouting.Idempotent.Options

/-!
# Key repositories

A repository remembers the keys of processed messages, the oldest first, and
forgets the oldest one when a new key does not fit.
-/

namespace MessageRouting

/-- The keys that were seen, oldest first, up to a positive number. -/
structure KeyRepository where
  capacity : Nat
  keys : List String := []
deriving DecidableEq, Repr, Inhabited

namespace KeyRepository

/-- The capacity where none is given. -/
def standardCapacity : Nat := 1000

/-- An empty repository; a capacity of 0 counts as 1. -/
def new (capacity : Nat) : KeyRepository where
  capacity := max capacity 1

def contains (repository : KeyRepository) (key : String) : Bool :=
  repository.keys.contains key

/-- Remembers a new key, forgetting the oldest one if the repository is full. A key that is
remembered already is answered with `false` and keeps its age. -/
def add (repository : KeyRepository) (key : String) : Bool × KeyRepository :=
  if repository.contains key then (false, repository)
  else
    let kept :=
      if repository.capacity ≤ repository.keys.length then repository.keys.drop 1
      else repository.keys
    (true, { repository with keys := kept ++ [key] })

def remove (repository : KeyRepository) (key : String) : Bool × KeyRepository :=
  if repository.contains key then
    (true, { repository with keys := repository.keys.filter fun other => other != key })
  else (false, repository)

/-- Marks a key as fully processed, which changes nothing here. -/
def confirm (repository : KeyRepository) (_key : String) : Bool × KeyRepository :=
  (true, repository)

/-- Settles a key that was claimed or is to be recorded. After a success the key is recorded, if it
was not claimed before, and confirmed; after a failure it is released if the options say so. -/
def settle (repository : KeyRepository) (options : IdempotentOptions) (succeeded : Bool)
    (key : String) : KeyRepository :=
  if succeeded then
    ((if options.eager then repository else (repository.add key).2).confirm key).2
  else if options.removeOnFailure then (repository.remove key).2
  else repository

def clear (repository : KeyRepository) : KeyRepository :=
  { repository with keys := [] }

def size (repository : KeyRepository) : Nat :=
  repository.keys.length

end KeyRepository

end MessageRouting
