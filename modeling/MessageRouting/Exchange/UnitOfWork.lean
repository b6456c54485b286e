import MessageRouting.Idempotent.Options
import MessageRouting.Message

/-!
# Units of work

A unit of work keeps the inbound message as it arrived and the completions
that are due when the exchange is done. A completion says what happens then;
some completions may move to another exchange before that.
-/

namespace MessageRouting

/-- Something due when a unit of work ends: a line of the journal, an entry into a record, the
confirmation or release of the key of an idempotent consumer, or the end of the claim of a polling
consumer on an item. A note or an entry may be movable to another exchange. -/
inductive Completion where
  | note (label : String) (movable : Bool)
  | record (name : String) (movable : Bool)
  | settleKey (repository : Nat) (key : String) (options : IdempotentOptions)
  | releaseItem (claims : Nat) (key : String)
deriving DecidableEq, Repr

/-- The completion may move to another exchange. -/
def Completion.isMovable : Completion → Bool
  | note _ movable => movable
  | record _ movable => movable
  | settleKey .. => true
  | releaseItem .. => false

/-- The bookkeeping of one exchange from its arrival to its end: the inbound message as it was when
the unit of work began, what is due at the end in the order of registration, and whether a processor
has taken responsibility for ending it. -/
structure UnitOfWork where
  arrival : Message
  completions : List Completion := []
  isActive : Bool := false
deriving Inhabited

namespace UnitOfWork

/-- Registers a completion behind the others. -/
def add (unit : UnitOfWork) (completion : Completion) : UnitOfWork :=
  { unit with completions := unit.completions ++ [completion] }

def activate (unit : UnitOfWork) : UnitOfWork :=
  { unit with isActive := true }

def keepFixed (unit : UnitOfWork) : UnitOfWork :=
  { unit with completions := unit.completions.filter fun completion => !completion.isMovable }

/-- The completions that may move. -/
def movable (unit : UnitOfWork) : List Completion :=
  unit.completions.filter Completion.isMovable

end UnitOfWork

end MessageRouting
