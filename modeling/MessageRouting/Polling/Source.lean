import MessageRouting.Duration
import MessageRouting.Message

/-!
# Poll sources

A source offers items, each under a key, until they are committed. A poll takes
nothing away.
-/

namespace MessageRouting

/-- How a consumer polls. 0 sets no limit to the items of one poll. -/
structure PollConfig where
  maximumItems : Nat := 0
  interval : Duration := .ofMillis 500
  initialDelay : Duration := .ofMillis 1000
deriving DecidableEq, Repr, Inhabited

structure PolledItem where
  key : String
  message : Message
deriving Inhabited

/-- How a source behaves. A source in memory removes what is committed; to a sticky one committing
and rolling back do nothing, and with an unsettled one they fail; every poll of a closed one fails.
-/
inductive SourceMode where
  | memory
  | sticky
  | closed
  | unsettled
deriving DecidableEq, Repr, Inhabited

/-- A source of items, oldest first. -/
structure PollSource where
  mode : SourceMode := .memory
  items : List PolledItem := []
deriving Inhabited

namespace PollSource

/-- Puts an item on offer. -/
def push (source : PollSource) (key : String) (message : Message) : PollSource :=
  { source with items := source.items ++ [⟨key, message⟩] }

/-- The number of items on offer. -/
def pending (source : PollSource) : Nat :=
  source.items.length

def commit (source : PollSource) (key : String) : PollSource :=
  { source with items := source.items.filter fun item => item.key != key }

end PollSource

end MessageRouting
