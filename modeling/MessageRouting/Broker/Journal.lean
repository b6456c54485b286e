import MessageRouting.Exchange.Basic

/-!
# Journals

Steps may leave notes about what they do and what they find on an exchange. The
journal keeps these entries in the order in which they were made.
-/

namespace MessageRouting

/-- What an action finds on an exchange. -/
inductive Observation where
  | done
  | absent
  | truth (value : Bool)
  | value (value : Option Value)
  | text (value : Option String)
  | message (message : Option Message)
  | exchange (exchange : Exchange)
deriving Inhabited

namespace Observation

def isAnswer : Observation → Bool
  | done => false
  | _ => true

end Observation

inductive JournalEntry where
  | note (text : String)
  | finding (step : String) (observation : Observation)
deriving Inhabited

end MessageRouting
