import Mathlib.Logic.Relation
import MessageRouting.Proofs.Polling.Batch

/-!
# Polls side by side

Any number of polls of one consumer go on side by side. Each of them is taken
apart into what it does at once: it claims a batch, begins an item, routes it up
to the next suspension, and ends it. Between these anything may happen that
leaves the claims to the consumer and takes no item off its source.
-/

namespace MessageRouting

/-- A poll that has claimed its batch, how many of the items have ended, and what is left of the
routing of the next one, if that has begun. -/
structure Poll where
  batch : List PolledItem
  ended : Nat := 0
  routing : Option (Routine Broker Exchange) := none

namespace Poll

def held (poll : Poll) : List String :=
  (poll.batch.drop poll.ended).map PolledItem.key

def current? (poll : Poll) : Option String :=
  if poll.routing.isSome then (poll.batch[poll.ended]?).map PolledItem.key else none

def begun (poll : Poll) : Nat :=
  if poll.routing.isSome then poll.ended + 1 else poll.ended

def IsOver (poll : Poll) : Prop :=
  poll.ended = poll.batch.length

end Poll

/-- What happens to an item of a poll: its routing begins, at a place of the batch, and ends. -/
inductive PollEvent where
  | began (poll place : Nat) (key : String) (exchange : Exchange)
  | ended (poll : Nat) (key : String) (failed : Bool)

namespace PollEvent

def key : PollEvent → String
  | began _ _ key _ => key
  | ended _ key _ => key

/-- The key of an item that ended and did not fail. -/
def succeeded? : PollEvent → Option String
  | ended _ key false => some key
  | _ => none

def place? (number : Nat) : PollEvent → Option Nat
  | began poll place _ _ => if poll = number then some place else none
  | ended .. => none

end PollEvent

/-- Polls of one consumer, in the order in which they claimed their batches, with the keys of all
items that were ever on offer and what happened to the items. -/
structure Polling where
  broker : Broker
  polls : List Poll := []
  known : List String
  history : List PollEvent := []

namespace Polling

/-- The keys of the items that were claimed and have not ended. -/
def held (polling : Polling) : List String :=
  polling.polls.flatMap Poll.held

/-- The keys of the items that ended and did not fail. -/
def succeeded (polling : Polling) : List String :=
  polling.history.filterMap PollEvent.succeeded?

variable (consumer : PollingConsumer)

def outset (broker : Broker) : Polling where
  broker := broker
  known := (broker.sources.getD consumer.source).items.map PolledItem.key

/-- What happens at once. -/
inductive Step : Polling → Polling → Prop
  | claims {polling : Polling} {batch : List PolledItem} {after : Broker} :
      consumer.claim.advance polling.broker = (.finished (.ok batch), after) →
      Step polling { polling with broker := after, polls := polling.polls ++ [{ batch := batch }] }
  | begins {polling : Polling} {number : Nat} {batch : List PolledItem} {ended : Nat}
      {item : PolledItem} {exchange : Exchange} {after : Broker} :
      polling.polls[number]? = some ⟨batch, ended, none⟩ →
      batch[ended]? = some item →
      (consumer.exchangeFor ended batch.length item).advance polling.broker =
        (.finished exchange, after) →
      Step polling
        { polling with
          broker := after
          polls := polling.polls.set number
            ⟨batch, ended, some (consumer.processor.invoke exchange.enterUnitOfWork)⟩
          history := polling.history ++
            [.began number ended item.key exchange.enterUnitOfWork] }
  | suspends {polling : Polling} {number : Nat} {batch : List PolledItem} {ended : Nat}
      {routine rest : Routine Broker Exchange} {span : Duration} {after : Broker} :
      polling.polls[number]? = some ⟨batch, ended, some routine⟩ →
      routine.advance polling.broker = (.waiting span rest, after) →
      Step polling
        { polling with
          broker := after
          polls := polling.polls.set number ⟨batch, ended, some rest⟩
          known := polling.known ++ routine.changes consumer.added polling.broker }
  | ends {polling : Polling} {number : Nat} {batch : List PolledItem} {ended : Nat}
      {routine : Routine Broker Exchange} {item : PolledItem} {exchange : Exchange}
      {middle after : Broker} {failed : Bool} :
      polling.polls[number]? = some ⟨batch, ended, some routine⟩ →
      batch[ended]? = some item →
      routine.advance polling.broker = (.finished exchange, middle) →
      (consumer.close item.key exchange).advance middle = (.finished failed, after) →
      Step polling
        { broker := after
          polls := polling.polls.set number ⟨batch, ended + 1, none⟩
          known := polling.known ++ routine.changes consumer.added polling.broker
          history := polling.history ++ [.ended number item.key failed] }
  | meanwhile {polling : Polling} {after : Broker} :
      consumer.Leaves polling.broker after →
      Step polling
        { polling with
          broker := after
          known := polling.known ++ consumer.added polling.broker after }

/-- What happens from one moment to another. -/
def Runs : Polling → Polling → Prop :=
  Relation.ReflTransGen (Step consumer)

variable {consumer} {polling next : Polling}

theorem Step.known_prefix (step : Step consumer polling next) :
    polling.known <+: next.known := by
  cases step with
  | claims => exact List.prefix_refl _
  | begins => exact List.prefix_refl _
  | suspends => exact List.prefix_append _ _
  | ends => exact List.prefix_append _ _
  | meanwhile => exact List.prefix_append _ _

/-- What was on offer once stays known. -/
theorem Runs.known_prefix (runs : Runs consumer polling next) : polling.known <+: next.known := by
  induction runs with
  | refl => exact List.prefix_refl _
  | tail _ step inductionHypothesis => exact inductionHypothesis.trans step.known_prefix

end Polling

/-! ## The claims and the items on offer -/

/-- The claims are on the keys that polls hold, and the items on offer are those known so far that
did not succeed. -/
structure Books (consumer : PollingConsumer) (broker : Broker) (claims : List String)
    (source : PollSource) (known succeeded held : List String) : Prop where
  shows : consumer.Shows broker claims source
  memory : source.mode = .memory
  claimed : claims.Perm held
  distinct : held.Nodup
  offered : source.items.map PolledItem.key = known.filter fun key => !succeeded.contains key
  unsettled : ∀ key ∈ held, key ∈ known ∧ key ∉ succeeded

namespace Books

variable {consumer : PollingConsumer} {broker after : Broker} {claims : List String}
  {source : PollSource} {known succeeded held : List String}

theorem mem_offered (books : Books consumer broker claims source known succeeded held)
    {key : String} :
    key ∈ source.items.map PolledItem.key ↔ key ∈ known ∧ key ∉ succeeded := by
  rw [books.offered]
  simp

theorem offered_iff (books : Books consumer broker claims source known succeeded held)
    {key : String} (offered : key ∈ known) :
    key ∈ source.items.map PolledItem.key ↔ key ∉ succeeded :=
  books.mem_offered.trans (and_iff_right offered)

theorem mem_claims (books : Books consumer broker claims source known succeeded held)
    {key : String} : key ∈ claims ↔ key ∈ held :=
  books.claimed.mem_iff

theorem keep (books : Books consumer broker claims source known succeeded held)
    (shows : consumer.Shows after claims source) :
    Books consumer after claims source known succeeded held :=
  ⟨shows, books.memory, books.claimed, books.distinct, books.offered, books.unsettled⟩

/-- Items with fresh keys are put on offer behind the others. -/
theorem push {pushed : List PolledItem}
    (books : Books consumer broker claims source known succeeded held)
    (shows : consumer.Shows after claims { source with items := source.items ++ pushed })
    (settled : ∀ key ∈ succeeded, key ∈ known)
    (fresh : (known ++ pushed.map PolledItem.key).Nodup) :
    Books consumer after claims { source with items := source.items ++ pushed }
      (known ++ pushed.map PolledItem.key) succeeded held where
  shows := shows
  memory := books.memory
  claimed := books.claimed
  distinct := books.distinct
  offered := by
    have apart : ∀ key ∈ pushed.map PolledItem.key, (!succeeded.contains key) = true := by
      intro key member
      have unsettled : key ∉ succeeded := by
        intro ended
        exact (List.nodup_append.mp fresh).2.2 key (settled key ended) key member rfl
      simpa using unsettled
    rw [List.map_append, List.filter_append, List.filter_eq_self.mpr apart, books.offered]
  unsettled := by
    intro key member
    obtain ⟨offered, open'⟩ := books.unsettled key member
    exact ⟨List.mem_append_left _ offered, open'⟩

/-- A new batch has none of the keys that are held already. -/
theorem claim {limit : Nat} (books : Books consumer broker claims source known succeeded held)
    (shows : consumer.Shows after
      (PollingConsumer.claimBatch limit 0 claims source.items).2 source) :
    Books consumer after (PollingConsumer.claimBatch limit 0 claims source.items).2 source known
      succeeded
      (held ++ (PollingConsumer.claimBatch limit 0 claims source.items).1.map PolledItem.key) := by
  have claimed : (PollingConsumer.claimBatch limit 0 claims source.items).2.Perm
      (held ++ (PollingConsumer.claimBatch limit 0 claims source.items).1.map PolledItem.key) := by
    rw [PollingConsumer.claimBatch_claims]
    exact books.claimed.append_right _
  have distinct : claims.Nodup := books.claimed.nodup_iff.mpr books.distinct
  refine ⟨shows, books.memory, claimed, ?_, books.offered, ?_⟩
  · exact claimed.nodup_iff.mp (PollingConsumer.claimBatch_nodup distinct)
  · intro key member
    rcases List.mem_append.mp member with before | taken
    · exact books.unsettled key before
    · have offered := (PollingConsumer.claimBatch_sublist.map PolledItem.key).subset taken
      exact books.mem_offered.mp offered

/-- An item that ends is released, and taken off the source unless it failed. -/
theorem close (number : Nat) {key : String} {rest : List String} {failed : Bool}
    (books : Books consumer broker claims source known succeeded held)
    (holds : held.Perm (key :: rest))
    (shows : consumer.Shows after (PollingConsumer.withoutKeys [key] claims)
      (source.settle (!failed) key)) :
    Books consumer after (PollingConsumer.withoutKeys [key] claims) (source.settle (!failed) key)
      known (succeeded ++ [PollEvent.ended number key failed].filterMap PollEvent.succeeded?)
      rest := by
  have distinct : (key :: rest).Nodup := holds.nodup_iff.mp books.distinct
  obtain ⟨apart, distinctRest⟩ := List.nodup_cons.mp distinct
  have released : (PollingConsumer.withoutKeys [key] claims).Perm rest :=
    PollingConsumer.withoutKeys_perm (books.claimed.trans holds) apart
  have held : ∀ other ∈ rest, other ∈ known ∧ other ∉ succeeded := fun other member =>
    books.unsettled other (holds.symm.subset (List.mem_cons_of_mem _ member))
  cases failed with
  | true =>
      have same : source.settle (!true) key = source := by simp [PollSource.settle]
      rw [same] at shows ⊢
      refine ⟨shows, books.memory, released, distinctRest, ?_, ?_⟩
      · simpa [PollEvent.succeeded?] using books.offered
      · simpa [PollEvent.succeeded?] using held
  | false =>
      have committed : source.settle (!false) key = source.commit key := by
        simp [PollSource.settle, books.memory]
      rw [committed] at shows ⊢
      refine ⟨shows, books.memory, released, distinctRest, ?_, ?_⟩
      · have offered : (source.commit key).items.map PolledItem.key =
            (source.items.map PolledItem.key).filter fun other => other != key := by
          rw [List.filter_map]
          rfl
        rw [offered, books.offered, List.filter_filter]
        apply List.filter_congr
        intro other _
        rw [Bool.eq_iff_iff]
        simp [PollEvent.succeeded?, and_comm]
      · intro other member
        obtain ⟨offered, unsettled⟩ := held other member
        have different : other ≠ key := ne_of_mem_of_not_mem member apart
        exact ⟨offered, by simp [PollEvent.succeeded?, unsettled, different]⟩

/-- An item that ended is on offer exactly if it failed. -/
theorem settled {number : Nat} {key : String} {failed : Bool}
    (books : Books consumer broker claims source known
      (succeeded ++ [PollEvent.ended number key failed].filterMap PollEvent.succeeded?) held)
    (offered : key ∈ known) (unsettled : key ∉ succeeded) :
    key ∈ source.items.map PolledItem.key ↔ failed = true := by
  rw [books.offered_iff offered]
  cases failed <;> simp [PollEvent.succeeded?, unsettled]

end Books

/-! ## One poll -/

def Exchange.Keeps (claims : Nat) (before after : Exchange) : Prop :=
  before.isInUnitOfWork = true →
    after.isInUnitOfWork = true ∧ after.releases claims = before.releases claims

/-- The processor keeps the unit of work of an exchange, and leaves the claims and the items on
offer to the consumer. -/
structure PollingConsumer.Routes (consumer : PollingConsumer) : Prop where
  keeps : consumer.processor.Passes (Exchange.Keeps consumer.claims)
  leaves : ∀ exchange broker,
    (consumer.processor.invoke exchange).Respects consumer.Leaves broker

theorem passage_keeps (claims : Nat) : Passage (Exchange.Keeps claims) where
  still same inside :=
    ⟨(Exchange.isInUnitOfWork_congr same).trans inside, Exchange.releases_congr same claims⟩
  andThen first second inside :=
    ⟨(second (first inside).1).1, (second (first inside).1).2.trans (first inside).2⟩

/-- What is put together from steps that keep the unit of work keeps it. -/
theorem keeps_of_composed {claims : Nat} {processor : Processor}
    (composed : processor.Composed (Processor.Passes (Exchange.Keeps claims))) :
    processor.Passes (Exchange.Keeps claims) := by
  apply composed.passes (passage_keeps claims)
  · intro repository key options exchange _ inside
    refine ⟨(exchange.isInUnitOfWork_addCompletion _).trans inside, ?_⟩
    rw [Exchange.releases_addCompletion]
    exact List.append_nil _
  · intro before after outside inside
    rw [outside] at inside
    contradiction

theorem respects_runSteps {kept : Broker → Broker → Prop} {steps : List Processor}
    (respect : ∀ step ∈ steps, ∀ exchange broker, (step.invoke exchange).Respects kept broker)
    (promoting : Bool) (exchange : Exchange) (broker : Broker) :
    (Processor.runSteps promoting steps exchange).Respects kept broker := by
  induction steps generalizing promoting exchange broker with
  | nil => trivial
  | cons step rest inductionHypothesis =>
      obtain ⟨own, others⟩ := List.forall_mem_cons.mp respect
      unfold Processor.runSteps
      split
      · trivial
      · refine (own _ broker).bind fun after found => ?_
        split
        · exact inductionHypothesis others true after found
        · trivial

/-- A consumer of a pipeline relies on each of its steps. -/
theorem routes_pipeline {consumer : PollingConsumer} {name : String} {steps : List Processor}
    (built : consumer.processor = .pipeline name steps)
    (keep : ∀ step ∈ steps, step.Composed (Processor.Passes (Exchange.Keeps consumer.claims)))
    (leave : ∀ step ∈ steps, ∀ exchange broker,
      (step.invoke exchange).Respects consumer.Leaves broker) : consumer.Routes where
  keeps := by
    rw [built]
    exact keeps_of_composed (.pipeline keep)
  leaves exchange broker := by
    rw [built, Processor.pipeline, Processor.invoke_silent]
    exact respects_runSteps leave false exchange broker

namespace Poll

/-- The batch is within the limit and has each key once, and the routing of an item ends with an
exchange that releases the item. -/
structure Sound (consumer : PollingConsumer) (poll : Poll) : Prop where
  within : poll.ended ≤ poll.batch.length
  bounded : 0 < consumer.config.maximumItems → poll.batch.length ≤ consumer.config.maximumItems
  distinct : (poll.batch.map PolledItem.key).Nodup
  routing : ∀ routine ∈ poll.routing, ∃ item, poll.batch[poll.ended]? = some item ∧
    (∀ broker, routine.Respects consumer.Leaves broker) ∧
    ∀ exchange, routine.Gives exchange → exchange.releases consumer.claims = [item.key]

variable {consumer : PollingConsumer} {batch : List PolledItem} {ended : Nat} {item : PolledItem}

theorem held_of_found (routing : Option (Routine Broker Exchange))
    (found : batch[ended]? = some item) :
    held ⟨batch, ended, routing⟩ = item.key :: held ⟨batch, ended + 1, none⟩ := by
  obtain ⟨bound, rfl⟩ := List.getElem?_eq_some_iff.mp found
  unfold held
  rw [List.drop_eq_getElem_cons bound]
  rfl

theorem Sound.begin {exchange : Exchange} (sound : Sound consumer ⟨batch, ended, none⟩)
    (routes : consumer.Routes) (found : batch[ended]? = some item)
    (releases : exchange.releases consumer.claims = [item.key]) :
    Sound consumer
      ⟨batch, ended, some (consumer.processor.invoke exchange.enterUnitOfWork)⟩ := by
  refine ⟨sound.within, sound.bounded, sound.distinct, ?_⟩
  intro routine member
  obtain rfl := Option.mem_some.mp member
  refine ⟨item, found, routes.leaves exchange.enterUnitOfWork, ?_⟩
  intro after given
  have kept := routes.keeps _ _ given (Exchange.isInUnitOfWork_enterUnitOfWork exchange)
  rw [kept.2, Exchange.releases_enterUnitOfWork, releases]

theorem Sound.suspend {routine rest : Routine Broker Exchange} {broker after : Broker}
    {span : Duration} (sound : Sound consumer ⟨batch, ended, some routine⟩)
    (waiting : routine.advance broker = (.waiting span rest, after)) :
    Sound consumer ⟨batch, ended, some rest⟩ := by
  refine ⟨sound.within, sound.bounded, sound.distinct, ?_⟩
  obtain ⟨item, found, leaves, releases⟩ := sound.routing routine rfl
  intro other member
  obtain rfl := Option.mem_some.mp member
  refine ⟨item, found, (leaves broker).rest waiting, ?_⟩
  intro exchange given
  exact releases exchange (Routine.gives_of_waiting waiting given)

theorem Sound.finish {routine : Routine Broker Exchange}
    (sound : Sound consumer ⟨batch, ended, some routine⟩) :
    Sound consumer ⟨batch, ended + 1, none⟩ := by
  obtain ⟨item, found, _, _⟩ := sound.routing routine rfl
  obtain ⟨bound, _⟩ := List.getElem?_eq_some_iff.mp found
  exact ⟨bound, sound.bounded, sound.distinct, by simp⟩

end Poll

/-! ## The record -/

def begunBy (polls : List Poll) (number : Nat) : Nat :=
  polls[number]?.elim 0 Poll.begun

def Follows (polls next : List Poll) : Prop :=
  ∀ (number : Nat) (poll : Poll), polls[number]? = some poll →
    ∃ later : Poll, next[number]? = some later ∧ later.batch = poll.batch ∧ poll.ended ≤ later.ended

/-- An event is about an item of a poll: one whose exchange says which item of how many it is, or
one that has ended. -/
def PollEvent.Matches (polls : List Poll) : PollEvent → Prop
  | began number place key exchange => ∃ poll item, polls[number]? = some poll ∧
      poll.batch[place]? = some item ∧ item.key = key ∧
      exchange.Stamped place poll.batch.length
  | ended number key _ => ∃ poll place item, polls[number]? = some poll ∧
      place < poll.ended ∧ poll.batch[place]? = some item ∧ item.key = key

/-- The record says which items the polls began, each poll in the order of its batch, and nothing
more of an item that ended and did not fail. -/
structure Record (polls : List Poll) (known : List String) (history : List PollEvent) :
    Prop where
  matched : ∀ event ∈ history, event.Matches polls
  order : ∀ number, history.filterMap (PollEvent.place? number) = List.range (begunBy polls number)
  once : history.Pairwise fun earlier later => earlier.succeeded? ≠ some later.key
  offered : ∀ event ∈ history, event.key ∈ known

section

variable {polls next : List Poll} {known : List String} {history : List PollEvent}

theorem follows_refl : Follows polls polls :=
  fun _ poll found => ⟨poll, found, rfl, Nat.le_refl _⟩

theorem follows_append (more : List Poll) : Follows polls (polls ++ more) := by
  intro number poll found
  obtain ⟨bound, _⟩ := List.getElem?_eq_some_iff.mp found
  refine ⟨poll, ?_, rfl, Nat.le_refl _⟩
  rw [List.getElem?_append_left bound]
  exact found

theorem follows_set {number : Nat} {poll later : Poll} (found : polls[number]? = some poll)
    (same : later.batch = poll.batch) (on : poll.ended ≤ later.ended) :
    Follows polls (polls.set number later) := by
  obtain ⟨bound, _⟩ := List.getElem?_eq_some_iff.mp found
  intro other held foundOther
  by_cases this : number = other
  · subst this
    obtain rfl := Option.some.inj (found.symm.trans foundOther)
    exact ⟨later, List.getElem?_set_self bound, same, on⟩
  · exact ⟨held, by rwa [List.getElem?_set_ne this], rfl, Nat.le_refl _⟩

theorem begunBy_append (batch : List PolledItem) (number : Nat) :
    begunBy (polls ++ [{ batch := batch }]) number = begunBy polls number := by
  unfold begunBy
  rcases Nat.lt_trichotomy number polls.length with earlier | rfl | later
  · rw [List.getElem?_append_left earlier]
  · simp [Poll.begun]
  · rw [List.getElem?_eq_none (by rw [List.length_append]; exact later),
      List.getElem?_eq_none (Nat.le_of_lt later)]

theorem begunBy_set {number : Nat} {poll : Poll} (later : Poll)
    (found : polls[number]? = some poll) (other : Nat) :
    begunBy (polls.set number later) other =
      if number = other then later.begun else begunBy polls other := by
  obtain ⟨bound, _⟩ := List.getElem?_eq_some_iff.mp found
  unfold begunBy
  by_cases this : number = other
  · subst this
    rw [List.getElem?_set_self bound, if_pos rfl]
    rfl
  · rw [List.getElem?_set_ne this, if_neg this]

theorem begunBy_of_found {number : Nat} {poll : Poll} (found : polls[number]? = some poll) :
    begunBy polls number = poll.begun := by
  unfold begunBy
  rw [found]
  rfl

theorem begunBy_set_same {number : Nat} {poll : Poll} (later : Poll)
    (found : polls[number]? = some poll) (same : later.begun = poll.begun) (other : Nat) :
    begunBy (polls.set number later) other = begunBy polls other := by
  rw [begunBy_set later found]
  by_cases this : number = other
  · rw [if_pos this, ← this, begunBy_of_found found, same]
  · rw [if_neg this]

theorem PollEvent.Matches.follow {event : PollEvent} (matched : event.Matches polls)
    (follows : Follows polls next) : event.Matches next := by
  cases event with
  | began number place key exchange =>
      obtain ⟨poll, item, found, foundItem, same, stamped⟩ := matched
      obtain ⟨later, foundLater, sameBatch, _⟩ := follows number poll found
      rw [← sameBatch] at foundItem stamped
      exact ⟨later, item, foundLater, foundItem, same, stamped⟩
  | ended number key failed =>
      obtain ⟨poll, place, item, found, before, foundItem, same⟩ := matched
      obtain ⟨later, foundLater, sameBatch, on⟩ := follows number poll found
      rw [← sameBatch] at foundItem
      exact ⟨later, place, item, foundLater, Nat.lt_of_lt_of_le before on, foundItem, same⟩

theorem Record.follow {later : List String} (record : Record polls known history)
    (follows : Follows polls next) (same : ∀ number, begunBy next number = begunBy polls number)
    (grown : known ⊆ later) : Record next later history where
  matched event member := (record.matched event member).follow follows
  order number := by rw [record.order, same]
  once := record.once
  offered event member := grown (record.offered event member)

theorem Record.add {event : PollEvent} (record : Record polls known history)
    (follows : Follows polls next) (matched : event.Matches next)
    (order : ∀ number, List.range (begunBy polls number) ++
      [event].filterMap (PollEvent.place? number) = List.range (begunBy next number))
    (unsettled : event.key ∉ history.filterMap PollEvent.succeeded?)
    (offered : event.key ∈ known) : Record next known (history ++ [event]) where
  matched := by
    intro other member
    rcases List.mem_append.mp member with before | last
    · exact (record.matched other before).follow follows
    · rw [List.mem_singleton.mp last]
      exact matched
  order number := by rw [List.filterMap_append, record.order, order]
  once := by
    refine List.pairwise_append.mpr ⟨record.once, List.pairwise_singleton _ _, ?_⟩
    intro earlier member later last same
    rw [List.mem_singleton.mp last] at same
    exact unsettled (List.mem_filterMap.mpr ⟨earlier, member, same⟩)
  offered := by
    intro other member
    rcases List.mem_append.mp member with before | last
    · exact record.offered other before
    · rw [List.mem_singleton.mp last]
      exact offered

section

variable {number ended : Nat} {batch : List PolledItem} {item : PolledItem}

theorem Record.begin {routine : Routine Broker Exchange} {exchange : Exchange}
    (record : Record polls known history) (found : polls[number]? = some ⟨batch, ended, none⟩)
    (foundItem : batch[ended]? = some item) (stamped : exchange.Stamped ended batch.length)
    (unsettled : item.key ∉ history.filterMap PollEvent.succeeded?)
    (offered : item.key ∈ known) :
    Record (polls.set number ⟨batch, ended, some routine⟩) known
      (history ++ [.began number ended item.key exchange]) := by
  obtain ⟨bound, _⟩ := List.getElem?_eq_some_iff.mp found
  refine record.add (follows_set found rfl (Nat.le_refl _)) ?_ ?_ unsettled offered
  · exact ⟨_, item, List.getElem?_set_self bound, foundItem, rfl, stamped⟩
  · intro other
    rw [begunBy_set _ found]
    by_cases this : number = other
    · subst this
      rw [begunBy_of_found found]
      simp [Poll.begun, PollEvent.place?, List.range_succ]
    · simp [this, PollEvent.place?]

theorem Record.finish {routine : Routine Broker Exchange} (failed : Bool)
    (record : Record polls known history)
    (found : polls[number]? = some ⟨batch, ended, some routine⟩)
    (foundItem : batch[ended]? = some item)
    (unsettled : item.key ∉ history.filterMap PollEvent.succeeded?)
    (offered : item.key ∈ known) :
    Record (polls.set number ⟨batch, ended + 1, none⟩) known
      (history ++ [.ended number item.key failed]) := by
  obtain ⟨bound, _⟩ := List.getElem?_eq_some_iff.mp found
  refine record.add (follows_set found rfl (Nat.le_succ _)) ?_ ?_ unsettled offered
  · exact ⟨_, ended, item, List.getElem?_set_self bound, Nat.lt_succ_self _, foundItem, rfl⟩
  · intro other
    have same : begunBy (polls.set number ⟨batch, ended + 1, none⟩) other = begunBy polls other :=
      begunBy_set_same ⟨batch, ended + 1, none⟩ found rfl other
    rw [same]
    exact List.append_nil _

end

end

end MessageRouting
