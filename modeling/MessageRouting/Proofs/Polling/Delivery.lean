import MessageRouting.Proofs.Engine.Ensemble
import MessageRouting.Proofs.Polling.Schedule

/-!
# What becomes of the items on offer

Items are put on offer at any time, also while an item of the same key is routed,
and a source in memory takes them away by their key. So an item is on offer until
an item of its key, itself or another, was routed since and did not fail. Polls
run side by side, and the processor behind the consumer is arbitrary, except that
it takes no items away by itself.
-/

namespace MessageRouting

/-- What happens to the items of a source. -/
inductive ItemEvent where
  | offered (item : PolledItem)
  | routed (item : PolledItem) (exchange after : Exchange)

namespace ItemEvent

def takes (key : String) : ItemEvent → Bool
  | offered _ => false
  | routed item _ after => item.key == key && !after.isFailed

/-- The items that are still on offer: those whose key was not taken away after they were
offered. -/
def standing : List ItemEvent → List PolledItem
  | [] => []
  | offered item :: later =>
      if later.any (takes item.key) then standing later else item :: standing later
  | routed .. :: later => standing later

/-- What is on offer after some events, given what was on offer before. -/
def stillOffered (events : List ItemEvent) (items : List PolledItem) : List PolledItem :=
  items.filter (fun item => !events.any (takes item.key)) ++ standing events

theorem standing_append (first second : List ItemEvent) :
    standing (first ++ second) = stillOffered second (standing first) := by
  unfold stillOffered
  induction first with
  | nil => rfl
  | cons event later inductionHypothesis =>
      cases event with
      | routed item exchange after => exact inductionHypothesis
      | offered item =>
          rw [List.cons_append, standing, standing, List.any_append]
          by_cases early : later.any (takes item.key) = true
          · simpa [early] using inductionHypothesis
          · by_cases late : second.any (takes item.key) = true
            · simpa [early, late] using inductionHypothesis
            · simpa [early, late] using inductionHypothesis

theorem stillOffered_append (first second : List ItemEvent) (items : List PolledItem) :
    stillOffered (first ++ second) items = stillOffered second (stillOffered first items) := by
  have apart : (items.filter fun item => !(first ++ second).any (takes item.key)) =
      (items.filter fun item => !first.any (takes item.key)).filter fun item =>
        !second.any (takes item.key) := by
    rw [List.filter_filter]
    apply List.filter_congr
    intro item _
    rw [List.any_append, Bool.not_or, Bool.and_comm]
  have whole := standing_append first second
  unfold stillOffered at whole ⊢
  rw [apart, whole, List.filter_append, List.append_assoc]

@[simp]
theorem stillOffered_nil (items : List PolledItem) : stillOffered [] items = items := by
  simp [stillOffered, standing]

theorem stillOffered_offered (pushed items : List PolledItem) :
    stillOffered (pushed.map offered) items = items ++ pushed := by
  have untaken : ∀ key, (pushed.map offered).any (takes key) = false := by
    intro key
    simp [takes]
  have stands : standing (pushed.map offered) = pushed := by
    clear untaken
    induction pushed with
    | nil => rfl
    | cons item rest inductionHypothesis =>
        have untaken : (rest.map offered).any (takes item.key) = false := by simp [takes]
        rw [List.map_cons, standing, untaken, inductionHypothesis]
        rfl
  simp [stillOffered, untaken, stands]

/-- The end of an item leaves the source with what remains. -/
theorem settle_eq_stillOffered (items : List PolledItem) (item : PolledItem)
    (exchange after : Exchange) :
    PollSource.settle { items := items } (!after.isFailed) item.key =
      { items := stillOffered [routed item exchange after] items } := by
  cases failed : after.isFailed with
  | true => simp [PollSource.settle, stillOffered, standing, takes, failed]
  | false =>
      simp only [PollSource.settle, PollSource.commit, stillOffered, standing, takes, failed,
        List.any_cons, List.any_nil, Bool.or_false, Bool.not_false, Bool.and_true,
        List.append_nil]
      congr 2
      funext other
      rw [bne, Bool.beq_comm]

theorem mem_of_mem_standing {events : List ItemEvent} {item : PolledItem}
    (stands : item ∈ standing events) : offered item ∈ events := by
  induction events with
  | nil => contradiction
  | cons event later inductionHypothesis =>
      cases event with
      | routed other exchange after =>
          exact List.mem_cons_of_mem _ (inductionHypothesis stands)
      | offered other =>
          rw [standing] at stands
          by_cases taken : later.any (takes other.key) = true
          · rw [if_pos taken] at stands
            exact List.mem_cons_of_mem _ (inductionHypothesis stands)
          · rw [if_neg taken] at stands
            rcases List.mem_cons.mp stands with rfl | further
            · exact List.mem_cons_self
            · exact List.mem_cons_of_mem _ (inductionHypothesis further)

end ItemEvent

namespace PollingConsumer

open ItemEvent

variable (consumer : PollingConsumer)

/-! ## A poll, told -/

def observeBatch (total : Nat) : Nat → List PolledItem → Marked ItemEvent Broker Unit
  | _, [] => pure ⟨⟩
  | index, item :: rest => do
      let exchange ← Marked.lift (consumer.exchangeFor index total item)
      let after ← Marked.lift (consumer.processor.inUnitOfWork.invoke exchange)
      Marked.lift (consumer.settle (!after.isFailed) item.key)
      Marked.note (.routed item exchange after)
      observeBatch total (index + 1) rest

def observePoll : Marked ItemEvent Broker (Except Failure Nat) := do
  match ← Marked.lift consumer.claim with
  | .error failure => return .error failure
  | .ok batch => do
      consumer.observeBatch batch.length 0 batch
      return .ok batch.length

theorem unmarked_observeBatch (total index : Nat) (batch : List PolledItem) :
    (consumer.observeBatch total index batch).unmarked = consumer.routeBatch total index batch := by
  induction batch generalizing index with
  | nil => rfl
  | cons item rest inductionHypothesis =>
      simp [observeBatch, routeBatch, inductionHypothesis]

@[simp]
theorem unmarked_observePoll : consumer.observePoll.unmarked = consumer.pollOnce := by
  unfold observePoll pollOnce
  rw [Marked.unmarked_bind, Marked.unmarked_lift]
  congr 1
  funext claimed
  cases claimed with
  | error failure => rfl
  | ok batch => simp [unmarked_observeBatch]

/-! ## What may happen beside the polls -/

def Offers (before after : Broker) : Prop :=
  ∀ source, before.sources.get? consumer.source = some source →
    ∃ pushed, after.sources.get? consumer.source =
      some { source with items := source.items ++ pushed }

def newOffers (before after : Broker) : List ItemEvent :=
  ((after.sources.getD consumer.source).items.drop
    (before.sources.getD consumer.source).items.length).map ItemEvent.offered

def Accounts (events : List ItemEvent) (before after : Broker) : Prop :=
  ∀ items, before.sources.get? consumer.source = some { items := items } →
    after.sources.get? consumer.source = some { items := stillOffered events items }

variable {consumer} {broker before after : Broker}

theorem newOffers_of_found {first second : PollSource}
    (foundFirst : before.sources.get? consumer.source = some first)
    (foundSecond : after.sources.get? consumer.source = some second) :
    consumer.newOffers before after =
      (second.items.drop first.items.length).map ItemEvent.offered := by
  rw [newOffers, Register.getD, Register.getD, foundFirst, foundSecond]
  rfl

theorem newOffers_of_sources (same : after.sources = before.sources) :
    consumer.newOffers before after = [] := by
  rw [newOffers, same, List.drop_length]
  rfl

theorem offers_of_sources (same : after.sources = before.sources) :
    consumer.Offers before after := by
  intro source found
  refine ⟨[], ?_⟩
  rw [same, found, List.append_nil]

/-- Another item may be put on offer at any time. -/
theorem offers_push (broker : Broker) (key : String) (message : Message) :
    consumer.Offers broker (consumer.push key message broker) :=
  (leaves_push broker key message).source

theorem additive_accounts : Marked.Additive consumer.Accounts where
  nothing broker items found := by
    rw [found, stillOffered_nil]
  andThen first second items found := by
    rw [second _ (first items found), stillOffered_append]

theorem Offers.accounts (offers : consumer.Offers before after) :
    consumer.Accounts (consumer.newOffers before after) before after := by
  intro items found
  obtain ⟨pushed, foundAfter⟩ := offers _ found
  rw [newOffers_of_found found foundAfter, List.drop_left, stillOffered_offered]
  exact foundAfter

/-! ## The steps of a poll -/

theorem respects_claim : consumer.claim.Respects consumer.Offers broker := by
  refine ⟨offers_of_sources ?_, trivial⟩
  dsimp only
  split <;> rfl

theorem respects_exchangeFor {index total : Nat} {item : PolledItem} :
    (consumer.exchangeFor index total item).Respects consumer.Offers broker :=
  ⟨offers_of_sources rfl, offers_of_sources rfl, offers_of_sources rfl, trivial⟩

theorem respects_carryOut (completion : Completion) (exchange : Exchange) (broker : Broker) :
    (completion.carryOut exchange).Respects consumer.Offers broker := by
  cases completion with
  | note =>
      rw [Completion.carryOut_note]
      exact ⟨offers_of_sources rfl, trivial⟩
  | record =>
      rw [Completion.carryOut_record]
      exact ⟨offers_of_sources rfl, trivial⟩
  | settleKey =>
      rw [Completion.carryOut_settleKey]
      exact ⟨offers_of_sources rfl, trivial⟩
  | releaseItem =>
      rw [Completion.carryOut_releaseItem]
      exact ⟨offers_of_sources rfl, trivial⟩

theorem respects_endUnitOfWork (exchange : Exchange) (broker : Broker) :
    exchange.endUnitOfWork.Respects consumer.Offers broker := by
  unfold Exchange.endUnitOfWork
  cases exchange.unitOfWork with
  | none => trivial
  | some unit =>
      refine Routine.Respects.bind ?_ fun _ _ => trivial
      induction unit.completions generalizing broker with
      | nil => trivial
      | cons completion rest inductionHypothesis =>
          exact (respects_carryOut completion _ broker).bind fun _ => inductionHypothesis

/-- The processor takes no items away from the source. -/
def RoutesOnly (consumer : PollingConsumer) : Prop :=
  ∀ exchange broker, (consumer.processor.invoke exchange).Respects consumer.Offers broker

theorem RoutesOnly.inUnitOfWork (routes : consumer.RoutesOnly) (exchange : Exchange)
    (broker : Broker) :
    (consumer.processor.inUnitOfWork.invoke exchange).Respects consumer.Offers broker := by
  unfold Processor.inUnitOfWork
  rw [Processor.invoke_silent]
  by_cases inside : exchange.isInUnitOfWork = true
  · rw [if_pos inside]
    exact routes exchange broker
  · rw [if_neg inside]
    exact (routes _ broker).bind respects_endUnitOfWork

def settled (consumer : PollingConsumer) (succeeded : Bool) (key : String) (broker : Broker) :
    Broker :=
  { broker with sources := broker.sources.modify consumer.source fun source =>
      source.settle succeeded key }

theorem settled_of_found (succeeded : Bool) (key : String) {items : List PolledItem}
    (found : broker.sources.get? consumer.source = some { items := items }) :
    consumer.newOffers broker (consumer.settled succeeded key broker) = [] ∧
      (consumer.settled succeeded key broker).sources.get? consumer.source =
        some (PollSource.settle { items := items } succeeded key) := by
  have foundAfter : (consumer.settled succeeded key broker).sources.get? consumer.source =
      some (PollSource.settle { items := items } succeeded key) := by
    rw [settled, Register.get?_modify, if_pos rfl, found]
    rfl
  have shorter := length_settle_le { items := items } succeeded key
  refine ⟨?_, foundAfter⟩
  rw [newOffers_of_found found foundAfter, List.drop_of_length_le shorter]
  rfl

theorem settle_eq (succeeded : Bool) (key : String) :
    consumer.settle succeeded key =
      (Routine.look fun broker =>
        (broker.sources.getD consumer.source).settlementNote succeeded key).bind fun noted =>
          (noted.elim (pure ()) Broker.note).bind fun _ =>
            Routine.modify (consumer.settled succeeded key) := by
  unfold settle
  change Routine.get _ = Routine.get _
  congr 1
  funext broker
  cases noted : (broker.sources.getD consumer.source).settlementNote succeeded key with
  | some text =>
      simp only [Routine.bind, noted]
      rfl
  | none =>
      simp only [Routine.bind, noted]
      rfl

theorem ends_announce (consumer : PollingConsumer) (noted : Option String) (broker : Broker) :
    ∃ after, (noted.elim (pure ()) Broker.note : Routine Broker Unit).EndsQuietly
        consumer.newOffers broker () after ∧ after.sources = broker.sources := by
  cases noted with
  | none => exact ⟨broker, .done, rfl⟩
  | some text => exact ⟨_, .modify (newOffers_of_sources rfl), rfl⟩

/-- A source is settled at once, and nothing is put on offer by that. -/
theorem ends_settle_source (consumer : PollingConsumer) (succeeded : Bool) (key : String)
    (broker : Broker) :
    ∃ after, (consumer.settle succeeded key).advance broker = (.finished (), after) ∧
      ∀ items, broker.sources.get? consumer.source = some { items := items } →
        (consumer.settle succeeded key).changes consumer.newOffers broker = [] ∧
          after.sources.get? consumer.source =
            some (PollSource.settle { items := items } succeeded key) := by
  rw [settle_eq]
  obtain ⟨middle, announced, sameSources⟩ := ends_announce consumer
    ((broker.sources.getD consumer.source).settlementNote succeeded key) broker
  have looked : (Routine.look fun broker : Broker =>
      (broker.sources.getD consumer.source).settlementNote succeeded key).EndsQuietly
        consumer.newOffers broker _ broker := .look
  refine ⟨consumer.settled succeeded key middle, ?_, ?_⟩
  · rw [looked.advance_bind, announced.advance_bind]
    rfl
  · intro items found
    rw [← sameSources] at found
    obtain ⟨quiet, foundAfter⟩ := settled_of_found succeeded key found
    rw [looked.changes_bind, announced.changes_bind]
    refine ⟨?_, foundAfter⟩
    exact (Routine.EndsQuietly.modify quiet).changes

/-- The end of an item and what is told of it account for what becomes of the source. -/
theorem obeysFrom_settle {item : PolledItem} {exchange ended : Exchange} {made : List ItemEvent}
    {outset broker : Broker} {next : Marked ItemEvent Broker Unit}
    (accounts : consumer.Accounts made outset broker)
    (obeys : next.Obeys consumer.Accounts consumer.newOffers) :
    ((Marked.lift (consumer.settle (!ended.isFailed) item.key)).bind fun _ =>
      (Marked.note (.routed item exchange ended)).bind fun _ => next).ObeysFrom
        consumer.Accounts consumer.newOffers made outset broker := by
  obtain ⟨after, finished, settles⟩ :=
    ends_settle_source consumer (!ended.isFailed) item.key broker
  apply Marked.obeysFrom_lift_bind finished
  refine obeys.from additive_accounts ?_
  intro items found
  obtain ⟨quiet, foundAfter⟩ := settles _ (accounts items found)
  rw [quiet, List.append_nil, stillOffered_append, foundAfter, settle_eq_stillOffered]

theorem obeys_observeBatch (routes : consumer.RoutesOnly) (total index : Nat)
    (batch : List PolledItem) :
    (consumer.observeBatch total index batch).Obeys consumer.Accounts consumer.newOffers := by
  have quietly : ∀ {α : Type} (routine : Routine Broker α),
      (∀ broker, routine.Respects consumer.Offers broker) →
        (Marked.lift routine).Obeys consumer.Accounts consumer.newOffers :=
    fun routine => Marked.obeys_lift additive_accounts Offers.accounts
  induction batch generalizing index with
  | nil => exact Marked.obeys_done additive_accounts _
  | cons item rest inductionHypothesis =>
      apply (quietly _ fun _ => respects_exchangeFor).bind additive_accounts
      intro exchange _
      apply (quietly _ (routes.inUnitOfWork exchange)).bind additive_accounts
      intro after _ broker
      exact obeysFrom_settle (additive_accounts.nothing broker) (inductionHypothesis (index + 1))

theorem obeys_observePoll (routes : consumer.RoutesOnly) :
    consumer.observePoll.Obeys consumer.Accounts consumer.newOffers := by
  have claiming : (Marked.lift consumer.claim).Obeys consumer.Accounts consumer.newOffers :=
    Marked.obeys_lift additive_accounts Offers.accounts fun _ => respects_claim
  apply claiming.bind additive_accounts
  intro claimed _
  cases claimed with
  | error failure => exact Marked.obeys_done additive_accounts _
  | ok batch =>
      apply (obeys_observeBatch routes batch.length 0 batch).bind additive_accounts
      intro _ _
      exact Marked.obeys_done additive_accounts _

/-! ## What is routed was on offer -/

def Offered (consumer : PollingConsumer) (earlier : List ItemEvent) : ItemEvent → Prop
  | .offered _ => True
  | .routed item exchange after =>
      .offered item ∈ earlier ∧ exchange.inbound = item.message ∧
        (consumer.processor.inUnitOfWork.invoke exchange).Gives after

theorem Offered.append {earlier : List ItemEvent} {event : ItemEvent} (more : List ItemEvent)
    (offered : consumer.Offered earlier event) : consumer.Offered (earlier ++ more) event := by
  cases event with
  | offered item => trivial
  | routed item exchange after => exact ⟨List.mem_append_left _ offered.1, offered.2⟩

theorem inbound_of_exchangeFor {index total : Nat} {item : PolledItem} {exchange : Exchange}
    (given : (consumer.exchangeFor index total item).Gives exchange) :
    exchange.inbound = item.message := by
  obtain ⟨_, _, stamped⟩ := Routine.gives_bind.mp given
  obtain rfl := Routine.gives_pure.mp stamped
  rfl

theorem eachMark_observeBatch {earlier : List ItemEvent} {total index : Nat}
    {batch : List PolledItem} (offered : ∀ item ∈ batch, .offered item ∈ earlier) :
    (consumer.observeBatch total index batch).EachMark (consumer.Offered earlier) := by
  induction batch generalizing index with
  | nil => trivial
  | cons item rest inductionHypothesis =>
      apply Marked.eachMark_lift_bind
      intro exchange made
      apply Marked.eachMark_lift_bind
      intro after routed
      apply Marked.eachMark_lift_bind
      intro _ _
      refine ⟨⟨offered item List.mem_cons_self, inbound_of_exchangeFor made, routed⟩, ?_⟩
      exact inductionHypothesis fun other member => offered other (List.mem_cons_of_mem _ member)

theorem ends_claim_source {broker : Broker} {items : List PolledItem}
    (found : broker.sources.get? consumer.source = some { items := items }) :
    ∃ batch after, consumer.claim.EndsQuietly consumer.newOffers broker (.ok batch) after ∧
      batch.Sublist items := by
  have offered : (broker.sources.getD consumer.source).poll = .ok items := by
    rw [Register.getD, found]
    rfl
  have taken : consumer.claim.EndsQuietly consumer.newOffers broker _ _ := .change (by
    rw [newOffers_of_sources]
    simp only [offered])
  simp only [offered] at taken
  exact ⟨_, _, taken, claimBatch_sublist⟩

/-- A poll that begins claims items that are on offer. -/
theorem adds_observePoll {chronicle : Chronicle ItemEvent Broker (Except Failure Nat)}
    (found : chronicle.state.sources.get? consumer.source =
      some { items := standing chronicle.history }) :
    Chronicle.Adds consumer.Offered consumer.newOffers chronicle consumer.observePoll := by
  obtain ⟨batch, after, claimed, within⟩ := ends_claim_source found
  have offered : ∀ item ∈ batch, .offered item ∈ chronicle.history :=
    fun item member => mem_of_mem_standing (within.subset member)
  have each : ((consumer.observeBatch batch.length 0 batch).bind fun _ =>
      (pure (.ok batch.length) : Marked ItemEvent Broker (Except Failure Nat))).EachMark
        (consumer.Offered chronicle.history) :=
    (eachMark_observeBatch offered).bind fun _ _ => trivial
  have noted : ∀ before after, ∀ event ∈ consumer.newOffers before after,
      consumer.Offered chronicle.history event := by
    intro before after event member
    obtain ⟨item, _, rfl⟩ := List.mem_map.mp member
    trivial
  obtain ⟨told, rest⟩ := each.advance after noted
  constructor
  · intro event member
    change event ∈ ((Marked.lift consumer.claim).bind _).entries _ _ at member
    rw [Marked.entries_lift_bind claimed.advance, claimed.changes] at member
    exact told event member
  · intro span left waiting
    change (((Marked.lift consumer.claim).bind _).advance _).1 = _ at waiting
    rw [Marked.advance_lift_bind claimed.advance] at waiting
    exact rest span left waiting

/-! ## Every item that was offered -/

/-- What the events say about the items that a source has on offer, and about those that it has not.
On offer are the items after which their key was not taken away. Each exchange that was routed
carried the message of an item that had been offered. An item that was offered stands in its place,
or one of its key was routed since and did not fail; and if its key is its own, that was an exchange
with its message. -/
structure Delivers (consumer : PollingConsumer) (events : List ItemEvent) (broker : Broker) :
    Prop where
  onOffer : broker.sources.get? consumer.source = some { items := standing events }
  routed : ∀ earlier event later, events = earlier ++ event :: later →
    consumer.Offered earlier event
  accounted : ∀ earlier item later, events = earlier ++ .offered item :: later →
    (∃ before, standing events = before ++ item :: standing later) ∨
      ∃ other exchange after, .routed other exchange after ∈ later ∧ other.key = item.key ∧
        after.isFailed = false
  unlost : ∀ earlier item later, events = earlier ++ .offered item :: later →
    (∀ other, .offered other ∈ earlier ++ later → other.key ≠ item.key) →
      (∃ before, standing events = before ++ item :: standing later) ∨
        ∃ exchange after, .routed item exchange after ∈ later ∧
          exchange.inbound = item.message ∧ after.isFailed = false

theorem standing_of_split (earlier later : List ItemEvent) (item : PolledItem) :
    (∃ before, standing (earlier ++ .offered item :: later) = before ++ item :: standing later) ∨
      ∃ other exchange after, .routed other exchange after ∈ later ∧ other.key = item.key ∧
        after.isFailed = false := by
  by_cases taken : later.any (takes item.key) = true
  · obtain ⟨event, member, takes⟩ := List.any_eq_true.mp taken
    cases event with
    | offered other => contradiction
    | routed other exchange after =>
        refine .inr ⟨other, exchange, after, member, ?_⟩
        simpa [ItemEvent.takes] using takes
  · refine .inl ?_
    rw [standing_append, stillOffered, standing, if_neg taken]
    exact ⟨_, rfl⟩

theorem delivers_of_founded {events : List ItemEvent} {broker : Broker}
    (onOffer : broker.sources.get? consumer.source = some { items := standing events })
    (routed : ∀ earlier event later, events = earlier ++ event :: later →
      consumer.Offered earlier event) :
    consumer.Delivers events broker where
  onOffer := onOffer
  routed := routed
  accounted := by
    rintro earlier item later rfl
    exact standing_of_split earlier later item
  unlost := by
    rintro earlier item later rfl alone
    rcases standing_of_split earlier later item with
      stands | ⟨other, exchange, after, member, sameKey, unfailed⟩
    · exact .inl stands
    · obtain ⟨first, second, rfl⟩ := List.append_of_mem member
      obtain ⟨offered, carried, _⟩ := routed (earlier ++ .offered item :: first)
        (.routed other exchange after) second (by simp)
      have itself : other = item := by
        by_contra different
        have elsewhere : .offered other ∈
            earlier ++ (first ++ .routed other exchange after :: second) := by
          rcases List.mem_append.mp offered with before | since
          · exact List.mem_append_left _ before
          · rcases List.mem_cons.mp since with same | behind
            · exact absurd (ItemEvent.offered.inj same) different
            · exact List.mem_append_right _ (List.mem_append_left _ behind)
        exact alone other elsewhere sameKey
      subst itself
      exact .inr ⟨exchange, after, member, carried, unfailed⟩

/-- Polls of a consumer side by side, with further items put on offer at any time: the source has on
offer what was offered and of whose key nothing was routed since without failing. -/
theorem delivers_of_runs {broker : Broker} {ensemble : Ensemble Broker (Except Failure Nat)}
    (routes : consumer.RoutesOnly)
    (empty : broker.sources.get? consumer.source = some { items := [] })
    (runs : Ensemble.Runs (fun routine => routine = consumer.pollOnce) consumer.Offers
      { state := broker } ensemble) :
    ∃ chronicle : Chronicle ItemEvent Broker (Except Failure Nat),
      Chronicle.Runs consumer.newOffers (fun marked => marked = consumer.observePoll)
          consumer.Offers { state := broker } chronicle ∧
        chronicle.ensemble = ensemble ∧ consumer.Delivers chronicle.history ensemble.state := by
  have written : ∀ routine, routine = consumer.pollOnce →
      ∃ marked, marked = consumer.observePoll ∧ marked.unmarked = routine := by
    rintro routine rfl
    exact ⟨_, rfl, consumer.unmarked_observePoll⟩
  obtain ⟨chronicle, told, rfl⟩ : ∃ chronicle : Chronicle ItemEvent Broker (Except Failure Nat),
      Chronicle.Runs consumer.newOffers (fun marked => marked = consumer.observePoll)
          consumer.Offers { state := broker } chronicle ∧ chronicle.ensemble = ensemble :=
    Chronicle.exists_of_runs written runs
  have onOffer : ∀ {chronicle : Chronicle ItemEvent Broker (Except Failure Nat)},
      Chronicle.Runs consumer.newOffers (fun marked => marked = consumer.observePoll)
          consumer.Offers { state := broker } chronicle →
        chronicle.state.sources.get? consumer.source =
          some { items := standing chronicle.history } := by
    intro chronicle told
    have accounts : consumer.Accounts chronicle.history broker chronicle.state := by
      refine Chronicle.law_of_runs additive_accounts ?_ ?_ told
      · rintro marked rfl
        exact obeys_observePoll routes
      · exact fun _ _ => Offers.accounts
    exact accounts [] empty
  have founded : Chronicle.Founded consumer.Offered chronicle := by
    refine Chronicle.founded_of_runs ?_ ?_ ?_ told
    · exact fun _ more _ => Offered.append more
    · intro earlier before after event member
      obtain ⟨item, _, rfl⟩ := List.mem_map.mp member
      trivial
    · rintro marked chronicle rfl told
      exact adds_observePoll (onOffer told)
  exact ⟨chronicle, told, rfl, delivers_of_founded (onOffer told) founded.told⟩

/-! ## Two items -/

def taking (processor : Processor) : PollingConsumer where
  uri := "memory:in"
  source := 0
  claims := 0
  processor := processor
  config := {}

/-- A source without items. -/
def listening : Broker where
  sources := ⟨[{}]⟩
  claims := ⟨[[]]⟩

/-- While an item is routed another one is put on offer; the first one ends. -/
def overtaken : Ensemble Broker (Except Failure Nat) :=
  let consumer := taking Polling.pausing
  let first := consumer.push "a" { id := "first" } listening
  let routing := Ensemble.start consumer.pollOnce { state := first }
  let second := consumer.push "b" { id := "second" } routing.state
  Ensemble.goOn 0 { routing with state := second }

theorem delivers_of_runs_overtaken :
    overtaken.state.sources.get? 0 = some { items := [⟨"b", { id := "second" }⟩] } ∧
      ∃ chronicle : Chronicle ItemEvent Broker (Except Failure Nat),
        chronicle.ensemble = overtaken ∧
          (taking Polling.pausing).Delivers chronicle.history overtaken.state ∧
          standing chronicle.history = [⟨"b", { id := "second" }⟩] := by
  have routes : (taking Polling.pausing).RoutesOnly := fun _ _ _ => trivial
  have runs : Ensemble.Runs (fun routine => routine = (taking Polling.pausing).pollOnce)
      (taking Polling.pausing).Offers { state := listening } overtaken :=
    .tail (.tail (.tail (.single (.meanwhile (offers_push _ "a" { id := "first" }))) (.start rfl))
      (.meanwhile (offers_push _ "b" { id := "second" }))) (.goOn 0)
  have left : overtaken.state.sources.get? 0 = some { items := [⟨"b", { id := "second" }⟩] } := rfl
  obtain ⟨chronicle, _, same, delivers⟩ := delivers_of_runs routes rfl runs
  have stands := delivers.onOffer.symm.trans left
  exact ⟨left, chronicle, same, delivers, congrArg PollSource.items (Option.some.inj stands)⟩

/-- A step that does nothing. -/
def accepting : Processor :=
  .ofFunction "accepting" fun exchange => (exchange, none)

/-- Of two items under one key the second is taken away by the end of the first: it is not on offer,
and nothing was routed that carried its message. -/
theorem second_taken_away :
    ∃ (chronicle : Chronicle ItemEvent Broker (Except Failure Nat)) (exchange after : Exchange),
      Chronicle.Runs (taking accepting).newOffers
          (fun marked => marked = (taking accepting).observePoll) (taking accepting).Offers
          { state := listening } chronicle ∧
        chronicle.history =
          [.offered ⟨"k", { id := "m1" }⟩, .offered ⟨"k", { id := "m2" }⟩,
            .routed ⟨"k", { id := "m1" }⟩ exchange after] ∧
        exchange.inbound.id = "m1" ∧ after.isFailed = false ∧
        chronicle.state.sources.get? 0 = some { items := [] } :=
  ⟨_, _, _, .tail (.tail (.single (.meanwhile (offers_push _ "k" { id := "m1" })))
    (.meanwhile (offers_push _ "k" { id := "m2" }))) (.start rfl), rfl, rfl, rfl, rfl⟩

end PollingConsumer

end MessageRouting
