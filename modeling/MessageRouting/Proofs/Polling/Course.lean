import MessageRouting.Proofs.Polling.Delivery

/-!
# The course of a poll

A poll takes items and routes one after the other. It is told by marks: the keys that
it took, the routing and the settling of each item, and its end. The marks of polls
one after another follow a course, and the claims are on the keys that the course
holds whenever the consumer waits.
-/

namespace MessageRouting

/-- What happens in a poll. It takes items, none of them if the source could not be polled; each
goes through the processor and is settled; and the poll is over. -/
inductive PollMark where
  | polled (keys : List String)
  | routed (key : String)
  | settled (key : String)
  | ended
deriving DecidableEq, Repr

/-- Where polls stand that are made one after another: between polls, between two items of one, or
in the routing of an item, with the keys that are left. -/
inductive Course where
  | idle
  | between (keys : List String)
  | routing (key : String) (keys : List String)
deriving DecidableEq, Repr

namespace Course

/-- The keys whose items are in progress. -/
def held : Course → List String
  | idle => []
  | between keys => keys
  | routing key keys => key :: keys

def after? : Course → PollMark → Option Course
  | idle, .polled keys => some (between keys)
  | between (key :: keys), .routed other => if key = other then some (routing key keys) else none
  | routing key keys, .settled other => if key = other then some (between keys) else none
  | between [], .ended => some idle
  | _, _ => none

def afterAll? (course : Course) (marks : List PollMark) : Option Course :=
  marks.foldlM after? course

theorem afterAll?_cons (course : Course) (mark : PollMark) (marks : List PollMark) :
    course.afterAll? (mark :: marks) = (course.after? mark).bind fun next => next.afterAll? marks :=
  List.foldlM_cons

theorem afterAll?_append (course : Course) (first second : List PollMark) :
    course.afterAll? (first ++ second) =
      (course.afterAll? first).bind fun next => next.afterAll? second :=
  List.foldlM_append

/-- The marks that a poll makes behind the one that it took items of these keys. -/
def ofBatch (keys : List String) : List PollMark :=
  keys.flatMap (fun key => [.routed key, .settled key]) ++ [.ended]

/-- What follows on a poll is the course of its batch, or the beginning of it if the poll is not
over. -/
theorem prefix_of_afterAll? {keys : List String} {marks : List PollMark} {course : Course}
    (follows : (between keys).afterAll? marks = some course) :
    ofBatch keys <+: marks ∨ marks <+: ofBatch keys ∧ course ≠ idle := by
  induction keys generalizing marks with
  | nil =>
      cases marks with
      | nil =>
          cases follows
          exact .inr ⟨List.nil_prefix, nofun⟩
      | cons mark marks =>
          cases mark with
          | ended => exact .inl (by simp [ofBatch])
          | polled keys => cases follows
          | routed key => cases follows
          | settled key => cases follows
  | cons key keys inductionHypothesis =>
      have whole : ofBatch (key :: keys) = .routed key :: .settled key :: ofBatch keys := rfl
      rw [whole]
      match marks with
      | [] =>
          cases follows
          exact .inr ⟨List.nil_prefix, nofun⟩
      | first :: marks =>
          rw [afterAll?_cons, Option.bind_eq_some_iff] at follows
          obtain ⟨next, began, follows⟩ := follows
          obtain ⟨rfl, rfl⟩ : first = .routed key ∧ next = routing key keys := by
            cases first <;> simp_all [after?]
          match marks with
          | [] =>
              cases follows
              exact .inr ⟨by simp, nofun⟩
          | second :: marks =>
              rw [afterAll?_cons, Option.bind_eq_some_iff] at follows
              obtain ⟨next, ended, follows⟩ := follows
              obtain ⟨rfl, rfl⟩ : second = .settled key ∧ next = between keys := by
                cases second <;> simp_all [after?]
              simpa using inductionHypothesis follows

theorem afterAll?_ofBatch (keys : List String) :
    (between keys).afterAll? (ofBatch keys) = some idle := by
  induction keys with
  | nil => rfl
  | cons key keys inductionHypothesis =>
      have whole : ofBatch (key :: keys) = .routed key :: .settled key :: ofBatch keys := rfl
      rw [whole, afterAll?_cons, after?, if_pos rfl]
      refine (afterAll?_cons _ _ _).trans ?_
      rw [after?, if_pos rfl]
      exact inductionHypothesis

def whole (keys : List String) : List PollMark :=
  .polled keys :: ofBatch keys

/-- What follows a course from its beginning are whole polls one after another, and the beginning of
one more if a poll is underway. -/
theorem wholes_of_afterAll? {marks : List PollMark} {course : Course}
    (follows : idle.afterAll? marks = some course) :
    ∃ (batches : List (List String)) (part : List PollMark) (keys : List String),
      marks = batches.flatMap whole ++ part ∧ part <+: whole keys ∧ (course = idle → part = []) := by
  induction length : marks.length using Nat.strongRecOn generalizing marks with
  | ind count inductionHypothesis =>
      cases marks with
      | nil => exact ⟨[], [], [], rfl, List.nil_prefix, fun _ => rfl⟩
      | cons mark marks =>
          rw [afterAll?_cons, Option.bind_eq_some_iff] at follows
          obtain ⟨next, began, follows⟩ := follows
          obtain ⟨keys, rfl, rfl⟩ : ∃ keys, mark = .polled keys ∧ next = between keys := by
            cases mark <;> simp_all [after?]
          rcases prefix_of_afterAll? follows with ⟨rest, rfl⟩ | ⟨part, underway⟩
          · rw [afterAll?_append, afterAll?_ofBatch] at follows
            have fewer : rest.length < count := by
              rw [← length, List.length_cons, List.length_append]
              omega
            obtain ⟨batches, part, last, rfl, beginning, idleEnds⟩ :=
              inductionHypothesis rest.length fewer follows rfl
            refine ⟨keys :: batches, part, last, ?_, beginning, idleEnds⟩
            simp [whole]
          · refine ⟨[], .polled keys :: marks, keys, rfl, ?_, fun idles => absurd idles underway⟩
            exact List.cons_prefix_cons.mpr ⟨rfl, part⟩

def track (keys : List String) : PollMark → List String
  | .polled taken => taken
  | .settled key => keys.erase key
  | .routed _ => keys
  | .ended => keys

/-- The keys that were taken and not settled since. -/
def inProgress (marks : List PollMark) : List String :=
  marks.foldl track []

theorem track_held {course next : Course} {mark : PollMark}
    (goesOn : course.after? mark = some next) : track course.held mark = next.held := by
  unfold after? at goesOn
  split at goesOn
  · cases goesOn
    rfl
  · split at goesOn
    · rename_i key keys _ same
      cases goesOn
      rfl
    · cases goesOn
  · split at goesOn
    · rename_i key keys other same
      cases goesOn
      subst same
      simp [track, held]
    · cases goesOn
  · cases goesOn
    rfl
  · cases goesOn

/-- The keys in progress are those that the course holds. -/
theorem foldl_track {marks : List PollMark} {first course : Course}
    (follows : first.afterAll? marks = some course) :
    marks.foldl track first.held = course.held := by
  induction marks generalizing first with
  | nil =>
      cases follows
      rfl
  | cons mark marks inductionHypothesis =>
      rw [afterAll?_cons, Option.bind_eq_some_iff] at follows
      obtain ⟨next, goesOn, follows⟩ := follows
      rw [List.foldl_cons, track_held goesOn, inductionHypothesis follows]

end Course

namespace PollingConsumer

open Course

variable (consumer : PollingConsumer)

/-! ## A poll, told -/

def tellBatch (total : Nat) : Nat → List PolledItem → Marked PollMark Broker Unit
  | _, [] => pure ⟨⟩
  | index, item :: rest => do
      let exchange ← Marked.lift (consumer.exchangeFor index total item)
      Marked.note (.routed item.key)
      let after ← Marked.lift (consumer.processor.inUnitOfWork.invoke exchange)
      Marked.lift (consumer.settle (!after.isFailed) item.key)
      Marked.note (.settled item.key)
      tellBatch total (index + 1) rest

def tellPoll : Marked PollMark Broker (Except Failure Nat) := do
  match ← Marked.lift consumer.claim with
  | .error failure => do
      Marked.note (.polled [])
      Marked.note .ended
      return .error failure
  | .ok batch => do
      Marked.note (.polled (batch.map PolledItem.key))
      consumer.tellBatch batch.length 0 batch
      Marked.note .ended
      return .ok batch.length

theorem unmarked_tellBatch (total index : Nat) (batch : List PolledItem) :
    (consumer.tellBatch total index batch).unmarked = consumer.routeBatch total index batch := by
  induction batch generalizing index with
  | nil => rfl
  | cons item rest inductionHypothesis =>
      simp [tellBatch, routeBatch, inductionHypothesis]

@[simp]
theorem unmarked_tellPoll : consumer.tellPoll.unmarked = consumer.pollOnce := by
  unfold tellPoll pollOnce
  rw [Marked.unmarked_bind, Marked.unmarked_lift]
  congr 1
  funext claimed
  cases claimed with
  | error failure => rfl
  | ok batch => simp [unmarked_tellBatch]

/-! ## Courses that routines conduct -/

def Holds (keys : List String) (broker : Broker) : Prop :=
  broker.claims.get? consumer.claims = some keys

def Spares (before after : Broker) : Prop :=
  after.claims.get? consumer.claims = before.claims.get? consumer.claims

/-- The routine goes on with the course by its marks, until no poll is underway. Whenever it waits
and when it ends the claims are on the keys that the course holds; while it waits nothing else
changes them. -/
def Conducts {α : Type} : Course → Marked PollMark Broker α → Broker → Prop
  | course, .done _, broker => course = idle ∧ consumer.Holds [] broker
  | course, .get body, broker => Conducts course (body broker) broker
  | course, .put after body, _ => Conducts course body after
  | course, .sleep _ body, broker =>
      consumer.Holds course.held broker ∧
        ∀ found, consumer.Holds course.held found → Conducts course (body ()) found
  | course, .mark mark body, broker =>
      ∃ next, course.after? mark = some next ∧ Conducts next body broker

variable {consumer} {course : Course} {broker after : Broker} {α β : Type}

theorem Spares.holds {keys : List String} (spares : consumer.Spares broker after)
    (holds : consumer.Holds keys broker) : consumer.Holds keys after :=
  Eq.trans spares holds

/-- What ends at once may change the claims in between. -/
theorem conducts_lift_bind {routine : Routine Broker α} {next : α → Marked PollMark Broker β}
    {value : α} (finished : routine.advance broker = (.finished value, after))
    (rest : consumer.Conducts course (next value) after) :
    consumer.Conducts course ((Marked.lift routine).bind next) broker := by
  induction routine generalizing broker with
  | done result =>
      obtain ⟨same, rfl⟩ := Prod.mk.inj finished
      obtain rfl := Routine.Progress.finished.inj same
      exact rest
  | get body inductionHypothesis => exact inductionHypothesis broker finished
  | put middle body inductionHypothesis => exact inductionHypothesis finished
  | sleep span body =>
      obtain ⟨same, _⟩ := Prod.mk.inj finished
      contradiction

/-- What waits leaves the claims as they are. -/
theorem conducts_spare_bind {routine : Routine Broker α} {next : α → Marked PollMark Broker β}
    (respects : routine.Respects consumer.Spares broker)
    (holds : consumer.Holds course.held broker)
    (rest : ∀ value found, routine.Gives value → consumer.Holds course.held found →
      consumer.Conducts course (next value) found) :
    consumer.Conducts course ((Marked.lift routine).bind next) broker := by
  induction routine generalizing broker with
  | done value => exact rest value broker (.done value) holds
  | get body inductionHypothesis =>
      exact inductionHypothesis broker respects holds fun value found given =>
        rest value found (.get broker given)
  | put middle body inductionHypothesis =>
      exact inductionHypothesis respects.2 (respects.1.holds holds) fun value found given =>
        rest value found (.put middle given)
  | sleep span body inductionHypothesis =>
      refine ⟨holds, fun found held => ?_⟩
      exact inductionHypothesis () (respects found) held fun value found given =>
        rest value found (.sleep span given)

/-- Up to its next suspension a routine goes on with the course, and so does what is left of it. -/
theorem Conducts.advance {marked : Marked PollMark Broker α}
    (conducts : consumer.Conducts course marked broker) :
    ∃ next, course.afterAll? (marked.entries (fun _ _ => []) broker) = some next ∧
      match (marked.advance broker).1 with
      | .finished _ => next = idle ∧ consumer.Holds [] (marked.advance broker).2
      | .waiting _ rest => consumer.Holds next.held (marked.advance broker).2 ∧
          ∀ found, consumer.Holds next.held found → consumer.Conducts next rest found := by
  induction marked generalizing course broker with
  | done value => exact ⟨course, rfl, conducts⟩
  | get body inductionHypothesis => exact inductionHypothesis broker conducts
  | put after body inductionHypothesis => exact inductionHypothesis conducts
  | sleep span body => exact ⟨course, rfl, conducts⟩
  | mark mark body inductionHypothesis =>
      obtain ⟨between, goesOn, later⟩ := conducts
      obtain ⟨next, goesFurther, stands⟩ := inductionHypothesis later
      refine ⟨next, ?_, stands⟩
      rw [Marked.entries, afterAll?_cons, goesOn]
      exact goesFurther

/-! ## Polls conduct courses -/

/-- The processor keeps the unit of work of an exchange and leaves the claims of the consumer
alone. -/
structure Minds (consumer : PollingConsumer) : Prop where
  keeps : consumer.processor.Passes (Exchange.Keeps consumer.claims)
  spares : ∀ exchange broker, (consumer.processor.invoke exchange).Respects consumer.Spares broker

/-- The items on offer do not matter for the course of a poll. -/
theorem Routes.minds (routes : consumer.Routes) : consumer.Minds where
  keeps := routes.keeps
  spares exchange broker := (routes.leaves exchange broker).mono fun _ _ leaves => leaves.claims

/-- The source is settled at once. -/
theorem ends_settle_claims (consumer : PollingConsumer) (succeeded : Bool) (key : String)
    (broker : Broker) :
    ∃ after, (consumer.settle succeeded key).advance broker = (.finished (), after) ∧
      consumer.Spares broker after := by
  rw [settle_eq]
  cases noted : (broker.sources.getD consumer.source).settlementNote succeeded key with
  | none =>
      refine ⟨consumer.settled succeeded key broker, ?_, rfl⟩
      simp only [Routine.look, Routine.bind, Routine.advance, noted]
      rfl
  | some text =>
      refine ⟨consumer.settled succeeded key
        { broker with journal := JournalEntry.note text :: broker.journal }, ?_, rfl⟩
      simp only [Routine.look, Routine.bind, Routine.advance, noted]
      rfl

/-- The key of an item is released at the end of its unit of work. -/
theorem holds_endUnitOfWork {exchange : Exchange} {key : String} {keys : List String}
    (releases : exchange.releases consumer.claims = [key]) (apart : key ∉ keys)
    (holds : consumer.Holds (key :: keys) broker) :
    ∃ ended after, exchange.endUnitOfWork.advance broker = (.finished ended, after) ∧
      consumer.Holds keys after := by
  obtain ⟨after, ended, left, _⟩ :=
    releases_endUnitOfWork (fun _ _ => ([] : List Unit)) exchange holds fun _ => rfl
  refine ⟨_, after, ended.advance, left.trans ?_⟩
  rw [releases, withoutKeys_singleton, List.filter_cons_of_neg (by simp)]
  refine congrArg some (List.filter_eq_self.mpr fun other member => ?_)
  simpa using ne_of_mem_of_not_mem member apart

/-- Routing an item conducts the course past the item. -/
theorem conducts_routing (minds : consumer.Minds) {exchange : Exchange} {key : String}
    {keys : List String} {next : Exchange → Marked PollMark Broker α}
    (outside : exchange.isInUnitOfWork = false)
    (releases : exchange.releases consumer.claims = [key]) (apart : key ∉ keys)
    (holds : consumer.Holds (key :: keys) broker)
    (rest : ∀ ended found, consumer.Holds keys found →
      consumer.Conducts (routing key keys) (next ended) found) :
    consumer.Conducts (routing key keys)
      ((Marked.lift (consumer.processor.inUnitOfWork.invoke exchange)).bind next) broker := by
  have taken : consumer.processor.inUnitOfWork.invoke exchange =
      (consumer.processor.invoke exchange.enterUnitOfWork).bind Exchange.endUnitOfWork := by
    unfold Processor.inUnitOfWork
    rw [Processor.invoke_silent, outside, if_neg Bool.false_ne_true]
    rfl
  rw [taken, Marked.lift_bind, Marked.bind_assoc]
  refine conducts_spare_bind (minds.spares _ broker) holds fun after found given held => ?_
  have kept := minds.keeps _ _ given (Exchange.isInUnitOfWork_enterUnitOfWork exchange)
  rw [Exchange.releases_enterUnitOfWork, releases] at kept
  obtain ⟨ended, last, finished, left⟩ := holds_endUnitOfWork kept.2 apart held
  exact conducts_lift_bind finished (rest ended last left)

theorem tellBatch_bind (total index : Nat) (item : PolledItem) (batch : List PolledItem)
    (next : Unit → Marked PollMark Broker α) :
    (consumer.tellBatch total index (item :: batch)).bind next =
      (Marked.lift (consumer.exchangeFor index total item)).bind fun exchange =>
        .mark (.routed item.key) <|
          (Marked.lift (consumer.processor.inUnitOfWork.invoke exchange)).bind fun after =>
            (Marked.lift (consumer.settle (!after.isFailed) item.key)).bind fun _ =>
              .mark (.settled item.key) ((consumer.tellBatch total (index + 1) batch).bind next) := by
  refine (Marked.bind_assoc (Marked.lift (consumer.exchangeFor index total item)) _ next).trans
    (congrArg _ (funext fun exchange => ?_))
  change Marked.mark _ _ = Marked.mark _ _
  congr 1
  refine (Marked.bind_assoc (Marked.lift (consumer.processor.inUnitOfWork.invoke exchange)) _
    next).trans (congrArg _ (funext fun after => ?_))
  exact Marked.bind_assoc (Marked.lift (consumer.settle (!after.isFailed) item.key)) _ next

theorem conducts_tellBatch (minds : consumer.Minds) (total index : Nat) {batch : List PolledItem}
    {next : Unit → Marked PollMark Broker α}
    (distinct : (batch.map PolledItem.key).Nodup)
    (holds : consumer.Holds (batch.map PolledItem.key) broker)
    (rest : ∀ found, consumer.Holds [] found → consumer.Conducts (between []) (next ()) found) :
    consumer.Conducts (between (batch.map PolledItem.key))
      ((consumer.tellBatch total index batch).bind next) broker := by
  induction batch generalizing index broker with
  | nil => exact rest broker holds
  | cons item batch inductionHypothesis =>
      obtain ⟨apart, distinct⟩ := List.nodup_cons.mp distinct
      obtain ⟨exchange, after, made, sameClaims, _, outside, releases, _⟩ :=
        makes_exchangeFor (fun _ _ => ([] : List Unit)) consumer index total item broker
          fun _ => rfl
      have holds : consumer.Holds (item.key :: batch.map PolledItem.key) after := by
        rw [Holds, sameClaims]
        exact holds
      rw [tellBatch_bind]
      refine conducts_lift_bind made.advance ⟨_, if_pos rfl, ?_⟩
      refine conducts_routing minds outside releases apart holds fun ended found held => ?_
      obtain ⟨last, settled, spares⟩ := ends_settle_claims consumer (!ended.isFailed) item.key found
      refine conducts_lift_bind settled ⟨_, if_pos rfl, ?_⟩
      exact inductionHypothesis (index + 1) distinct (spares.holds held)

/-- What a poll takes it claims, each key once. -/
theorem ends_claim_idle (consumer : PollingConsumer) (broker : Broker)
    (holds : consumer.Holds [] broker) :
    ∃ claimed after, consumer.claim.advance broker = (.finished claimed, after) ∧
      match claimed with
      | .error _ => consumer.Holds [] after
      | .ok batch => consumer.Holds (batch.map PolledItem.key) after ∧
          (batch.map PolledItem.key).Nodup := by
  refine ⟨_, _, rfl, ?_⟩
  dsimp only
  cases offered : (broker.sources.getD consumer.source).poll with
  | error failure => exact holds
  | ok items =>
      have nothing : broker.claims.getD consumer.claims = [] := by
        rw [Register.getD, holds]
        rfl
      have claims := @claimBatch_claims consumer.config.maximumItems 0 [] items
      have distinct := @claimBatch_nodup consumer.config.maximumItems 0 [] items List.nodup_nil
      rw [claims, List.nil_append] at distinct
      refine ⟨?_, by simpa [nothing] using distinct⟩
      rw [Holds] at holds ⊢
      simp [Register.get?_modify, holds, nothing, claims]

/-- A poll conducts a course from its beginning to its end. -/
theorem conducts_tellPoll (minds : consumer.Minds) (holds : consumer.Holds [] broker) :
    consumer.Conducts idle consumer.tellPoll broker := by
  obtain ⟨claimed, after, finished, stands⟩ := ends_claim_idle consumer broker holds
  refine conducts_lift_bind finished ?_
  cases claimed with
  | error failure => exact ⟨_, rfl, _, rfl, rfl, stands⟩
  | ok batch =>
      refine ⟨_, rfl, conducts_tellBatch minds _ _ stands.2 stands.1 fun found held => ?_⟩
      exact ⟨_, rfl, rfl, held⟩

end PollingConsumer

end MessageRouting
