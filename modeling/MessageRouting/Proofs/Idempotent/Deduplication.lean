import Mathlib.Algebra.GroupWithZero.Nat
import Mathlib.Algebra.Order.BigOperators.Group.List
import Mathlib.Algebra.Order.Group.Nat
import MessageRouting.Proofs.Exchange.Bookkeeping
import MessageRouting.Proofs.Idempotent.Telling
import MessageRouting.Proofs.Polling.Schedule

/-!
# One exchange for each claim of a key

Eager consumers that share a repository claim a key before they let an exchange
through. However their exchanges interleave, a key is claimed anew only after the
repository released or evicted it, so the exchanges that are let through with a key are
at most one more than that happened. All others are counted and marked as duplicates.
-/

namespace MessageRouting

/-! ## What is counted -/

namespace KeyEvent

def arrives (key : String) : KeyEvent → Bool
  | arrived _ other => other == key
  | _ => false

/-- The steps behind a consumer are called for an exchange with the key. -/
def calls (key : String) : KeyEvent → Bool
  | called _ other _ => other == key
  | _ => false

/-- An exchange with the key is found to be a duplicate. -/
def repeats (key : String) : KeyEvent → Bool
  | repeated _ other _ => other == key
  | _ => false

def releases (repository : Nat) (key : String) : KeyEvent → Bool
  | released handle other => handle == repository && other == key
  | _ => false

/-- The key gives way to another one. -/
def evicts (repository : Nat) (key : String) : KeyEvent → Bool
  | evicted handle other => handle == repository && other == key
  | _ => false

/-- An exchange is found to be a duplicate. -/
def isDuplicate : KeyEvent → Bool
  | repeated .. => true
  | _ => false

def countsIn (counter : Nat) : KeyEvent → Bool
  | repeated consumer _ _ => consumer.duplicates == counter
  | _ => false

/-- A consumer that keeps the given metrics finds a duplicate. -/
def reportsTo (metrics : Nat) : KeyEvent → Bool
  | repeated consumer _ _ => consumer.metrics == some metrics
  | _ => false

end KeyEvent

namespace Broker

def keys (broker : Broker) (repository : Nat) : List String :=
  (broker.repositories.getD repository).keys

def holds (broker : Broker) (repository : Nat) (key : String) : Nat :=
  if key ∈ broker.keys repository then 1 else 0

variable {repository : Nat} {before after : Broker}

theorem holds_le_one (broker : Broker) (repository : Nat) (key : String) :
    broker.holds repository key ≤ 1 := by
  unfold holds
  split <;> omega

theorem holds_of_found {broker : Broker} {held : KeyRepository}
    (found : broker.repositories.get? repository = some held) (key : String) :
    broker.holds repository key = if key ∈ held.keys then 1 else 0 := by
  rw [holds, keys, Register.getD, found]
  rfl

theorem holds_congr
    (same : after.repositories.get? repository = before.repositories.get? repository)
    (key : String) : after.holds repository key = before.holds repository key := by
  rw [holds, holds, keys, keys, Register.getD, Register.getD, same]

/-- Losses are no events of other kinds. -/
theorem countP_losses {handle : Nat} {request? : Option RepositoryRequest} {kind : KeyEvent → Bool}
    (unreleased : ∀ key, kind (.released handle key) = false)
    (unevicted : ∀ key, kind (.evicted handle key) = false) (broker : Broker) :
    (losses handle request? broker).countP kind = 0 := by
  unfold losses
  cases broker.repositories.get? handle with
  | none => rfl
  | some held =>
      cases request? with
      | none => rfl
      | some request =>
          rw [List.countP_eq_zero]
          intro event member
          rcases List.mem_append.mp member with listed | listed
          · obtain ⟨key, _, rfl⟩ := List.mem_map.mp listed
            simp [unreleased]
          · obtain ⟨key, _, rfl⟩ := List.mem_map.mp listed
            simp [unevicted]

/-- A key that a repository does not hold any more after a request was released or evicted. -/
theorem counted_losses (handle : Nat) (request : RepositoryRequest) (held : KeyRepository)
    (key : String) :
    (if key ∈ held.keys then 1 else 0) ≤
      (if key ∈ (held.answer request).2.keys then 1 else 0) +
        (request.losses handle held).countP (KeyEvent.releases handle key) +
        (request.losses handle held).countP (KeyEvent.evicts handle key) := by
  by_cases member : key ∈ held.keys
  · rw [if_pos member]
    rcases request.kept_or_lost member with kept | gone | gone
    · rw [if_pos kept]
      omega
    · have counted : 0 < (request.losses handle held).countP (KeyEvent.releases handle key) :=
        List.countP_pos_iff.mpr ⟨_, List.mem_append_left _ (List.mem_map_of_mem gone),
          by simp [KeyEvent.releases]⟩
      omega
    · have counted : 0 < (request.losses handle held).countP (KeyEvent.evicts handle key) :=
        List.countP_pos_iff.mpr ⟨_, List.mem_append_right _ (List.mem_map_of_mem gone),
          by simp [KeyEvent.evicts]⟩
      omega
  · rw [if_neg member]
    omega

theorem Asked.holds_le {handle : Nat} {request? : Option RepositoryRequest}
    (asked : Asked handle request? before after) (repository : Nat) (key : String) :
    before.holds repository key ≤ after.holds repository key +
      (losses handle request? before).countP (KeyEvent.releases repository key) +
      (losses handle request? before).countP (KeyEvent.evicts repository key) := by
  by_cases same : repository = handle
  · subst same
    have foundAfter := asked.repository
    unfold losses
    cases found : before.repositories.get? repository with
    | none =>
        have nothing : before.holds repository key = 0 := by
          rw [holds, keys, Register.getD, found]
          exact if_neg List.not_mem_nil
        omega
    | some held =>
        rw [found] at foundAfter
        rw [holds_of_found found, holds_of_found foundAfter]
        cases request? with
        | none => exact Nat.le_add_right _ _
        | some request => exact counted_losses repository request held key
  · rw [holds_congr (asked.others repository same)]
    omega

end Broker

/-! ## Consumers that share a repository -/

/-- The repository that consumers share, the counts of their duplicates, and the metrics that they
keep. -/
structure Sharing where
  repository : Nat
  counters : List Nat
  metrics : List Nat
  distinct : counters.Nodup

namespace Sharing

variable (sharing : Sharing)

/-- An eager consumer of the sharing that drops duplicates. -/
structure Shares (consumer : IdempotentConsumer) : Prop where
  repository : consumer.repository = sharing.repository
  eager : consumer.options.eager = true
  skip : consumer.options.skipDuplicate = true
  counter : consumer.duplicates ∈ sharing.counters

/-- The repository and the counts of duplicates are left to the consumers. -/
structure Apart (before after : Broker) : Prop where
  repository : after.repositories.get? sharing.repository =
    before.repositories.get? sharing.repository
  counters : ∀ counter ∈ sharing.counters,
    after.duplicates.get? counter = before.duplicates.get? counter
  metrics : ∀ handle ∈ sharing.metrics,
    (after.metrics.get? handle).map (fun held => held.counters.duplicates) =
      (before.metrics.get? handle).map fun held => held.counters.duplicates

/-- The steps around the consumers may turn to the repository themselves. Else they may do anything
but count duplicates. -/
def latitude : Latitude where
  kept := sharing.Apart
  change _ _ := True
  turnsTo handle := handle = sharing.repository
  unseen unseen :=
    { repository := by rw [unseen.repositories]
      counters := fun _ _ => by rw [unseen.duplicates]
      metrics := fun handle _ => unseen.metrics handle }
  still _ := trivial

/-- What the events say about the state before and after them. -/
structure Tallied (events : List KeyEvent) (before after : Broker) : Prop where
  keys : ∀ key, events.countP (KeyEvent.calls key) + before.holds sharing.repository key ≤
    after.holds sharing.repository key +
      events.countP (KeyEvent.releases sharing.repository key) +
      events.countP (KeyEvent.evicts sharing.repository key)
  arrivals : ∀ key, events.countP (KeyEvent.arrives key) =
    events.countP (KeyEvent.calls key) + events.countP (KeyEvent.repeats key)
  counters : ∀ counter ∈ sharing.counters, ∀ count,
    before.duplicates.get? counter = some count →
      after.duplicates.get? counter = some (count + events.countP (KeyEvent.countsIn counter))
  metrics : ∀ handle ∈ sharing.metrics, ∀ count ≤ Text.maxU64,
    (before.metrics.get? handle).map (fun held => held.counters.duplicates) = some count →
      (after.metrics.get? handle).map (fun held => held.counters.duplicates) =
        some (min (count + events.countP (KeyEvent.reportsTo handle)) Text.maxU64)

theorem additive_tallied : Marked.Additive sharing.Tallied where
  nothing broker :=
    { keys := fun key => Nat.le_of_eq (by simp)
      arrivals := fun _ => rfl
      counters := fun _ _ _ found => found
      metrics := fun _ _ count bounded found => by
        rw [found, List.countP_nil, Nat.add_zero, Nat.min_eq_left bounded] }
  andThen {first second before between after} early late :=
    { keys := fun key => by
        have one := early.keys key
        have two := late.keys key
        simp only [List.countP_append]
        omega
      arrivals := fun key => by
        have one := early.arrivals key
        have two := late.arrivals key
        simp only [List.countP_append]
        omega
      counters := fun counter member count found => by
        rw [late.counters counter member _ (early.counters counter member count found),
          List.countP_append, Nat.add_assoc]
      metrics := fun handle member count bounded found => by
        have middle := early.metrics handle member count bounded found
        rw [late.metrics handle member _ (Nat.min_le_right _ _) middle, List.countP_append]
        congr 1
        omega }

variable {sharing} {before after : Broker}

theorem Apart.tallied (apart : sharing.Apart before after) : sharing.Tallied [] before after where
  keys key := Nat.le_of_eq (by simp [Broker.holds_congr apart.repository])
  arrivals _ := rfl
  counters counter member count found := by
    rw [apart.counters counter member, found]
    rfl
  metrics handle member count bounded found := by
    rw [apart.metrics handle member, found, List.countP_nil, Nat.add_zero, Nat.min_eq_left bounded]

/-! ## Requests and completions -/

/-- The keys that a request releases or evicts are the ones that it takes. -/
theorem tallied_asked {handle : Nat} {request? : Option RepositoryRequest}
    (asked : Broker.Asked handle request? before after) :
    sharing.Tallied (Broker.losses handle request? before) before after where
  keys key := by
    rw [Broker.countP_losses (fun _ => rfl) fun _ => rfl, Nat.zero_add]
    exact asked.holds_le sharing.repository key
  arrivals key := by
    rw [Broker.countP_losses (fun _ => rfl) fun _ => rfl,
      Broker.countP_losses (fun _ => rfl) fun _ => rfl,
      Broker.countP_losses (fun _ => rfl) fun _ => rfl]
  counters counter member count found := by
    rw [Broker.countP_losses (fun _ => rfl) fun _ => rfl, asked.duplicates, found]
    rfl
  metrics handle member count bounded found := by
    rw [Broker.countP_losses (fun _ => rfl) fun _ => rfl, asked.metrics, found,
      Nat.add_zero, Nat.min_eq_left bounded]

theorem obeys_asking {α : Type} {handle : Nat} {request? : Option RepositoryRequest}
    {step : Broker → α × Broker}
    (asks : ∀ broker, Broker.Asked handle request? broker (step broker).2) :
    (Marked.announcing (Broker.losses handle request?) (Routine.change step)).Obeys
      sharing.Tallied Marked.unnoted := by
  refine Marked.obeys_announcing fun broker => ?_
  rw [Marked.unnoted, List.append_nil]
  exact tallied_asked (asks broker)

theorem obeys_tell (handle : Nat) (request : RepositoryRequest) :
    (request.tell handle).Obeys sharing.Tallied Marked.unnoted := by
  obtain ⟨change, same, asks⟩ := request.exists_step_carryOut handle
  rw [RepositoryRequest.tell, same]
  exact obeys_asking asks

theorem obeys_observeCarryOut (exchange : Exchange) (completion : Completion) :
    (completion.observeCarryOut exchange).Obeys sharing.Tallied Marked.unnoted := by
  have quiet {routine : Routine Broker Unit}
      (respects : ∀ broker, routine.Respects sharing.Apart broker) :
      ((Marked.announcing (fun _ => []) routine).bind fun _ =>
        Marked.done PUnit.unit).Obeys sharing.Tallied Marked.unnoted := by
    rw [Marked.announcing_nothing]
    exact (Marked.obeys_lift sharing.additive_tallied Apart.tallied respects).bind
      sharing.additive_tallied fun _ _ => Marked.obeys_done sharing.additive_tallied _
  unfold Completion.observeCarryOut
  cases completion with
  | note label movable =>
      rw [Completion.carryOut_note]
      refine quiet ?_
      exact fun _ => ⟨⟨rfl, fun _ _ => rfl, fun _ _ => rfl⟩, trivial⟩
  | record name movable =>
      rw [Completion.carryOut_record]
      refine quiet ?_
      exact fun _ => ⟨⟨rfl, fun _ _ => rfl, fun _ _ => rfl⟩, trivial⟩
  | releaseItem claims key =>
      rw [Completion.carryOut_releaseItem]
      refine quiet ?_
      exact fun _ => ⟨⟨rfl, fun _ _ => rfl, fun _ _ => rfl⟩, trivial⟩
  | settleKey repository key options =>
      obtain ⟨change, same, asks⟩ := Completion.exists_step_carryOut exchange repository key options
      rw [same]
      refine (obeys_asking asks).bind sharing.additive_tallied ?_
      intro _ _ broker
      have nothing := sharing.additive_tallied.nothing broker
      exact
        { keys := nothing.keys
          arrivals := nothing.arrivals
          counters := nothing.counters
          metrics := nothing.metrics }

/-! ## Decisions -/

/-- An eager consumer that finds a key to be new holds it then. -/
theorem exists_step_accept {consumer : IdempotentConsumer} (shares : sharing.Shares consumer)
    (key : String) :
    ∃ step, consumer.accept key = Routine.change step ∧ ∀ broker,
      Broker.Asked sharing.repository (consumer.claim? key) broker (step broker).2 ∧
        ((step broker).1 = true →
          broker.holds sharing.repository key = 0 ∧
            (step broker).2.holds sharing.repository key = 1) := by
  obtain ⟨step, same, steps⟩ := consumer.exists_step_accept key
  rw [shares.repository] at steps
  refine ⟨step, same, fun broker => ⟨(steps broker).2, ?_⟩⟩
  intro isNew
  obtain ⟨answer, asked⟩ := steps broker
  have claims : consumer.claim? key = some (.add key) := if_pos shares.eager
  rw [isNew] at answer
  have foundAfter := asked.repository
  rw [claims] at foundAfter
  cases found : broker.repositories.get? sharing.repository with
  | none =>
      rw [found] at answer
      contradiction
  | some held =>
      rw [found] at answer foundAfter
      have absent : key ∉ held.keys := by
        simpa [KeyRepository.contains] using answer.symm
      have present : key ∈ (held.add key).2.keys := by
        simpa [KeyRepository.contains] using held.contains_add_self key
      rw [Broker.holds_of_found found, Broker.holds_of_found foundAfter]
      exact ⟨if_neg absent, if_pos present⟩

def counted (consumer : IdempotentConsumer) (broker : Broker) : Broker :=
  { broker with duplicates := broker.duplicates.modify consumer.duplicates (· + 1) }

def reported (consumer : IdempotentConsumer) (broker : Broker) : Broker :=
  match consumer.metrics with
  | some handle =>
      { broker with metrics := broker.metrics.modify handle Metrics.recordDuplicate }
  | none => broker

theorem ends_count (consumer : IdempotentConsumer) (broker : Broker) :
    (Broker.count consumer.metrics Metrics.recordDuplicate).EndsQuietly
      (Marked.unnoted : Broker → Broker → List KeyEvent) broker () (reported consumer broker) := by
  unfold reported
  cases consumer.metrics with
  | none => exact .done
  | some handle => exact .modify rfl

/-- What is counted of the losses between a first and a last event. -/
theorem countP_around {handle : Nat} {request? : Option RepositoryRequest} {kind : KeyEvent → Bool}
    (unreleased : ∀ key, kind (.released handle key) = false)
    (unevicted : ∀ key, kind (.evicted handle key) = false) (first last : KeyEvent)
    (broker : Broker) :
    ([first] ++ Broker.losses handle request? broker ++ [last]).countP kind =
      (if kind first then 1 else 0) + if kind last then 1 else 0 := by
  rw [List.countP_append, List.countP_append, Broker.countP_losses unreleased unevicted,
    List.countP_singleton, List.countP_singleton, Nat.add_zero]

theorem countP_between {kind : KeyEvent → Bool} {first last : KeyEvent}
    (notFirst : kind first = false) (notLast : kind last = false) (events : List KeyEvent) :
    ([first] ++ events ++ [last]).countP kind = events.countP kind := by
  simp [notFirst, notLast]

/-- An exchange with a new key is let through. -/
theorem tallied_admitted {consumer : IdempotentConsumer} {key : String}
    {request? : Option RepositoryRequest}
    (asked : Broker.Asked sharing.repository request? before after)
    (absent : before.holds sharing.repository key = 0)
    (held : after.holds sharing.repository key = 1) :
    sharing.Tallied
      ([.arrived consumer key] ++ Broker.losses sharing.repository request? before ++
        [.called consumer key true]) before after where
  keys other := by
    have kept := asked.holds_le sharing.repository other
    rw [countP_around (fun _ => rfl) fun _ => rfl, countP_between rfl rfl, countP_between rfl rfl]
    by_cases same : key = other
    · subst same
      simp [KeyEvent.calls, absent, held]
      omega
    · simpa [KeyEvent.calls, same] using kept
  arrivals other := by
    rw [countP_around (fun _ => rfl) fun _ => rfl, countP_around (fun _ => rfl) fun _ => rfl,
      countP_around (fun _ => rfl) fun _ => rfl]
    simp [KeyEvent.arrives, KeyEvent.calls, KeyEvent.repeats]
  counters counter member count found := by
    rw [countP_around (fun _ => rfl) fun _ => rfl, asked.duplicates, found]
    rfl
  metrics handle member count bounded found := by
    rw [countP_around (fun _ => rfl) fun _ => rfl, asked.metrics, found]
    simp [KeyEvent.reportsTo, bounded]

theorem metrics_reported (consumer : IdempotentConsumer) (broker : Broker) (handle count : Nat)
    (found : (broker.metrics.get? handle).map (fun held => held.counters.duplicates) =
      some count) :
    ((reported consumer broker).metrics.get? handle).map (fun held => held.counters.duplicates) =
      some (if consumer.metrics = some handle then countUp count else count) := by
  obtain ⟨held, foundHeld, rfl⟩ := Option.map_eq_some_iff.mp found
  unfold reported
  cases kept : consumer.metrics with
  | none => simpa using found
  | some own =>
      dsimp only
      rw [Register.get?_modify, foundHeld]
      by_cases same : own = handle
      · simp [same, Metrics.recordDuplicate]
      · simp [same]

/-- A duplicate is counted. -/
theorem tallied_refused {consumer : IdempotentConsumer} {key : String} (exchange : Exchange)
    {request? : Option RepositoryRequest}
    (asked : Broker.Asked sharing.repository request? before after) :
    sharing.Tallied
      ([.arrived consumer key] ++ Broker.losses sharing.repository request? before ++
        [.repeated consumer key exchange]) before (reported consumer (counted consumer after)) where
  keys other := by
    have kept := asked.holds_le sharing.repository other
    have sameHolds : (reported consumer (counted consumer after)).holds sharing.repository other =
        after.holds sharing.repository other := by
      unfold reported
      cases consumer.metrics <;> rfl
    rw [countP_around (fun _ => rfl) fun _ => rfl, countP_between rfl rfl, countP_between rfl rfl,
      sameHolds]
    simpa [KeyEvent.calls] using kept
  arrivals other := by
    rw [countP_around (fun _ => rfl) fun _ => rfl, countP_around (fun _ => rfl) fun _ => rfl,
      countP_around (fun _ => rfl) fun _ => rfl]
    simp [KeyEvent.arrives, KeyEvent.calls, KeyEvent.repeats]
  counters counter member count found := by
    have sameDuplicates : (reported consumer (counted consumer after)).duplicates =
        after.duplicates.modify consumer.duplicates (· + 1) := by
      unfold reported
      cases consumer.metrics <;> rfl
    rw [countP_around (fun _ => rfl) fun _ => rfl, sameDuplicates, Register.get?_modify,
      asked.duplicates, found]
    by_cases same : consumer.duplicates = counter
    · simp [KeyEvent.countsIn, same]
    · simp [KeyEvent.countsIn, same]
  metrics handle member count bounded found := by
    have foundAfter : ((counted consumer after).metrics.get? handle).map
        (fun held => held.counters.duplicates) = some count := by
      rw [counted, asked.metrics]
      exact found
    rw [countP_around (fun _ => rfl) fun _ => rfl,
      metrics_reported consumer _ handle count foundAfter]
    by_cases same : consumer.metrics = some handle
    · simp [KeyEvent.reportsTo, same, countUp]
    · simp [KeyEvent.reportsTo, same, bounded]

theorem obeys_tellAssess {consumer : IdempotentConsumer} (shares : sharing.Shares consumer)
    (exchange : Exchange) :
    (consumer.tellAssess exchange).Obeys sharing.Tallied Marked.unnoted := by
  intro broker
  unfold IdempotentConsumer.tellAssess
  cases consumer.keyOf exchange with
  | none => exact sharing.additive_tallied.nothing broker
  | some key =>
      obtain ⟨step, accepts, steps⟩ := exists_step_accept shares key
      obtain ⟨asked, claims⟩ := steps broker
      dsimp only
      rw [accepts, shares.repository]
      change ((Marked.announcing _ (Routine.change step)).bind _).ObeysFrom _ _
        [KeyEvent.arrived consumer key] broker broker
      apply Marked.obeysFrom_announcing_bind
      rw [Marked.unnoted, List.append_nil]
      cases isNew : (step broker).1 with
      | true =>
          obtain ⟨absent, held⟩ := claims isNew
          have tallied : sharing.Tallied ([.arrived consumer key] ++
              Broker.losses sharing.repository (consumer.claim? key) broker ++
                [.called consumer key true]) broker (step broker).2 :=
            tallied_admitted asked absent held
          cases exchange.isInUnitOfWork <;> exact tallied
      | false =>
          refine Marked.obeysFrom_quiet_bind (.modify rfl) ?_
          refine Marked.obeysFrom_quiet_bind (ends_count consumer _) ?_
          rw [shares.skip]
          exact tallied_refused _ asked

/-! ## Marks -/

def MarksDuplicate (own : IdempotentConsumer → Prop) : KeyEvent → Prop
  | .repeated consumer _ exchange => own consumer ∧ exchange.flag .duplicateMessage = true
  | _ => True

theorem marksDuplicate_losses {own : IdempotentConsumer → Prop} {handle : Nat}
    {request? : Option RepositoryRequest} (broker : Broker) :
    ∀ event ∈ Broker.losses handle request? broker, MarksDuplicate own event := by
  intro event member
  unfold Broker.losses at member
  cases found : broker.repositories.get? handle with
  | none =>
      rw [found] at member
      contradiction
  | some held =>
      rw [found] at member
      cases request? with
      | none => contradiction
      | some request =>
          rcases List.mem_append.mp member with listed | listed
          · obtain ⟨key, _, rfl⟩ := List.mem_map.mp listed
            trivial
          · obtain ⟨key, _, rfl⟩ := List.mem_map.mp listed
            trivial

theorem eachMark_tellAssess {own : IdempotentConsumer → Prop} {consumer : IdempotentConsumer}
    (owned : own consumer) (exchange : Exchange) :
    (consumer.tellAssess exchange).EachMark (MarksDuplicate own) := by
  unfold IdempotentConsumer.tellAssess
  cases consumer.keyOf exchange with
  | none => trivial
  | some key =>
      refine ⟨trivial, ?_⟩
      refine (Marked.eachMark_announcing _ fun broker => marksDuplicate_losses broker).bind ?_
      intro isNew _
      cases isNew with
      | true =>
          refine ⟨trivial, ?_⟩
          cases exchange.isInUnitOfWork <;> trivial
      | false =>
          have marked : (exchange.put .duplicateMessage (.bool true)).flag .duplicateMessage = true :=
            Exchange.flag_of_known (by simp)
          refine Marked.eachMark_lift_bind fun _ _ => ?_
          refine Marked.eachMark_lift_bind fun _ _ => ?_
          refine ⟨⟨owned, marked⟩, ?_⟩
          cases consumer.options.skipDuplicate with
          | true => trivial
          | false => exact ⟨trivial, trivial⟩

theorem eachMark_tell {own : IdempotentConsumer → Prop} (handle : Nat)
    (request : RepositoryRequest) : (request.tell handle).EachMark (MarksDuplicate own) :=
  Marked.eachMark_announcing _ marksDuplicate_losses

theorem eachMark_observeCarryOut {own : IdempotentConsumer → Prop} (exchange : Exchange)
    (completion : Completion) :
    (completion.observeCarryOut exchange).EachMark (MarksDuplicate own) := by
  have silent : ∀ broker : Broker, ∀ event ∈ ([] : List KeyEvent), MarksDuplicate own event :=
    fun _ _ impossible => absurd impossible List.not_mem_nil
  cases completion with
  | settleKey =>
      exact (Marked.eachMark_announcing _ marksDuplicate_losses).bind fun _ _ =>
        ⟨trivial, trivial⟩
  | note => exact (Marked.eachMark_announcing _ silent).bind fun _ _ => trivial
  | record => exact (Marked.eachMark_announcing _ silent).bind fun _ _ => trivial
  | releaseItem => exact (Marked.eachMark_announcing _ silent).bind fun _ _ => trivial

/-! ## Every run -/

/-- What is known of the exchanges that passed through consumers of a sharing. The steps behind them
are called with a key once, and once more for each time that the repository gave it up or evicted
it; with every other arrival a duplicate is found. The counts of duplicates together grow by their
number. Metrics count the duplicates of the consumers that keep them, as far as they can count, and
those that all consumers keep count all of them. -/
structure Deduplicated (sharing : Sharing) (own : IdempotentConsumer → Prop)
    (events : List KeyEvent) (before after : Broker) : Prop where
  bounded : ∀ key, events.countP (KeyEvent.calls key) ≤
    1 + events.countP (KeyEvent.releases sharing.repository key) +
      events.countP (KeyEvent.evicts sharing.repository key)
  others : ∀ key, events.countP (KeyEvent.arrives key) =
    events.countP (KeyEvent.calls key) + events.countP (KeyEvent.repeats key)
  marked : ∀ consumer key exchange, .repeated consumer key exchange ∈ events →
    exchange.flag .duplicateMessage = true
  counted : (∀ counter ∈ sharing.counters, (before.duplicates.get? counter).isSome) →
    (sharing.counters.map after.duplicates.getD).sum =
      (sharing.counters.map before.duplicates.getD).sum + events.countP KeyEvent.isDuplicate
  reported : ∀ handle ∈ sharing.metrics, ∀ count ≤ Text.maxU64,
    (before.metrics.get? handle).map (fun held => held.counters.duplicates) = some count →
      (after.metrics.get? handle).map (fun held => held.counters.duplicates) =
        some (min (count + events.countP (KeyEvent.reportsTo handle)) Text.maxU64)
  common : ∀ handle, (∀ consumer, own consumer → consumer.metrics = some handle) →
    events.countP (KeyEvent.reportsTo handle) = events.countP KeyEvent.isDuplicate

theorem sum_indicators (counter : Nat) (counters : List Nat) :
    (counters.map fun other => if counter == other then 1 else 0).sum = counters.count counter := by
  induction counters with
  | nil => rfl
  | cons other rest inductionHypothesis =>
      rw [List.map_cons, List.sum_cons, inductionHypothesis, List.count_cons, Nat.add_comm,
        Bool.beq_comm]

/-- Each duplicate is counted by exactly one of the counters. -/
theorem sum_countP_countsIn {own : IdempotentConsumer → Prop}
    (shares : ∀ consumer, own consumer → sharing.Shares consumer) {events : List KeyEvent}
    (marks : ∀ event ∈ events, MarksDuplicate own event) :
    (sharing.counters.map fun counter => events.countP (KeyEvent.countsIn counter)).sum =
      events.countP KeyEvent.isDuplicate := by
  induction events with
  | nil => simp
  | cons event rest inductionHypothesis =>
      have others := inductionHypothesis fun other member =>
        marks other (List.mem_cons_of_mem _ member)
      have now : (sharing.counters.map fun counter =>
          if KeyEvent.countsIn counter event then 1 else 0).sum =
            if event.isDuplicate then 1 else 0 := by
        cases event with
        | repeated consumer key exchange =>
            have owned := (marks _ List.mem_cons_self).1
            have once := List.count_eq_one_of_mem sharing.distinct (shares consumer owned).counter
            exact (sum_indicators consumer.duplicates sharing.counters).trans once
        | _ => simp [KeyEvent.countsIn, KeyEvent.isDuplicate]
      simp only [List.countP_cons]
      rw [List.sum_map_add, others, now]

theorem deduplicated_of_tallied {own : IdempotentConsumer → Prop}
    (shares : ∀ consumer, own consumer → sharing.Shares consumer) {events : List KeyEvent}
    (tallied : sharing.Tallied events before after)
    (marks : ∀ event ∈ events, MarksDuplicate own event) :
    sharing.Deduplicated own events before after where
  bounded key := by
    have keys := tallied.keys key
    have atMostOne := after.holds_le_one sharing.repository key
    omega
  others := tallied.arrivals
  marked consumer key exchange member := (marks _ member).2
  counted valid := by
    rw [← sum_countP_countsIn shares marks, ← List.sum_map_add]
    congr 1
    apply List.map_congr_left
    intro counter member
    obtain ⟨count, found⟩ := Option.isSome_iff_exists.mp (valid counter member)
    rw [Register.getD, Register.getD, tallied.counters counter member count found, found]
    rfl
  reported := tallied.metrics
  common handle keeps := by
    apply List.countP_congr
    intro event member
    cases event with
    | repeated consumer key exchange =>
        have owned := (marks _ member).1
        simp [KeyEvent.reportsTo, KeyEvent.isDuplicate, keeps consumer owned]
    | _ => rfl

/-- Exchanges pass through consumers of a sharing side by side, however they interleave, and steps turn
to the repository in between: what they do can be told, and is deduplicated however it is told. -/
theorem deduplicated_of_runs {own : IdempotentConsumer → Prop}
    (shares : ∀ consumer, own consumer → sharing.Shares consumer) (broker : Broker) :
    (∀ ensemble : Ensemble Broker Exchange,
      Ensemble.Runs (Processor.Begins own sharing.latitude fun _ => True) sharing.Apart
          { state := broker } ensemble →
        ∃ chronicle : Chronicle KeyEvent Broker Exchange,
          Chronicle.Runs Marked.unnoted
              (Processor.BeginsTold own sharing.latitude fun _ => True) sharing.Apart
              { state := broker } chronicle ∧
            chronicle.ensemble = ensemble) ∧
      ∀ chronicle : Chronicle KeyEvent Broker Exchange,
        Chronicle.Runs Marked.unnoted
            (Processor.BeginsTold own sharing.latitude fun _ => True) sharing.Apart
            { state := broker } chronicle →
          sharing.Deduplicated own chronicle.history broker chronicle.state := by
  refine ⟨fun ensemble => Processor.exists_told_of_runs Marked.unnoted, ?_⟩
  intro chronicle told
  have tallied : sharing.Tallied chronicle.history broker chronicle.state := by
    refine Chronicle.law_of_runs sharing.additive_tallied ?_ (fun _ _ => Apart.tallied) told
    rintro marked ⟨exchange, routine, _, tells⟩
    exact tells.obeys sharing.additive_tallied Apart.tallied
      (fun consumer owned => obeys_tellAssess (shares consumer owned))
      (fun handle _ => obeys_tell handle) obeys_observeCarryOut
  have marks : ∀ event ∈ chronicle.history, MarksDuplicate own event := by
    refine Chronicle.each_of_runs (fun _ _ _ impossible => absurd impossible List.not_mem_nil) ?_
      told
    rintro marked ⟨exchange, routine, _, tells⟩
    exact tells.eachMark (fun consumer => eachMark_tellAssess) (fun handle _ => eachMark_tell handle)
      eachMark_observeCarryOut
  exact deduplicated_of_tallied shares tallied marks

/-! ## Two consumers of a small repository -/

/-- Two consumers that share a repository with room for one key. -/
def pair : Sharing where
  repository := 0
  counters := [0, 1]
  metrics := [0]
  distinct := by decide

/-- A consumer of the pair, by the ids of messages, in front of a step that takes its time. -/
def pairing (counter : Nat) : IdempotentConsumer where
  key exchange := some (.text exchange.inbound.id)
  repository := 0
  duplicates := counter
  metrics := some 0
  inner := Polling.pausing

def carrying (message : String) : Exchange where
  id := ⟨0⟩
  context := default
  inbound := { id := message }

def paired : Broker where
  repositories := ⟨[.new 1]⟩
  duplicates := ⟨[0, 0]⟩
  metrics := ⟨[{}]⟩

/-- One exchange is on its way when another one with its key arrives, in a unit of work. A third one
with a new key displaces that key, with which a fourth one comes. -/
def displaced : Ensemble Broker Exchange :=
  let first := Ensemble.start ((pairing 0).toProcessor.invoke (carrying "a")) { state := paired }
  let second := first.start ((pairing 1).toProcessor.inUnitOfWork.invoke (carrying "a"))
  let third := second.start ((pairing 1).toProcessor.inUnitOfWork.invoke (carrying "b"))
  let fourth := third.start ((pairing 0).toProcessor.invoke (carrying "a"))
  fourth.goOn 0

theorem shares_pairing {counter : Nat} (known : counter ∈ [0, 1]) :
    pair.Shares (pairing counter) where
  repository := rfl
  eager := rfl
  skip := rfl
  counter := known

def Pairs (consumer : IdempotentConsumer) : Prop :=
  ∃ counter ∈ [0, 1], consumer = pairing counter

theorem arranged_pairing {counter : Nat} (known : counter ∈ [0, 1]) :
    (pairing counter).toProcessor.Arranged Pairs (Processor.Within pair.latitude) :=
  .consumer ⟨counter, known, rfl⟩
    (.single (Processor.within_of_respects (fun _ _ => fun _ => trivial) fun _ _ _ => trivial))

theorem runs_displaced : Ensemble.Runs (Processor.Begins Pairs pair.latitude fun _ => True)
    pair.Apart { state := paired } displaced := by
  have alone : ∀ counter ∈ [0, 1], ∀ message,
      Processor.Begins Pairs pair.latitude (fun _ => True)
        ((pairing counter).toProcessor.invoke (carrying message)) :=
    fun counter known message => ⟨_, _, arranged_pairing known, trivial, rfl⟩
  have inside : ∀ counter ∈ [0, 1], ∀ message,
      Processor.Begins Pairs pair.latitude (fun _ => True)
        ((pairing counter).toProcessor.inUnitOfWork.invoke (carrying message)) :=
    fun counter known message => ⟨_, _, (arranged_pairing known).inUnitOfWork, trivial, rfl⟩
  exact .tail (.tail (.tail (.tail (.single (.start (alone 0 (by decide) "a")))
    (.start (inside 1 (by decide) "a"))) (.start (inside 1 (by decide) "b")))
    (.start (alone 0 (by decide) "a"))) (.goOn 0)

def displacedTold : Chronicle KeyEvent Broker Exchange :=
  let inside (message : String) : Marked KeyEvent Broker Exchange :=
    ((pairing 1).tellPass (carrying message).enterUnitOfWork).bind Exchange.tellEnd
  let first := Chronicle.start Marked.unnoted ((pairing 0).tellPass (carrying "a"))
    { state := paired }
  let second := first.start Marked.unnoted (inside "a")
  let third := second.start Marked.unnoted (inside "b")
  let fourth := third.start Marked.unnoted ((pairing 0).tellPass (carrying "a"))
  fourth.goOn Marked.unnoted 0

theorem runs_displacedTold :
    Chronicle.Runs Marked.unnoted (Processor.BeginsTold Pairs pair.latitude fun _ => True)
      pair.Apart { state := paired } displacedTold := by
  have passes {counter : Nat} (known : counter ∈ [0, 1]) (exchange : Exchange) :
      Tells Pairs pair.latitude exchange id ((pairing counter).toProcessor.invoke exchange)
        ((pairing counter).tellPass exchange) :=
    (pairing counter).tells_tellPass ⟨counter, known, rfl⟩ (fun _ _ _ => trivial)
      (fun _ _ _ => trivial) exchange
  have alone (message : String) : Processor.BeginsTold Pairs pair.latitude (fun _ => True)
      ((pairing 0).tellPass (carrying message)) :=
    ⟨_, _, trivial, passes (by decide) _⟩
  have inside (message : String) : Processor.BeginsTold Pairs pair.latitude (fun _ => True)
      (((pairing 1).tellPass (carrying message).enterUnitOfWork).bind Exchange.tellEnd) :=
    ⟨_, _, trivial, .bind (passes (by decide) _) fun _ _ => .finish⟩
  exact .tail (.tail (.tail (.tail (.single (.start (alone "a"))) (.start (inside "a")))
    (.start (inside "b"))) (.start (alone "a"))) (.goOn 0)

/-- The steps are called twice with the first key, which was evicted once. -/
theorem deduplicated_of_runs_displaced :
    displaced.state.duplicates.items = [0, 1] ∧
      (∃ chronicle : Chronicle KeyEvent Broker Exchange, chronicle.ensemble = displaced ∧
        pair.Deduplicated Pairs chronicle.history paired displaced.state ∧
        chronicle.history.countP KeyEvent.isDuplicate = 1) ∧
      displacedTold.history =
        [.arrived (pairing 0) "a", .called (pairing 0) "a" true, .arrived (pairing 1) "a",
          .repeated (pairing 1) "a"
            ((carrying "a").enterUnitOfWork.put .duplicateMessage (.bool true)),
          .arrived (pairing 1) "b", .evicted 0 "a", .called (pairing 1) "b" true,
          .arrived (pairing 0) "a", .evicted 0 "b", .called (pairing 0) "a" true,
          .settled 0 "a" {} true] ∧
      pair.Deduplicated Pairs displacedTold.history paired displacedTold.state := by
  have shares : ∀ consumer, Pairs consumer → pair.Shares consumer := by
    rintro _ ⟨counter, known, rfl⟩
    exact shares_pairing known
  obtain ⟨telling, deduplicating⟩ := deduplicated_of_runs shares paired
  obtain ⟨chronicle, told, same⟩ := telling displaced runs_displaced
  have deduplicated := deduplicating chronicle told
  have reached : chronicle.state = displaced.state := congrArg Ensemble.state same
  rw [reached] at deduplicated
  refine ⟨rfl, ⟨chronicle, same, deduplicated, ?_⟩, rfl,
    deduplicating displacedTold runs_displacedTold⟩
  have counted := deduplicated.counted (by decide)
  have before : (pair.counters.map paired.duplicates.getD).sum = 0 := rfl
  have after : (pair.counters.map displaced.state.duplicates.getD).sum = 1 := rfl
  omega

end Sharing

end MessageRouting
