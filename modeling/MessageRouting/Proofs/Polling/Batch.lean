import MessageRouting.Polling.Consumer
import MessageRouting.Proofs.Engine.Advance
import MessageRouting.Proofs.Exchange.Bookkeeping
import MessageRouting.Proofs.UnitOfWork.Firing

/-!
# The steps of a poll

A poll claims a batch, makes an exchange for each item of it and closes that
exchange after it was routed. Each of these happens at once. They are described
by what the claims and the source are like before and after; what the routing in
between does to a source is to put further items on offer.
-/

namespace MessageRouting

namespace Completion

def released? (claims : Nat) : Completion → Option String
  | releaseItem register key => if register = claims then some key else none
  | _ => none

end Completion

namespace Exchange

def releases (claims : Nat) (exchange : Exchange) : List String :=
  exchange.pending.filterMap (Completion.released? claims)

/-- The exchange says which item of how many it is, and whether it is the last. -/
structure Stamped (exchange : Exchange) (place total : Nat) : Prop where
  index : exchange.known? .batchIndex = some (.ofNat place)
  size : exchange.known? .batchSize = some (.ofNat total)
  complete : exchange.known? .batchComplete = some (.bool (place + 1 == total))

theorem releases_of_unbegun {exchange : Exchange} (unbegun : exchange.unitOfWork = none)
    (claims : Nat) : exchange.releases claims = [] := by
  unfold releases pending
  rw [unbegun]
  rfl

theorem releases_congr {before after : Exchange} (same : after.unitOfWork = before.unitOfWork)
    (claims : Nat) : after.releases claims = before.releases claims := by
  rw [releases, releases, pending_congr same]

@[simp]
theorem releases_addCompletion (exchange : Exchange) (completion : Completion) (claims : Nat) :
    (exchange.addCompletion completion).releases claims =
      exchange.releases claims ++ (completion.released? claims).toList := by
  unfold releases
  rw [pending_addCompletion, List.filterMap_append]
  cases found : completion.released? claims <;> simp [found]

@[simp]
theorem releases_enterUnitOfWork (exchange : Exchange) (claims : Nat) :
    exchange.enterUnitOfWork.releases claims = exchange.releases claims := by
  unfold releases
  rw [pending_enterUnitOfWork]

@[simp]
theorem known?_addCompletion (exchange : Exchange) (completion : Completion)
    (property : Property) :
    (exchange.addCompletion completion).known? property = exchange.known? property :=
  rfl

end Exchange

namespace PollingConsumer

/-! ## Putting a batch together -/

section Batch

variable {limit taken : Nat} {claims : List String} {items : List PolledItem}

theorem claimBatch_claims :
    (claimBatch limit taken claims items).2 =
      claims ++ (claimBatch limit taken claims items).1.map PolledItem.key := by
  fun_induction claimBatch limit taken claims items with
  | case1 => simp
  | case2 => simp
  | case3 taken claims item rest _ _ inductionHypothesis => exact inductionHypothesis
  | case4 taken claims item rest _ _ batch after made inductionHypothesis =>
      rw [made] at inductionHypothesis
      simpa using inductionHypothesis

theorem claimBatch_sublist : (claimBatch limit taken claims items).1.Sublist items := by
  fun_induction claimBatch limit taken claims items with
  | case1 => simp
  | case2 => simp
  | case3 taken claims item rest _ _ inductionHypothesis => exact inductionHypothesis.cons item
  | case4 taken claims item rest _ _ batch after made inductionHypothesis =>
      rw [made] at inductionHypothesis
      exact inductionHypothesis.cons_cons item

/-- No key is claimed twice. -/
theorem claimBatch_nodup (distinct : claims.Nodup) :
    (claimBatch limit taken claims items).2.Nodup := by
  fun_induction claimBatch limit taken claims items with
  | case1 => exact distinct
  | case2 => exact distinct
  | case3 taken claims item rest _ _ inductionHypothesis => exact inductionHypothesis distinct
  | case4 taken claims item rest _ unclaimed batch after made inductionHypothesis =>
      rw [made] at inductionHypothesis
      apply inductionHypothesis
      have unclaimed : item.key ∉ claims := by simpa using unclaimed
      have apart : ∀ key ∈ claims, ∀ other ∈ [item.key], key ≠ other := by
        rintro key member other alone rfl
        rw [List.mem_singleton.mp alone] at member
        exact unclaimed member
      exact List.nodup_append.mpr ⟨distinct, List.pairwise_singleton _ _, apart⟩

theorem length_claimBatch_le (positive : 0 < limit) (within : taken ≤ limit) :
    taken + (claimBatch limit taken claims items).1.length ≤ limit := by
  fun_induction claimBatch limit taken claims items with
  | case1 => simpa using within
  | case2 => simpa using within
  | case3 taken claims item rest _ _ inductionHypothesis => exact inductionHypothesis within
  | case4 taken claims item rest room _ batch after made inductionHypothesis =>
      rw [made] at inductionHypothesis
      have room : taken ≠ limit := fun full => room ⟨positive, full⟩
      have bounded : taken + 1 + batch.length ≤ limit := inductionHypothesis (by omega)
      rw [List.length_cons]
      omega

/-- An item whose key is not claimed is left behind only by a batch that is full. -/
theorem claimBatch_takes {item : PolledItem} (offered : item ∈ items)
    (unclaimed : item.key ∉ claims) :
    item.key ∈ (claimBatch limit taken claims items).1.map PolledItem.key ∨
      0 < limit ∧ taken + (claimBatch limit taken claims items).1.length = limit := by
  fun_induction claimBatch limit taken claims items with
  | case1 => contradiction
  | case2 taken claims other rest full => exact .inr (by simpa using full)
  | case3 taken claims other rest _ claimed inductionHypothesis =>
      rcases List.mem_cons.mp offered with rfl | later
      · exact absurd (by simpa using claimed) unclaimed
      · exact inductionHypothesis later unclaimed
  | case4 taken claims other rest _ _ batch after made inductionHypothesis =>
      rw [made] at inductionHypothesis
      by_cases same : item.key = other.key
      · exact .inl (by simp [same])
      · have later : item ∈ rest := by
          rcases List.mem_cons.mp offered with rfl | later
          · exact absurd rfl same
          · exact later
        have unclaimed : item.key ∉ claims ++ [other.key] := by simp [unclaimed, same]
        rcases inductionHypothesis later unclaimed with found | ⟨positive, full⟩
        · exact .inl (List.mem_cons_of_mem _ found)
        · have full : taken + 1 + batch.length = limit := full
          refine .inr ⟨positive, ?_⟩
          rw [List.length_cons]
          omega

end Batch

/-! ## What the broker shows of a consumer -/

variable (consumer : PollingConsumer)

/-- The broker holds these claims and this source for the consumer. -/
structure Shows (broker : Broker) (claims : List String) (source : PollSource) : Prop where
  claims : broker.claims.get? consumer.claims = some claims
  source : broker.sources.get? consumer.source = some source

/-- The keys of the items that the second broker has on offer behind those of the first. -/
def added (before after : Broker) : List String :=
  ((after.sources.getD consumer.source).items.drop
    (before.sources.getD consumer.source).items.length).map PolledItem.key

/-- The claims stay as they are, and the source has at most further items on offer. -/
structure Leaves (before after : Broker) : Prop where
  claims : after.claims.get? consumer.claims = before.claims.get? consumer.claims
  source : ∀ source, before.sources.get? consumer.source = some source →
    ∃ pushed, after.sources.get? consumer.source =
      some { source with items := source.items ++ pushed }

/-- The broker with another item on offer. -/
def push (key : String) (message : Message) (broker : Broker) : Broker :=
  { broker with sources := broker.sources.modify consumer.source fun source =>
      source.push key message }

variable {consumer} {broker after : Broker} {claims : List String} {source : PollSource}

theorem added_of_sources (same : after.sources = broker.sources) :
    consumer.added broker after = [] := by
  simp [added, same]

theorem Shows.getD_source (shows : consumer.Shows broker claims source) :
    broker.sources.getD consumer.source = source := by
  rw [Register.getD, shows.source]
  rfl

theorem Shows.getD_claims (shows : consumer.Shows broker claims source) :
    broker.claims.getD consumer.claims = claims := by
  rw [Register.getD, shows.claims]
  rfl

theorem Shows.congr (shows : consumer.Shows broker claims source)
    (sameClaims : after.claims = broker.claims) (sameSources : after.sources = broker.sources) :
    consumer.Shows after claims source :=
  ⟨sameClaims ▸ shows.claims, sameSources ▸ shows.source⟩

theorem Shows.modified (change : PollSource → PollSource)
    (shows : consumer.Shows broker claims source) :
    consumer.Shows { broker with sources := broker.sources.modify consumer.source change } claims
      (change source) := by
  refine ⟨shows.claims, ?_⟩
  rw [Register.get?_modify, if_pos rfl, shows.source]
  rfl

theorem Shows.left (shows : consumer.Shows broker claims source)
    (leaves : consumer.Leaves broker after) :
    ∃ pushed, consumer.Shows after claims { source with items := source.items ++ pushed } ∧
      pushed.map PolledItem.key = consumer.added broker after := by
  obtain ⟨pushed, found⟩ := leaves.source source shows.source
  have shown : consumer.Shows after claims { source with items := source.items ++ pushed } :=
    ⟨leaves.claims.trans shows.claims, found⟩
  refine ⟨pushed, shown, ?_⟩
  rw [added, shows.getD_source, shown.getD_source, List.drop_left]

/-- Further items may be put on offer at any time. -/
theorem leaves_push (broker : Broker) (key : String) (message : Message) :
    consumer.Leaves broker (consumer.push key message broker) := by
  refine ⟨rfl, ?_⟩
  intro source found
  refine ⟨[⟨key, message⟩], ?_⟩
  rw [push, Register.get?_modify, if_pos rfl, found]
  rfl

/-- Up to its next suspension, a routine that leaves the claims and the source to the consumer does
no more than put the items on offer that are noted. -/
theorem Shows.advanced {α : Type} {routine : Routine Broker α}
    (shows : consumer.Shows broker claims source)
    (respects : routine.Respects consumer.Leaves broker) :
    ∃ pushed, consumer.Shows (routine.advance broker).2 claims
        { source with items := source.items ++ pushed } ∧
      pushed.map PolledItem.key = routine.changes consumer.added broker := by
  induction routine generalizing broker source with
  | done value => exact ⟨[], by simpa [Routine.advance] using shows, rfl⟩
  | get body inductionHypothesis => exact inductionHypothesis broker shows respects
  | put middle body inductionHypothesis =>
      obtain ⟨first, between, firstKeys⟩ := shows.left respects.1
      obtain ⟨second, shown, secondKeys⟩ := inductionHypothesis between respects.2
      refine ⟨first ++ second, ?_, ?_⟩
      · rw [← List.append_assoc]
        exact shown
      · rw [List.map_append, firstKeys, secondKeys]
        rfl
  | sleep span body => exact ⟨[], by simpa [Routine.advance] using shows, rfl⟩

/-! ## The steps -/

/-- Claiming a batch is possible at any time and changes the claims only. -/
theorem ends_claim (shows : consumer.Shows broker claims source) (memory : source.mode = .memory) :
    ∃ after,
      consumer.claim.EndsQuietly consumer.added broker
        (.ok (claimBatch consumer.config.maximumItems 0 claims source.items).1) after ∧
      consumer.Shows after (claimBatch consumer.config.maximumItems 0 claims source.items).2
        source := by
  have offered : (broker.sources.getD consumer.source).poll = .ok source.items := by
    rw [shows.getD_source, PollSource.poll, memory]
  have taken : consumer.claim.EndsQuietly consumer.added broker _ _ := .change (by
    simp [offered, added])
  simp only [offered, shows.getD_claims] at taken
  refine ⟨_, taken, ?_, shows.source⟩
  simp [Register.get?_modify, shows.claims]

section

variable {ν : Type} (note : Broker → Broker → List ν)

theorem ends_newExchange (pattern : Pattern) (broker : Broker)
    (quiet : ∀ {before after : Broker}, after.sources = before.sources → note before after = []) :
    ∃ exchange after,
      (Broker.newExchange pattern).EndsQuietly note broker exchange after ∧
      after.claims = broker.claims ∧ after.sources = broker.sources ∧
      exchange.unitOfWork = none := by
  refine ⟨_, _, .bind .look (.bind (.change ?_) (.bind (.bind (.change ?_) .done)
    (.bind (.change ?_) .done))), rfl, rfl, rfl⟩
  · exact quiet rfl
  · exact quiet rfl
  · exact quiet rfl

/-- Making the exchange of an item leaves the claims and the source as they are. -/
theorem makes_exchangeFor (consumer : PollingConsumer) (index total : Nat) (item : PolledItem)
    (broker : Broker)
    (quiet : ∀ {before after : Broker}, after.sources = before.sources → note before after = []) :
    ∃ exchange after,
      (consumer.exchangeFor index total item).EndsQuietly note broker exchange after ∧
      after.claims = broker.claims ∧ after.sources = broker.sources ∧
      exchange.isInUnitOfWork = false ∧
      exchange.releases consumer.claims = [item.key] ∧
      exchange.Stamped index total := by
  obtain ⟨exchange, after, made, sameClaims, sameSources, unbegun⟩ :=
    ends_newExchange note .inOnly broker quiet
  refine ⟨_, after, made.bind .done, sameClaims, sameSources, ?_, ?_, ?_⟩
  · rw [Exchange.isInUnitOfWork_addCompletion]
    exact congrArg (Option.any UnitOfWork.isActive) unbegun
  · rw [Exchange.releases_addCompletion]
    have nothing : exchange.releases consumer.claims = [] := Exchange.releases_of_unbegun unbegun _
    have own : (Completion.releaseItem consumer.claims item.key).released? consumer.claims =
        some item.key := if_pos rfl
    rw [own]
    exact congrArg (· ++ [item.key]) nothing
  · constructor
    · simp
    · simp
    · simp

end

variable {index total : Nat} {item : PolledItem}

theorem ends_exchangeFor (shows : consumer.Shows broker claims source) :
    ∃ exchange after,
      (consumer.exchangeFor index total item).EndsQuietly consumer.added broker exchange after ∧
      consumer.Shows after claims source ∧
      exchange.isInUnitOfWork = false ∧
      exchange.releases consumer.claims = [item.key] ∧
      exchange.Stamped index total := by
  obtain ⟨exchange, after, made, sameClaims, sameSources, others⟩ :=
    makes_exchangeFor consumer.added consumer index total item broker added_of_sources
  exact ⟨exchange, after, made, shows.congr sameClaims sameSources, others⟩

/-! ## The end of an item -/

def withoutKeys (keys claims : List String) : List String :=
  claims.filter fun key => !keys.contains key

@[simp]
theorem withoutKeys_nil : withoutKeys [] claims = claims := by
  simp [withoutKeys]

theorem withoutKeys_singleton (key : String) :
    withoutKeys [key] claims = claims.filter fun other => other != key := by
  apply List.filter_congr
  intro other _
  rw [Bool.eq_iff_iff]
  simp

theorem withoutKeys_append (first second : List String) :
    withoutKeys (first ++ second) claims = withoutKeys second (withoutKeys first claims) := by
  simp [withoutKeys, List.filter_filter, Bool.and_comm]

/-- A key that was claimed once and is released leaves the others. -/
theorem withoutKeys_perm {key : String} {rest : List String} (claimed : claims.Perm (key :: rest))
    (apart : key ∉ rest) : (withoutKeys [key] claims).Perm rest := by
  have kept : (rest.filter fun other => other != key) = rest := by
    apply List.filter_eq_self.mpr
    intro other member
    simpa using ne_of_mem_of_not_mem member apart
  have left := claimed.filter fun other => other != key
  rw [List.filter_cons_of_neg (by simp), kept] at left
  rw [withoutKeys_singleton]
  exact left

section

variable {ν : Type} (note : Broker → Broker → List ν)

/-- A completion releases its key from the claims, if it has one, and leaves the source as it is. -/
theorem ends_carryOut (completion : Completion) (exchange : Exchange)
    (held : broker.claims.get? consumer.claims = some claims)
    (quiet : ∀ {before after : Broker}, after.sources = before.sources → note before after = []) :
    ∃ after,
      (completion.carryOut exchange).EndsQuietly note broker () after ∧
      after.claims.get? consumer.claims =
        some (withoutKeys (completion.released? consumer.claims).toList claims) ∧
      after.sources = broker.sources := by
  have unreleased : broker.claims.get? consumer.claims = some (withoutKeys [] claims) := by
    rw [withoutKeys_nil, held]
  cases completion with
  | note label movable =>
      rw [Completion.carryOut_note]
      exact ⟨_, .modify (quiet rfl), unreleased, rfl⟩
  | record name movable =>
      rw [Completion.carryOut_record]
      exact ⟨_, .modify (quiet rfl), unreleased, rfl⟩
  | settleKey repository key options =>
      rw [Completion.carryOut_settleKey]
      exact ⟨_, .modify (quiet rfl), unreleased, rfl⟩
  | releaseItem register key =>
      rw [Completion.carryOut_releaseItem]
      refine ⟨_, .modify (quiet rfl), ?_, rfl⟩
      by_cases same : register = consumer.claims
      · subst same
        simp [Register.get?_modify, held, Completion.released?, withoutKeys_singleton]
      · simp [Register.get?_modify, held, Completion.released?, same]

theorem ends_carryOut_all (completions : List Completion) (exchange : Exchange)
    (held : broker.claims.get? consumer.claims = some claims)
    (quiet : ∀ {before after : Broker}, after.sources = before.sources → note before after = []) :
    ∃ after,
      (Routine.forEach completions (Completion.carryOut exchange)).EndsQuietly note broker ()
        after ∧
      after.claims.get? consumer.claims =
        some (withoutKeys (completions.filterMap (Completion.released? consumer.claims)) claims) ∧
      after.sources = broker.sources := by
  induction completions generalizing broker claims with
  | nil => exact ⟨broker, .done, by simpa using held, rfl⟩
  | cons completion rest inductionHypothesis =>
      obtain ⟨middle, first, between, sameFirst⟩ := ends_carryOut note completion exchange held quiet
      obtain ⟨after, others, last, sameOthers⟩ := inductionHypothesis between
      refine ⟨after, first.bind others, ?_, sameOthers.trans sameFirst⟩
      rw [← withoutKeys_append] at last
      cases found : completion.released? consumer.claims <;> simpa [found] using last

/-- The end of a unit of work releases what its completions release. -/
theorem releases_endUnitOfWork (exchange : Exchange)
    (held : broker.claims.get? consumer.claims = some claims)
    (quiet : ∀ {before after : Broker}, after.sources = before.sources → note before after = []) :
    ∃ after,
      exchange.endUnitOfWork.EndsQuietly note broker { exchange with unitOfWork := none } after ∧
      after.claims.get? consumer.claims =
        some (withoutKeys (exchange.releases consumer.claims) claims) ∧
      after.sources = broker.sources := by
  cases begun : exchange.unitOfWork with
  | none =>
      have same : { exchange with unitOfWork := none } = exchange := by rw [← begun]
      refine ⟨broker, ?_, ?_, rfl⟩
      · rw [Exchange.endUnitOfWork, begun, same]
        exact .done
      · rw [Exchange.releases_of_unbegun begun, withoutKeys_nil, held]
  | some unit =>
      obtain ⟨after, ended, left, sameSources⟩ := ends_carryOut_all note unit.completions
        { exchange with unitOfWork := none } held quiet
      refine ⟨after, ?_, ?_, sameSources⟩
      · rw [Exchange.endUnitOfWork, begun]
        exact ended.bind .done
      · rw [Exchange.releases, Exchange.pending, begun]
        exact left

end

def close (consumer : PollingConsumer) (key : String) (exchange : Exchange) :
    Routine Broker Bool := do
  let exchange ← exchange.endUnitOfWork
  consumer.settle (!exchange.isFailed) key
  return exchange.isFailed

theorem ends_endUnitOfWork (exchange : Exchange) (shows : consumer.Shows broker claims source) :
    ∃ after,
      exchange.endUnitOfWork.EndsQuietly consumer.added broker { exchange with unitOfWork := none }
        after ∧
      consumer.Shows after (withoutKeys (exchange.releases consumer.claims) claims) source := by
  obtain ⟨after, ended, left, sameSources⟩ :=
    releases_endUnitOfWork consumer.added exchange shows.claims added_of_sources
  exact ⟨after, ended, left, sameSources ▸ shows.source⟩

theorem length_settle_le (source : PollSource) (succeeded : Bool) (key : String) :
    (source.settle succeeded key).items.length ≤ source.items.length := by
  unfold PollSource.settle
  split
  · exact List.length_filter_le _ _
  · exact Nat.le_refl _

theorem added_of_shorter {claimed : List String} {left : PollSource}
    (shows : consumer.Shows broker claims source) (shown : consumer.Shows after claimed left)
    (shorter : left.items.length ≤ source.items.length) : consumer.added broker after = [] := by
  rw [added, shows.getD_source, shown.getD_source, List.drop_of_length_le shorter]
  rfl

theorem ends_settle (succeeded : Bool) (key : String)
    (shows : consumer.Shows broker claims source) (memory : source.mode = .memory) :
    ∃ after,
      (consumer.settle succeeded key).EndsQuietly consumer.added broker () after ∧
      consumer.Shows after claims (source.settle succeeded key) := by
  have told : (broker.sources.getD consumer.source).settlementNote succeeded key =
      some ((if succeeded then "commit:" else "rollback:") ++ key) := by
    rw [shows.getD_source, PollSource.settlementNote, memory]
  have noted : consumer.Shows
      { broker with journal :=
          JournalEntry.note ((if succeeded then "commit:" else "rollback:") ++ key) ::
            broker.journal }
      claims source := shows.congr rfl rfl
  have settled := noted.modified fun held => held.settle succeeded key
  refine ⟨_, ?_, settled⟩
  have quiet := added_of_shorter noted settled (length_settle_le source succeeded key)
  refine .bind .look ?_
  rw [told]
  exact .bind (.modify (added_of_sources rfl)) (.modify quiet)

/-- The end of an item releases its key and takes it off the source unless it failed. -/
theorem ends_close {key : String} {exchange : Exchange}
    (shows : consumer.Shows broker claims source) (memory : source.mode = .memory)
    (releases : exchange.releases consumer.claims = [key]) :
    ∃ after,
      (consumer.close key exchange).EndsQuietly consumer.added broker exchange.isFailed after ∧
      consumer.Shows after (withoutKeys [key] claims)
        (source.settle (!exchange.isFailed) key) := by
  obtain ⟨middle, ended, between⟩ := ends_endUnitOfWork exchange shows
  obtain ⟨after, settled, shown⟩ := ends_settle (!exchange.isFailed) key between memory
  rw [releases] at shown
  exact ⟨after, ended.bind (settled.bind .done), shown⟩

end PollingConsumer

end MessageRouting
