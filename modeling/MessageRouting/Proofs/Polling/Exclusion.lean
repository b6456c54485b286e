import MessageRouting.Proofs.Polling.Interleaving

/-!
# No item is routed twice

Whatever order the polls of a consumer go on in, the claims are on exactly the
keys that some poll holds, and an item that ended and did not fail is off its
source for good. Each step of a poll keeps this up as long as the keys that are
put on offer are fresh.
-/

namespace MessageRouting

/-! ## The keys that polls hold -/

section

variable {polls : List Poll} {number : Nat} {poll : Poll}

theorem split_of_found (found : polls[number]? = some poll) (later : Poll) :
    ∃ before after, polls = before ++ poll :: after ∧
      polls.set number later = before ++ later :: after := by
  induction polls generalizing number with
  | nil => simp at found
  | cons first rest inductionHypothesis =>
      cases number with
      | zero =>
          obtain rfl := Option.some.inj found
          exact ⟨[], rest, rfl, rfl⟩
      | succ number =>
          obtain ⟨before, after, split, changed⟩ := inductionHypothesis found
          exact ⟨first :: before, after, congrArg (first :: ·) split,
            congrArg (first :: ·) changed⟩

theorem held_set (later : Poll) (found : polls[number]? = some poll)
    (same : later.held = poll.held) :
    (polls.set number later).flatMap Poll.held = polls.flatMap Poll.held := by
  obtain ⟨before, after, split, changed⟩ := split_of_found found later
  rw [changed, split]
  simp [same]

theorem held_perm_of_release {later : Poll} {key : String} (found : polls[number]? = some poll)
    (release : poll.held = key :: later.held) :
    (polls.flatMap Poll.held).Perm (key :: (polls.set number later).flatMap Poll.held) := by
  obtain ⟨before, after, split, changed⟩ := split_of_found found later
  rw [changed, split]
  simp [release]

theorem sound_set {consumer : PollingConsumer} {later : Poll}
    (all : ∀ other ∈ polls, other.Sound consumer) (sound : later.Sound consumer) :
    ∀ other ∈ polls.set number later, other.Sound consumer := by
  intro other found
  rcases List.mem_or_eq_of_mem_set found with before | rfl
  · exact all other before
  · exact sound

end

theorem Record.settled {polls : List Poll} {known : List String} {history : List PollEvent}
    (record : Record polls known history) :
    ∀ key ∈ history.filterMap PollEvent.succeeded?, key ∈ known := by
  intro key member
  obtain ⟨event, found, same⟩ := List.mem_filterMap.mp member
  have offered := record.offered event found
  cases event with
  | began => simp [PollEvent.succeeded?] at same
  | ended number other failed =>
      cases failed with
      | true => simp [PollEvent.succeeded?] at same
      | false =>
          obtain rfl := Option.some.inj same
          exact offered

namespace Polling

variable {consumer : PollingConsumer} {polling next : Polling} {claims : List String}
  {source : PollSource}

/-- The books are kept, and each poll and the record are in order. -/
structure Sound (consumer : PollingConsumer) (polling : Polling) (claims : List String)
    (source : PollSource) : Prop where
  books : Books consumer polling.broker claims source polling.known polling.succeeded polling.held
  polls : ∀ poll ∈ polling.polls, poll.Sound consumer
  record : Record polling.polls polling.known polling.history

namespace Sound

/-! ## The steps of a poll -/

theorem outset {broker : Broker} (shows : consumer.Shows broker [] source)
    (memory : source.mode = .memory) : Sound consumer (outset consumer broker) [] source := by
  refine ⟨⟨shows, memory, .refl _, List.nodup_nil, ?_, ?_⟩, ?_, ⟨?_, ?_, List.Pairwise.nil, ?_⟩⟩
  · rw [Polling.outset, shows.getD_source]
    exact (List.filter_eq_self.mpr (by simp [succeeded])).symm
  · simp [Polling.outset, held]
  · simp [Polling.outset]
  · simp [Polling.outset]
  · simp [Polling.outset, begunBy]
  · simp [Polling.outset]

theorem claim {batch : List PolledItem} {after : Broker}
    (sound : Sound consumer polling claims source)
    (claimed : consumer.claim.advance polling.broker = (.finished (.ok batch), after)) :
    ∃ claims, Sound consumer
      { polling with broker := after, polls := polling.polls ++ [{ batch := batch }] }
      claims source := by
  obtain ⟨later, ends, shown⟩ := PollingConsumer.ends_claim sound.books.shows sound.books.memory
  obtain ⟨same, rfl⟩ := Prod.mk.inj (ends.advance.symm.trans claimed)
  obtain rfl := Except.ok.inj (Routine.Progress.finished.inj same)
  have books := sound.books.claim shown
  have taken : Poll.Sound consumer
      ⟨(PollingConsumer.claimBatch consumer.config.maximumItems 0 claims source.items).1, 0,
        none⟩ := by
    refine ⟨Nat.zero_le _, ?_, (List.nodup_append.mp books.distinct).2.1, by simp⟩
    intro positive
    rw [← Nat.zero_add (List.length _)]
    exact PollingConsumer.length_claimBatch_le positive (Nat.zero_le _)
  refine ⟨(PollingConsumer.claimBatch consumer.config.maximumItems 0 claims source.items).2,
    ?_, ?_, ?_⟩
  · simpa [held, Poll.held, succeeded] using books
  · intro poll member
    rcases List.mem_append.mp member with before | last
    · exact sound.polls poll before
    · rw [List.mem_singleton.mp last]
      exact taken
  · exact sound.record.follow (follows_append _) (begunBy_append _) (List.Subset.refl _)

theorem begin {number ended : Nat} {batch : List PolledItem} {item : PolledItem}
    {exchange : Exchange} {after : Broker} (routes : consumer.Routes)
    (sound : Sound consumer polling claims source)
    (found : polling.polls[number]? = some ⟨batch, ended, none⟩)
    (foundItem : batch[ended]? = some item)
    (made : (consumer.exchangeFor ended batch.length item).advance polling.broker =
      (.finished exchange, after)) :
    Sound consumer
      { polling with
        broker := after
        polls := polling.polls.set number
          ⟨batch, ended, some (consumer.processor.invoke exchange.enterUnitOfWork)⟩
        history := polling.history ++ [.began number ended item.key exchange.enterUnitOfWork] }
      claims source := by
  obtain ⟨own, later, ends, shown, _, releases, stamped⟩ :=
    PollingConsumer.ends_exchangeFor sound.books.shows
  obtain ⟨same, rfl⟩ := Prod.mk.inj (made.symm.trans ends.advance)
  obtain rfl := Routine.Progress.finished.inj same
  have holds : item.key ∈ polling.held := by
    refine List.mem_flatMap.mpr ⟨_, List.mem_of_getElem? found, ?_⟩
    rw [Poll.held_of_found none foundItem]
    exact List.mem_cons_self
  obtain ⟨offered, unsettled⟩ := sound.books.unsettled item.key holds
  have begun := (sound.polls _ (List.mem_of_getElem? found)).begin routes foundItem releases
  refine ⟨?_, sound_set sound.polls begun, ?_⟩
  · have kept := sound.books.keep shown
    have quiet : [PollEvent.began number ended item.key exchange.enterUnitOfWork].filterMap
        PollEvent.succeeded? = [] := rfl
    rw [held, ← held_set ⟨batch, ended, some _⟩ found rfl] at kept
    rw [succeeded, List.filterMap_append, quiet, List.append_nil]
    exact kept
  · exact sound.record.begin found foundItem ⟨stamped.index, stamped.size, stamped.complete⟩
      unsettled offered

theorem suspend {number ended : Nat} {batch : List PolledItem}
    {routine rest : Routine Broker Exchange} {span : Duration} {after : Broker}
    (sound : Sound consumer polling claims source)
    (found : polling.polls[number]? = some ⟨batch, ended, some routine⟩)
    (waiting : routine.advance polling.broker = (.waiting span rest, after))
    (fresh : (polling.known ++ routine.changes consumer.added polling.broker).Nodup) :
    ∃ source, Sound consumer
      { polling with
        broker := after
        polls := polling.polls.set number ⟨batch, ended, some rest⟩
        known := polling.known ++ routine.changes consumer.added polling.broker }
      claims source := by
  have soundPoll := sound.polls _ (List.mem_of_getElem? found)
  obtain ⟨_, _, leaves, _⟩ := soundPoll.routing routine rfl
  obtain ⟨pushed, shown, keys⟩ := sound.books.shows.advanced (leaves polling.broker)
  rw [waiting] at shown
  rw [← keys] at fresh ⊢
  have books := sound.books.push shown sound.record.settled fresh
  have sameHeld : (polling.polls.set number ⟨batch, ended, some rest⟩).flatMap Poll.held =
      polling.held := held_set _ found rfl
  rw [← sameHeld] at books
  exact ⟨_, books, sound_set sound.polls (soundPoll.suspend waiting),
    sound.record.follow (follows_set found rfl (Nat.le_refl _)) (begunBy_set_same _ found rfl)
      (List.subset_append_left _ _)⟩

theorem finish {number ended : Nat} {batch : List PolledItem} {routine : Routine Broker Exchange}
    {item : PolledItem} {exchange : Exchange} {middle after : Broker} {failed : Bool}
    (sound : Sound consumer polling claims source)
    (found : polling.polls[number]? = some ⟨batch, ended, some routine⟩)
    (foundItem : batch[ended]? = some item)
    (finished : routine.advance polling.broker = (.finished exchange, middle))
    (closed : (consumer.close item.key exchange).advance middle = (.finished failed, after))
    (fresh : (polling.known ++ routine.changes consumer.added polling.broker).Nodup) :
    ∃ claims source, Sound consumer
        { broker := after
          polls := polling.polls.set number ⟨batch, ended + 1, none⟩
          known := polling.known ++ routine.changes consumer.added polling.broker
          history := polling.history ++ [.ended number item.key failed] }
        claims source ∧
      item.key ∉ claims ∧ (item.key ∈ source.items.map PolledItem.key ↔ failed = true) := by
  have soundPoll := sound.polls _ (List.mem_of_getElem? found)
  obtain ⟨other, foundOther, leaves, releases⟩ := soundPoll.routing routine rfl
  obtain rfl := Option.some.inj (foundOther.symm.trans foundItem)
  obtain ⟨pushed, shown, keys⟩ := sound.books.shows.advanced (leaves polling.broker)
  rw [finished] at shown
  rw [← keys] at fresh ⊢
  have books := sound.books.push shown sound.record.settled fresh
  obtain ⟨_, ends, closedShown⟩ := PollingConsumer.ends_close books.shows books.memory
    (releases exchange (Routine.gives_of_finished finished))
  obtain ⟨same, rfl⟩ := Prod.mk.inj (closed.symm.trans ends.advance)
  obtain rfl := Routine.Progress.finished.inj same
  have release : polling.held.Perm (other.key ::
      (polling.polls.set number ⟨batch, ended + 1, none⟩).flatMap Poll.held) :=
    held_perm_of_release found (Poll.held_of_found (some routine) foundItem)
  have holds : other.key ∈ polling.held := release.symm.subset List.mem_cons_self
  obtain ⟨offered, unsettled⟩ := books.unsettled other.key holds
  have record := (sound.record.follow follows_refl (fun _ => rfl)
    (List.subset_append_left polling.known (pushed.map PolledItem.key))).finish exchange.isFailed
      found foundItem unsettled offered
  have closedBooks := books.close number release closedShown
  have settled := closedBooks.settled offered unsettled
  have released : other.key ∉ PollingConsumer.withoutKeys [other.key] claims := by
    simp [PollingConsumer.withoutKeys]
  rw [succeeded, ← List.filterMap_append] at closedBooks
  exact ⟨_, _, ⟨closedBooks, sound_set sound.polls soundPoll.finish, record⟩, released, settled⟩

theorem meanwhile {after : Broker} (sound : Sound consumer polling claims source)
    (leaves : consumer.Leaves polling.broker after)
    (fresh : (polling.known ++ consumer.added polling.broker after).Nodup) :
    ∃ source, Sound consumer
      { polling with
        broker := after
        known := polling.known ++ consumer.added polling.broker after }
      claims source := by
  obtain ⟨pushed, shown, keys⟩ := sound.books.shows.left leaves
  rw [← keys] at fresh ⊢
  exact ⟨_, sound.books.push shown sound.record.settled fresh, sound.polls,
    sound.record.follow follows_refl (fun _ => rfl) (List.subset_append_left _ _)⟩

/-! ## Runs -/

theorem step (routes : consumer.Routes) (sound : Sound consumer polling claims source)
    (step : Step consumer polling next) (fresh : next.known.Nodup) :
    ∃ claims source, Sound consumer next claims source := by
  cases step with
  | claims claimed =>
      obtain ⟨claims, after⟩ := sound.claim claimed
      exact ⟨claims, source, after⟩
  | begins found foundItem made => exact ⟨claims, source, sound.begin routes found foundItem made⟩
  | suspends found waiting =>
      obtain ⟨source, after⟩ := sound.suspend found waiting fresh
      exact ⟨claims, source, after⟩
  | ends found foundItem finished closed =>
      obtain ⟨claims, source, after, _⟩ := sound.finish found foundItem finished closed fresh
      exact ⟨claims, source, after⟩
  | meanwhile leaves =>
      obtain ⟨source, after⟩ := sound.meanwhile leaves fresh
      exact ⟨claims, source, after⟩

theorem runs (routes : consumer.Routes) (sound : Sound consumer polling claims source)
    (runs : Runs consumer polling next) (fresh : next.known.Nodup) :
    ∃ claims source, Sound consumer next claims source := by
  induction runs with
  | refl => exact ⟨claims, source, sound⟩
  | tail _ last inductionHypothesis =>
      obtain ⟨claims, source, before⟩ :=
        inductionHypothesis (fresh.sublist last.known_prefix.sublist)
      exact before.step routes last fresh

/-- The end of an item releases its key, and leaves the item on offer exactly if it failed. -/
theorem ended {number : Nat} {key : String} {failed : Bool}
    (sound : Sound consumer polling claims source) (step : Step consumer polling next)
    (fresh : next.known.Nodup)
    (last : next.history = polling.history ++ [.ended number key failed]) :
    ∃ claims source, consumer.Shows next.broker claims source ∧ key ∉ claims ∧
      (key ∈ source.items.map PolledItem.key ↔ failed = true) := by
  cases step with
  | claims => simp at last
  | begins => simp at last
  | suspends => simp at last
  | ends found foundItem finished closed =>
      obtain ⟨rfl, rfl, rfl⟩ := PollEvent.ended.inj (by simpa using last)
      obtain ⟨claims, source, after, released, settled⟩ :=
        sound.finish found foundItem finished closed fresh
      exact ⟨claims, source, after.books.shows, released, settled⟩
  | meanwhile => simp at last

end Sound

/-! ## What is promised at any moment -/

/-- No item is routed twice: what is promised of the polls of a consumer that has these claims and
this source. At most one exchange is routed for a key at a time. The claims are on the keys of items
that a poll claimed and that have not ended, so that there are none without a poll that still runs.
No batch is larger than the limit, each exchange says which item of its batch it is, and each poll
goes through its batch in order. An item that ended and did not fail is neither on offer nor
claimed, and nothing happens to its key any more. One that failed stays on offer until a later
exchange for it does not fail, and the next poll takes it unless its batch is full. -/
structure Exclusive (consumer : PollingConsumer) (polling : Polling) (claims : List String)
    (source : PollSource) : Prop where
  shows : consumer.Shows polling.broker claims source
  routed : (polling.polls.filterMap Poll.current?).Nodup
  inProgress : claims.Nodup ∧ ∀ key, key ∈ claims ↔ ∃ poll ∈ polling.polls, key ∈ poll.held
  idle : (∀ poll ∈ polling.polls, poll.IsOver) → claims = []
  bounded : 0 < consumer.config.maximumItems →
    ∀ poll ∈ polling.polls, poll.batch.length ≤ consumer.config.maximumItems
  stamped : ∀ number place key exchange,
    PollEvent.began number place key exchange ∈ polling.history →
      ∃ poll item, polling.polls[number]? = some poll ∧ poll.batch[place]? = some item ∧
        item.key = key ∧ exchange.Stamped place poll.batch.length
  order : ∀ number poll, polling.polls[number]? = some poll →
    polling.history.filterMap (PollEvent.place? number) = List.range poll.begun
  settled : ∀ key ∈ polling.succeeded, key ∉ source.items.map PolledItem.key ∧ key ∉ claims
  once : polling.history.Pairwise fun earlier later => earlier.succeeded? ≠ some later.key
  failed : ∀ number key, PollEvent.ended number key true ∈ polling.history →
    key ∈ source.items.map PolledItem.key ∨ key ∈ polling.succeeded
  claimable : ∃ batch after,
    consumer.claim.advance polling.broker = (.finished (.ok batch), after) ∧
      ∀ item ∈ source.items, item.key ∉ claims → item.key ∈ batch.map PolledItem.key ∨
        0 < consumer.config.maximumItems ∧ batch.length = consumer.config.maximumItems

theorem current_sublist (poll : Poll) : poll.current?.toList.Sublist poll.held := by
  obtain ⟨batch, ended, routing⟩ := poll
  unfold Poll.current?
  cases routing with
  | none => exact List.nil_sublist _
  | some routine =>
      cases found : batch[ended]? with
      | none => simp
      | some item =>
          rw [Poll.held_of_found (some routine) found]
          simp

theorem routed_sublist (polls : List Poll) :
    (polls.filterMap Poll.current?).Sublist (polls.flatMap Poll.held) := by
  induction polls with
  | nil => exact List.nil_sublist _
  | cons poll rest inductionHypothesis =>
      have own := (current_sublist poll).append inductionHypothesis
      cases current : poll.current? <;> simpa [current] using own

theorem Sound.exclusive (sound : Sound consumer polling claims source) :
    Exclusive consumer polling claims source where
  shows := sound.books.shows
  routed := sound.books.distinct.sublist (routed_sublist polling.polls)
  inProgress := by
    refine ⟨sound.books.claimed.nodup_iff.mpr sound.books.distinct, ?_⟩
    intro key
    rw [sound.books.mem_claims, held, List.mem_flatMap]
  idle := by
    intro allOver
    have nothing : polling.held = [] := by
      apply List.flatMap_eq_nil_iff.mpr
      intro poll member
      rw [Poll.held, allOver poll member, List.drop_length]
      rfl
    have claimed := sound.books.claimed
    rw [nothing] at claimed
    exact claimed.eq_nil
  bounded positive poll member := (sound.polls poll member).bounded positive
  stamped _ _ _ _ member := sound.record.matched _ member
  order number poll found := by rw [sound.record.order, begunBy_of_found found]
  settled := by
    intro key member
    refine ⟨?_, ?_⟩
    · intro offered
      exact (sound.books.mem_offered.mp offered).2 member
    · intro claimed
      exact (sound.books.unsettled key (sound.books.mem_claims.mp claimed)).2 member
  once := sound.record.once
  failed := by
    intro number key member
    have offered := sound.record.offered _ member
    by_cases succeeded : key ∈ polling.succeeded
    · exact .inr succeeded
    · exact .inl (sound.books.mem_offered.mpr ⟨offered, succeeded⟩)
  claimable := by
    obtain ⟨after, ends, _⟩ := PollingConsumer.ends_claim sound.books.shows sound.books.memory
    refine ⟨_, after, ends.advance, ?_⟩
    intro item offered unclaimed
    rw [← Nat.zero_add (List.length _)]
    exact PollingConsumer.claimBatch_takes offered unclaimed

end Polling

end MessageRouting
