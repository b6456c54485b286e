import MessageRouting.Proofs.DeadLetter.Requests

/-!
# The balance of a dead letter queue

Every entry that came is still in the queue or is counted as removed, expired or dropped,
except for what the statistics leave out: the entries that are cleared, and beyond the
first one the entries that are removed under one message id.
-/

namespace MessageRouting

open QueueRequest

def QueueStats.Balanced (stats : QueueStats) : Prop :=
  stats.added = stats.size + stats.removed + stats.expired + stats.dropped

namespace DeadLetterQueue

def uncounted (queue : DeadLetterQueue) : QueueRequest → Nat
  | .remove messageId => (queue.entries.countP fun letter => letter.message.id == messageId) - 1
  | .clear => queue.entries.length
  | _ => 0

/-- How many entries leave with requests in order and are not counted. -/
def uncountedAll (queue : DeadLetterQueue) : List QueueRequest → Nat
  | [] => 0
  | request :: rest => queue.uncounted request + (queue.answer request).2.uncountedAll rest

variable {config : QueueConfig} {queue : DeadLetterQueue}

theorem uncountedAll_append (queue : DeadLetterQueue) (earlier later : List QueueRequest) :
    queue.uncountedAll (earlier ++ later) =
      queue.uncountedAll earlier + (queue.after earlier).uncountedAll later := by
  induction earlier generalizing queue with
  | nil => exact (Nat.zero_add _).symm
  | cons request rest inductionHypothesis =>
      rw [List.cons_append, uncountedAll, inductionHypothesis, uncountedAll, Nat.add_assoc]
      rfl

/-- With one request the counts move by what comes, apart from what leaves uncounted. -/
theorem Sound.balance_answer (sound : queue.Sound config) (request : QueueRequest) {missing : Nat}
    (before : queue.stats.added = queue.stats.size + queue.stats.removed + queue.stats.expired +
      queue.stats.dropped + missing) :
    let stats := (queue.answer request).2.stats
    stats.added = stats.size + stats.removed + stats.expired + stats.dropped +
      (missing + queue.uncounted request) := by
  have parts := length_dismissed_add_retained (max config.maximumSize 1) queue.entries request
  have counted := sound.counted
  rw [sound.answer_eq request, DeadLetterQueue.become, List.length_append]
  cases request with
  | remove messageId =>
      have gone : ((QueueRequest.remove messageId).dismissed (max config.maximumSize 1)
          queue.entries).length =
            queue.entries.countP fun letter => letter.message.id == messageId := by
        rw [dismissed_remove, List.countP_eq_length_filter]
      dsimp only [statsAfter, uncounted, arrival?, Option.toList_none, List.length_nil]
      omega
  | clear =>
      dsimp only [statsAfter, uncounted, arrival?, Option.toList_none, List.length_nil]
      rw [retained_clear, List.length_nil] at parts ⊢
      omega
  | list =>
      rw [dismissed_of_stays fun _ _ => rfl, List.length_nil] at parts
      dsimp only [statsAfter, uncounted, arrival?, Option.toList_none, List.length_nil]
      omega
  | add exchange now =>
      dsimp only [statsAfter, uncounted]
      omega
  | _ =>
      dsimp only [statsAfter, uncounted, arrival?, Option.toList_none, List.length_nil]
      omega

/-- After any requests the counts lack what has left uncounted, and nothing else. -/
theorem added_after (config : QueueConfig) (requests : List QueueRequest) :
    let stats := ((new config).after requests).stats
    stats.added = stats.size + stats.removed + stats.expired + stats.dropped +
      (new config).uncountedAll requests := by
  induction requests using List.reverseRecOn with
  | nil => rfl
  | append_singleton earlier request inductionHypothesis =>
      rw [after_concat, uncountedAll_append]
      exact (sound_after config earlier).balance_answer request inductionHypothesis

theorem uncountedAll_eq_zero_iff (queue : DeadLetterQueue) (requests : List QueueRequest) :
    queue.uncountedAll requests = 0 ↔
      ∀ earlier request later, requests = earlier ++ request :: later →
        (queue.after earlier).uncounted request = 0 := by
  constructor
  · rintro nothing earlier request later rfl
    rw [uncountedAll_append, uncountedAll] at nothing
    omega
  · intro each
    induction requests using List.reverseRecOn with
    | nil => rfl
    | append_singleton earlier request inductionHypothesis =>
        have before := inductionHypothesis fun first next later whole =>
          each first next (later ++ [request]) (by rw [whole, List.append_assoc]; rfl)
        rw [uncountedAll_append, before, uncountedAll, each earlier request [] rfl]
        rfl

theorem uncounted_eq_zero_iff {request : QueueRequest} (kept : request ≠ .clear) :
    queue.uncounted request = 0 ↔ ∀ messageId, request = .remove messageId →
      (queue.entries.countP fun letter => letter.message.id == messageId) ≤ 1 := by
  cases request with
  | remove messageId =>
      constructor
      · rintro nothing other ⟨⟩
        exact Nat.sub_eq_zero_iff_le.mp nothing
      · intro few
        exact Nat.sub_eq_zero_of_le (few messageId rfl)
  | clear => exact absurd rfl kept
  | _ => exact ⟨fun _ _ => nofun, fun _ => rfl⟩

/-- Without clearing, nothing leaves uncounted exactly if every removal meets at most one entry. -/
theorem uncountedAll_eq_zero_iff_of_uncleared {requests : List QueueRequest}
    (uncleared : .clear ∉ requests) :
    queue.uncountedAll requests = 0 ↔
      ∀ earlier messageId later, requests = earlier ++ .remove messageId :: later →
        ((queue.after earlier).entries.countP fun letter =>
          letter.message.id == messageId) ≤ 1 := by
  have kept : ∀ {earlier request later}, requests = earlier ++ request :: later →
      request ≠ .clear := by
    rintro earlier request later whole rfl
    exact uncleared (whole ▸ List.mem_append_right earlier List.mem_cons_self)
  rw [uncountedAll_eq_zero_iff]
  constructor
  · intro each earlier messageId later whole
    exact (uncounted_eq_zero_iff (kept whole)).mp (each earlier _ later whole) messageId rfl
  · intro few earlier request later whole
    refine (uncounted_eq_zero_iff (kept whole)).mpr ?_
    rintro messageId rfl
    exact few earlier messageId later whole

/-- Whatever was asked of a queue through its clones, what was added is in the queue, or was removed,
expired or dropped, or has left uncounted. As long as the queue is not cleared, the counts add up
exactly if no removal has met several entries of one message id. -/
theorem balance_of_requests (queues : Register DeadLetterQueue) (config : QueueConfig)
    (asked : List CloneRequest) :
    ∃ queue, (CloneRequest.afterAll (queues.add (new config)) asked).get? queues.next =
        some queue ∧
      let requests := CloneRequest.sentTo queues.next asked
      queue.stats.added = queue.stats.size + queue.stats.removed + queue.stats.expired +
        queue.stats.dropped + (new config).uncountedAll requests ∧
      (.clear ∉ requests →
        (queue.stats.Balanced ↔ ∀ earlier messageId later,
          requests = earlier ++ .remove messageId :: later →
          (((new config).after earlier).entries.countP fun letter =>
            letter.message.id == messageId) ≤ 1)) := by
  refine ⟨_, CloneRequest.get?_afterAll_add queues (new config) asked, ?_⟩
  dsimp only
  generalize CloneRequest.sentTo queues.next asked = requests
  have counted := added_after config requests
  refine ⟨counted, fun uncleared => ?_⟩
  rw [← uncountedAll_eq_zero_iff_of_uncleared uncleared, QueueStats.Balanced, counted]
  exact Nat.add_eq_left

/-- Two messages of one id are removed at once and counted as one. -/
theorem balance_of_requests_twins :
    let exchange : Exchange := { id := ⟨0⟩, context := default, inbound := { id := "twin" } }
    let asked : List CloneRequest :=
      [⟨0, .add exchange 3⟩, ⟨0, .add exchange 4⟩, ⟨0, .remove "twin"⟩]
    ∃ queue, (CloneRequest.afterAll (({} : Register DeadLetterQueue).add (new {}))
        asked).get? 0 = some queue ∧
      .clear ∉ CloneRequest.sentTo 0 asked ∧ ¬queue.stats.Balanced := by
  intro exchange asked
  have uncleared : .clear ∉ CloneRequest.sentTo 0 asked := by
    simp [CloneRequest.sentTo, asked]
  obtain ⟨queue, found, _, balanced⟩ := balance_of_requests {} {} asked
  refine ⟨queue, found, uncleared, fun even => ?_⟩
  have few := (balanced uncleared).mp even [.add exchange 3, .add exchange 4] "twin" [] rfl
  revert few
  decide +kernel

/-- The counts do not add up after a removal that met two entries of one message id. -/
theorem unbalanced_twins :
    let exchange : Exchange := { id := ⟨0⟩, context := default, inbound := { id := "twin" } }
    ¬((new {}).after [.add exchange 3, .add exchange 4, .remove "twin"]).stats.Balanced := by
  unfold QueueStats.Balanced
  decide +kernel

end DeadLetterQueue

end MessageRouting
