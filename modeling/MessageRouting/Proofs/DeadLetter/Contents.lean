import MessageRouting.Proofs.DeadLetter.Requests

/-!
# What a dead letter queue contains

A dead letter queue contains some of the entries that were added to it, in the order in
which they were added and never more than it has room for. Each entry is a snapshot of its
exchange, and it stays until it is taken, removed, cleared, expired or pushed out.
-/

namespace MessageRouting

open QueueRequest

namespace QueueRequest

theorem arrivals_concat (config : QueueConfig) (earlier : List QueueRequest)
    (request : QueueRequest) :
    arrivals config (earlier ++ [request]) =
      arrivals config earlier ++ (arrival? config request).toList := by
  rw [arrivals, List.filterMap_append]
  cases came : arrival? config request with
  | none => rw [List.filterMap_cons_none came]; rfl
  | some letter => rw [List.filterMap_cons_some came]; rfl

/-- Whatever comes is a snapshot of an exchange that was added. -/
theorem snapshot_of_mem_arrivals {config : QueueConfig} {requests : List QueueRequest}
    {letter : DeadLetter} (listed : letter ∈ arrivals config requests) :
    ∃ exchange now, .add exchange now ∈ requests ∧
      letter = .ofExchange exchange config.timeToLive now := by
  obtain ⟨request, asked, came⟩ := List.mem_filterMap.mp listed
  cases request with
  | add exchange now =>
      rw [arrival?] at came
      split at came
      · exact ⟨exchange, now, asked, (Option.some.inj came).symm⟩
      · cases came
  | _ => cases came

end QueueRequest

namespace DeadLetterQueue

/-- The entries of a queue are some of those that came, in their order. -/
theorem entries_sublist (config : QueueConfig) (requests : List QueueRequest) :
    ((new config).after requests).entries.Sublist (arrivals config requests) := by
  induction requests using List.reverseRecOn with
  | nil => exact List.Sublist.refl _
  | append_singleton earlier request inductionHypothesis =>
      have kept := (retained_sublist (max config.maximumSize 1)
        ((new config).after earlier).entries request).trans inductionHypothesis
      rw [after_concat, (sound_after config earlier).answer_eq, arrivals_concat]
      exact kept.append (List.Sublist.refl _)

/-- Whatever was asked of a queue through its clones, its entries are some of those that came, in the
order in which they came, no more than it has room for and as many as its statistics say; a queue that
is not enabled has none. Each entry tells the message, the failure and the redeliveries of an exchange
that was added, and the time of that. With one more request the queue loses the entries that the
request dismisses, and only those. -/
theorem contents_of_requests (queues : Register DeadLetterQueue) (config : QueueConfig)
    (asked : List CloneRequest) :
    ∃ queue, (CloneRequest.afterAll (queues.add (new config)) asked).get? queues.next =
        some queue ∧
      let requests := CloneRequest.sentTo queues.next asked
      let limit := max config.maximumSize 1
      queue.entries.Sublist (arrivals config requests) ∧
      queue.entries.length ≤ limit ∧
      queue.stats.size = queue.entries.length ∧
      (config.enabled = false → queue.entries = []) ∧
      (∀ letter ∈ arrivals config requests, ∃ exchange now, .add exchange now ∈ requests ∧
        letter.message = exchange.inbound ∧
        letter.reason = (exchange.caught.map Failure.display).getD "unknown" ∧
        letter.redeliveries = exchange.redeliveryCount ∧
        letter.addedAt = now ∧ letter.expiresAt = Calendar.after now config.timeToLive) ∧
      (∀ request,
        let gone := dismissed limit queue.entries request
        (queue.answer request).1 = request.reply queue.entries gone ∧
        (queue.answer request).2.entries =
          retained limit queue.entries request ++ (request.arrival? config).toList) ∧
      ∀ count, dismissed limit queue.entries (.take count) =
        queue.entries.take (min count queue.entries.length) := by
  refine ⟨_, CloneRequest.get?_afterAll_add queues (new config) asked, ?_⟩
  dsimp only
  have sound := sound_after config (CloneRequest.sentTo queues.next asked)
  refine ⟨entries_sublist config _, sound.bounded, sound.counted, sound.silent, ?_, ?_, ?_⟩
  · intro letter came
    obtain ⟨exchange, now, added, same⟩ := snapshot_of_mem_arrivals came
    exact ⟨exchange, now, added, by rw [same]; exact ⟨rfl, rfl, rfl, rfl, rfl⟩⟩
  · intro request
    rw [sound.answer_eq request]
    exact ⟨rfl, rfl⟩
  · intro count
    rw [dismissed_take]
    exact List.take_eq_take_min

/-- Two messages come to a queue with room for one, and one message to a queue that is not enabled. -/
theorem contents_of_requests_narrow :
    let first : Exchange := { id := ⟨0⟩, context := default, inbound := { id := "first" } }
    let second : Exchange := { id := ⟨1⟩, context := default, inbound := { id := "second" } }
    let narrow : QueueConfig := { maximumSize := 0 }
    let disabled : QueueConfig := { enabled := false }
    (∃ queue, (CloneRequest.afterAll (({} : Register DeadLetterQueue).add (new narrow))
        [⟨0, .add first 3⟩, ⟨0, .add second 4⟩]).get? 0 = some queue ∧
      queue.entries.Sublist
        [.ofExchange first narrow.timeToLive 3, .ofExchange second narrow.timeToLive 4] ∧
      queue.entries.length ≤ 1 ∧ (queue.answer .list).1 = .letters queue.entries) ∧
    ∃ queue, (CloneRequest.afterAll (({} : Register DeadLetterQueue).add (new disabled))
        [⟨0, .add first 3⟩]).get? 0 = some queue ∧ queue.entries = [] := by
  intro first second narrow disabled
  obtain ⟨queue, found, ordered, bounded, _, _, _, answered, _⟩ :=
    contents_of_requests {} narrow [⟨0, .add first 3⟩, ⟨0, .add second 4⟩]
  obtain ⟨other, foundOther, _, _, _, silent, _⟩ :=
    contents_of_requests {} disabled [⟨0, .add first 3⟩]
  exact ⟨⟨queue, found, ordered, bounded, (answered .list).1⟩, other, foundOther, silent rfl⟩

end DeadLetterQueue

end MessageRouting
