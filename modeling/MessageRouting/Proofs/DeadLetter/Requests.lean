import Mathlib.Data.List.Induction
import MessageRouting.DeadLetter.Queue
import MessageRouting.Register

/-!
# What is asked of a dead letter queue

A dead letter queue is asked through its clones, which all hold its handle. With every
request some entries are dismissed, the others are retained in their order, and an entry
that is added comes behind them.
-/

namespace MessageRouting

/-- What is asked of a dead letter queue. To add an entry and to clean up, the calendar is read. -/
inductive QueueRequest where
  | add (exchange : Exchange) (now : Nat)
  | take (count : Nat)
  | remove (messageId : String)
  | cleanUp (now : Nat)
  | clear
  | list

inductive QueueAnswer where
  | done
  | letters (entries : List DeadLetter)
  | truth (value : Bool)
  | number (value : Nat)

/-- What is asked through a clone of the queue with the handle. -/
structure CloneRequest where
  handle : Nat
  request : QueueRequest

namespace QueueRequest

/-- With the request, a queue of `size` entries that has room for `limit` entries loses the entry at
the position. -/
def dismisses (limit size : Nat) (letter : DeadLetter) (position : Nat) : QueueRequest → Bool
  | add .. => size = limit ∧ position = 0
  | take count => position < count
  | remove messageId => letter.message.id == messageId
  | cleanUp now => letter.expiresAt < now
  | clear => true
  | list => false

/-- The entries that leave with the request, oldest first. -/
def dismissed (limit : Nat) (entries : List DeadLetter) (request : QueueRequest) :
    List DeadLetter :=
  (entries.zipIdx.filter fun held =>
    request.dismisses limit entries.length held.1 held.2).map Prod.fst

/-- The entries that stay, oldest first. -/
def retained (limit : Nat) (entries : List DeadLetter) (request : QueueRequest) :
    List DeadLetter :=
  (entries.zipIdx.filter fun held =>
    !request.dismisses limit entries.length held.1 held.2).map Prod.fst

/-- The entry that comes with the request, if any. -/
def arrival? (config : QueueConfig) : QueueRequest → Option DeadLetter
  | add exchange now =>
      if config.enabled then some (.ofExchange exchange config.timeToLive now) else none
  | _ => none

def reply (entries gone : List DeadLetter) : QueueRequest → QueueAnswer
  | take _ => .letters gone
  | remove _ => .truth !gone.isEmpty
  | cleanUp _ => .number gone.length
  | list => .letters entries
  | add .. | clear => .done

/-- The entries that come with requests, in order. -/
def arrivals (config : QueueConfig) (requests : List QueueRequest) : List DeadLetter :=
  requests.filterMap (arrival? config)

end QueueRequest

namespace DeadLetterQueue

def answer (queue : DeadLetterQueue) : QueueRequest → QueueAnswer × DeadLetterQueue
  | .add exchange now => (.done, queue.add exchange now)
  | .take count => (.letters (queue.take count).1, (queue.take count).2)
  | .remove messageId => (.truth (queue.remove messageId).1, (queue.remove messageId).2)
  | .cleanUp now => (.number (queue.cleanUp now).1, (queue.cleanUp now).2)
  | .clear => (.done, queue.clear)
  | .list => (.letters queue.entries, queue)

def after (queue : DeadLetterQueue) (requests : List QueueRequest) : DeadLetterQueue :=
  requests.foldl (fun held request => (held.answer request).2) queue

end DeadLetterQueue

/-! ## Clones -/

namespace CloneRequest

def afterAll (queues : Register DeadLetterQueue) (asked : List CloneRequest) :
    Register DeadLetterQueue :=
  asked.foldl
    (fun held each => held.modify each.handle fun queue => (queue.answer each.request).2) queues

def sentTo (handle : Nat) (asked : List CloneRequest) : List QueueRequest :=
  (asked.filter fun each => each.handle = handle).map CloneRequest.request

/-- A queue sees the requests through its own clones and no others. -/
theorem get?_afterAll (queues : Register DeadLetterQueue) (handle : Nat)
    (asked : List CloneRequest) :
    (afterAll queues asked).get? handle =
      (queues.get? handle).map fun queue => queue.after (sentTo handle asked) := by
  induction asked generalizing queues with
  | nil =>
      change queues.get? handle = (queues.get? handle).map id
      rw [Option.map_id_fun, id]
  | cons each rest inductionHypothesis =>
      have step := inductionHypothesis
        (queues.modify each.handle fun queue => (queue.answer each.request).2)
      rw [Register.get?_modify] at step
      refine step.trans ?_
      by_cases own : each.handle = handle
      · rw [if_pos own, Option.map_map, sentTo, sentTo, List.filter_cons_of_pos (by simpa using own)]
        rfl
      · rw [if_neg own, sentTo, sentTo, List.filter_cons_of_neg (by simpa using own)]

/-- A queue that is put into the register has seen just the requests through its own clones. -/
theorem get?_afterAll_add (queues : Register DeadLetterQueue) (queue : DeadLetterQueue)
    (asked : List CloneRequest) :
    (afterAll (queues.add queue) asked).get? queues.next =
      some (queue.after (sentTo queues.next asked)) := by
  rw [get?_afterAll, Register.get?_add_next]
  rfl

end CloneRequest

/-! ## Positions -/

-- Who is taken and who makes room is told by the position, who is removed and who has expired by the
-- entry. Both are filters of the entries with their positions, which come down to known operations.

namespace QueueRequest

section Positions

variable {entries : List DeadLetter} {held : DeadLetter × Nat} {count : Nat}

theorem map_fst_filter (keeps : DeadLetter → Bool) (entries : List DeadLetter) :
    (entries.zipIdx.filter fun held => keeps held.1).map Prod.fst = entries.filter keeps := by
  have unmarked := List.filter_map (f := Prod.fst) (p := keeps) (l := entries.zipIdx)
  rw [List.zipIdx_map_fst] at unmarked
  exact unmarked.symm

theorem zipIdx_split (entries : List DeadLetter) (count : Nat) :
    entries.zipIdx = (entries.take count).zipIdx ++
      (entries.drop count).zipIdx (min count entries.length) := by
  have whole : (entries.take count ++ entries.drop count).zipIdx =
      (entries.take count).zipIdx ++
        (entries.drop count).zipIdx (0 + (entries.take count).length) := List.zipIdx_append
  rw [List.take_append_drop, List.length_take, Nat.zero_add] at whole
  exact whole

theorem lt_of_mem_take (listed : held ∈ (entries.take count).zipIdx) : held.2 < count := by
  have below := List.snd_lt_of_mem_zipIdx listed
  rw [List.length_take] at below
  omega

theorem le_of_mem_drop (listed : held ∈ (entries.drop count).zipIdx (min count entries.length)) :
    count ≤ held.2 := by
  have above := List.le_snd_of_mem_zipIdx listed
  have below := List.snd_lt_add_of_mem_zipIdx listed
  rw [List.length_drop] at below
  omega

theorem map_fst_filter_before (entries : List DeadLetter) (count : Nat) :
    (entries.zipIdx.filter fun held => decide (held.2 < count)).map Prod.fst =
      entries.take count := by
  have early : ∀ held ∈ (entries.take count).zipIdx, decide (held.2 < count) = true :=
    fun _ listed => decide_eq_true (lt_of_mem_take listed)
  have late : ∀ held ∈ (entries.drop count).zipIdx (min count entries.length),
      ¬decide (held.2 < count) = true :=
    fun _ listed => mt of_decide_eq_true (Nat.not_lt.mpr (le_of_mem_drop listed))
  rw [zipIdx_split entries count, List.filter_append, List.filter_eq_self.mpr early,
    List.filter_eq_nil_iff.mpr late, List.append_nil, List.zipIdx_map_fst]

theorem map_fst_filter_behind (entries : List DeadLetter) (count : Nat) :
    (entries.zipIdx.filter fun held => !decide (held.2 < count)).map Prod.fst =
      entries.drop count := by
  have early : ∀ held ∈ (entries.take count).zipIdx, ¬(!decide (held.2 < count)) = true := by
    intro held listed
    simpa using lt_of_mem_take listed
  have late : ∀ held ∈ (entries.drop count).zipIdx (min count entries.length),
      (!decide (held.2 < count)) = true := by
    intro held listed
    simpa using le_of_mem_drop listed
  rw [zipIdx_split entries count, List.filter_append, List.filter_eq_nil_iff.mpr early,
    List.filter_eq_self.mpr late, List.nil_append, List.zipIdx_map_fst]

end Positions

/-! ## Who leaves and who stays -/

section Leaving

variable {limit : Nat} {entries : List DeadLetter} {exchange : Exchange} {now : Nat}

theorem dismissed_take (limit count : Nat) (entries : List DeadLetter) :
    dismissed limit entries (.take count) = entries.take count :=
  map_fst_filter_before entries count

theorem retained_take (limit count : Nat) (entries : List DeadLetter) :
    retained limit entries (.take count) = entries.drop count :=
  map_fst_filter_behind entries count

theorem dismissed_remove (limit : Nat) (entries : List DeadLetter) (messageId : String) :
    dismissed limit entries (.remove messageId) =
      entries.filter fun letter => letter.message.id == messageId :=
  map_fst_filter (fun letter => letter.message.id == messageId) entries

theorem retained_remove (limit : Nat) (entries : List DeadLetter) (messageId : String) :
    retained limit entries (.remove messageId) =
      entries.filter fun letter => letter.message.id != messageId :=
  map_fst_filter (fun letter => letter.message.id != messageId) entries

theorem retained_cleanUp (limit : Nat) (entries : List DeadLetter) (now : Nat) :
    retained limit entries (.cleanUp now) = entries.filter fun letter => !letter.isExpired now :=
  map_fst_filter (fun letter => !letter.isExpired now) entries

theorem dismissed_add_of_full (full : entries.length = limit) :
    dismissed limit entries (.add exchange now) = entries.take 1 := by
  rw [← map_fst_filter_before entries 1]
  simp [dismissed, dismisses, full]

theorem retained_add_of_full (full : entries.length = limit) :
    retained limit entries (.add exchange now) = entries.drop 1 := by
  rw [← map_fst_filter_behind entries 1]
  simp [retained, dismisses, full]

theorem retained_clear (limit : Nat) (entries : List DeadLetter) :
    retained limit entries .clear = [] := by
  simp [retained, dismisses]

theorem dismissed_of_stays {request : QueueRequest}
    (stays : ∀ letter position, request.dismisses limit entries.length letter position = false) :
    dismissed limit entries request = [] := by
  simp [dismissed, stays]

theorem retained_of_stays {request : QueueRequest}
    (stays : ∀ letter position, request.dismisses limit entries.length letter position = false) :
    retained limit entries request = entries := by
  rw [retained, List.filter_eq_self.mpr fun held _ => by rw [stays, Bool.not_false],
    List.zipIdx_map_fst]

/-- No entry is both dismissed and retained, and none is neither. -/
theorem length_dismissed_add_retained (limit : Nat) (entries : List DeadLetter)
    (request : QueueRequest) :
    (dismissed limit entries request).length + (retained limit entries request).length =
      entries.length := by
  rw [dismissed, retained, List.length_map, List.length_map, ← List.countP_eq_length_filter,
    ← List.countP_eq_length_filter]
  have counted := List.length_eq_countP_add_countP
    (fun held : DeadLetter × Nat => request.dismisses limit entries.length held.1 held.2)
    (l := entries.zipIdx)
  rw [List.length_zipIdx] at counted
  simpa using counted.symm

theorem retained_sublist (limit : Nat) (entries : List DeadLetter) (request : QueueRequest) :
    (retained limit entries request).Sublist entries := by
  have kept := List.filter_sublist
    (p := fun held => !request.dismisses limit entries.length held.1 held.2) (l := entries.zipIdx)
  have unmarked := kept.map Prod.fst
  rw [List.zipIdx_map_fst] at unmarked
  exact unmarked

end Leaving

end QueueRequest

/-! ## Sound queues -/

namespace DeadLetterQueue

open QueueRequest

/-- The statistics after a request with which `came` entries came and `gone` entries left, so that
`size` entries are in the queue. -/
def statsAfter (stats : QueueStats) (size came gone : Nat) : QueueRequest → QueueStats
  | .add .. =>
      { stats with size := size, added := stats.added + came, dropped := stats.dropped + gone }
  | .take _ => { stats with size := size, removed := stats.removed + gone }
  | .remove _ => { stats with size := size, removed := stats.removed + min gone 1 }
  | .cleanUp _ => { stats with size := size, expired := stats.expired + gone }
  | .clear | .list => { stats with size := size }

theorem after_concat (queue : DeadLetterQueue) (earlier : List QueueRequest)
    (request : QueueRequest) :
    queue.after (earlier ++ [request]) = ((queue.after earlier).answer request).2 := by
  rw [after, List.foldl_append]
  rfl

/-- What holds of a queue that was built by its operations. -/
structure Sound (config : QueueConfig) (queue : DeadLetterQueue) : Prop where
  settings : queue.config = { config with maximumSize := max config.maximumSize 1 }
  bounded : queue.entries.length ≤ max config.maximumSize 1
  counted : queue.stats.size = queue.entries.length
  silent : config.enabled = false → queue.entries = []

variable {config : QueueConfig} {queue : DeadLetterQueue}

theorem sound_new (config : QueueConfig) : (new config).Sound config :=
  ⟨rfl, Nat.zero_le _, rfl, fun _ => rfl⟩

def become (queue : DeadLetterQueue) (limit : Nat) (coming : List DeadLetter)
    (request : QueueRequest) : DeadLetterQueue :=
  let entries := request.retained limit queue.entries ++ coming
  { queue with
    entries := entries
    stats := statsAfter queue.stats entries.length coming.length
      (request.dismissed limit queue.entries).length request }

/-- A request with which nothing changes. -/
theorem Sound.become_unchanged (sound : queue.Sound config) {limit : Nat} {request : QueueRequest}
    (stays : request.retained limit queue.entries = queue.entries)
    (unnoted : statsAfter queue.stats queue.entries.length 0 0 request =
      { queue.stats with size := queue.entries.length }) :
    queue.become limit [] request = queue := by
  have nobody : (request.dismissed limit queue.entries).length = 0 := by
    have parts := length_dismissed_add_retained limit queue.entries request
    rw [stays] at parts
    omega
  have same : { queue.stats with size := queue.entries.length } = queue.stats := by
    rw [← sound.counted]
  rw [become, stays, nobody, List.append_nil, List.length_nil, unnoted, same]

theorem Sound.add_eq (sound : queue.Sound config) (exchange : Exchange) (now : Nat) :
    queue.add exchange now =
      queue.become (max config.maximumSize 1) (arrival? config (.add exchange now)).toList
        (.add exchange now) := by
  have enabling : queue.config.enabled = config.enabled := by rw [sound.settings]
  have living : queue.config.timeToLive = config.timeToLive := by rw [sound.settings]
  have room : queue.config.maximumSize = max config.maximumSize 1 := by rw [sound.settings]
  by_cases enabled : config.enabled = true
  · rw [add, if_pos (enabling.trans enabled), arrival?, if_pos enabled, become, living]
    by_cases full : queue.entries.length = max config.maximumSize 1
    · have one : queue.surplus = 1 := by
        rw [surplus, room]
        omega
      rw [retained_add_of_full full, dismissed_add_of_full full, one, List.length_take]
      rfl
    · have none : queue.surplus = 0 := by
        have bounded := sound.bounded
        rw [surplus, room]
        omega
      have stays : ∀ letter position, (QueueRequest.add exchange now).dismisses
          (max config.maximumSize 1) queue.entries.length letter position = false :=
        fun letter position => decide_eq_false fun both => full both.1
      rw [retained_of_stays stays, dismissed_of_stays stays, none, Nat.zero_min]
      rfl
  · have nothing := sound.silent (eq_false_of_ne_true enabled)
    have unchanged :
        queue.become (max config.maximumSize 1) [] (.add exchange now) = queue := by
      apply sound.become_unchanged
      · rw [nothing]
        rfl
      · rfl
    rw [add, enabling, if_neg enabled, arrival?, if_neg enabled]
    exact unchanged.symm

theorem take_eq (queue : DeadLetterQueue) (limit count : Nat) :
    queue.take count =
      ((QueueRequest.take count).dismissed limit queue.entries,
        queue.become limit [] (.take count)) := by
  rw [take, become, retained_take, dismissed_take, List.append_nil]
  rfl

theorem Sound.remove_eq (sound : queue.Sound config) (limit : Nat) (messageId : String) :
    queue.remove messageId =
      (!((QueueRequest.remove messageId).dismissed limit queue.entries).isEmpty,
        queue.become limit [] (.remove messageId)) := by
  have parts := length_dismissed_add_retained limit queue.entries (.remove messageId)
  rw [remove, ← retained_remove limit queue.entries messageId]
  cases found : (QueueRequest.remove messageId).dismissed limit queue.entries with
  | nil =>
      rw [found, List.length_nil, Nat.zero_add] at parts
      have stays := (retained_sublist limit queue.entries (.remove messageId)).eq_of_length parts
      rw [stays, if_neg (Nat.lt_irrefl _), sound.become_unchanged stays rfl]
      rfl
  | cons first rest =>
      have one : min (first :: rest).length 1 = 1 := Nat.min_eq_right (Nat.le_add_left 1 _)
      rw [found, List.length_cons] at parts
      rw [if_pos (by omega), become, found, List.append_nil, statsAfter, one]
      rfl

theorem Sound.cleanUp_eq (sound : queue.Sound config) (limit : Nat) (now : Nat) :
    queue.cleanUp now =
      (((QueueRequest.cleanUp now).dismissed limit queue.entries).length,
        queue.become limit [] (.cleanUp now)) := by
  have parts := length_dismissed_add_retained limit queue.entries (.cleanUp now)
  have removed : queue.entries.length -
      ((QueueRequest.cleanUp now).retained limit queue.entries).length =
        ((QueueRequest.cleanUp now).dismissed limit queue.entries).length := by omega
  rw [cleanUp, ← retained_cleanUp limit queue.entries now, removed]
  by_cases some : 0 < ((QueueRequest.cleanUp now).dismissed limit queue.entries).length
  · rw [if_pos some, become, List.append_nil]
    rfl
  · have stays := (retained_sublist limit queue.entries (.cleanUp now)).eq_of_length (by omega)
    rw [if_neg some, stays, sound.become_unchanged stays rfl, Nat.eq_zero_of_not_pos some]

/-- What a sound queue answers, and what becomes of it. -/
theorem Sound.answer_eq (sound : queue.Sound config) (request : QueueRequest) :
    queue.answer request =
      (request.reply queue.entries (request.dismissed (max config.maximumSize 1) queue.entries),
        queue.become (max config.maximumSize 1) (arrival? config request).toList request) := by
  cases request with
  | add exchange now => rw [answer, sound.add_eq]; rfl
  | take count => rw [answer, take_eq queue (max config.maximumSize 1)]; rfl
  | remove messageId => rw [answer, sound.remove_eq (max config.maximumSize 1)]; rfl
  | cleanUp now => rw [answer, sound.cleanUp_eq (max config.maximumSize 1)]; rfl
  | clear =>
      rw [answer, clear, become, retained_clear]
      rfl
  | list =>
      have stays : QueueRequest.list.retained (max config.maximumSize 1) queue.entries =
          queue.entries := retained_of_stays fun _ _ => rfl
      exact congrArg (Prod.mk _) (sound.become_unchanged stays rfl).symm

/-- There is room for the entry that comes. -/
theorem Sound.length_le (sound : queue.Sound config) (request : QueueRequest) :
    (request.retained (max config.maximumSize 1) queue.entries ++
      (arrival? config request).toList).length ≤ max config.maximumSize 1 := by
  have fewer := (retained_sublist (max config.maximumSize 1) queue.entries request).length_le
  have bounded := sound.bounded
  rw [List.length_append]
  cases request with
  | add exchange now =>
      have one := Option.length_toList_le (o := arrival? config (.add exchange now))
      by_cases full : queue.entries.length = max config.maximumSize 1
      · rw [retained_add_of_full full, List.length_drop]
        omega
      · omega
  | _ => exact Nat.le_trans fewer bounded

theorem Sound.sound_become (sound : queue.Sound config) (request : QueueRequest) :
    (queue.become (max config.maximumSize 1) (arrival? config request).toList request).Sound
      config := by
  refine ⟨sound.settings, sound.length_le request, by cases request <;> rfl, ?_⟩
  intro disabled
  have nobody : arrival? config request = none := by
    cases request with
    | add exchange now => rw [arrival?, disabled]; rfl
    | _ => rfl
  have none := sound.silent disabled
  change request.retained _ queue.entries ++ (arrival? config request).toList = []
  rw [nobody, none]
  rfl

/-- A request keeps a queue sound. -/
theorem Sound.answer (sound : queue.Sound config) (request : QueueRequest) :
    (queue.answer request).2.Sound config := by
  rw [sound.answer_eq request]
  exact sound.sound_become request

theorem sound_after (config : QueueConfig) (requests : List QueueRequest) :
    ((new config).after requests).Sound config := by
  induction requests using List.reverseRecOn with
  | nil => exact sound_new config
  | append_singleton earlier request inductionHypothesis =>
      rw [after_concat]
      exact inductionHypothesis.answer request

end DeadLetterQueue

end MessageRouting
