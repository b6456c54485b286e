import Mathlib.Data.Finset.Card
import MessageRouting.Proofs.Idempotent.Repository

/-!
# How long a repository retains a key

A repository may hold its keys twice: in a set, in which they are looked up, and in a
queue, by age. Then it answers whatever it is asked as the list of its keys does. A key
that was added is retained until it is removed or as many other keys were added as fit
into the repository.
-/

namespace MessageRouting

/-! ## Answers in order -/

section

variable {ρ κ : Type}

def answerAll (answer : ρ → RepositoryRequest → RepositoryAnswer × ρ) (repository : ρ) :
    List RepositoryRequest → List RepositoryAnswer × ρ
  | [] => ([], repository)
  | request :: rest =>
      let answered := answer repository request
      let later := answerAll answer answered.2 rest
      (answered.1 :: later.1, later.2)

def RepositoryRequest.added? : RepositoryRequest → RepositoryAnswer → Option String
  | add key, .truth true => some key
  | _, _ => none

def additions (requests : List RepositoryRequest) (answers : List RepositoryAnswer) : List String :=
  (requests.zip answers).filterMap fun asked => asked.1.added? asked.2

variable {answer : ρ → RepositoryRequest → RepositoryAnswer × ρ}
  {reply : κ → RepositoryRequest → RepositoryAnswer × κ}

theorem length_answerAll (repository : ρ) (requests : List RepositoryRequest) :
    (answerAll answer repository requests).1.length = requests.length := by
  induction requests generalizing repository with
  | nil => rfl
  | cons request rest inductionHypothesis => exact congrArg (· + 1) (inductionHypothesis _)

theorem answerAll_append (repository : ρ) (first second : List RepositoryRequest) :
    answerAll answer repository (first ++ second) =
      ((answerAll answer repository first).1 ++
          (answerAll answer (answerAll answer repository first).2 second).1,
        (answerAll answer (answerAll answer repository first).2 second).2) := by
  induction first generalizing repository with
  | nil => rfl
  | cons request rest inductionHypothesis =>
      rw [List.cons_append, answerAll, inductionHypothesis]
      rfl

/-- Repositories that answer one request alike, and stay related, answer all requests alike. -/
theorem answerAll_alike {related : ρ → κ → Prop}
    (step : ∀ repository other request, related repository other →
      (answer repository request).1 = (reply other request).1 ∧
        related (answer repository request).2 (reply other request).2)
    {repository : ρ} {other : κ} (start : related repository other)
    (requests : List RepositoryRequest) :
    (answerAll answer repository requests).1 = (answerAll reply other requests).1 ∧
      related (answerAll answer repository requests).2 (answerAll reply other requests).2 := by
  induction requests generalizing repository other with
  | nil => exact ⟨rfl, start⟩
  | cons request rest inductionHypothesis =>
      obtain ⟨same, after⟩ := step repository other request start
      obtain ⟨sameLater, afterAll⟩ := inductionHypothesis after
      exact ⟨congrArg₂ List.cons same sameLater, afterAll⟩

theorem additions_cons (request : RepositoryRequest) (requests : List RepositoryRequest)
    (given : RepositoryAnswer) (answers : List RepositoryAnswer) :
    additions (request :: requests) (given :: answers) =
      (request.added? given).toList ++ additions requests answers := by
  unfold additions
  rw [List.zip_cons_cons, List.filterMap_cons]
  cases request.added? given <;> rfl

end

/-! ## The list of keys -/

namespace KeyRepository

/-- What holds of a repository of the given capacity that was built by its operations. -/
structure Sound (capacity : Nat) (repository : KeyRepository) : Prop where
  limit : repository.capacity = capacity
  positive : 0 < capacity
  distinct : repository.keys.Nodup
  bounded : repository.keys.length ≤ capacity

/-- The keys beside which a new key is put. -/
def kept (repository : KeyRepository) : List String :=
  if repository.capacity ≤ repository.keys.length then repository.keys.drop 1 else repository.keys

variable {capacity : Nat} {repository : KeyRepository} {key fresh : String}
  {others more : Finset String}

theorem contains_iff_mem : repository.contains key = true ↔ key ∈ repository.keys :=
  List.contains_iff_mem

theorem add_of_not_mem (absent : fresh ∉ repository.keys) :
    repository.add fresh = (true, { repository with keys := repository.kept ++ [fresh] }) := by
  have unknown : ¬repository.contains fresh = true := mt contains_iff_mem.mp absent
  rw [add, if_neg unknown]
  rfl

theorem kept_sublist (repository : KeyRepository) : repository.kept.Sublist repository.keys := by
  unfold kept
  split
  · exact List.drop_sublist 1 repository.keys
  · exact List.Sublist.refl repository.keys

theorem nodup_concat {keys : List String} (distinct : keys.Nodup) (absent : fresh ∉ keys) :
    (keys ++ [fresh]).Nodup :=
  distinct.append (List.nodup_singleton fresh) (List.disjoint_singleton.mpr absent)

/-! ### One request -/

theorem sound_new (capacity : Nat) : (new capacity).Sound (max capacity 1) where
  limit := rfl
  positive := Nat.lt_of_lt_of_le Nat.zero_lt_one (Nat.le_max_right capacity 1)
  distinct := List.nodup_nil
  bounded := Nat.zero_le _

theorem Sound.length_kept_lt (sound : repository.Sound capacity) :
    repository.kept.length < capacity := by
  have positive := sound.positive
  have bounded := sound.bounded
  unfold kept
  rw [sound.limit]
  split
  · rw [List.length_drop]
    omega
  · omega

theorem Sound.add (sound : repository.Sound capacity) (key : String) :
    (repository.add key).2.Sound capacity := by
  by_cases member : key ∈ repository.keys
  · rw [add_of_contains (contains_iff_mem.mpr member)]
    exact sound
  · rw [add_of_not_mem member]
    have distinct := sound.distinct.sublist repository.kept_sublist
    have absent : key ∉ repository.kept := mt repository.kept_sublist.mem member
    refine ⟨sound.limit, sound.positive, nodup_concat distinct absent, ?_⟩
    rw [List.length_append]
    exact sound.length_kept_lt

theorem Sound.remove (sound : repository.Sound capacity) (key : String) :
    (repository.remove key).2.Sound capacity := by
  unfold KeyRepository.remove
  split
  · exact ⟨sound.limit, sound.positive, sound.distinct.sublist List.filter_sublist,
      (List.length_filter_le _ _).trans sound.bounded⟩
  · exact sound

theorem Sound.answer (sound : repository.Sound capacity) (request : RepositoryRequest) :
    (repository.answer request).2.Sound capacity := by
  cases request with
  | add key => exact sound.add key
  | contains key => exact sound
  | remove key => exact sound.remove key
  | clear => exact ⟨sound.limit, sound.positive, List.nodup_nil, Nat.zero_le _⟩
  | size => exact sound

/-! ### The age of a key -/

def Retains (repository : KeyRepository) (key : String) (others : Finset String) : Prop :=
  ∃ older younger, repository.keys = older ++ key :: younger ∧ ∀ other ∈ younger, other ∈ others

theorem Retains.mem (retains : repository.Retains key others) : key ∈ repository.keys := by
  obtain ⟨older, younger, split, _⟩ := retains
  rw [split]
  exact List.mem_append_right older List.mem_cons_self

theorem Retains.mono (retains : repository.Retains key others) (wider : others ⊆ more) :
    repository.Retains key more := by
  obtain ⟨older, younger, split, recent⟩ := retains
  exact ⟨older, younger, split, fun other member => wider (recent other member)⟩

theorem retains_add_self (absent : key ∉ repository.keys) :
    (repository.add key).2.Retains key ∅ := by
  rw [add_of_not_mem absent]
  exact ⟨repository.kept, [], rfl, fun _ impossible => absurd impossible List.not_mem_nil⟩

/-- Behind the younger keys stands the new one. -/
theorem recent_concat {younger : List String} (recent : ∀ other ∈ younger, other ∈ others) :
    ∀ other ∈ younger ++ [fresh], other ∈ insert fresh others := by
  intro other member
  rcases List.mem_append.mp member with before | last
  · exact Finset.mem_insert_of_mem (recent other before)
  · rw [List.mem_singleton.mp last]
    exact Finset.mem_insert_self fresh others

-- The keys that are younger than the oldest one are distinct from it and from the new key, so that
-- with the new one there are as many others as keys are held.
theorem exceeds_of_oldest {younger : List String} (distinct : (key :: younger).Nodup)
    (absent : fresh ∉ key :: younger) (recent : ∀ other ∈ younger, other ∈ others) :
    (key :: younger).length ≤ ((insert fresh others).erase key).card := by
  have apart : (key :: (younger ++ [fresh])).Nodup := nodup_concat distinct absent
  obtain ⟨keyApart, distinctAll⟩ := List.nodup_cons.mp apart
  have included : (younger ++ [fresh]).toFinset ⊆ (insert fresh others).erase key := by
    intro other member
    have inside := List.mem_toFinset.mp member
    have different : other ≠ key := ne_of_mem_of_not_mem inside keyApart
    exact Finset.mem_erase.mpr ⟨different, recent_concat recent other inside⟩
  have count := Finset.card_le_card included
  rw [List.toFinset_card_of_nodup distinctAll, List.length_append] at count
  exact count

/-- Unless the key is the oldest one, another key is put out for a new one. -/
theorem Retains.add (sound : repository.Sound capacity) (retains : repository.Retains key others)
    (absent : fresh ∉ repository.keys) (few : ((insert fresh others).erase key).card < capacity) :
    (repository.add fresh).2.Retains key (insert fresh others) := by
  obtain ⟨older, younger, split, recent⟩ := retains
  have recentAll : ∀ other ∈ younger ++ [fresh], other ∈ insert fresh others :=
    recent_concat recent
  rw [add_of_not_mem absent]
  by_cases full : repository.capacity ≤ repository.keys.length
  · cases older with
    | nil =>
        have distinct := sound.distinct
        rw [split] at distinct absent full
        have many := exceeds_of_oldest distinct absent recent
        rw [sound.limit] at full
        exact absurd (full.trans many) (Nat.not_le_of_lt few)
    | cons oldest rest =>
        refine ⟨rest, younger ++ [fresh], ?_, recentAll⟩
        change repository.kept ++ [fresh] = _
        rw [kept, if_pos full, split]
        simp
  · refine ⟨older, younger ++ [fresh], ?_, recentAll⟩
    change repository.kept ++ [fresh] = _
    rw [kept, if_neg full, split]
    simp

theorem Retains.remove (retains : repository.Retains key others) (different : key ≠ fresh) :
    (repository.remove fresh).2.Retains key others := by
  obtain ⟨older, younger, split, recent⟩ := retains
  unfold KeyRepository.remove
  by_cases member : repository.contains fresh = true
  · rw [if_pos member]
    refine ⟨older.filter (· != fresh), younger.filter (· != fresh), ?_, ?_⟩
    · rw [split]
      simp [different]
    · intro other kept
      exact recent other (List.mem_filter.mp kept).1
  · rw [if_neg member]
    exact ⟨older, younger, split, recent⟩

/-- A key outlasts a request that neither removes it nor adds a key that does not fit beside it. -/
theorem Retains.answer (sound : repository.Sound capacity)
    (retains : repository.Retains key others) {request : RepositoryRequest}
    (unremoved : request ≠ .remove key) (uncleared : request ≠ .clear)
    (added : others ∪ (request.added? (repository.answer request).1).toList.toFinset = more)
    (few : (more.erase key).card < capacity) : (repository.answer request).2.Retains key more := by
  have wider : others ⊆ more := added ▸ Finset.subset_union_left
  cases request with
  | add fresh =>
      change (repository.add fresh).2.Retains key more
      by_cases member : fresh ∈ repository.keys
      · rw [add_of_contains (contains_iff_mem.mpr member)]
        exact retains.mono wider
      · have one : (RepositoryRequest.added? (.add fresh) (repository.answer (.add fresh)).1) =
            some fresh := by
          change RepositoryRequest.added? (.add fresh) (.truth (repository.add fresh).1) =
            some fresh
          rw [add_of_not_mem member]
          rfl
        have whole : insert fresh others = more := by
          rw [← added, one, Finset.union_comm]
          rfl
        rw [← whole] at few ⊢
        exact retains.add sound member few
  | contains => exact retains.mono wider
  | remove fresh =>
      have different : key ≠ fresh := by
        rintro rfl
        exact unremoved rfl
      exact (retains.remove different).mono wider
  | clear => exact absurd rfl uncleared
  | size => exact retains.mono wider

/-- A key outlasts all requests that neither remove it nor add as many others as fit. -/
theorem Retains.answerAll (sound : repository.Sound capacity)
    (retains : repository.Retains key others) {requests : List RepositoryRequest}
    (unremoved : .remove key ∉ requests) (uncleared : .clear ∉ requests)
    (few : ((others ∪ (additions requests (MessageRouting.answerAll KeyRepository.answer repository
      requests).1).toFinset).erase key).card < capacity) :
    key ∈ (MessageRouting.answerAll KeyRepository.answer repository requests).2.keys := by
  induction requests generalizing repository others with
  | nil => exact retains.mem
  | cons request rest inductionHypothesis =>
      rw [MessageRouting.answerAll, additions_cons, List.toFinset_append,
        ← Finset.union_assoc] at few
      have fewNow := Nat.lt_of_le_of_lt
        (Finset.card_le_card (Finset.erase_subset_erase key Finset.subset_union_left)) few
      have now := retains.answer sound (fun same => unremoved (same ▸ List.mem_cons_self))
        (fun same => uncleared (same ▸ List.mem_cons_self)) rfl fewNow
      exact inductionHypothesis (sound.answer request) now
        (fun later => unremoved (List.mem_cons_of_mem _ later))
        (fun later => uncleared (List.mem_cons_of_mem _ later)) few

/-- A key that was answered as new outlasts all later requests of that kind. -/
theorem Sound.retained (sound : repository.Sound capacity) (added : (repository.add key).1 = true)
    {later : List RepositoryRequest} (unremoved : .remove key ∉ later) (uncleared : .clear ∉ later)
    (few : ((additions later (answerAll KeyRepository.answer (repository.add key).2
      later).1).toFinset.erase key).card < capacity) :
    key ∈ (answerAll KeyRepository.answer (repository.add key).2 later).2.keys := by
  have absent : key ∉ repository.keys := by
    intro member
    rw [add_of_contains (contains_iff_mem.mpr member)] at added
    exact absurd added Bool.false_ne_true
  have retains := retains_add_self absent
  refine retains.answerAll (sound.add key) unremoved uncleared ?_
  rw [Finset.empty_union]
  exact few

end KeyRepository

/-! ## A set beside a queue -/

/-- A repository that looks keys up in a set and holds them in a queue, oldest first. -/
structure IndexedRepository where
  capacity : Nat
  index : Finset String := ∅
  queue : List String := []

namespace IndexedRepository

def new (capacity : Nat) : IndexedRepository where
  capacity := max capacity 1

/-- Takes the oldest key out of the queue and the set if the set is full. -/
def evict (repository : IndexedRepository) : IndexedRepository :=
  if repository.capacity ≤ repository.index.card then
    match repository.queue with
    | oldest :: rest =>
        { repository with index := repository.index.erase oldest, queue := rest }
    | [] => repository
  else repository

def add (repository : IndexedRepository) (key : String) : Bool × IndexedRepository :=
  if key ∈ repository.index then (false, repository)
  else
    (true,
      { repository.evict with
        index := insert key repository.evict.index
        queue := repository.evict.queue ++ [key] })

def remove (repository : IndexedRepository) (key : String) : Bool × IndexedRepository :=
  if key ∈ repository.index then
    (true,
      { repository with
        index := repository.index.erase key
        queue := repository.queue.filter fun other => other != key })
  else (false, repository)

def answer (repository : IndexedRepository) :
    RepositoryRequest → RepositoryAnswer × IndexedRepository
  | .add key => (.truth (repository.add key).1, (repository.add key).2)
  | .contains key => (.truth (decide (key ∈ repository.index)), repository)
  | .remove key => (.truth (repository.remove key).1, (repository.remove key).2)
  | .clear => (.done, { repository with index := ∅, queue := [] })
  | .size => (.number repository.index.card, repository)

/-- The set and the queue hold the keys of the list. -/
structure Represents (indexed : IndexedRepository) (listed : KeyRepository) : Prop where
  capacity : indexed.capacity = listed.capacity
  index : indexed.index = listed.keys.toFinset
  queue : indexed.queue = listed.keys

variable {capacity : Nat} {indexed : IndexedRepository} {listed : KeyRepository}

theorem Represents.mem_index (represents : indexed.Represents listed) (key : String) :
    key ∈ indexed.index ↔ key ∈ listed.keys := by
  rw [represents.index]
  exact List.mem_toFinset

theorem Represents.card_index (represents : indexed.Represents listed)
    (sound : listed.Sound capacity) : indexed.index.card = listed.keys.length := by
  rw [represents.index]
  exact List.toFinset_card_of_nodup sound.distinct

theorem Represents.evict (represents : indexed.Represents listed) (sound : listed.Sound capacity) :
    indexed.evict.Represents { listed with keys := listed.kept } := by
  have count := represents.card_index sound
  unfold IndexedRepository.evict KeyRepository.kept
  rw [count, represents.capacity, represents.queue]
  by_cases full : listed.capacity ≤ listed.keys.length
  · rw [if_pos full, if_pos full]
    cases held : listed.keys with
    | nil =>
        have positive := sound.positive
        rw [held, sound.limit] at full
        exact absurd full (Nat.not_le_of_lt positive)
    | cons oldest rest =>
        have distinct := sound.distinct
        rw [held] at distinct
        have outside : oldest ∉ rest.toFinset :=
          mt List.mem_toFinset.mp (List.nodup_cons.mp distinct).1
        refine ⟨rfl, ?_, rfl⟩
        change indexed.index.erase oldest = rest.toFinset
        rw [represents.index, held, List.toFinset_cons, Finset.erase_insert outside]
  · rw [if_neg full, if_neg full]
    exact represents

theorem Represents.add (represents : indexed.Represents listed) (sound : listed.Sound capacity)
    (key : String) :
    (indexed.add key).1 = (listed.add key).1 ∧
      (indexed.add key).2.Represents (listed.add key).2 := by
  by_cases member : key ∈ listed.keys
  · rw [IndexedRepository.add, if_pos ((represents.mem_index key).mpr member),
      KeyRepository.add_of_contains (KeyRepository.contains_iff_mem.mpr member)]
    exact ⟨rfl, represents⟩
  · rw [IndexedRepository.add, if_neg (mt (represents.mem_index key).mp member),
      KeyRepository.add_of_not_mem member]
    have evicted := represents.evict sound
    refine ⟨rfl, evicted.capacity, ?_, ?_⟩
    · change insert key indexed.evict.index = (listed.kept ++ [key]).toFinset
      rw [evicted.index, List.toFinset_append, Finset.union_comm]
      rfl
    · change indexed.evict.queue ++ [key] = listed.kept ++ [key]
      rw [evicted.queue]

theorem Represents.remove (represents : indexed.Represents listed) (key : String) :
    (indexed.remove key).1 = (listed.remove key).1 ∧
      (indexed.remove key).2.Represents (listed.remove key).2 := by
  by_cases member : key ∈ listed.keys
  · rw [IndexedRepository.remove, if_pos ((represents.mem_index key).mpr member),
      KeyRepository.remove, if_pos (KeyRepository.contains_iff_mem.mpr member)]
    refine ⟨rfl, represents.capacity, ?_, ?_⟩
    · change indexed.index.erase key = (listed.keys.filter fun other => other != key).toFinset
      ext other
      rw [represents.index, Finset.mem_erase, List.mem_toFinset, List.mem_toFinset,
        List.mem_filter, bne_iff_ne]
      exact and_comm
    · exact congrArg (List.filter fun other => other != key) represents.queue
  · rw [IndexedRepository.remove, if_neg (mt (represents.mem_index key).mp member),
      KeyRepository.remove, if_neg (mt KeyRepository.contains_iff_mem.mp member)]
    exact ⟨rfl, represents⟩

/-- One answer is the same, and the set and the queue stay in step with the list. -/
theorem Represents.answer (represents : indexed.Represents listed) (sound : listed.Sound capacity)
    (request : RepositoryRequest) :
    (indexed.answer request).1 = (listed.answer request).1 ∧
      (indexed.answer request).2.Represents (listed.answer request).2 := by
  cases request with
  | add key =>
      obtain ⟨same, after⟩ := represents.add sound key
      exact ⟨congrArg RepositoryAnswer.truth same, after⟩
  | contains key =>
      refine ⟨congrArg RepositoryAnswer.truth ?_, represents⟩
      rw [Bool.eq_iff_iff, decide_eq_true_iff, KeyRepository.contains_iff_mem]
      exact represents.mem_index key
  | remove key =>
      obtain ⟨same, after⟩ := represents.remove key
      exact ⟨congrArg RepositoryAnswer.truth same, after⟩
  | clear => exact ⟨rfl, represents.capacity, rfl, rfl⟩
  | size => exact ⟨congrArg RepositoryAnswer.number (represents.card_index sound), represents⟩

/-- Whatever is asked, both repositories answer alike. -/
theorem alike (capacity : Nat) (requests : List RepositoryRequest) :
    (answerAll answer (new capacity) requests).1 =
        (answerAll KeyRepository.answer (.new capacity) requests).1 ∧
      (answerAll answer (new capacity) requests).2.Represents
        (answerAll KeyRepository.answer (.new capacity) requests).2 ∧
      (answerAll KeyRepository.answer (.new capacity) requests).2.Sound (max capacity 1) := by
  have step : ∀ (indexed : IndexedRepository) (listed : KeyRepository)
      (request : RepositoryRequest), indexed.Represents listed ∧ listed.Sound (max capacity 1) →
        (indexed.answer request).1 = (listed.answer request).1 ∧
          ((indexed.answer request).2.Represents (listed.answer request).2 ∧
            (listed.answer request).2.Sound (max capacity 1)) := by
    rintro indexed listed request ⟨represents, sound⟩
    obtain ⟨same, after⟩ := represents.answer sound request
    exact ⟨same, after, sound.answer request⟩
  exact answerAll_alike step ⟨⟨rfl, rfl, rfl⟩, KeyRepository.sound_new capacity⟩ requests

/-- Whatever is asked of it, a repository with a set and a queue answers as the list of keys does,
and both hold the same keys, each once and no more than fit. A key whose addition was answered with
`true` is held until it is removed, the repository is cleared, or at least as many other keys were
added as fit. -/
theorem answers_by_age (capacity : Nat) (requests : List RepositoryRequest) :
    let answers := (answerAll answer (new capacity) requests).1
    let after := (answerAll answer (new capacity) requests).2
    answers = (answerAll KeyRepository.answer (.new capacity) requests).1 ∧
      after.queue = (answerAll KeyRepository.answer (.new capacity) requests).2.keys ∧
      (∀ key, key ∈ after.index ↔ key ∈ after.queue) ∧
      after.queue.Nodup ∧ after.queue.length ≤ max capacity 1 ∧
      ∀ (earlier later : List RepositoryRequest) (key : String),
        requests = earlier ++ .add key :: later →
        answers[earlier.length]? = some (.truth true) →
        .remove key ∉ later → .clear ∉ later →
        ((additions later (answers.drop (earlier.length + 1))).toFinset.erase key).card <
          max capacity 1 →
        key ∈ after.index := by
  obtain ⟨same, represents, sound⟩ := alike capacity requests
  dsimp only
  rw [represents.queue]
  refine ⟨same, rfl, represents.mem_index, sound.distinct, sound.bounded, ?_⟩
  intro earlier later key whole added unremoved uncleared few
  rw [represents.mem_index key]
  obtain ⟨_, _, soundBefore⟩ := alike capacity earlier
  rw [same, whole, answerAll_append] at added few
  rw [whole, answerAll_append]
  have counted : (answerAll KeyRepository.answer (.new capacity) earlier).1.length =
      earlier.length := length_answerAll _ earlier
  generalize answerAll KeyRepository.answer (.new capacity) earlier = before at *
  rw [← counted, List.getElem?_append_right (Nat.le_refl _), Nat.sub_self] at added
  rw [← counted, List.drop_length_add_append] at few
  have first : (before.2.add key).1 = true := RepositoryAnswer.truth.inj (Option.some.inj added)
  exact soundBefore.retained first unremoved uncleared few

/-- With one other key added, a key is retained by a repository for two; the key before it is
not. -/
theorem answers_by_age_of_two :
    let after := (answerAll answer (new 2)
      [.add "old", .add "key", .add "key", .add "young", .contains "old"]).2
    "key" ∈ after.index ∧ "old" ∉ after.index :=
  have retained := (answers_by_age 2
    [.add "old", .add "key", .add "key", .add "young", .contains "old"]).2.2.2.2.2
  ⟨retained [.add "old"] [.add "key", .add "young", .contains "old"] "key" rfl
    (by decide +kernel) (by decide) (by decide) (by decide +kernel), by decide +kernel⟩

end IndexedRepository

end MessageRouting
