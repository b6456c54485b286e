import MessageRouting.Proofs.Idempotent.Deduplication
import MessageRouting.Proofs.Idempotent.Repository

/-!
# Whether a key is held

What consumers with the same options and the completions of their exchanges do to one
key of a repository that is left to them. The events that are told of an exchange
tell whether the key is held after them: an exchange is let through as one with a new
key only if it is not.
-/

namespace MessageRouting

/-! ## Consumers with the same options -/

/-- A repository, and the options of the consumers that use it. -/
structure Usage where
  repository : Nat
  options : IdempotentOptions

namespace Completion

def concerns (repository : Nat) : Completion → Bool
  | settleKey other _ _ => other == repository
  | _ => false

end Completion

namespace Usage

variable (usage : Usage)

/-- A consumer that uses the repository with the options. -/
structure Uses (consumer : IdempotentConsumer) : Prop where
  repository : consumer.repository = usage.repository
  options : consumer.options = usage.options

def Keeps (before after : Broker) : Prop :=
  after.repositories.get? usage.repository = before.repositories.get? usage.repository

/-- No settlement of a key of the repository is added. -/
def AddsNone (before after : Exchange) : Prop :=
  ∀ completion : Completion, completion.concerns usage.repository = true →
    after.pending.count completion ≤ before.pending.count completion

/-- The steps around the consumers leave the repository to them, and the settlement of its keys. -/
def latitude : Latitude where
  kept := usage.Keeps
  change := usage.AddsNone
  turnsTo _ := False
  unseen unseen := by
    unfold Keeps
    rw [unseen.repositories]
  still same _ _ := Nat.le_of_eq (by rw [same])

/-- No settlement of a key of the repository is due. -/
def Unowing (exchange : Exchange) : Prop :=
  ∀ completion ∈ exchange.pending, completion.concerns usage.repository = false

/-! ## Whether a key is held -/

/-- What an event does to a key that is held, or is not. An exchange is let through as one with a new
key only if the key is not held. -/
def turn (key : String) (held : Bool) : KeyEvent → Option Bool
  | .called consumer other true =>
      if other = key then if held then none else some consumer.options.eager else some held
  | .settled repository other options succeeded =>
      if repository = usage.repository ∧ other = key then
        some (if succeeded then held || !options.eager else held && !options.removeOnFailure)
      else some held
  | .evicted repository other =>
      some (if repository = usage.repository ∧ other = key then false else held)
  | _ => some held

def Held (key : String) (broker : Broker) (held : Bool) : Prop :=
  ∃ repository, broker.repositories.get? usage.repository = some repository ∧
    repository.contains key = held

def Follows (key : String) (events : List KeyEvent) (before after : Broker) : Prop :=
  ∀ held, usage.Held key before held →
    ∃ now, events.foldlM (usage.turn key) held = some now ∧ usage.Held key after now

variable {usage} {key : String} {before after : Broker} {held now : Bool}

theorem additive_follows : Marked.Additive (usage.Follows key) where
  nothing broker held found := ⟨held, rfl, found⟩
  andThen first second held found := by
    obtain ⟨between, told, foundBetween⟩ := first held found
    obtain ⟨now, toldLater, foundNow⟩ := second between foundBetween
    refine ⟨now, ?_, foundNow⟩
    rw [List.foldlM_append, told]
    exact toldLater

theorem keys_of_found {broker : Broker} {repository : KeyRepository}
    (found : broker.repositories.get? usage.repository = some repository) :
    broker.keys usage.repository = repository.keys := by
  rw [Broker.keys, Register.getD, found]
  rfl

/-- What a request evicts is not held any more. -/
theorem foldlM_losses {repository : KeyRepository} {broker : Broker}
    (found : broker.repositories.get? usage.repository = some repository)
    (request? : Option RepositoryRequest) (held : Bool) :
    (Broker.losses usage.repository request? broker).foldlM (usage.turn key) held =
      some (if key ∈ request?.elim [] (RepositoryRequest.evicted repository) then false
        else held) := by
  have releasing : ∀ lost : List String,
      (lost.map (KeyEvent.released usage.repository)).foldlM (usage.turn key) held = some held := by
    intro lost
    induction lost with
    | nil => rfl
    | cons other rest inductionHypothesis => exact inductionHypothesis
  have evicting : ∀ (lost : List String) (held : Bool),
      (lost.map (KeyEvent.evicted usage.repository)).foldlM (usage.turn key) held =
        some (if key ∈ lost then false else held) := by
    intro lost
    induction lost with
    | nil => exact fun _ => rfl
    | cons other rest inductionHypothesis =>
        intro held
        have first : usage.turn key held (.evicted usage.repository other) =
            some (if other = key then false else held) := by
          simp [turn]
        rw [List.map_cons, List.foldlM_cons, first]
        refine (inductionHypothesis _).trans ?_
        by_cases same : other = key
        · simp [same]
        · simp [same, Ne.symm same]
  unfold Broker.losses
  rw [found]
  cases request? with
  | none => rfl
  | some request =>
      refine List.foldlM_append.trans ?_
      rw [releasing]
      exact evicting _ held

/-! ## What consumers and completions do -/

theorem follows_of_keeps (keeps : usage.Keeps before after) :
    usage.Follows key [] before after := by
  rintro held ⟨repository, found, rfl⟩
  rw [← keeps] at found
  exact ⟨_, rfl, repository, found, rfl⟩

def Neutral (usage : Usage) (key : String) (event : KeyEvent) : Prop :=
  ∀ held, usage.turn key held event = some held

theorem obeys_note {event : KeyEvent} (neutral : usage.Neutral key event) :
    (Marked.note event : Marked KeyEvent Broker PUnit).Obeys (usage.Follows key)
      Marked.unnoted := by
  rintro broker held found
  refine ⟨held, ?_, found⟩
  change List.foldlM _ held [event] = _
  rw [List.foldlM_cons, neutral held]
  rfl

theorem obeys_lift_of_keeps {α : Type} {routine : Routine Broker α}
    (respects : ∀ broker, routine.Respects usage.Keeps broker) :
    (Marked.lift routine).Obeys (usage.Follows key) Marked.unnoted :=
  Marked.obeys_lift additive_follows follows_of_keeps respects

/-- An exchange is let through after the key was claimed or was found to be new. -/
theorem follows_called {consumer : IdempotentConsumer} {other : String}
    {repository : KeyRepository} (uses : usage.Uses consumer)
    (found : before.repositories.get? usage.repository = some repository)
    (isNew : repository.contains other = false)
    (asked : Broker.Asked usage.repository (consumer.claim? other) before after) :
    usage.Follows key
      (Broker.losses usage.repository (consumer.claim? other) before ++
        [.called consumer other true]) before after := by
  rintro held ⟨_, foundBefore, rfl⟩
  obtain rfl := Option.some.inj (found.symm.trans foundBefore)
  have foundAfter := asked.repository
  rw [found] at foundAfter
  refine ⟨_, ?_, _, foundAfter, rfl⟩
  rw [List.foldlM_append, foldlM_losses found]
  change usage.turn key _ (.called consumer other true) >>= some = _
  unfold IdempotentConsumer.claim?
  rw [uses.options]
  cases eager : usage.options.eager with
  | true =>
      rw [if_pos rfl]
      by_cases same : other = key
      · subst same
        simp [turn, isNew, uses.options, eager, KeyRepository.answer,
          KeyRepository.contains_add_self]
      · have kept : (repository.add other).2.contains key = _ :=
          RepositoryRequest.contains_add_of_ne same
        by_cases gone : key ∈ (RepositoryRequest.add other).evicted repository <;>
          simp [turn, same, KeyRepository.answer, kept, gone]
  | false =>
      rw [if_neg Bool.false_ne_true]
      by_cases same : other = key
      · subst same
        simp [turn, isNew, uses.options, eager]
      · simp [turn, same]

/-- An exchange is refused because its key is known. -/
theorem follows_refused {consumer : IdempotentConsumer} {other : String}
    {repository : KeyRepository}
    (found : before.repositories.get? usage.repository = some repository)
    (known : repository.contains other = true)
    (asked : Broker.Asked usage.repository (consumer.claim? other) before after) :
    usage.Follows key (Broker.losses usage.repository (consumer.claim? other) before) before
      after := by
  rintro held ⟨_, foundBefore, rfl⟩
  obtain rfl := Option.some.inj (found.symm.trans foundBefore)
  have foundAfter := asked.repository
  rw [found] at foundAfter
  refine ⟨_, ?_, _, foundAfter, rfl⟩
  rw [foldlM_losses found]
  unfold IdempotentConsumer.claim?
  cases consumer.options.eager with
  | true =>
      simp [RepositoryRequest.evicted_of_contains known, KeyRepository.answer,
        KeyRepository.add_of_contains known]
  | false => simp

/-- A key is settled. -/
theorem follows_settled {options : IdempotentOptions} {succeeded : Bool} {other : String}
    {repository : KeyRepository}
    (found : before.repositories.get? usage.repository = some repository)
    (asked : Broker.Asked usage.repository (KeyRepository.settlement? options succeeded other) before
      after) :
    usage.Follows key
      (Broker.losses usage.repository (KeyRepository.settlement? options succeeded other) before ++
        [.settled usage.repository other options succeeded]) before after := by
  rintro held ⟨_, foundBefore, rfl⟩
  obtain rfl := Option.some.inj (found.symm.trans foundBefore)
  have foundAfter := asked.repository
  rw [found] at foundAfter
  refine ⟨_, ?_, _, foundAfter, rfl⟩
  rw [List.foldlM_append, foldlM_losses found]
  change usage.turn key _ (.settled usage.repository other options succeeded) >>= some = _
  unfold KeyRepository.settlement?
  cases succeeded with
  | true =>
      cases eager : options.eager with
      | true => by_cases itself : other = key <;> simp [turn, itself, eager]
      | false =>
          by_cases same : other = key
          · subst same
            simp [turn, eager, KeyRepository.answer, KeyRepository.contains_add_self]
          · simp [turn, same, KeyRepository.answer, RepositoryRequest.contains_add_of_ne same]
  | false =>
      cases removes : options.removeOnFailure with
      | true =>
          have none : key ∉ (RepositoryRequest.remove other).evicted repository :=
            List.not_mem_nil
          by_cases same : other = key
          · subst same
            simp [turn, removes, none, KeyRepository.answer, KeyRepository.contains_remove_self]
          · simp [turn, same, none, KeyRepository.answer, KeyRepository.contains_remove_of_ne same]
      | false => by_cases itself : other = key <;> simp [turn, itself, removes]

theorem keeps_count (metrics : Option Nat) (change : Metrics → Metrics) (broker : Broker) :
    (Broker.count metrics change).Respects usage.Keeps broker := by
  cases metrics with
  | none => trivial
  | some handle => exact ⟨rfl, trivial⟩

theorem obeys_tellAssess {consumer : IdempotentConsumer} (uses : usage.Uses consumer)
    (exchange : Exchange) :
    (consumer.tellAssess exchange).Obeys (usage.Follows key) Marked.unnoted := by
  unfold IdempotentConsumer.tellAssess
  cases consumer.keyOf exchange with
  | none => exact Marked.obeys_done additive_follows _
  | some other =>
      have arriving : usage.Neutral key (.arrived consumer other) := fun _ => rfl
      apply (obeys_note arriving).bind additive_follows
      intro _ _ broker
      obtain ⟨step, accepts, steps⟩ := consumer.exists_step_accept other
      rw [uses.repository] at steps
      obtain ⟨answer, asked⟩ := steps broker
      rw [accepts, uses.repository]
      apply Marked.obeysFrom_announcing_bind
      rw [List.nil_append, Marked.unnoted, List.append_nil]
      cases isNew : (step broker).1 with
      | true =>
          have follows : usage.Follows key
              (Broker.losses usage.repository (consumer.claim? other) broker ++
                [.called consumer other true]) broker (step broker).2 := by
            rintro held ⟨repository, found, same⟩
            have absent : repository.contains other = false := by
              simpa [isNew, found] using answer
            exact follows_called uses found absent asked held ⟨repository, found, same⟩
          cases exchange.isInUnitOfWork <;> exact follows
      | false =>
          have follows : usage.Follows key
              (Broker.losses usage.repository (consumer.claim? other) broker) broker
              (step broker).2 := by
            rintro held ⟨repository, found, same⟩
            have known : repository.contains other = true := by
              simpa [isNew, found] using answer
            exact follows_refused found known asked held ⟨repository, found, same⟩
          have counting : ∀ broker : Broker, (Routine.modify fun broker : Broker =>
              { broker with
                duplicates := broker.duplicates.modify consumer.duplicates (· + 1) }).Respects
                  usage.Keeps broker := fun _ => ⟨rfl, trivial⟩
          refine Marked.Obeys.from ?_ additive_follows follows
          refine (obeys_lift_of_keeps counting).bind additive_follows fun _ _ => ?_
          refine (obeys_lift_of_keeps (keeps_count _ _)).bind additive_follows fun _ _ => ?_
          refine (obeys_note fun _ => rfl).bind additive_follows fun _ _ => ?_
          cases consumer.options.skipDuplicate with
          | true => exact Marked.obeys_done additive_follows _
          | false =>
              exact (obeys_note fun _ => rfl).bind additive_follows fun _ _ =>
                Marked.obeys_done additive_follows _

theorem keeps_carryOut {completion : Completion}
    (apart : completion.concerns usage.repository = false) (exchange : Exchange) (broker : Broker) :
    (completion.carryOut exchange).Respects usage.Keeps broker := by
  cases completion with
  | note =>
      rw [Completion.carryOut_note]
      exact ⟨rfl, trivial⟩
  | record =>
      rw [Completion.carryOut_record]
      exact ⟨rfl, trivial⟩
  | releaseItem =>
      rw [Completion.carryOut_releaseItem]
      exact ⟨rfl, trivial⟩
  | settleKey repository other options =>
      rw [Completion.carryOut_settleKey]
      have different : repository ≠ usage.repository := by
        simpa [Completion.concerns] using apart
      exact ⟨(Register.get?_modify ..).trans (if_neg different), trivial⟩

/-- Requests to other repositories leave the key as it is. -/
theorem follows_apart {handle : Nat} {request? : Option RepositoryRequest}
    (different : handle ≠ usage.repository)
    (asked : Broker.Asked handle request? before after) (event : KeyEvent)
    (neutral : usage.Neutral key event) :
    usage.Follows key (Broker.losses handle request? before ++ [event]) before after := by
  have lost : ∀ event ∈ Broker.losses handle request? before, usage.Neutral key event := by
    intro event member
    unfold Broker.losses at member
    cases found : before.repositories.get? handle with
    | none =>
        rw [found] at member
        contradiction
    | some held =>
        rw [found] at member
        cases request? with
        | none => contradiction
        | some request =>
            rcases List.mem_append.mp member with listed | listed
            · obtain ⟨other, _, rfl⟩ := List.mem_map.mp listed
              exact fun _ => rfl
            · obtain ⟨other, _, rfl⟩ := List.mem_map.mp listed
              exact fun _ => congrArg some (if_neg fun both => different both.1)
  have passing : ∀ events : List KeyEvent, (∀ event ∈ events, usage.Neutral key event) →
      ∀ held, events.foldlM (usage.turn key) held = some held := by
    intro events neutral held
    induction events with
    | nil => rfl
    | cons event rest inductionHypothesis =>
        rw [List.foldlM_cons, neutral event List.mem_cons_self held]
        exact inductionHypothesis fun other member =>
          neutral other (List.mem_cons_of_mem _ member)
  rintro held ⟨repository, found, same⟩
  rw [← asked.others usage.repository (Ne.symm different)] at found
  refine ⟨held, passing _ ?_ held, repository, found, same⟩
  intro other member
  rcases List.mem_append.mp member with before | last
  · exact lost other before
  · rw [List.mem_singleton.mp last]
    exact neutral

theorem obeys_observeCarryOut (exchange : Exchange) (completion : Completion) :
    (completion.observeCarryOut exchange).Obeys (usage.Follows key) Marked.unnoted := by
  have quiet {completion : Completion} (apart : completion.concerns usage.repository = false)
      (lossless : completion.losses exchange = fun _ => [])
      (untold : completion.telling exchange = pure ⟨⟩) :
      (completion.observeCarryOut exchange).Obeys (usage.Follows key) Marked.unnoted := by
    unfold Completion.observeCarryOut
    rw [lossless, untold, Marked.announcing_nothing]
    exact (obeys_lift_of_keeps (keeps_carryOut apart exchange)).bind additive_follows fun _ _ =>
      Marked.obeys_done additive_follows _
  cases completion with
  | note => exact quiet rfl rfl rfl
  | record => exact quiet rfl rfl rfl
  | releaseItem => exact quiet rfl rfl rfl
  | settleKey repository other options =>
      obtain ⟨change, same, asks⟩ := Completion.exists_step_carryOut exchange repository other options
      unfold Completion.observeCarryOut
      rw [same]
      intro broker
      apply Marked.obeysFrom_announcing_bind
      rw [List.nil_append, Marked.unnoted, List.append_nil]
      by_cases concerned : repository = usage.repository
      · obtain rfl := concerned
        rintro held ⟨repository, found, same⟩
        exact follows_settled found (asks broker) held ⟨repository, found, same⟩
      · exact follows_apart concerned (asks broker) _ fun _ =>
          if_neg fun both => concerned both.1

end Usage

end MessageRouting
