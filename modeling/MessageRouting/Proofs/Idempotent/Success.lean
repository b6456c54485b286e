import MessageRouting.Proofs.Idempotent.Holding

/-!
# How long a recorded success lasts

After the completion of an exchange has recorded a success, the repository holds its
key. It loses that key only if the consumer asks before it records and releases on
failure, and then by the failure of an exchange that was let through with the same key
before the success was recorded. In eager mode, or if a failure releases nothing, a
recorded success lasts.
-/

namespace MessageRouting

/-! ## What is counted -/

namespace KeyEvent

/-- An exchange with the key is let through as one with a new key. -/
def admits (key : String) : KeyEvent → Bool
  | called _ other true => other == key
  | _ => false

/-- An exchange that was let through with the key is settled. -/
def settles (repository : Nat) (key : String) : KeyEvent → Bool
  | settled other held _ _ => other == repository && held == key
  | _ => false

end KeyEvent

namespace Usage

variable {usage : Usage} {key : String} {before after : Broker} {held now : Bool}

/-! ## Who may settle a key -/

/-- An exchange that is let through with the key is given a credit, and settling the key costs one.
Everything is done under the same options. -/
def tariff (usage : Usage) (key : String) : Tariff KeyEvent where
  pays
    | .called consumer other true, credit, rest =>
        consumer.options = usage.options ∧ rest = credit + if other = key then 1 else 0
    | .settled repository other options _, credit, rest =>
        if repository = usage.repository then
          options = usage.options ∧ credit = rest + if other = key then 1 else 0
        else rest = credit
    | _, credit, rest => rest = credit
  more {event credit rest} extra pays := by
    cases event with
    | called consumer other isNew =>
        cases isNew with
        | true => exact ⟨pays.1, by omega⟩
        | false => exact congrArg (· + extra) pays
    | settled repository other options succeeded =>
        dsimp only at pays ⊢
        split
        · rename_i same
          rw [if_pos same] at pays
          exact ⟨pays.1, by omega⟩
        · rename_i different
          rw [if_neg different] at pays
          exact congrArg (· + extra) pays
    | _ => exact congrArg (· + extra) pays

/-- What is due on an exchange is due under the options and covered by the credit. -/
structure Affords (usage : Usage) (key : String) (credit : Nat) (exchange : Exchange) : Prop where
  options : ∀ other options, .settleKey usage.repository other options ∈ exchange.pending →
    options = usage.options
  covered : exchange.pending.count (.settleKey usage.repository key usage.options) ≤ credit

theorem Affords.change {credit : Nat} {exchange other : Exchange}
    (affords : usage.Affords key credit exchange) (change : usage.AddsNone exchange other) :
    usage.Affords key credit other := by
  have concerns : ∀ key options,
      (Completion.settleKey usage.repository key options).concerns usage.repository = true := by
    intro key options
    simp [Completion.concerns]
  constructor
  · intro another options member
    have fewer := change _ (concerns another options)
    have present := List.count_pos_iff.mpr member
    exact affords.options another options (List.count_pos_iff.mp (by omega))
  · exact Nat.le_trans (change _ (concerns key usage.options)) affords.covered

theorem Affords.of_pending {credit : Nat} {exchange other : Exchange}
    (affords : usage.Affords key credit exchange) (same : other.pending = exchange.pending) :
    usage.Affords key credit other := by
  obtain ⟨options, covered⟩ := affords
  rw [← same] at options covered
  exact ⟨options, covered⟩

theorem affords_of_settled {credit : Nat} {exchange : Exchange} (settled : exchange.pending = []) :
    usage.Affords key credit exchange := by
  constructor
  · intro other options member
    rw [settled] at member
    contradiction
  · rw [settled]
    exact Nat.zero_le _

/-- An exchange that is let through inside of a unit of work owes the settlement of its key. -/
theorem Affords.addCompletion {credit : Nat} {exchange : Exchange}
    (affords : usage.Affords key credit exchange) (other : String) :
    usage.Affords key (credit + if other = key then 1 else 0)
      (exchange.addCompletion (.settleKey usage.repository other usage.options)) := by
  constructor
  · intro another options member
    rw [Exchange.pending_addCompletion] at member
    rcases List.mem_append.mp member with before | last
    · exact affords.options another options before
    · obtain ⟨_, _, rfl⟩ := Completion.settleKey.inj (List.mem_singleton.mp last)
      rfl
  · have covered := affords.covered
    rw [Exchange.pending_addCompletion, List.count_append, List.count_singleton]
    by_cases same : other = key
    · subst same
      simpa using covered
    · simpa [same] using covered

/-- What an admitted exchange owes is covered, and so is what is due after the steps behind the
consumer. -/
def AffordsAdmission (usage : Usage) (key : String) (credit : Nat) :
    IdempotentConsumer.Admission → Prop
  | .refused exchange _ => usage.Affords key credit exchange
  | .admitted exchange none => usage.Affords key credit exchange
  | .admitted exchange (some completion) => ∃ other, ∃ kept,
      completion = .settleKey usage.repository other usage.options ∧
        usage.Affords key kept exchange ∧ credit = kept + if other = key then 1 else 0

/-- What a repository loses costs nothing. -/
theorem free_losses {handle : Nat} {request? : Option RepositoryRequest} (broker : Broker) :
    ∀ event ∈ Broker.losses handle request? broker, (usage.tariff key).Free event := by
  intro event member
  unfold Broker.losses at member
  cases found : broker.repositories.get? handle with
  | none =>
      rw [found] at member
      contradiction
  | some held =>
      rw [found] at member
      cases request? with
      | none => contradiction
      | some request =>
          rcases List.mem_append.mp member with listed | listed
          · obtain ⟨lost, _, rfl⟩ := List.mem_map.mp listed
            exact fun _ => rfl
          · obtain ⟨lost, _, rfl⟩ := List.mem_map.mp listed
            exact fun _ => rfl

theorem solvent_tellAssess {credit : Nat} {consumer : IdempotentConsumer}
    (uses : usage.Uses consumer) {exchange : Exchange}
    (affords : usage.Affords key credit exchange) :
    (consumer.tellAssess exchange).Solvent (usage.tariff key) (usage.AffordsAdmission key)
      credit := by
  unfold IdempotentConsumer.tellAssess
  cases consumer.keyOf exchange with
  | none => exact affords
  | some other =>
      refine ⟨credit, rfl, ?_⟩
      apply Marked.solvent_announcing_bind free_losses
      intro isNew _
      cases isNew with
      | true =>
          refine ⟨_, ⟨uses.options, rfl⟩, ?_⟩
          rw [uses.repository, uses.options]
          by_cases inside : exchange.isInUnitOfWork = true
          · rw [if_pos inside]
            exact affords.addCompletion other
          · rw [if_neg inside]
            exact ⟨other, _, rfl, affords, rfl⟩
      | false =>
          have marked : usage.Affords key credit (exchange.put .duplicateMessage (.bool true)) :=
            affords.of_pending rfl
          refine Marked.solvent_lift_bind fun _ _ => ?_
          refine Marked.solvent_lift_bind fun _ _ => ?_
          refine ⟨credit, rfl, ?_⟩
          cases consumer.options.skipDuplicate with
          | true => exact marked
          | false => exact ⟨credit, rfl, marked⟩

theorem solvent_observeCarryOut {credit : Nat} {affords : Nat → Unit → Prop} (other : String)
    (exchange : Exchange) (affordable : affords credit ()) :
    ((Completion.settleKey usage.repository other usage.options).observeCarryOut
      exchange).Solvent (usage.tariff key) affords (credit + if other = key then 1 else 0) := by
  refine Marked.solvent_announcing_bind free_losses fun _ _ => ?_
  refine ⟨credit, ?_, affordable⟩
  dsimp only [tariff]
  rw [if_pos rfl]
  exact ⟨rfl, rfl⟩

theorem solvent_observeCarryOut_apart {credit : Nat} {completion : Completion}
    (apart : completion.concerns usage.repository = false) (exchange : Exchange) :
    (completion.observeCarryOut exchange).Solvent (usage.tariff key) (fun left _ => left = credit)
      credit := by
  have silent : ∀ broker : Broker, ∀ event ∈ ([] : List KeyEvent), (usage.tariff key).Free event :=
    fun _ _ impossible => absurd impossible List.not_mem_nil
  cases completion with
  | settleKey repository other options =>
      have different : repository ≠ usage.repository := by
        simpa [Completion.concerns] using apart
      refine Marked.solvent_announcing_bind free_losses fun _ _ => ⟨credit, ?_, rfl⟩
      dsimp only [tariff]
      rw [if_neg different]
  | note => exact Marked.solvent_announcing_bind silent fun _ _ => rfl
  | record => exact Marked.solvent_announcing_bind silent fun _ _ => rfl
  | releaseItem => exact Marked.solvent_announcing_bind silent fun _ _ => rfl

/-- At the end of a unit of work everything that is due is paid for. -/
theorem solvent_observeAll {credit : Nat} {completions : List Completion} (exchange : Exchange)
    (options : ∀ other options, .settleKey usage.repository other options ∈ completions →
      options = usage.options)
    (covered : completions.count (.settleKey usage.repository key usage.options) ≤ credit) :
    (exchange.observeAll completions).Solvent (usage.tariff key) (fun _ _ => True) credit := by
  induction completions generalizing credit with
  | nil => trivial
  | cons completion rest inductionHypothesis =>
      have others : ∀ other options, .settleKey usage.repository other options ∈ rest →
          options = usage.options :=
        fun other held member => options other held (List.mem_cons_of_mem _ member)
      cases apart : completion.concerns usage.repository with
      | false =>
          refine (solvent_observeCarryOut_apart apart exchange).bind ?_
          rintro left _ _ rfl
          exact inductionHypothesis others (Nat.le_trans (List.count_le_count_cons) covered)
      | true =>
          cases completion with
          | settleKey repository other held =>
              obtain rfl : repository = usage.repository := by
                simpa [Completion.concerns] using apart
              obtain rfl := options other held List.mem_cons_self
              obtain ⟨kept, rfl, left⟩ : ∃ kept, credit = kept + (if other = key then 1 else 0) ∧
                  rest.count (.settleKey usage.repository key usage.options) ≤ kept := by
                rw [List.count_cons] at covered
                by_cases same : other = key
                · refine ⟨credit - 1, ?_, ?_⟩ <;> simp [same] at covered ⊢ <;> omega
                · refine ⟨credit, ?_, ?_⟩ <;> simp [same] at covered ⊢
                  exact covered
              have carried : ((Completion.settleKey usage.repository other
                  usage.options).observeCarryOut exchange).Solvent (usage.tariff key)
                    (fun left _ => left = kept) (kept + if other = key then 1 else 0) :=
                solvent_observeCarryOut other exchange rfl
              refine carried.bind ?_
              rintro _ _ _ rfl
              exact inductionHypothesis others left
          | note => contradiction
          | record => contradiction
          | releaseItem => contradiction

/-- Whatever is told pays for the keys that it settles. -/
theorem solvent_of_tells {α : Type} {own : IdempotentConsumer → Prop}
    (uses : ∀ consumer, own consumer → usage.Uses consumer) {exchange : Exchange}
    {view : α → Exchange} {routine : Routine Broker α} {marked : Marked KeyEvent Broker α}
    (tells : Tells own usage.latitude exchange view routine marked) {credit : Nat}
    (affords : usage.Affords key credit exchange) :
    marked.Solvent (usage.tariff key) (fun left value => usage.Affords key left (view value))
      credit := by
  induction tells generalizing credit with
  | lift _ changes =>
      exact Marked.solvent_lift fun value given => affords.change (changes value given)
  | @bind _ _ _ _ _ _ _ _ _ tells _ first second =>
      refine (first affords).bind ?_
      intro left value given affords
      rw [tells.unmarked] at given
      exact second value given affords
  | changed change _ inductionHypothesis => exact inductionHypothesis (affords.change change)
  | @consumer consumer exchange inner owned _ inductionHypothesis =>
      refine (solvent_tellAssess (uses consumer owned) affords).bind ?_
      intro left admission _ afforded
      cases admission with
      | refused => exact afforded
      | admitted entered due =>
          cases due with
          | none =>
              refine (inductionHypothesis entered afforded).bind ?_
              intro left after _ affords
              exact affords
          | some completion =>
              obtain ⟨other, kept, rfl, affords, rfl⟩ := afforded
              refine ((inductionHypothesis entered affords).more _).bind ?_
              rintro _ after _ ⟨left, rfl, affords⟩
              have settled : (IdempotentConsumer.tellDue (some (.settleKey usage.repository other
                  usage.options)) after).Solvent (usage.tariff key) (fun kept _ => kept = left)
                    (left + if other = key then 1 else 0) :=
                solvent_observeCarryOut other after rfl
              refine settled.bind ?_
              rintro _ _ _ rfl
              exact affords
  | request request turns => exact turns.elim
  | @finish exchange =>
      unfold Exchange.tellEnd
      cases begun : exchange.unitOfWork with
      | none => exact affords
      | some unit =>
          have due : exchange.pending = unit.completions := by
            rw [Exchange.pending, begun]
            rfl
          obtain ⟨options, covered⟩ := affords
          rw [due] at options covered
          refine (solvent_observeAll _ options covered).bind ?_
          intro left _ _ _
          exact affords_of_settled rfl

/-- An exchange that owes no settlement affords whatever it begins. -/
theorem Unowing.affords {exchange : Exchange} (unowing : usage.Unowing exchange) :
    usage.Affords key 0 exchange := by
  have absent : ∀ other options,
      .settleKey usage.repository other options ∉ exchange.pending := by
    intro other options member
    have apart := unowing _ member
    simp [Completion.concerns] at apart
  constructor
  · intro other options member
    exact absurd member (absent other options)
  · exact Nat.le_of_eq (List.count_eq_zero.mpr (absent key usage.options))

/-! ## What a history tells -/

variable {events earlier later : List KeyEvent} {options : IdempotentOptions} {credit rest : Nat}

/-- No key is let through as new while it is held, and none is settled without having been let
through. -/
structure Coherent (usage : Usage) (key : String) (events : List KeyEvent) (held : Bool)
    (credit : Nat) (now : Bool) (rest : Nat) : Prop where
  turns : events.foldlM (usage.turn key) held = some now
  paid : (usage.tariff key).Paid events credit rest
  undisplaced : .evicted usage.repository key ∉ events

theorem Coherent.split (coherent : usage.Coherent key (earlier ++ later) held credit now rest) :
    ∃ between kept, usage.Coherent key earlier held credit between kept ∧
      usage.Coherent key later between kept now rest := by
  obtain ⟨turns, paid, undisplaced⟩ := coherent
  rw [List.foldlM_append] at turns
  obtain ⟨between, early, late⟩ := Option.bind_eq_some_iff.mp turns
  obtain ⟨kept, before, after⟩ := Tariff.paid_append.mp paid
  rw [List.mem_append, not_or] at undisplaced
  exact ⟨between, kept, ⟨early, before, undisplaced.1⟩, ⟨late, after, undisplaced.2⟩⟩

theorem Coherent.cons {event : KeyEvent}
    (coherent : usage.Coherent key (event :: later) held credit now rest) :
    ∃ between kept, usage.turn key held event = some between ∧
      (usage.tariff key).pays event credit kept ∧
      usage.Coherent key later between kept now rest := by
  obtain ⟨turns, ⟨kept, pays, paid⟩, undisplaced⟩ := coherent
  rw [List.foldlM_cons] at turns
  obtain ⟨between, turn, turns⟩ := Option.bind_eq_some_iff.mp turns
  exact ⟨between, kept, turn, pays, turns, paid,
    fun member => undisplaced (List.mem_cons_of_mem _ member)⟩

/-- A key that is claimed at once is held as long as a settlement of it is to come, and only one
is. -/
def Claimed (held : Bool) (credit : Nat) : Prop :=
  credit ≤ 1 ∧ (held = false → credit = 0)

theorem Claimed.step {event : KeyEvent} {between : Bool} {kept : Nat}
    (eager : usage.options.eager = true) (claimed : Claimed held credit)
    (turn : usage.turn key held event = some between)
    (pays : (usage.tariff key).pays event credit kept) (undisplaced : event ≠ .evicted usage.repository key) :
    Claimed between kept := by
  obtain ⟨atMostOne, unheld⟩ := claimed
  cases event with
  | called consumer other isNew =>
      cases isNew with
      | false =>
          obtain rfl := Option.some.inj turn
          obtain rfl : kept = credit := pays
          exact ⟨atMostOne, unheld⟩
      | true =>
          obtain ⟨same, rfl⟩ := pays
          dsimp only [Usage.turn] at turn
          by_cases itself : other = key
          · rw [if_pos itself] at turn ⊢
            cases held with
            | true => contradiction
            | false =>
                obtain rfl := Option.some.inj turn
                rw [same, eager, unheld rfl]
                exact ⟨Nat.le_refl 1, fun impossible => nomatch impossible⟩
          · rw [if_neg itself] at turn ⊢
            obtain rfl := Option.some.inj turn
            exact ⟨atMostOne, unheld⟩
  | settled repository other options succeeded =>
      dsimp only [Usage.turn] at turn
      dsimp only [tariff] at pays
      by_cases concerned : repository = usage.repository
      · rw [if_pos concerned] at pays
        by_cases itself : other = key
        · rw [if_pos itself] at pays
          have spent : kept = 0 := by omega
          exact ⟨by omega, fun _ => spent⟩
        · rw [if_neg fun both => itself both.2] at turn
          rw [if_neg itself] at pays
          obtain rfl := Option.some.inj turn
          obtain rfl : credit = kept := pays.2
          exact ⟨atMostOne, unheld⟩
      · rw [if_neg fun both => concerned both.1] at turn
        rw [if_neg concerned] at pays
        obtain rfl := Option.some.inj turn
        obtain rfl := pays
        exact ⟨atMostOne, unheld⟩
  | evicted repository other =>
      have itself : ¬(repository = usage.repository ∧ other = key) := by
        rintro ⟨rfl, rfl⟩
        exact undisplaced rfl
      dsimp only [Usage.turn] at turn
      rw [if_neg itself] at turn
      obtain rfl := Option.some.inj turn
      obtain rfl : kept = credit := pays
      exact ⟨atMostOne, unheld⟩
  | _ =>
      obtain rfl := Option.some.inj turn
      obtain rfl : kept = credit := pays
      exact ⟨atMostOne, unheld⟩

theorem Coherent.claimed (eager : usage.options.eager = true)
    (coherent : usage.Coherent key events held credit now rest) (claimed : Claimed held credit) :
    Claimed now rest := by
  induction events generalizing held credit with
  | nil =>
      obtain rfl := Option.some.inj coherent.turns
      obtain rfl : credit = rest := coherent.paid
      exact claimed
  | cons event later inductionHypothesis =>
      have undisplaced : event ≠ .evicted usage.repository key := by
        rintro rfl
        exact coherent.undisplaced List.mem_cons_self
      obtain ⟨between, kept, turn, pays, coherent⟩ := coherent.cons
      exact inductionHypothesis coherent (claimed.step eager turn pays undisplaced)

/-- What is left of the credit was given to exchanges that are still on their way. -/
theorem countP_of_paid (paid : (usage.tariff key).Paid events credit rest) :
    credit + events.countP (KeyEvent.admits key) =
      rest + events.countP (KeyEvent.settles usage.repository key) := by
  induction events generalizing credit with
  | nil => exact paid
  | cons event later inductionHypothesis =>
      obtain ⟨between, pays, paid⟩ := paid
      have further := inductionHypothesis paid
      rw [List.countP_cons, List.countP_cons]
      suffices now : credit + (if KeyEvent.admits key event = true then 1 else 0) =
          between + (if KeyEvent.settles usage.repository key event = true then 1 else 0) by
        omega
      cases event with
      | called consumer other isNew =>
          cases isNew with
          | false => exact congrArg (· + 0) pays.symm
          | true => simp [KeyEvent.admits, KeyEvent.settles, pays.2]
      | settled repository other options succeeded =>
          dsimp only [tariff] at pays
          by_cases concerned : repository = usage.repository
          · rw [if_pos concerned] at pays
            simp [KeyEvent.admits, KeyEvent.settles, concerned, pays.2]
          · rw [if_neg concerned] at pays
            simp [KeyEvent.admits, KeyEvent.settles, concerned, pays]
      | _ => exact congrArg (· + 0) pays.symm

/-- The key is settled as a failure, before it is let through as new again. -/
def FailsNext (usage : Usage) (key : String) (events : List KeyEvent) : Prop :=
  ∃ between rest, events = between ++ .settled usage.repository key usage.options false :: rest ∧
    between.countP (KeyEvent.admits key) = 0

/-- A key that is held stays held, and nothing is let through with it as new, unless one more
exchange with it is to be settled and fails. -/
theorem Coherent.held_or_fails (coherent : usage.Coherent key events true credit now rest) :
    (now = true ∧ events.countP (KeyEvent.admits key) = 0) ∨
      (usage.options.removeOnFailure = true ∧ 0 < credit ∧ usage.FailsNext key events) := by
  induction events generalizing credit with
  | nil => exact .inl ⟨(Option.some.inj coherent.turns).symm, rfl⟩
  | cons event later inductionHypothesis =>
      have undisplaced : event ≠ .evicted usage.repository key := by
        rintro rfl
        exact coherent.undisplaced List.mem_cons_self
      obtain ⟨between, kept, turn, pays, coherent⟩ := coherent.cons
      have further : between = true → kept ≤ credit → KeyEvent.admits key event = false →
          (now = true ∧ (event :: later).countP (KeyEvent.admits key) = 0) ∨
            (usage.options.removeOnFailure = true ∧ 0 < credit ∧
              usage.FailsNext key (event :: later)) := by
        rintro rfl fewer unadmitted
        have uncounted : ∀ events : List KeyEvent, (event :: events).countP (KeyEvent.admits key) =
            events.countP (KeyEvent.admits key) :=
          fun events => List.countP_cons_of_neg (by simp [unadmitted])
        rcases inductionHypothesis coherent with ⟨held, none⟩ | ⟨removes, funded, fails⟩
        · exact .inl ⟨held, (uncounted later).trans none⟩
        · obtain ⟨between, rest, rfl, none⟩ := fails
          exact .inr ⟨removes, Nat.lt_of_lt_of_le funded fewer, event :: between, rest, rfl,
            (uncounted between).trans none⟩
      cases event with
      | called consumer other isNew =>
          cases isNew with
          | false => exact further (Option.some.inj turn).symm (Nat.le_of_eq pays) rfl
          | true =>
              dsimp only [Usage.turn] at turn
              by_cases itself : other = key
              · rw [if_pos itself] at turn
                contradiction
              · rw [if_neg itself] at turn
                have same : kept = credit + if other = key then 1 else 0 := pays.2
                rw [if_neg itself] at same
                exact further (Option.some.inj turn).symm (Nat.le_of_eq same)
                  (beq_false_of_ne itself)
      | settled repository other options succeeded =>
          dsimp only [Usage.turn] at turn
          dsimp only [tariff] at pays
          by_cases concerned : repository = usage.repository ∧ other = key
          · obtain ⟨rfl, rfl⟩ := concerned
            rw [if_pos ⟨rfl, rfl⟩] at turn
            rw [if_pos rfl, if_pos rfl] at pays
            obtain ⟨rfl, rfl⟩ := pays
            cases succeeded with
            | true => exact further (Option.some.inj turn).symm (Nat.le_succ kept) rfl
            | false =>
                cases removes : usage.options.removeOnFailure with
                | true => exact .inr ⟨rfl, Nat.succ_pos kept, [], later, rfl, rfl⟩
                | false =>
                    rw [removes] at turn further
                    exact further (Option.some.inj turn).symm (Nat.le_succ kept) rfl
          · rw [if_neg concerned] at turn
            have fewer : kept ≤ credit := by
              split at pays <;> omega
            exact further (Option.some.inj turn).symm fewer rfl
      | evicted repository other =>
          have itself : ¬(repository = usage.repository ∧ other = key) := by
            rintro ⟨rfl, rfl⟩
            exact undisplaced rfl
          dsimp only [Usage.turn] at turn
          rw [if_neg itself] at turn
          exact further (Option.some.inj turn).symm (Nat.le_of_eq pays) rfl
      | _ => exact further (Option.some.inj turn).symm (Nat.le_of_eq pays) rfl

/-- The key is in the repository, and no exchange was let through with it as new. -/
structure Lasts (usage : Usage) (key : String) (later : List KeyEvent) (broker : Broker) :
    Prop where
  held : key ∈ broker.keys usage.repository
  unadmitted : later.countP (KeyEvent.admits key) = 0

/-- Another exchange had been let through with the key before it was claimed, and fails after it was
recorded: it releases a key that is not its own. -/
structure Revoked (usage : Usage) (key : String) (earlier later : List KeyEvent) : Prop where
  lazy : usage.options.eager = false
  removes : usage.options.removeOnFailure = true
  another : earlier.countP (KeyEvent.settles usage.repository key) + 1 <
    earlier.countP (KeyEvent.admits key)
  fails : usage.FailsNext key later

/-- After a success the key lasts, or a failure takes it away. -/
theorem Coherent.lasts_or_fails
    (coherent : usage.Coherent key
      (earlier ++ .settled usage.repository key options true :: later) held 0 now rest) :
    (now = true ∧ later.countP (KeyEvent.admits key) = 0) ∨ usage.Revoked key earlier later := by
  obtain ⟨recorded, credit, early, late⟩ := coherent.split
  obtain ⟨between, kept, turn, pays, later⟩ := late.cons
  dsimp only [Usage.turn] at turn
  dsimp only [tariff] at pays
  rw [if_pos ⟨rfl, rfl⟩, if_pos rfl] at turn
  rw [if_pos rfl, if_pos rfl] at pays
  obtain ⟨rfl, rfl⟩ := pays
  obtain rfl := Option.some.inj turn
  have isHeld : usage.options.eager = true → recorded = true ∧ kept = 0 := by
    intro eager
    obtain ⟨atMostOne, unheld⟩ := early.claimed eager ⟨Nat.zero_le 1, fun _ => rfl⟩
    cases recorded with
    | true => exact ⟨rfl, by omega⟩
    | false => exact absurd (unheld rfl) (Nat.succ_ne_zero kept)
  have after : (recorded || !usage.options.eager) = true := by
    cases eager : usage.options.eager with
    | true => rw [(isHeld eager).1]; rfl
    | false => exact Bool.or_true recorded
  rw [after] at later
  rcases later.held_or_fails with lasts | ⟨removes, funded, fails⟩
  · exact .inl lasts
  · have lazy : usage.options.eager = false := by
      cases eager : usage.options.eager with
      | true => exact absurd (isHeld eager).2 (Nat.ne_of_gt funded)
      | false => rfl
    have counted := countP_of_paid early.paid
    exact .inr ⟨lazy, removes, by omega, fails⟩

/-! ## Every run -/

/-- What a run of exchanges tells is coherent. -/
theorem coherent_of_runs {own : IdempotentConsumer → Prop}
    (uses : ∀ consumer, own consumer → usage.Uses consumer) {broker : Broker}
    {chronicle : Chronicle KeyEvent Broker Exchange}
    (runs : Chronicle.Runs Marked.unnoted
      (Processor.BeginsTold own usage.latitude usage.Unowing) usage.Keeps
      { state := broker } chronicle)
    (found : usage.Held key broker held)
    (undisplaced : .evicted usage.repository key ∉ chronicle.history) :
    ∃ now rest, usage.Coherent key chronicle.history held 0 now rest ∧
      usage.Held key chronicle.state now := by
  have follows : usage.Follows key chronicle.history broker chronicle.state := by
    refine Chronicle.law_of_runs additive_follows ?_ (fun _ _ => follows_of_keeps) runs
    rintro marked ⟨exchange, routine, _, tells⟩
    exact tells.obeys additive_follows follows_of_keeps
      (fun consumer owned => obeys_tellAssess (uses consumer owned))
      (fun _ impossible => False.elim impossible) obeys_observeCarryOut
  have solvent : ∀ marked, Processor.BeginsTold own usage.latitude usage.Unowing marked →
      marked.Solvent (usage.tariff key) (fun left after => usage.Affords key left after) 0 := by
    rintro marked ⟨exchange, routine, unowing, tells⟩
    exact solvent_of_tells uses tells unowing.affords
  obtain ⟨rest, paid⟩ := Chronicle.paid_of_runs solvent
    (fun _ _ _ impossible => absurd impossible List.not_mem_nil) runs
  obtain ⟨now, turns, foundNow⟩ := follows held found
  exact ⟨now, rest, ⟨turns, paid, undisplaced⟩, foundNow⟩

/-- Exchanges that pass through consumers with the same options side by side, however they
interleave, with a repository that is left to them: whatever they do can be told, and at every
moment a key for which a success was recorded lasts unless it was displaced, or the failure of
another exchange revoked it. -/
theorem lasting_of_runs {own : IdempotentConsumer → Prop}
    (uses : ∀ consumer, own consumer → usage.Uses consumer) {broker : Broker}
    (valid : (broker.repositories.get? usage.repository).isSome) :
    (∀ ensemble : Ensemble Broker Exchange,
      Ensemble.Runs (Processor.Begins own usage.latitude usage.Unowing) usage.Keeps
          { state := broker } ensemble →
        ∃ chronicle : Chronicle KeyEvent Broker Exchange,
          Chronicle.Runs Marked.unnoted
              (Processor.BeginsTold own usage.latitude usage.Unowing) usage.Keeps
              { state := broker } chronicle ∧
            chronicle.ensemble = ensemble) ∧
      ∀ chronicle : Chronicle KeyEvent Broker Exchange,
        Chronicle.Runs Marked.unnoted
            (Processor.BeginsTold own usage.latitude usage.Unowing) usage.Keeps
            { state := broker } chronicle →
          ∀ key earlier later options, .evicted usage.repository key ∉ chronicle.history →
            chronicle.history =
                earlier ++ .settled usage.repository key options true :: later →
              usage.Lasts key later chronicle.state ∨ usage.Revoked key earlier later := by
  refine ⟨fun ensemble => Processor.exists_told_of_runs Marked.unnoted, ?_⟩
  intro chronicle told key earlier later options undisplaced history
  obtain ⟨repository, found⟩ := Option.isSome_iff_exists.mp valid
  obtain ⟨now, rest, coherent, foundNow⟩ :=
    coherent_of_runs uses told ⟨repository, found, rfl⟩ undisplaced
  rw [history] at coherent
  rcases coherent.lasts_or_fails with ⟨rfl, unadmitted⟩ | revoked
  · obtain ⟨repository, found, holds⟩ := foundNow
    refine .inl ⟨?_, unadmitted⟩
    rw [keys_of_found found]
    simpa [KeyRepository.contains] using holds
  · exact .inr revoked

/-! ## Two exchanges with one key -/

def recording (removes : Bool) : Usage where
  repository := 0
  options := { eager := false, removeOnFailure := removes }

/-- A step that takes its time, and fails for the message with the id `second`. -/
def hesitating : Processor where
  name := "hesitating"
  process exchange := do
    Routine.wait (.ofMillis 50)
    return (exchange, if exchange.inbound.id = "second" then some (.plain "refused") else none)

def sameKey (removes : Bool) : IdempotentConsumer where
  key _ := some (.text "k")
  repository := 0
  duplicates := 0
  options := (recording removes).options
  inner := hesitating

def empty : Broker where
  repositories := ⟨[.new 8]⟩
  duplicates := ⟨[0]⟩

/-- An exchange with the given message id passes through the consumer, told. -/
def passing (removes : Bool) (message : String) : Marked KeyEvent Broker Exchange :=
  (sameKey removes).tellPass (Sharing.carrying message)

/-- Both exchanges are let through. The first one ends and records the key, then the second one
fails. -/
def together (removes : Bool) : Chronicle KeyEvent Broker Exchange :=
  let first := Chronicle.start Marked.unnoted (passing removes "first") { state := empty }
  let second := first.start Marked.unnoted (passing removes "second")
  (second.goOn Marked.unnoted 0).goOn Marked.unnoted 1

theorem beginsTold_passing (removes : Bool) (message : String) :
    Processor.BeginsTold (· = sameKey removes) (recording removes).latitude
      (recording removes).Unowing (passing removes message) := by
  have nothingDue : (recording removes).Unowing (Sharing.carrying message) := by
    intro completion member
    contradiction
  refine ⟨Sharing.carrying message,
    (sameKey removes).toProcessor.invoke (Sharing.carrying message), nothingDue, ?_⟩
  apply IdempotentConsumer.tells_tellPass
  · rfl
  · exact fun _ _ _ => trivial
  · intro entered after given
    obtain ⟨ended, processed, rfl⟩ := Processor.gives_invoke.mp given
    obtain ⟨_, _, returned⟩ := Routine.gives_bind.mp processed
    obtain rfl := Routine.gives_pure.mp returned
    exact (recording removes).latitude.still (Exchange.pending_congr
      (Exchange.unitOfWork_recording entered _))

theorem runs_together (removes : Bool) :
    Chronicle.Runs Marked.unnoted
      (Processor.BeginsTold (· = sameKey removes) (recording removes).latitude
        (recording removes).Unowing) (recording removes).Keeps { state := empty }
      (together removes) :=
  .tail (.tail (.tail (.single (.start (beginsTold_passing removes "first")))
    (.start (beginsTold_passing removes "second"))) (.goOn 0)) (.goOn 1)

/-- What is told of both exchanges up to the end of the first one. -/
def untilRecorded (removes : Bool) : List KeyEvent :=
  [.arrived (sameKey removes) "k", .called (sameKey removes) "k" true,
    .arrived (sameKey removes) "k", .called (sameKey removes) "k" true]

theorem history_together :
    (together false).history = untilRecorded false ++
      .settled 0 "k" (recording false).options true ::
        [.settled 0 "k" (recording false).options false] :=
  rfl

/-- If failures release nothing, the key is still there after the second exchange failed. -/
theorem lasting_of_runs_together :
    (recording false).Lasts "k" [.settled 0 "k" (recording false).options false]
      (together false).state := by
  have uses : ∀ consumer, consumer = sameKey false → (recording false).Uses consumer := by
    rintro consumer rfl
    exact ⟨rfl, rfl⟩
  have undisplaced : .evicted 0 "k" ∉ (together false).history := by
    rw [history_together]
    simp [untilRecorded]
  rcases (lasting_of_runs uses rfl).2 (together false) (runs_together false) "k"
    (untilRecorded false) _ _ undisplaced history_together with lasts | revoked
  · exact lasts
  · exact absurd revoked.removes Bool.false_ne_true

/-- The first exchange recorded the key as a success, and the failure of the second one takes it
away. -/
theorem recorded_then_revoked :
    Chronicle.Runs Marked.unnoted
        (Processor.BeginsTold (· = sameKey true) (recording true).latitude
          (recording true).Unowing) (recording true).Keeps { state := empty } (together true) ∧
      (together true).history = untilRecorded true ++
        .settled 0 "k" (recording true).options true ::
          [.released 0 "k", .settled 0 "k" (recording true).options false] ∧
      (together true).state.keys 0 = [] :=
  ⟨runs_together true, rfl, rfl⟩

end Usage

end MessageRouting
