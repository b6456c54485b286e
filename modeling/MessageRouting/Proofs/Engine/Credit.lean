import Mathlib.Algebra.GroupWithZero.Nat
import Mathlib.Algebra.Order.BigOperators.Group.List
import Mathlib.Algebra.Order.Group.Nat
import MessageRouting.Proofs.Engine.Ensemble

/-!
# Marks that are paid for

Some marks are made only after others: a routine pays for them with a credit that
the others gave it. A routine is solvent if it can pay for every mark that it
makes, whatever states it finds. Routines side by side that are solvent, each from
the beginning, together pay for the whole history.
-/

namespace MessageRouting

universe u v w x

/-- How a mark changes a credit. What is paid out of one credit can be paid out of a larger one. -/
structure Tariff (ε : Type w) where
  pays : ε → Nat → Nat → Prop
  more : ∀ {entry : ε} {credit rest : Nat} (extra : Nat),
    pays entry credit rest → pays entry (credit + extra) (rest + extra)

namespace Tariff

variable {ε : Type w} (tariff : Tariff ε)

/-- The entries, one after the other, take a credit from one amount to another. -/
def Paid : List ε → Nat → Nat → Prop
  | [], credit, rest => credit = rest
  | entry :: later, credit, rest =>
      ∃ between, tariff.pays entry credit between ∧ Paid later between rest

variable {tariff} {first second entries : List ε} {credit rest : Nat}

theorem paid_append :
    tariff.Paid (first ++ second) credit rest ↔
      ∃ between, tariff.Paid first credit between ∧ tariff.Paid second between rest := by
  induction first generalizing credit with
  | nil =>
      constructor
      · intro paid
        exact ⟨credit, rfl, paid⟩
      · rintro ⟨_, rfl, paid⟩
        exact paid
  | cons entry later inductionHypothesis =>
      constructor
      · rintro ⟨between, pays, paid⟩
        obtain ⟨further, early, late⟩ := inductionHypothesis.mp paid
        exact ⟨further, ⟨between, pays, early⟩, late⟩
      · rintro ⟨further, ⟨between, pays, early⟩, late⟩
        exact ⟨between, pays, inductionHypothesis.mpr ⟨further, early, late⟩⟩

theorem Paid.more (paid : tariff.Paid entries credit rest) (extra : Nat) :
    tariff.Paid entries (credit + extra) (rest + extra) := by
  induction entries generalizing credit with
  | nil => exact congrArg (· + extra) paid
  | cons entry later inductionHypothesis =>
      obtain ⟨between, pays, paid⟩ := paid
      exact ⟨between + extra, tariff.more extra pays, inductionHypothesis paid⟩

/-- An entry that costs nothing and gives nothing. -/
def Free (tariff : Tariff ε) (entry : ε) : Prop :=
  ∀ credit, tariff.pays entry credit credit

theorem paid_of_free (free : ∀ entry ∈ entries, tariff.Free entry) (credit : Nat) :
    tariff.Paid entries credit credit := by
  induction entries with
  | nil => rfl
  | cons entry later inductionHypothesis =>
      have others := inductionHypothesis fun other member =>
        free other (List.mem_cons_of_mem _ member)
      exact ⟨credit, free entry List.mem_cons_self credit, others⟩

end Tariff

namespace Marked

variable {ε : Type w} {σ : Type u} {α : Type v} {β : Type x} {tariff : Tariff ε}

/-- Out of the credit the routine can pay for its marks, and with what is left at its end it affords
its result. -/
def Solvent (tariff : Tariff ε) (affords : Nat → α → Prop) : Nat → Marked ε σ α → Prop
  | credit, done value => affords credit value
  | credit, get body => ∀ state, (body state).Solvent tariff affords credit
  | credit, put _ body => body.Solvent tariff affords credit
  | credit, sleep _ body => (body ()).Solvent tariff affords credit
  | credit, mark entry body =>
      ∃ between, tariff.pays entry credit between ∧ body.Solvent tariff affords between

variable {affords : Nat → α → Prop} {further : Nat → β → Prop} {credit : Nat}

theorem Solvent.bind {marked : Marked ε σ α} {next : α → Marked ε σ β}
    (first : marked.Solvent tariff affords credit)
    (second : ∀ left value, marked.unmarked.Gives value → affords left value →
      (next value).Solvent tariff further left) :
    (marked.bind next).Solvent tariff further credit := by
  induction marked generalizing credit with
  | done value => exact second credit value (.done value) first
  | get body inductionHypothesis =>
      exact fun state => inductionHypothesis state (first state) fun left value given =>
        second left value (.get state given)
  | put state body inductionHypothesis =>
      exact inductionHypothesis first fun left value given => second left value (.put state given)
  | sleep span body inductionHypothesis =>
      exact inductionHypothesis () first fun left value given =>
        second left value (.sleep span given)
  | mark entry body inductionHypothesis =>
      obtain ⟨between, pays, solvent⟩ := first
      exact ⟨between, pays, inductionHypothesis solvent second⟩

/-- Credit that is kept back is there at the end. -/
theorem Solvent.more {marked : Marked ε σ α} (solvent : marked.Solvent tariff affords credit)
    (extra : Nat) :
    marked.Solvent tariff (fun left value => ∃ kept, left = kept + extra ∧ affords kept value)
      (credit + extra) := by
  induction marked generalizing credit with
  | done value => exact ⟨credit, rfl, solvent⟩
  | get body inductionHypothesis => exact fun state => inductionHypothesis state (solvent state)
  | put state body inductionHypothesis => exact inductionHypothesis solvent
  | sleep span body inductionHypothesis => exact inductionHypothesis () solvent
  | mark entry body inductionHypothesis =>
      obtain ⟨between, pays, later⟩ := solvent
      exact ⟨between + extra, tariff.more extra pays, inductionHypothesis later⟩

theorem solvent_lift {routine : Routine σ α} (affordable : ∀ value, routine.Gives value →
    affords credit value) : (lift routine : Marked ε σ α).Solvent tariff affords credit := by
  induction routine with
  | done value => exact affordable value (.done value)
  | get body inductionHypothesis =>
      exact fun state => inductionHypothesis state fun value given =>
        affordable value (.get state given)
  | put state body inductionHypothesis =>
      exact inductionHypothesis fun value given => affordable value (.put state given)
  | sleep span body inductionHypothesis =>
      exact inductionHypothesis () fun value given => affordable value (.sleep span given)

theorem solvent_lift_bind {routine : Routine σ α} {next : α → Marked ε σ β}
    (rest : ∀ value, routine.Gives value → (next value).Solvent tariff further credit) :
    ((lift routine).bind next).Solvent tariff further credit := by
  have unspent : (lift routine : Marked ε σ α).Solvent tariff (fun left _ => left = credit)
      credit := solvent_lift fun _ _ => rfl
  refine unspent.bind ?_
  intro left value given same
  rw [unmarked_lift] at given
  rw [same]
  exact rest value given

theorem solvent_marks {entries : List ε} {marked : Marked ε σ α}
    (free : ∀ entry ∈ entries, tariff.Free entry)
    (rest : marked.Solvent tariff affords credit) :
    (marks entries marked).Solvent tariff affords credit := by
  induction entries with
  | nil => exact rest
  | cons entry later inductionHypothesis =>
      have others := inductionHypothesis fun other member =>
        free other (List.mem_cons_of_mem _ member)
      exact ⟨credit, free entry List.mem_cons_self credit, others⟩

/-- What is announced may cost nothing. -/
theorem solvent_announcing_bind {announced : σ → List ε} {routine : Routine σ α}
    {next : α → Marked ε σ β}
    (free : ∀ state, ∀ entry ∈ announced state, tariff.Free entry)
    (rest : ∀ value, routine.Gives value → (next value).Solvent tariff further credit) :
    ((announcing announced routine).bind next).Solvent tariff further credit := by
  have unspent : (announcing announced routine).Solvent tariff (fun left _ => left = credit)
      credit := by
    cases routine with
    | get body => exact fun state => solvent_marks (free state) (solvent_lift fun _ _ => rfl)
    | done value => exact solvent_lift fun _ _ => rfl
    | put state body => exact solvent_lift fun _ _ => rfl
    | sleep span body => exact solvent_lift fun _ _ => rfl
  refine unspent.bind ?_
  intro left value given same
  rw [unmarked_announcing] at given
  rw [same]
  exact rest value given

/-- Up to its next suspension a routine pays for its marks, and what is left of it can pay with what
is left of the credit. -/
theorem Solvent.advance {observe : σ → σ → List ε} {marked : Marked ε σ α}
    (solvent : marked.Solvent tariff affords credit) (state : σ)
    (free : ∀ before after, ∀ entry ∈ observe before after, tariff.Free entry) :
    ∃ left, tariff.Paid (marked.entries observe state) credit left ∧
      ∀ span rest, (marked.advance state).1 = .waiting span rest →
        rest.Solvent tariff affords left := by
  induction marked generalizing credit state with
  | done value => exact ⟨credit, rfl, fun _ _ impossible => nomatch impossible⟩
  | get body inductionHypothesis => exact inductionHypothesis state (solvent state) state
  | put after body inductionHypothesis =>
      obtain ⟨left, paid, rest⟩ := inductionHypothesis solvent after
      exact ⟨left, Tariff.paid_append.mpr ⟨credit, Tariff.paid_of_free (free state after) credit,
        paid⟩, rest⟩
  | sleep span body =>
      refine ⟨credit, rfl, ?_⟩
      intro other rest same
      obtain ⟨rfl, rfl⟩ := Progress.waiting.inj same
      exact solvent
  | mark entry body inductionHypothesis =>
      obtain ⟨between, pays, solvent⟩ := solvent
      obtain ⟨left, paid, rest⟩ := inductionHypothesis solvent state
      exact ⟨left, ⟨between, pays, paid⟩, rest⟩

end Marked

namespace Chronicle

variable {ε : Type w} {σ : Type u} {α : Type v} {tariff : Tariff ε} {observe : σ → σ → List ε}
  {affords : Nat → α → Prop}

/-- The task can pay with the credit if it goes on. -/
def Covers (tariff : Tariff ε) (affords : Nat → α → Prop) (task : Marked.Progress ε σ α)
    (credit : Nat) : Prop :=
  ∀ span rest, task = .waiting span rest → rest.Solvent tariff affords credit

/-- Every task has a credit of its own with which it can pay, and the history leaves the sum of
them. -/
def Funded (tariff : Tariff ε) (affords : Nat → α → Prop) (chronicle : Chronicle ε σ α) : Prop :=
  ∃ accounts : List (Marked.Progress ε σ α × Nat),
    accounts.map Prod.fst = chronicle.tasks ∧
      (∀ account ∈ accounts, Covers tariff affords account.1 account.2) ∧
      tariff.Paid chronicle.history 0 (accounts.map Prod.snd).sum

variable {starts : Marked ε σ α → Prop} {permits : σ → σ → Prop} {chronicle next : Chronicle ε σ α}

theorem Funded.start {marked : Marked ε σ α} (funded : Funded tariff affords chronicle)
    (solvent : marked.Solvent tariff affords 0)
    (free : ∀ before after, ∀ entry ∈ observe before after, tariff.Free entry) :
    Funded tariff affords (chronicle.start observe marked) := by
  obtain ⟨accounts, listed, covers, paid⟩ := funded
  obtain ⟨left, now, rest⟩ := solvent.advance chronicle.state free
  refine ⟨accounts ++ [((marked.advance chronicle.state).1, left)], ?_, ?_, ?_⟩
  · simp [Chronicle.start, listed]
  · intro account member
    rcases List.mem_append.mp member with before | last
    · exact covers account before
    · rw [List.mem_singleton.mp last]
      exact rest
  · refine Tariff.paid_append.mpr ⟨_, paid, ?_⟩
    have more := now.more (accounts.map Prod.snd).sum
    have total : ((accounts ++ [((marked.advance chronicle.state).1, left)]).map Prod.snd).sum =
        left + (accounts.map Prod.snd).sum := by
      simp [Nat.add_comm]
    rw [total]
    rw [Nat.zero_add] at more
    exact more

theorem Funded.goOn (number : Nat) (funded : Funded tariff affords chronicle)
    (free : ∀ before after, ∀ entry ∈ observe before after, tariff.Free entry) :
    Funded tariff affords (chronicle.goOn observe number) := by
  obtain ⟨accounts, listed, covers, paid⟩ := funded
  unfold Chronicle.goOn
  cases found : chronicle.tasks[number]? with
  | none => exact ⟨accounts, listed, covers, paid⟩
  | some task =>
      cases task with
      | finished value => exact ⟨accounts, listed, covers, paid⟩
      | waiting span rest =>
          rw [← listed, List.getElem?_map] at found
          obtain ⟨⟨task, credit⟩, foundAccount, rfl⟩ := Option.map_eq_some_iff.mp found
          obtain ⟨bounded, held⟩ := List.getElem?_eq_some_iff.mp foundAccount
          have solvent := covers _ (List.mem_of_getElem? foundAccount) span rest rfl
          obtain ⟨left, now, others⟩ := solvent.advance chronicle.state free
          obtain ⟨before, behind, split, -, changed⟩ : ∃ before behind,
              accounts = before ++ accounts[number] :: behind ∧ before.length = number ∧
                accounts.set number ((rest.advance chronicle.state).1, left) =
                  before ++ ((rest.advance chronicle.state).1, left) :: behind :=
            List.exists_of_set bounded
          refine ⟨accounts.set number ((rest.advance chronicle.state).1, left), ?_, ?_, ?_⟩
          · rw [List.map_set, listed]
          · intro account member
            rcases List.mem_or_eq_of_mem_set member with old | rfl
            · exact covers account old
            · exact others
          · -- The credits of the other routines stand untouched beside the payment.
            refine Tariff.paid_append.mpr ⟨_, paid, ?_⟩
            have more := now.more ((before.map Prod.snd).sum + (behind.map Prod.snd).sum)
            rw [held] at split
            have totalBefore : (accounts.map Prod.snd).sum =
                credit + ((before.map Prod.snd).sum + (behind.map Prod.snd).sum) := by
              rw [split]
              simp
              omega
            have totalAfter : ((accounts.set number ((rest.advance chronicle.state).1, left)).map
                Prod.snd).sum =
                left + ((before.map Prod.snd).sum + (behind.map Prod.snd).sum) := by
              rw [changed]
              simp
              omega
            rw [totalBefore, totalAfter]
            exact more

/-- Routines that are solvent from their beginning, without credit, pay for the whole history. -/
theorem paid_of_runs {outset : σ}
    (solvent : ∀ marked, starts marked → marked.Solvent tariff affords 0)
    (free : ∀ before after, ∀ entry ∈ observe before after, tariff.Free entry)
    (runs : Runs observe starts permits { state := outset } chronicle) :
    ∃ left, tariff.Paid chronicle.history 0 left := by
  suffices funded : Funded tariff affords chronicle by
    obtain ⟨accounts, _, _, paid⟩ := funded
    exact ⟨_, paid⟩
  induction runs with
  | refl =>
      refine ⟨[], rfl, ?_, rfl⟩
      intro account impossible
      contradiction
  | tail _ step inductionHypothesis =>
      cases step with
      | start started => exact inductionHypothesis.start (solvent _ started) free
      | goOn number => exact inductionHypothesis.goOn number free
      | meanwhile permitted =>
          obtain ⟨accounts, listed, covers, paid⟩ := inductionHypothesis
          refine ⟨accounts, listed, covers, Tariff.paid_append.mpr ⟨_, paid, ?_⟩⟩
          exact Tariff.paid_of_free (free _ _) _

end Chronicle

end MessageRouting
