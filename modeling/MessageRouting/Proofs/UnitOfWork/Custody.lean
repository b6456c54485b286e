import Mathlib.Algebra.GroupWithZero.Nat
import Mathlib.Algebra.Order.BigOperators.Group.List
import Mathlib.Algebra.Order.Group.Nat
import MessageRouting.Proofs.UnitOfWork.Firing

/-!
# Who has the completions of a family of exchanges

Several exchanges register completions, hand them over, are copied and run in
units of work, all interleaved. Each of them is followed with a ledger of what was
registered on it, what arrived on it, what it carried out and what it lost. The
ledgers show where every completion is at any time.
-/

namespace MessageRouting

/-- An exchange, and the ledger of its completions: those registered on it, those that arrived by
registration or handover, those carried out, and those given up with its content, each in order. For
each unit of work processor that it is in, innermost first, `owners` says whether that one ends the
unit of work. -/
structure Member where
  exchange : Exchange
  owners : List Bool
  registered : List Completion
  arrived : List Completion
  fired : List Firing
  lost : List Completion

namespace Member

/-- An exchange of which nothing is known but the completions that are pending on it. -/
def start (exchange : Exchange) : Member where
  exchange := exchange
  owners := []
  registered := exchange.pending
  arrived := exchange.pending
  fired := []
  lost := []

/-- Replaces the exchange by one with the same unit of work. -/
def alter (member : Member) (after : Exchange) : Member :=
  { member with exchange := after }

def register (member : Member) (completion : Completion) : Member :=
  { member with
    exchange := member.exchange.addCompletion completion
    registered := member.registered ++ [completion]
    arrived := member.arrived ++ [completion] }

def give (member taker : Member) : Member :=
  { member with exchange := (member.exchange.handOver taker.exchange).1 }

def take (member giver : Member) : Member :=
  { member with
    exchange := (giver.exchange.handOver member.exchange).2
    arrived := member.arrived ++ giver.exchange.movable }

/-- Begins a run of a unit of work processor. -/
def enter (member : Member) : Member :=
  if member.exchange.isInUnitOfWork then { member with owners := false :: member.owners }
  else
    { member with
      exchange := member.exchange.enterUnitOfWork
      owners := true :: member.owners }

/-- Ends the innermost run, which owns the unit of work. -/
def finish (member : Member) (after : Exchange) (fired : List Firing) : Member :=
  { member with
    exchange := after
    owners := member.owners.tail
    fired := member.fired ++ fired }

/-- Ends the innermost run, which leaves the unit of work to another one. -/
def leave (member : Member) : Member :=
  { member with owners := member.owners.tail }

def giveUp (member : Member) (freshId : String) : Member :=
  { member with
    exchange := member.exchange.blank freshId
    lost := member.lost ++ member.exchange.pending }

/-- What became of the completions that are not handed over: they are pending, were carried out, or
were lost. -/
def accounted (member : Member) : List Completion :=
  member.exchange.pending ++ (member.fired.map Firing.completion ++ member.lost)

end Member

/-- The exchanges that are followed, by number. -/
abbrev Family := List Member

/-- Something that is done with an exchange of a family. `alter` is anything that leaves the unit of
work alone; `enter` and `leave` begin and end a run of a unit of work processor; `giveUp` moves the
exchange away for good. -/
inductive Deed where
  | alter (member : Nat)
  | register (member : Nat) (completion : Completion)
  | handOver (source target : Nat)
  | copy (source : Nat)
  | enter (member : Nat)
  | leave (member : Nat)
  | giveUp (member : Nat)

namespace Family

variable {lossy : Prop}

/-- A deed changes a family. Only a lossy family gives exchanges up. -/
inductive Step (lossy : Prop) (family : Family) : Deed → Family → Prop
  | alter {number : Nat} {member : Member} {after : Exchange} :
      family[number]? = some member →
      after.unitOfWork = member.exchange.unitOfWork →
      Step lossy family (.alter number) (family.set number (member.alter after))
  | register {number : Nat} {member : Member} (completion : Completion) :
      family[number]? = some member →
      Step lossy family (.register number completion)
        (family.set number (member.register completion))
  | handOver {source target : Nat} {giver taker : Member} :
      family[source]? = some giver →
      family[target]? = some taker →
      source ≠ target →
      Step lossy family (.handOver source target)
        ((family.set source (giver.give taker)).set target (taker.take giver))
  | copy {number : Nat} {member : Member} (id : ExchangeId) :
      family[number]? = some member →
      Step lossy family (.copy number) (family ++ [.start (member.exchange.copyAs id)])
  | enter {number : Nat} {member : Member} :
      family[number]? = some member →
      Step lossy family (.enter number) (family.set number member.enter)
  | finish {number : Nat} {member : Member} {owners : List Bool} {after : Exchange}
      {fired : List Firing} :
      family[number]? = some member →
      member.owners = true :: owners →
      member.exchange.observeEnd.Gives fired after →
      Step lossy family (.leave number) (family.set number (member.finish after fired))
  | leave {number : Nat} {member : Member} {owners : List Bool} :
      family[number]? = some member →
      member.owners = false :: owners →
      Step lossy family (.leave number) (family.set number member.leave)
  | giveUp {number : Nat} {member : Member} (freshId : String) :
      lossy →
      family[number]? = some member →
      Step lossy family (.giveUp number) (family.set number (member.giveUp freshId))

/-- Deeds change a family one after the other. -/
inductive Runs (lossy : Prop) (start : Family) : List Deed → Family → Prop
  | rest : Runs lossy start [] start
  | step {deeds : List Deed} {deed : Deed} {family next : Family} :
      Runs lossy start deeds family →
      Step lossy family deed next →
      Runs lossy start (deeds ++ [deed]) next

theorem Step.runs {family next : Family} {deed : Deed} (step : Step lossy family deed next) :
    Runs lossy family [deed] next :=
  .step .rest step

theorem Runs.append {start family next : Family} {earlier later : List Deed}
    (before : Runs lossy start earlier family) (after : Runs lossy family later next) :
    Runs lossy start (earlier ++ later) next := by
  induction after with
  | rest =>
      rw [List.append_nil]
      exact before
  | step _ step inductionHypothesis =>
      rw [← List.append_assoc]
      exact .step inductionHypothesis step

theorem Runs.head {start family next : Family} {deed : Deed} {deeds : List Deed}
    (first : Step lossy start deed family) (runs : Runs lossy family deeds next) :
    Runs lossy start (deed :: deeds) next :=
  first.runs.append runs

/-! ## What holds of every member -/

/-- A property that no deed takes away from a member, and that copies have. -/
structure Kept (lossy : Prop) (property : Member → Prop) : Prop where
  start : ∀ exchange, exchange.unitOfWork = none → property (.start exchange)
  alter : ∀ member after, after.unitOfWork = member.exchange.unitOfWork →
    property member → property (member.alter after)
  register : ∀ member completion, property member → property (member.register completion)
  give : ∀ member taker, property member → property (member.give taker)
  take : ∀ member giver, property member → property (member.take giver)
  enter : ∀ member, property member → property member.enter
  finish : ∀ member owners after fired, member.owners = true :: owners →
    member.exchange.observeEnd.Gives fired after →
    property member → property (member.finish after fired)
  leave : ∀ member owners, member.owners = false :: owners →
    property member → property member.leave
  giveUp : ∀ member freshId, lossy → property member → property (member.giveUp freshId)

variable {property : Member → Prop} {start family next : Family} {deeds : List Deed} {deed : Deed}

theorem forall_set (all : ∀ member ∈ family, property member) {number : Nat} {member : Member}
    (holds : property member) : ∀ other ∈ family.set number member, property other := by
  intro other found
  rcases List.mem_or_eq_of_mem_set found with before | rfl
  · exact all other before
  · exact holds

theorem Kept.step (kept : Kept lossy property) (all : ∀ member ∈ family, property member)
    (step : Step lossy family deed next) : ∀ member ∈ next, property member := by
  have held : ∀ {number : Nat} {member : Member}, family[number]? = some member →
      property member :=
    fun found => all _ (List.mem_of_getElem? found)
  cases step with
  | alter found same => exact forall_set all (kept.alter _ _ same (held found))
  | register completion found => exact forall_set all (kept.register _ completion (held found))
  | handOver gives takes =>
      exact forall_set (forall_set all (kept.give _ _ (held gives))) (kept.take _ _ (held takes))
  | copy id found =>
      intro member joined
      rcases List.mem_append.mp joined with before | new
      · exact all member before
      · obtain rfl := List.mem_singleton.mp new
        exact kept.start _ rfl
  | enter found => exact forall_set all (kept.enter _ (held found))
  | finish found owners ended =>
      exact forall_set all (kept.finish _ _ _ _ owners ended (held found))
  | leave found owners => exact forall_set all (kept.leave _ _ owners (held found))
  | giveUp freshId losing found => exact forall_set all (kept.giveUp _ freshId losing (held found))

theorem Kept.runs (kept : Kept lossy property) (all : ∀ member ∈ start, property member)
    (runs : Runs lossy start deeds family) : ∀ member ∈ family, property member := by
  induction runs with
  | rest => exact all
  | step _ step inductionHypothesis => exact kept.step inductionHypothesis step

end Family

/-! ## The ledger of one exchange -/

namespace Member

variable {lossy : Prop}

/-- What was pending when a unit of work ended was carried out. -/
theorem finished {member : Member} {after : Exchange} {fired : List Firing}
    (ended : member.exchange.observeEnd.Gives fired after) :
    (member.finish after fired).exchange.pending = [] ∧
      (member.finish after fired).fired.map Firing.completion =
        member.fired.map Firing.completion ++ member.exchange.pending := by
  obtain ⟨rfl, rfl⟩ := Exchange.gives_observeEnd ended
  refine ⟨rfl, ?_⟩
  unfold finish
  rw [List.map_append, List.map_map]
  exact congrArg _ (List.map_id _)

def Ordered (member : Member) : Prop :=
  (member.fired.map Firing.completion ++ member.exchange.pending).Sublist member.arrived

theorem kept_ordered : Family.Kept lossy Ordered where
  start exchange _ := List.Sublist.refl _
  alter member after same ordered := by
    unfold Ordered alter
    rw [Exchange.pending_congr same]
    exact ordered
  register member completion ordered := by
    unfold Ordered register
    rw [Exchange.pending_addCompletion, ← List.append_assoc]
    exact ordered.append (List.Sublist.refl _)
  give member taker ordered :=
    ((Exchange.pending_handOver_source_sublist _ _).append_left _).trans ordered
  take member giver ordered := by
    unfold Ordered take
    rw [Exchange.pending_handOver_target, ← List.append_assoc]
    exact ordered.append (List.Sublist.refl _)
  enter member ordered := by
    unfold Ordered enter
    by_cases inside : member.exchange.isInUnitOfWork = true
    · rw [if_pos inside]
      exact ordered
    · rw [if_neg inside, Exchange.pending_enterUnitOfWork]
      exact ordered
  finish member owners after fired _ ended ordered := by
    obtain ⟨nothing, whole⟩ := finished ended
    unfold Ordered
    rw [nothing, whole, List.append_nil]
    exact ordered
  leave _ _ _ ordered := ordered
  giveUp member freshId _ ordered :=
    ((List.nil_sublist member.exchange.pending).append_left _).trans ordered

/-! ## Where the completions of one exchange are -/

theorem count_accounted (member : Member) (completion : Completion) :
    member.accounted.count completion =
      member.exchange.pending.count completion +
        ((member.fired.map Firing.completion).count completion +
          member.lost.count completion) := by
  unfold accounted
  rw [List.count_append, List.count_append]

theorem accounted_alter {member : Member} {after : Exchange}
    (same : after.unitOfWork = member.exchange.unitOfWork) :
    (member.alter after).accounted = member.accounted := by
  unfold accounted alter
  rw [Exchange.pending_congr same]

theorem count_accounted_register (member : Member) (added completion : Completion) :
    (member.register added).accounted.count completion =
      member.accounted.count completion + [added].count completion := by
  have pending := congrArg (List.count completion)
    (member.exchange.pending_addCompletion added)
  rw [List.count_append] at pending
  rw [count_accounted, count_accounted]
  unfold register
  dsimp only
  omega

theorem count_accounted_give (member taker : Member) (completion : Completion) :
    member.exchange.movable.count completion + (member.give taker).accounted.count completion =
      member.accounted.count completion := by
  have split := member.exchange.count_movable_add_count_handOver taker.exchange completion
  rw [count_accounted, count_accounted]
  unfold give
  dsimp only
  omega

theorem count_accounted_take (member giver : Member) (completion : Completion) :
    (member.take giver).accounted.count completion =
      member.accounted.count completion + giver.exchange.movable.count completion := by
  have pending := congrArg (List.count completion)
    (giver.exchange.pending_handOver_target member.exchange)
  rw [List.count_append] at pending
  rw [count_accounted, count_accounted]
  unfold take
  dsimp only
  omega

theorem accounted_enter (member : Member) : member.enter.accounted = member.accounted := by
  unfold accounted enter
  by_cases inside : member.exchange.isInUnitOfWork = true
  · rw [if_pos inside]
  · rw [if_neg inside, Exchange.pending_enterUnitOfWork]

theorem count_accounted_finish {member : Member} {after : Exchange} {fired : List Firing}
    (ended : member.exchange.observeEnd.Gives fired after) (completion : Completion) :
    (member.finish after fired).accounted.count completion =
      member.accounted.count completion := by
  obtain ⟨nothing, whole⟩ := finished ended
  have lost : (member.finish after fired).lost = member.lost := rfl
  rw [count_accounted, count_accounted, nothing, whole, lost, List.count_append, List.count_nil]
  omega

theorem count_accounted_giveUp (member : Member) (freshId : String) (completion : Completion) :
    (member.giveUp freshId).accounted.count completion = member.accounted.count completion := by
  have nothing : (member.giveUp freshId).exchange.pending = [] := rfl
  have lost : (member.giveUp freshId).lost = member.lost ++ member.exchange.pending := rfl
  have fired : (member.giveUp freshId).fired = member.fired := rfl
  rw [count_accounted, count_accounted, nothing, lost, fired, List.count_append, List.count_nil]
  omega

def Fixed (member : Member) : Prop :=
  ∀ completion : Completion, completion.isMovable = false →
    member.registered.count completion = member.accounted.count completion

theorem kept_fixed : Family.Kept lossy Fixed where
  start exchange _ completion _ := by
    unfold start accounted
    simp
  alter member after same fixed completion unmovable := by
    rw [accounted_alter same]
    exact fixed completion unmovable
  register member added fixed completion unmovable := by
    rw [count_accounted_register, ← fixed completion unmovable]
    exact List.count_append
  give member taker fixed completion unmovable := by
    have split := member.count_accounted_give taker completion
    rw [member.exchange.count_movable_of_fixed unmovable, Nat.zero_add] at split
    rw [split]
    exact fixed completion unmovable
  take member giver fixed completion unmovable := by
    rw [count_accounted_take, giver.exchange.count_movable_of_fixed unmovable, Nat.add_zero]
    exact fixed completion unmovable
  enter member fixed completion unmovable := by
    have same : member.enter.registered = member.registered := by
      unfold enter
      split <;> rfl
    rw [accounted_enter, same]
    exact fixed completion unmovable
  finish member owners after fired _ ended fixed completion unmovable := by
    rw [count_accounted_finish ended]
    exact fixed completion unmovable
  leave _ _ _ fixed := fixed
  giveUp member freshId _ fixed completion unmovable := by
    rw [count_accounted_giveUp]
    exact fixed completion unmovable

/-! ## Runs of unit of work processors -/

/-- An exchange that is in no run of a unit of work processor is not in a unit of work, and of
several runs it is in, the outermost one owns the unit of work. Nothing was lost. -/
structure Owned (member : Member) : Prop where
  outside : member.owners = [] → member.exchange.isInUnitOfWork = false
  inside : member.owners ≠ [] → member.exchange.isInUnitOfWork = true ∧
    ∃ nested, member.owners = List.replicate nested false ++ [true]
  intact : member.lost = []

/-- The runs of unit of work processors that an exchange is in are as before, and so is whether it is
in a unit of work. -/
theorem Owned.congr {before after : Member} (owned : Owned before)
    (owners : after.owners = before.owners)
    (active : after.exchange.isInUnitOfWork = before.exchange.isInUnitOfWork)
    (lost : after.lost = before.lost) : Owned after where
  outside := by
    rw [owners, active]
    exact owned.outside
  inside := by
    rw [owners, active]
    exact owned.inside
  intact := by
    rw [lost]
    exact owned.intact

/-- Where nothing was lost, what is accounted for is pending or was carried out. -/
theorem Owned.count_accounted_eq {member : Member} (owned : member.Owned) (completion : Completion) :
    member.accounted.count completion =
      member.exchange.pending.count completion +
        (member.fired.map Firing.completion).count completion := by
  rw [count_accounted, owned.intact]
  rfl

/-- A run that owns the unit of work is the only one that the exchange is in. -/
theorem Owned.outermost {member : Member} (owned : member.Owned) {owners : List Bool}
    (owning : member.owners = true :: owners) : member.owners = [true] := by
  have entered : member.owners ≠ [] := by
    rw [owning]
    exact List.cons_ne_nil _ _
  obtain ⟨_, nested, shape⟩ := owned.inside entered
  cases nested with
  | zero => exact shape
  | succ nested =>
      rw [owning] at shape
      have impossible := (List.cons.inj shape).1
      contradiction

/-- Around a run that does not own the unit of work there is one that does. -/
theorem Owned.nested {member : Member} (owned : member.Owned) {owners : List Bool}
    (nestedRun : member.owners = false :: owners) :
    member.exchange.isInUnitOfWork = true ∧
      ∃ nested, owners = List.replicate nested false ++ [true] := by
  have entered : member.owners ≠ [] := by
    rw [nestedRun]
    exact List.cons_ne_nil _ _
  obtain ⟨active, nested, shape⟩ := owned.inside entered
  rw [nestedRun] at shape
  refine ⟨active, ?_⟩
  cases nested with
  | zero =>
      have impossible := (List.cons.inj shape).1
      contradiction
  | succ nested => exact ⟨nested, (List.cons.inj shape).2⟩

theorem owned_start {exchange : Exchange} (outside : exchange.isInUnitOfWork = false) :
    Owned (.start exchange) where
  outside _ := outside
  inside entered := absurd rfl entered
  intact := rfl

theorem kept_owned : Family.Kept False Owned where
  start exchange none := by
    apply owned_start
    unfold Exchange.isInUnitOfWork
    rw [none]
    rfl
  alter member after same owned :=
    owned.congr rfl (Exchange.isInUnitOfWork_congr same) rfl
  register member completion owned :=
    owned.congr rfl (member.exchange.isInUnitOfWork_addCompletion completion) rfl
  give member taker owned :=
    owned.congr rfl (member.exchange.isInUnitOfWork_handOver_source taker.exchange) rfl
  take member giver owned :=
    owned.congr rfl (giver.exchange.isInUnitOfWork_handOver_target member.exchange) rfl
  enter member owned := by
    unfold enter
    by_cases active : member.exchange.isInUnitOfWork = true
    · rw [if_pos active]
      have entered : member.owners ≠ [] := by
        intro none
        rw [owned.outside none] at active
        contradiction
      obtain ⟨_, nested, owners⟩ := owned.inside entered
      exact
        { outside := fun impossible => absurd impossible (List.cons_ne_nil _ _)
          inside := fun _ => ⟨active, nested + 1, congrArg (false :: ·) owners⟩
          intact := owned.intact }
    · rw [if_neg active]
      have none : member.owners = [] := by
        by_contra entered
        exact active (owned.inside entered).1
      exact
        { outside := fun impossible => absurd impossible (List.cons_ne_nil _ _)
          inside := fun _ => ⟨member.exchange.isInUnitOfWork_enterUnitOfWork, 0,
            congrArg (true :: ·) none⟩
          intact := owned.intact }
  finish member owners after fired owning ended owned := by
    obtain ⟨rfl, _⟩ := Exchange.gives_observeEnd ended
    have outermost : member.owners.tail = [] := by
      rw [owned.outermost owning]
      rfl
    exact
      { outside := fun _ => rfl
        inside := fun impossible => absurd outermost impossible
        intact := owned.intact }
  leave member owners nestedRun owned := by
    obtain ⟨active, nested, shape⟩ := owned.nested nestedRun
    have rest : member.leave.owners = List.replicate nested false ++ [true] := by
      unfold leave
      rw [nestedRun]
      exact shape
    refine { outside := ?_, inside := ?_, intact := owned.intact }
    · intro impossible
      rw [rest] at impossible
      simp at impossible
    · intro _
      exact ⟨active, nested, rest⟩
  giveUp _ _ impossible := impossible.elim

end Member

/-! ## Where all completions are -/

namespace Family

variable {lossy : Prop}

def total (amount : Member → Nat) (family : Family) : Nat :=
  (family.map amount).sum

theorem total_append (amount : Member → Nat) (family : Family) (member : Member) :
    total amount (family ++ [member]) = total amount family + amount member := by
  unfold total
  simp

/-- Replacing a member exchanges its amount for that of the new one. -/
theorem total_set (amount : Member → Nat) {family : Family} {number : Nat} {old : Member}
    (new : Member) (found : family[number]? = some old) :
    total amount (family.set number new) + amount old = total amount family + amount new := by
  induction family generalizing number with
  | nil => simp at found
  | cons member rest inductionHypothesis =>
      cases number with
      | zero =>
          obtain rfl := Option.some.inj found
          unfold total
          simp only [List.set_cons_zero, List.map_cons, List.sum_cons]
          omega
      | succ number =>
          have later := inductionHypothesis found
          unfold total at later ⊢
          simp only [List.set_cons_succ, List.map_cons, List.sum_cons]
          omega

theorem total_congr {first second : Member → Nat} {family : Family}
    (same : ∀ member ∈ family, first member = second member) :
    total first family = total second family :=
  congrArg List.sum (List.map_congr_left same)

theorem amount_le_total (amount : Member → Nat) {family : Family} {member : Member}
    (found : member ∈ family) : amount member ≤ total amount family :=
  List.single_le_sum (fun _ _ => Nat.zero_le _) _ (List.mem_map_of_mem found)

/-- If the amounts of a family make one in total, one member has it and no other. -/
theorem only_of_total {amount : Member → Nat} {family : Family} (one : total amount family = 1) :
    ∃ (number : Nat) (member : Member), family[number]? = some member ∧ amount member = 1 ∧
      ∀ (other : Nat) (another : Member),
        family[other]? = some another → other ≠ number → amount another = 0 := by
  induction family with
  | nil => contradiction
  | cons first rest inductionHypothesis =>
      have split : total amount (first :: rest) = amount first + total amount rest := by
        unfold total
        simp
      by_cases here : amount first = 0
      · obtain ⟨number, member, found, amounts, others⟩ := inductionHypothesis (by omega)
        refine ⟨number + 1, member, found, amounts, ?_⟩
        intro other another foundOther different
        cases other with
        | zero =>
            obtain rfl := Option.some.inj foundOther
            exact here
        | succ other =>
            exact others other another foundOther fun same => different (congrArg (· + 1) same)
      · refine ⟨0, first, rfl, by omega, ?_⟩
        intro other another foundOther different
        cases other with
        | zero => exact absurd rfl different
        | succ other =>
            have later : rest[other]? = some another := foundOther
            have atMost := amount_le_total amount (List.mem_of_getElem? later)
            omega

def Conserved (completion : Completion) (family : Family) : Prop :=
  total (fun member => member.registered.count completion) family =
    total (fun member => member.accounted.count completion) family

variable {completion : Completion} {start family next : Family} {deeds : List Deed} {deed : Deed}

/-- A member may be replaced by one of which as much more is registered as is accounted for. -/
theorem Conserved.set (conserved : Conserved completion family) {number : Nat} {old new : Member}
    (found : family[number]? = some old)
    (balanced : new.registered.count completion + old.accounted.count completion =
      old.registered.count completion + new.accounted.count completion) :
    Conserved completion (family.set number new) := by
  have registered := total_set (fun member => member.registered.count completion) new found
  have accounted := total_set (fun member => member.accounted.count completion) new found
  unfold Conserved at conserved ⊢
  omega

theorem Conserved.step (conserved : Conserved completion family)
    (step : Step lossy family deed next) : Conserved completion next := by
  cases step with
  | @alter _ member after found same =>
      apply conserved.set found
      rw [Member.accounted_alter same]
      rfl
  | @register _ member added found =>
      apply conserved.set found
      have registered : (member.register added).registered.count completion =
          member.registered.count completion + [added].count completion := List.count_append
      rw [registered, member.count_accounted_register added completion]
      omega
  | @handOver source target giver taker gives takes different =>
      -- What leaves the giver arrives at the taker, so neither is balanced by itself.
      have given := total_set (fun member => member.accounted.count completion)
        (giver.give taker) gives
      have still : (family.set source (giver.give taker))[target]? = some taker := by
        rw [List.getElem?_set_ne different]
        exact takes
      have taken := total_set (fun member => member.accounted.count completion)
        (taker.take giver) still
      have registeredGiven := total_set (fun member => member.registered.count completion)
        (giver.give taker) gives
      have registeredTaken := total_set (fun member => member.registered.count completion)
        (taker.take giver) still
      have left := giver.count_accounted_give taker completion
      have arrived := taker.count_accounted_take giver completion
      have sameGiver : (giver.give taker).registered = giver.registered := rfl
      have sameTaker : (taker.take giver).registered = taker.registered := rfl
      rw [sameGiver] at registeredGiven
      rw [sameTaker] at registeredTaken
      unfold Conserved at conserved ⊢
      omega
  | copy id found =>
      unfold Conserved at conserved ⊢
      rw [total_append, total_append, conserved]
      rfl
  | @enter _ member found =>
      apply conserved.set found
      have registered : member.enter.registered = member.registered := by
        unfold Member.enter
        split <;> rfl
      rw [Member.accounted_enter, registered]
  | @finish _ member _ after fired found _ ended =>
      apply conserved.set found
      rw [Member.count_accounted_finish ended]
      rfl
  | leave found _ =>
      apply conserved.set found
      rfl
  | @giveUp _ member freshId _ found =>
      apply conserved.set found
      rw [Member.count_accounted_giveUp]
      rfl

theorem Conserved.runs (conserved : Conserved completion start)
    (runs : Runs lossy start deeds family) : Conserved completion family := by
  induction runs with
  | rest => exact conserved
  | step _ step inductionHypothesis => exact inductionHypothesis.step step

def ofExchanges (exchanges : List Exchange) : Family :=
  exchanges.map Member.start

theorem conserved_ofExchanges (completion : Completion) (exchanges : List Exchange) :
    Conserved completion (ofExchanges exchanges) := by
  unfold Conserved total ofExchanges
  rw [List.map_map, List.map_map]
  congr 2
  funext exchange
  exact congrArg (List.count completion) (List.append_nil exchange.pending).symm

theorem ordered_ofExchanges {exchanges : List Exchange} :
    ∀ member ∈ ofExchanges exchanges, member.Ordered := by
  intro member found
  obtain ⟨exchange, _, rfl⟩ := List.mem_map.mp found
  exact List.Sublist.refl _

theorem fixed_ofExchanges {exchanges : List Exchange} :
    ∀ member ∈ ofExchanges exchanges, member.Fixed := by
  intro member found completion _
  obtain ⟨exchange, _, rfl⟩ := List.mem_map.mp found
  exact congrArg (List.count completion) (List.append_nil exchange.pending).symm

theorem owned_ofExchanges {exchanges : List Exchange}
    (outside : ∀ exchange ∈ exchanges, exchange.isInUnitOfWork = false) :
    ∀ member ∈ ofExchanges exchanges, member.Owned := by
  intro member found
  obtain ⟨exchange, listed, rfl⟩ := List.mem_map.mp found
  exact Member.owned_start (outside exchange listed)

end Family

end MessageRouting
