import MessageRouting.Proofs.Route.Rebuilt

/-!
# A consumer in the middle of a route

The steps behind a consumer that holds back duplicates are nested in it. For a new key
the route does what it does without the consumer; a duplicate that is dropped is left
as the steps in front of the consumer left it, and one that is passed on is marked
before the steps behind get it.
-/

namespace MessageRouting

def Processor.marking (metrics : Option Nat) (processor : Processor) : Processor where
  name := processor.name
  process exchange := do
    Broker.count metrics Metrics.recordDuplicate
    processor.process (exchange.put .duplicateMessage (.bool true))

namespace Watched

def marking (metrics : Option Nat) (watched : Watched Footprint) : Watched Footprint where
  processor := .marking metrics watched.processor
  observe exchange := do
    Logged.lift (Broker.count metrics Metrics.recordDuplicate)
    watched.observe (exchange.put .duplicateMessage (.bool true))
  faithful exchange := by
    rw [Logged.result_bind, Logged.result_lift]
    simp only [watched.faithful]
    rfl

def inRoute (id : String) (steps : List (Watched Footprint)) : Watched Footprint :=
  (pipeline id steps).inUnitOfWork

/-- What is seen of an exchange that goes through the steps of a route alone, and the exchange that
comes out. -/
def course (id : String) (steps : List (Watched Footprint)) (exchange : Exchange)
    (broker : Broker) : List Footprint × Exchange :=
  ((inRoute id steps).invoke exchange).alone broker

end Watched

/-- The same is seen, and the same exchange comes out, apart from its unit of work. -/
structure Agrees (one other : List Footprint × Exchange) : Prop where
  seen : one.1 = other.1
  exchange : one.2.bare = other.2.bare

/-- One course goes like another: but for arrivals at consumers that use the repository, the same is
seen, and the same exchange comes out, apart from its unit of work. -/
structure GoesLike (repository : Nat) (passed plain : List Footprint × Exchange) : Prop where
  seen : Footprint.besides repository passed.1 = plain.1
  exchange : passed.2.bare = plain.2.bare

/-- What passes a consumer that uses the repository goes like the plain course without the consumer
if it does not arrive there, or arrives with a new key. With a known key it goes like the course
that is cut short in front of the consumer if duplicates are dropped, and else like the one that
marks it as a duplicate there. -/
inductive Transparent (repository : Nat) (drops : Bool)
    (passed plain cut marked : List Footprint × Exchange) : Prop
  | unreached :
      Footprint.arrivals repository passed.1 = [] → GoesLike repository passed plain →
        Transparent repository drops passed plain cut marked
  | reached (arrival : Arrival) :
      Footprint.arrivals repository passed.1 = [arrival] →
      (arrival.Finds false → GoesLike repository passed plain) →
      (arrival.Finds true → GoesLike repository passed (if drops then cut else marked)) →
        Transparent repository drops passed plain cut marked

namespace Exchange

def entered (exchange : Exchange) : Exchange :=
  if exchange.isInUnitOfWork then exchange else exchange.enterUnitOfWork

theorem run_endUnitOfWork (exchange : Exchange) (broker : Broker) :
    (exchange.endUnitOfWork.run broker).1 = exchange.bare := by
  unfold endUnitOfWork
  cases found : exchange.unitOfWork with
  | none =>
      change exchange = exchange.bare
      unfold bare
      rw [← found]
  | some unit =>
      exact (Routine.run_bind _ _ broker).1

end Exchange

namespace Watched

/-- The end of the unit of work is not seen. -/
theorem agrees_course (id : String) (steps : List (Watched Footprint)) (exchange : Exchange)
    (broker : Broker) :
    Agrees (course id steps exchange broker)
      ((runSteps false steps exchange.entered).alone broker) := by
  unfold course inRoute inUnitOfWork Exchange.entered
  rw [invoke_silent]
  by_cases inside : exchange.isInUnitOfWork = true
  · rw [if_pos inside, if_pos inside, pipeline, invoke_silent]
    exact ⟨rfl, rfl⟩
  · rw [if_neg inside, if_neg inside, pipeline, invoke_silent, Logged.alone_bind,
      (Logged.run_of_lift _ _).1]
    refine ⟨List.append_nil _, ?_⟩
    exact (congrArg Exchange.bare (Exchange.run_endUnitOfWork _ _)).trans rfl

/-- What the first step marks may be marked before. -/
theorem runSteps_marking (metrics : Option Nat) (first : Watched Footprint)
    (rest : List (Watched Footprint)) {exchange : Exchange}
    (unstopped : exchange.flag .routeStop = false) :
    runSteps false (first.marking metrics :: rest) exchange =
      Logged.lift (Broker.count metrics Metrics.recordDuplicate) >>= fun _ =>
        runSteps false (first :: rest) (exchange.put .duplicateMessage (.bool true)) := by
  have still : (exchange.put .duplicateMessage (.bool true)).flag .routeStop = false := by
    rw [← unstopped]
    exact Exchange.flag_congr rfl (Exchange.known?_put exchange .duplicateMessage .routeStop _)
  have marked : (first.marking metrics).invoke exchange =
      Logged.lift (Broker.count metrics Metrics.recordDuplicate) >>= fun _ =>
        first.invoke (exchange.put .duplicateMessage (.bool true)) :=
    Logged.bind_assoc _ _ _
  unfold runSteps
  rw [unstopped, still, if_neg Bool.false_ne_true]
  change (first.marking metrics).invoke exchange >>= _ = _
  rw [marked, Logged.bind_assoc]
  rfl

end Watched

namespace Assembly

variable {veil : Veil}

/-- Steps that do not look at what is hidden do the same until their end, and reach no consumer that
uses the hidden repository. -/
theorem alone_of_alike {back other : Assembly} (alike : Alike veil back other) (number : Nat)
    (promoting : Bool) {left right : Exchange} (same : veil.Same left right)
    {first second : Broker} (apart : veil.Apart first second) :
    Footprint.arrivals veil.repository
        ((Watched.runSteps promoting (back.follow [] number) left).alone first).1 = [] ∧
      ((Watched.runSteps promoting (back.follow [] number) left).alone first).1 =
        ((Watched.runSteps promoting (other.follow [] number) right).alone second).1 ∧
      veil.Same ((Watched.runSteps promoting (back.follow [] number) left).alone first).2
        ((Watched.runSteps promoting (other.follow [] number) right).alone second).2 := by
  obtain ⟨seen, led⟩ := lead_of_alike alike number promoting same apart
  have nowhere := arrivals_lead alike number promoting left first
  rw [alone_follow, alone_follow]
  rcases one : back.lead number promoting left first with ⟨log, lead⟩
  rcases another : other.lead number promoting right second with ⟨logToo, leadToo⟩
  rw [one, another] at seen led
  rw [one] at nowhere
  obtain rfl : log = logToo := seen
  cases led with
  | ended same => exact ⟨nowhere, rfl, same⟩
  | on same _ =>
      refine ⟨?_, rfl, same⟩
      change Footprint.arrivals veil.repository (log ++ []) = []
      rw [List.append_nil]
      exact nowhere

theorem follow_cons {back : Assembly} (nonempty : back ≠ .done) (number : Nat) :
    ∃ first rest, back.follow [] number = first :: rest := by
  cases back with
  | done => contradiction
  | next stage rest => exact ⟨_, _, rfl⟩
  | behind consumer id steps => exact ⟨_, _, rfl⟩

theorem size_of_alike {front other : Assembly} (alike : Alike veil front other) :
    front.size = other.size := by
  induction alike with
  | done => rfl
  | next _ _ inductionHypothesis => exact congrArg (· + 1) inductionHypothesis
  | behind _ _ _ inductionHypothesis => exact inductionHypothesis

section

variable {consumer : IdempotentConsumer} {id : String} {back : Assembly} {left right : Exchange}
  {first second : Broker} {arrival : Arrival} {between : Broker} {slept : Duration}

/-- A consumer is reached once, whatever it decides. -/
theorem arrivals_reaching (hidden : veil.repository = consumer.repository)
    (alike : Alike veil back back) (number : Nat) {admission : IdempotentConsumer.Admission}
    (ran : (consumer.consult left).run first = ((arrival, admission), between, slept)) :
    Footprint.arrivals veil.repository
      (((Watched.reaching consumer (.pipeline id (back.follow [] number))).invoke left).alone
        first).1 = [arrival] := by
  have own : Footprint.arrival? veil.repository (.reached consumer.repository arrival) =
      some arrival := if_pos hidden.symm
  rw [Watched.alone_reaching ran]
  cases admission with
  | refused => exact List.filterMap_cons_some own
  | admitted marked =>
      obtain ⟨nowhere, _⟩ := alone_of_alike alike number false (Veil.same_refl marked)
        (Veil.apart_refl between)
      dsimp only
      rw [Watched.pipeline, Watched.invoke_silent]
      exact (List.filterMap_cons_some own).trans (congrArg (arrival :: ·) nowhere)

/-- The steps behind a consumer do with an exchange that is admitted what they do without it. -/
theorem goesLike_of_admitted (hidden : veil.repository = consumer.repository)
    (alike : Alike veil back back) (number : Nat) {marked other : Exchange}
    {due : Option Completion} {state : Broker}
    (ran : (consumer.consult left).run first = ((arrival, .admitted marked due), between, slept))
    (same : veil.Same marked other) (apart : veil.Apart between state) :
    GoesLike veil.repository
      (((Watched.reaching consumer (.pipeline id (back.follow [] number))).invoke left).alone first)
      ((Watched.runSteps false (back.follow [] number) other).alone state) := by
  obtain ⟨nowhere, seen, after⟩ := alone_of_alike alike number false same apart
  have own : Footprint.arrival? veil.repository (.reached consumer.repository arrival) =
      some arrival := if_pos hidden.symm
  rw [Watched.alone_reaching ran]
  dsimp only
  rw [Watched.pipeline, Watched.invoke_silent]
  have skipped (log : List Footprint) : Footprint.besides veil.repository
      (.reached consumer.repository arrival :: log) = Footprint.besides veil.repository log := by
    refine List.filter_cons_of_neg ?_
    rw [own]
    exact Bool.false_ne_true
  exact ⟨(skipped _).trans ((Footprint.besides_of_arrivals nowhere).trans seen), after.bare_eq⟩

variable (id) in
/-- A consumer that is the last step, in front of steps that do not look at what is hidden. -/
theorem transparent_reaching (hidden : veil.repository = consumer.repository)
    (counts : veil.duplicates ≤ consumer.duplicates) (alike : Alike veil back back)
    (nonempty : back ≠ .done) (number : Nat) (promoting : Bool) (same : veil.Same left right)
    (apart : veil.Apart first second) :
    Transparent veil.repository consumer.options.skipDuplicate
      ((Watched.runSteps promoting
        [.reaching consumer (.pipeline id (back.follow [] number))] left).alone first)
      ((Watched.runSteps promoting (back.follow [] number) right).alone second)
      ([], (if promoting then right.promote else right).put .duplicateMessage (.bool true))
      ((Watched.runSteps promoting
        ((back.follow [] number).modifyHead (Watched.marking consumer.metrics)) right).alone
          second) := by
  obtain ⟨step, rest, listed⟩ := follow_cons nonempty number
  have stops : right.flag .routeStop = left.flag .routeStop :=
    same.congr (fun exchange => exchange.flag .routeStop) fun _ _ => rfl
  cases stop : left.flag .routeStop with
  | true =>
      rw [listed, Watched.runSteps_stopped _ _ stop,
        Watched.runSteps_stopped _ _ (stops.trans stop)]
      exact .unreached rfl ⟨rfl, same.bare_eq⟩
  | false =>
      have ready := same_ready same promoting
      have unstopped := stops.trans stop
      rcases ran : (consumer.consult (if promoting then left.promote else left)).run first with
        ⟨⟨arrival, admission⟩, between, slept⟩
      rw [alone_single _ promoting left first stop]
      refine .reached arrival (arrivals_reaching hidden alike number ran) ?_ ?_
      · intro isNew
        obtain ⟨marked, due, rfl, kept, still⟩ :=
          IdempotentConsumer.admitted_of_new hidden ran isNew ready apart
        rw [listed, Watched.runSteps_ready promoting step rest unstopped, ← listed]
        exact goesLike_of_admitted hidden alike number ran kept still
      · intro known
        obtain ⟨decided, still⟩ := IdempotentConsumer.marked_of_known hidden counts ran known apart
        by_cases skip : consumer.options.skipDuplicate = true
        · rw [if_pos skip] at decided ⊢
          obtain rfl := decided
          rw [Watched.alone_reaching ran]
          refine ⟨?_, (ready.put _ _).bare_eq⟩
          refine List.filter_cons_of_neg ?_
          rw [Footprint.arrival?, if_pos hidden.symm]
          exact Bool.false_ne_true
        · rw [if_neg skip] at decided ⊢
          obtain rfl := decided
          have standing : (if promoting then right.promote else right).flag .routeStop = false :=
            (Watched.flag_ready promoting right).trans unstopped
          rw [listed, List.modifyHead_cons, Watched.runSteps_ready promoting _ rest unstopped,
            Watched.runSteps_marking _ _ _ standing, Logged.alone_bind, (Logged.run_of_lift _ _).1,
            (Logged.run_of_lift _ _).2, List.nil_append, ← listed]
          exact goesLike_of_admitted hidden alike number ran (ready.put _ _) still

end

end Assembly

/-! ## What follows upon a lead -/

section

variable {repository : Nat} {drops : Bool} {log : List Footprint}
  {passed plain cut marked otherPassed otherPlain otherCut otherMarked : List Footprint × Exchange}

theorem GoesLike.append (like : GoesLike repository passed plain)
    (nowhere : Footprint.arrivals repository log = []) :
    GoesLike repository (log ++ passed.1, passed.2) (log ++ plain.1, plain.2) where
  seen := by rw [Footprint.besides_append, Footprint.besides_of_arrivals nowhere, like.seen]
  exchange := like.exchange

theorem GoesLike.congr (like : GoesLike repository passed plain)
    (same : Agrees otherPassed passed) (others : Agrees otherPlain plain) :
    GoesLike repository otherPassed otherPlain where
  seen := by rw [same.seen, like.seen, others.seen]
  exchange := same.exchange.trans (like.exchange.trans others.exchange.symm)

/-- What is seen before may be put in front. -/
theorem Transparent.append (transparent : Transparent repository drops passed plain cut marked)
    (nowhere : Footprint.arrivals repository log = []) :
    Transparent repository drops (log ++ passed.1, passed.2) (log ++ plain.1, plain.2)
      (log ++ cut.1, cut.2) (log ++ marked.1, marked.2) := by
  have arrivals : Footprint.arrivals repository (log ++ passed.1) =
      Footprint.arrivals repository passed.1 := by
    rw [Footprint.arrivals_append, nowhere, List.nil_append]
  cases transparent with
  | unreached never like => exact .unreached (arrivals.trans never) (like.append nowhere)
  | reached arrival once isNew known =>
      refine .reached arrival (arrivals.trans once) (fun new => (isNew new).append nowhere) ?_
      intro found
      have like := (known found).append nowhere
      cases drops <;> exact like

theorem Transparent.congr (transparent : Transparent repository drops passed plain cut marked)
    (same : Agrees otherPassed passed) (plains : Agrees otherPlain plain)
    (cuts : Agrees otherCut cut) (marks : Agrees otherMarked marked) :
    Transparent repository drops otherPassed otherPlain otherCut otherMarked := by
  have arrivals : Footprint.arrivals repository otherPassed.1 =
      Footprint.arrivals repository passed.1 :=
    congrArg (Footprint.arrivals repository) same.seen
  cases transparent with
  | unreached never like => exact .unreached (arrivals.trans never) (like.congr same plains)
  | reached arrival once isNew known =>
      refine .reached arrival (arrivals.trans once) (fun new => (isNew new).congr same plains) ?_
      intro found
      cases drops with
      | true => exact (known found).congr same cuts
      | false => exact (known found).congr same marks

end

namespace Assembly

/-- What `transparent_reaching` says of a consumer that is the first step, of one that others are in
front of. -/
theorem transparent_behind (veil : Veil) (consumer : IdempotentConsumer) (id : String)
    {ahead front other back : Assembly} (hidden : veil.repository = consumer.repository)
    (counts : veil.duplicates ≤ consumer.duplicates) (alike : Alike veil back back)
    (nonempty : back ≠ .done) (without : Alike veil ahead front) (alone : Alike veil ahead other)
    (exchange : Exchange) (broker : Broker) :
    let cut := (Watched.runSteps false (other.follow [] 0) exchange).alone broker
    Transparent veil.repository consumer.options.skipDuplicate
      ((Watched.runSteps false ((ahead.onto (.behind consumer id back)).follow [] 0)
        exchange).alone broker)
      ((Watched.runSteps false ((front.onto back).follow [] 0) exchange).alone broker)
      (cut.1, (if other.size = 0 then cut.2 else cut.2.promote).put .duplicateMessage (.bool true))
      ((Watched.runSteps false (front.follow
        ((back.follow [] front.size).modifyHead (Watched.marking consumer.metrics)) 0)
          exchange).alone broker) := by
  have sized := size_of_alike without
  obtain ⟨seen, led⟩ := lead_of_alike without 0 false (Veil.same_refl exchange)
    (Veil.apart_refl broker)
  obtain ⟨seenToo, ledToo⟩ := lead_of_alike alone 0 false (Veil.same_refl exchange)
    (Veil.apart_refl broker)
  have nowhere := arrivals_lead without 0 false exchange broker
  have ready {handed : Bool} {after : Exchange} {later : Broker}
      (ended : (other.lead 0 false exchange broker).2 = .on handed after later) :
      (if handed then after.promote else after) =
        if other.size = 0 then after else after.promote :=
    ready_of_lead ended
  rw [follow_onto, follow_onto, Nat.zero_add, Nat.zero_add, alone_follow, alone_follow,
    alone_follow, alone_follow, sized]
  rcases ran : ahead.lead 0 false exchange broker with ⟨log, lead⟩
  rcases ranFront : front.lead 0 false exchange broker with ⟨logFront, leadFront⟩
  rcases ranOther : other.lead 0 false exchange broker with ⟨logOther, leadOther⟩
  rw [ran, ranFront] at seen led
  rw [ran, ranOther] at seenToo ledToo
  rw [ran] at nowhere
  rw [ranOther] at ready
  obtain rfl : log = logFront := seen
  obtain rfl : log = logOther := seenToo
  cases led with
  | ended same =>
      exact .unreached nowhere ⟨Footprint.besides_of_arrivals nowhere, same.bare_eq⟩
  | @on promoting left right first second same apart =>
      have handed := (transparent_reaching id hidden counts alike nonempty front.size promoting same
        apart).append nowhere
      cases ledToo with
      | @on _ _ alone _ _ sameToo _ =>
          have pending := ((same_ready same promoting).put .duplicateMessage (.bool true)).bare_eq
          have ended := ((same_ready sameToo promoting).put .duplicateMessage (.bool true)).bare_eq
          refine handed.congr ⟨rfl, rfl⟩ ⟨rfl, rfl⟩ ⟨rfl, ?_⟩ ⟨rfl, rfl⟩
          change ((if other.size = 0 then alone else alone.promote).put _ _).bare = _
          rw [← ready rfl]
          exact ended.symm.trans pending

end Assembly

/-! ## Routes that are built with a consumer and without it -/

namespace Exchange

theorem bare_put (exchange : Exchange) (property : Property) (value : Value) :
    (exchange.put property value).bare = exchange.bare.put property value :=
  rfl

theorem bare_promote (exchange : Exchange) : exchange.promote.bare = exchange.bare.promote := by
  have kept : exchange.bare.outbound = exchange.outbound := rfl
  unfold promote
  rw [kept]
  cases exchange.outbound <;> rfl

/-- A dropped exchange is the same apart from its unit of work if it was before. -/
theorem bare_dropped {exchange other : Exchange} (same : exchange.bare = other.bare) {size : Nat}
    {called : Bool} (uncalled : size = 0 ↔ called = false) :
    ((if called then exchange.promote else exchange).put .duplicateMessage (.bool true)).bare =
      ((if size = 0 then other else other.promote).put .duplicateMessage (.bool true)).bare := by
  rw [bare_put, bare_put]
  cases called with
  | false => rw [if_pos (uncalled.mpr rfl), if_neg Bool.false_ne_true, same]
  | true =>
      have sized : size ≠ 0 := fun none => Bool.false_ne_true (uncalled.mp none).symm
      rw [if_neg sized, if_pos rfl, bare_promote, bare_promote, same]

end Exchange

namespace RoutePlan

/-- The route with the given steps is built from the assembly, whose steps a watch follows. -/
structure Yields (plan : RoutePlan) (steps : List RouteStep) (broker : Broker)
    (assembly : Assembly) : Prop where
  assembled : ∃ later, plan.assembly steps broker = .ok (assembly, later)
  built : ∃ route later, RoutePlan.build { plan with steps := steps } broker = .ok (route, later) ∧
    (Watched.inRoute plan.id (assembly.follow [] 0)).processor = route.processor

variable {plan : RoutePlan} {broker later : Broker}

/-- Where a route can be built, one can be built from every list of steps that can be assembled. -/
theorem yields_of_build {listed steps : List RouteStep} {route : Route} {after : Broker}
    {assembly : Assembly}
    (built : RoutePlan.build { plan with steps := listed } broker = .ok (route, after))
    (nonempty : steps ≠ []) (assembled : plan.assembly steps broker = .ok (assembly, later)) :
    plan.Yields steps broker assembly := by
  have registered :
      ∀ uri, plan.source = some uri → ∃ endpoint, broker.endpoint uri = .ok endpoint := by
    intro uri fed
    unfold build at built
    cases empty : listed.isEmpty with
    | true =>
        rw [empty] at built
        contradiction
    | false =>
        rw [empty] at built
        dsimp only at built
        rw [fed] at built
        obtain ⟨endpoint, found, _⟩ := ok_of_bind built
        exact ⟨endpoint, found⟩
  have processors : RoutePlan.assemble { plan with steps := steps } steps broker =
      .ok (assembly.processors, later) :=
    assemble_of_assembly ((assembly_steps plan steps steps broker).trans assembled)
  have listed : steps.isEmpty = false := List.isEmpty_eq_false_iff.mpr nonempty
  refine ⟨⟨later, assembled⟩,
    { id := plan.id
      source := plan.source
      processor := (Processor.pipeline plan.id assembly.processors).inUnitOfWork
      metrics := plan.metrics }, later, ?_, ?_⟩
  · unfold build
    dsimp only
    rw [listed, processors]
    cases fed : plan.source with
    | none => rfl
    | some uri =>
        obtain ⟨endpoint, found⟩ := registered uri fed
        dsimp only
        rw [found]
        rfl
  · rw [← Assembly.map_follow assembly 0]
    rfl

variable {route : Route} {before behind : List RouteStep} {key : Exchange → Option Value}
  {repository : Nat} {options : IdempotentOptions}

/-- With a consumer in the middle of its steps, a route does with an exchange that does not reach
the consumer, or has a new key there, what it does without the consumer. Of an exchange that reaches
it with a known key, nothing but the steps in front is seen if duplicates are dropped, and it comes
out as those steps leave it, with its outbound message promoted if one of them calls a processor,
and marked as a duplicate. If duplicates are passed on, the route without the consumer is followed
with that mark set in front of the steps behind it. -/
theorem idempotent_transparent
    (blind : plan.Blind ⟨repository, broker.duplicates.next⟩ (before ++ behind))
    (nonempty : behind ≠ [])
    (built : RoutePlan.build
      { plan with steps := before ++ .idempotent key repository options :: behind } broker =
        .ok (route, later)) :
    ∃ (nested front back ahead : Assembly) (between : Broker),
      plan.Yields (before ++ .idempotent key repository options :: behind) broker nested ∧
      plan.Yields (before ++ behind) broker (front.onto back) ∧
      plan.assembly behind broker = .ok (back, between) ∧
      (∃ without, plan.assembly before between = .ok (front, without)) ∧
      (∃ alone, plan.assembly before broker = .ok (ahead, alone)) ∧
      (before ≠ [] → plan.Yields before broker ahead) ∧
      ∀ (exchange : Exchange) (state : Broker),
        let cut := Watched.course plan.id (ahead.follow [] 0) exchange state
        Transparent repository options.skipDuplicate
          (Watched.course plan.id (nested.follow [] 0) exchange state)
          (Watched.course plan.id ((front.onto back).follow [] 0) exchange state)
          (cut.1, (if before.any RouteStep.calls then cut.2.promote else cut.2).put
            .duplicateMessage (.bool true))
          (Watched.course plan.id (front.follow
            ((back.follow [] front.size).modifyHead (Watched.marking plan.metrics)) 0) exchange
              state) := by
  obtain ⟨nested, whole, _⟩ := assembly_of_build built
  rw [assembly_steps] at whole
  obtain ⟨_, _, front, last, earlier, rfl⟩ := (assembles_of_assembly whole).append
  obtain ⟨back, between, inner, rfl, rfl⟩ := last.of_consumer
  obtain ⟨duplicates, rfl, grown⟩ := inner.exists_later
  have inFront := blind.sublist fun step listed => List.mem_append_left behind listed
  have inBack := blind.sublist fun step listed => List.mem_append_right before listed
  have hidden : broker.duplicates.next ≤ (duplicates.add 0).next := by
    rw [Register.next_add]
    exact Nat.le_succ_of_le grown
  obtain ⟨flat, without, assembledFlat, alikeFlat⟩ := earlier.recounted inFront hidden grown
  obtain ⟨ahead, alone, assembledAhead, alikeAhead⟩ :=
    earlier.recounted inFront hidden (Nat.le_refl broker.duplicates.next)
  obtain ⟨same, _, again, alikeBack⟩ :=
    inner.recounted inBack (Nat.le_refl _) (Nat.le_refl broker.duplicates.next)
  obtain ⟨rfl, rfl⟩ := Prod.mk.inj (Except.ok.inj (inner.built.symm.trans again.built))
  refine ⟨_, flat, back, ahead, _, yields_of_build built ?_ whole,
    yields_of_build built ?_ (assembledFlat.onto inner).built, inner.built,
    ⟨without, assembledFlat.built⟩, ⟨alone, assembledAhead.built⟩,
    fun steps => yields_of_build built steps assembledAhead.built, ?_⟩
  · exact List.append_ne_nil_of_right_ne_nil before (List.cons_ne_nil _ _)
  · exact List.append_ne_nil_of_right_ne_nil before nonempty
  · intro exchange state
    have transparent := Assembly.transparent_behind ⟨repository, broker.duplicates.next⟩
      (plan.consumer key repository options duplicates.next back) plan.id rfl grown alikeBack
      (inner.ne_done nonempty) alikeFlat alikeAhead exchange.entered state
    have alone := Watched.agrees_course plan.id (ahead.follow [] 0) exchange state
    exact transparent.congr (Watched.agrees_course ..) (Watched.agrees_course ..)
      ⟨alone.seen, Exchange.bare_dropped alone.exchange assembledAhead.size_eq_zero⟩
      (Watched.agrees_course ..)

def answering : Processor :=
  .ofFunction "answering" fun exchange =>
    (exchange.mapOutbound "answer" fun message => message.setBody (.text "answered"), none)

/-- A route that answers twice, the second time to new keys only. -/
def answeringTwice : RoutePlan where
  id := "answering-twice"
  steps :=
    [.process answering] ++ .idempotent (fun _ => some (.text "key")) 0 {} :: [.process answering]

/-- A step that answers, as it is put together. -/
def answeringOnce : Assembly :=
  .next (.plain answering) .done

/-- The steps of the route as they are put together. -/
def consumerBetween : Assembly :=
  .next (.plain answering) (.behind
    (answeringTwice.consumer (fun _ => some (.text "key")) 0 {} 0 answeringOnce) answeringTwice.id
      answeringOnce)

def knowing : Broker where
  repositories := ⟨[{ capacity := 10, keys := ["key"] }]⟩

theorem blind_answering (veil : Veil) : answering.Blind veil :=
  Veil.blind_ofFunction fun _ _ same =>
    ⟨same.map (fun exchange =>
      exchange.mapOutbound "answer" fun message => message.setBody (.text "answered"))
        fun _ _ => rfl, rfl⟩

theorem blind_answeringTwice (veil : Veil) :
    answeringTwice.Blind veil [.process answering, .process answering] where
  processes processor listed := by
    have same : processor = answering := by simpa using listed
    rw [same]
    exact blind_answering veil
  consumers _ _ _ impossible := by simp at impossible
  handler _ impossible := nomatch impossible

/-- The second answer is not given, and the first one is promoted. -/
theorem idempotent_transparent_answeringTwice :
    let passed := Watched.course answeringTwice.id (consumerBetween.follow [] 0) ErrorHandler.fresh
      knowing
    let cut := Watched.course answeringTwice.id (answeringOnce.follow [] 0) ErrorHandler.fresh
      knowing
    answeringTwice.Yields answeringTwice.steps knowing consumerBetween ∧
      answeringTwice.Yields [.process answering] knowing answeringOnce ∧
      GoesLike 0 passed (cut.1, cut.2.promote.put .duplicateMessage (.bool true)) ∧
      cut.1.length = 1 ∧ cut.2.outbound.isSome = true := by
  have blind : answeringTwice.Blind ⟨0, knowing.duplicates.next⟩
      ([.process answering] ++ [.process answering]) :=
    blind_answeringTwice ⟨0, knowing.duplicates.next⟩
  have built : RoutePlan.build { answeringTwice with steps := answeringTwice.steps } knowing =
      .ok (_, _) :=
    rfl
  obtain ⟨nested, front, back, ahead, between, whole, _, _, _, _, alone, courses⟩ :=
    idempotent_transparent blind (List.cons_ne_nil _ _) built
  have yields := alone (List.cons_ne_nil _ _)
  obtain ⟨_, assembled⟩ := whole.assembled
  obtain ⟨rfl, _⟩ : consumerBetween = nested ∧ _ := Prod.mk.inj (Except.ok.inj assembled)
  obtain ⟨_, first⟩ := yields.assembled
  obtain ⟨rfl, _⟩ : answeringOnce = ahead ∧ _ := Prod.mk.inj (Except.ok.inj first)
  intro passed cut
  have found : (Footprint.arrivals 0 passed.1).map (fun arrival => (arrival.key, arrival.held)) =
      [(some "key", some { capacity := 10, keys := ["key"] })] := by
    decide +kernel
  have counted : cut.1.length = 1 ∧ cut.2.outbound.isSome = true := by
    decide +kernel
  refine ⟨whole, yields, ?_, counted⟩
  cases courses ErrorHandler.fresh knowing with
  | unreached never _ =>
      have nowhere : Footprint.arrivals 0 passed.1 = [] := never
      rw [nowhere] at found
      contradiction
  | reached arrival once _ known =>
      have arrived : Footprint.arrivals 0 passed.1 = [arrival] := once
      rw [arrived] at found
      obtain ⟨keyed, held⟩ := Prod.mk.inj (List.cons.inj found).1
      exact known ⟨"key", _, keyed, held, by decide⟩

/-- A route with two consumers that look keys up in two repositories, and one answer. -/
def consumingTwice : RoutePlan where
  id := "consuming-twice"
  steps :=
    [.idempotent (fun _ => some (.text "key")) 0 {}] ++
      .idempotent (fun _ => some (.text "key")) 1 {} :: [.process answering]

def firstConsumer (duplicates : Nat) (steps : Assembly) : Assembly :=
  .behind (consumingTwice.consumer (fun _ => some (.text "key")) 0 {} duplicates steps)
    consumingTwice.id steps

/-- The second consumer of the route in front of its last step. -/
def secondConsumer : Assembly :=
  .behind (consumingTwice.consumer (fun _ => some (.text "key")) 1 {} 0 answeringOnce)
    consumingTwice.id answeringOnce

def halfKnowing : Broker where
  repositories := ⟨[.new 10, { capacity := 10, keys := ["key"] }]⟩

def pending : Exchange :=
  { ErrorHandler.fresh with outbound := some { id := "pending" } }

theorem blind_consumingTwice :
    consumingTwice.Blind ⟨1, halfKnowing.duplicates.next⟩
      ([.idempotent (fun _ => some (.text "key")) 0 {}] ++ [.process answering]) where
  processes processor listed := by
    have same : processor = answering := by simpa using listed
    rw [same]
    exact blind_answering _
  consumers key repository options listed := by
    obtain ⟨rfl, rfl, rfl⟩ :
        key = (fun _ => some (.text "key")) ∧ repository = 0 ∧ options = {} := by
      simpa using listed
    exact ⟨by decide, fun _ _ _ => rfl⟩
  handler _ impossible := nomatch impossible

/-- Behind a consumer alone, an outbound message that the exchange came with is not promoted. -/
theorem consumers_promote_nothing :
    consumingTwice.Blind ⟨1, halfKnowing.duplicates.next⟩
        ([.idempotent (fun _ => some (.text "key")) 0 {}] ++ [.process answering]) ∧
      consumingTwice.Yields consumingTwice.steps halfKnowing (firstConsumer 1 secondConsumer) ∧
      consumingTwice.Yields [.idempotent (fun _ => some (.text "key")) 0 {}] halfKnowing
        (firstConsumer 0 .done) ∧
      let passed := Watched.course consumingTwice.id ((firstConsumer 1 secondConsumer).follow [] 0)
        pending halfKnowing
      let cut := Watched.course consumingTwice.id ((firstConsumer 0 .done).follow [] 0) pending
        halfKnowing
      (∃ arrival, Footprint.arrivals 1 passed.1 = [arrival] ∧ arrival.Finds true) ∧
        passed.2.outbound.isSome = true ∧
        (cut.2.promote.put .duplicateMessage (.bool true)).outbound.isSome = false ∧
        ¬GoesLike 1 passed (cut.1, cut.2.promote.put .duplicateMessage (.bool true)) := by
  refine ⟨blind_consumingTwice, ⟨⟨_, rfl⟩, _, _, rfl, rfl⟩, ⟨⟨_, rfl⟩, _, _, rfl, rfl⟩, ?_⟩
  intro passed cut
  have found : (Footprint.arrivals 1 passed.1).map (fun arrival => (arrival.key, arrival.held)) =
      [(some "key", some { capacity := 10, keys := ["key"] })] := by
    decide +kernel
  have kept : passed.2.outbound.isSome = true := by
    decide +kernel
  have promoted : (cut.2.promote.put .duplicateMessage (.bool true)).outbound.isSome = false := by
    decide +kernel
  refine ⟨?_, kept, promoted, ?_⟩
  · obtain ⟨arrival, reached, seen⟩ := List.map_eq_singleton_iff.mp found
    obtain ⟨keyed, held⟩ := Prod.mk.inj seen
    exact ⟨arrival, reached, "key", _, keyed, held, by decide⟩
  · intro like
    have same := congrArg (fun exchange => exchange.outbound.isSome) like.exchange
    exact Bool.false_ne_true (promoted.symm.trans (same.symm.trans kept))

end RoutePlan

end MessageRouting
