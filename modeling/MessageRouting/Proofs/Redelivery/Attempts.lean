import MessageRouting.Proofs.Redelivery.Endings

/-!
# The attempts of a pass

The history of a pass is cut where a redelivery begins. What lies between two cuts
is one attempt: the call of the guarded step, unless what runs before it failed, and
the exchange that the attempt ends with.
-/

namespace MessageRouting

/-- One attempt of a pass: the call of the guarded step, if it was made, and the exchange at the
end. -/
structure Attempt where
  call : Option Visit
  ended : Exchange

namespace Attempt

def failure? (attempt : Attempt) : Option Failure :=
  attempt.ended.exception

variable {past : List Attempt} {attempt other : Attempt} {index : Nat}

theorem filterMap_concat {α : Type} (view : Attempt → Option α) :
    (past ++ [attempt]).filterMap view = past.filterMap view ++ (view attempt).toList := by
  rw [List.filterMap_append]
  cases held : view attempt <;> simp [held]

/-- An attempt found in a list is one of those before the last one or the last one. -/
theorem found_concat (found : (past ++ [attempt])[index]? = some other) :
    past[index]? = some other ∨ index = past.length ∧ other = attempt := by
  rcases Nat.lt_or_ge index past.length with before | behind
  · rw [List.getElem?_append_left before] at found
    exact .inl found
  · rw [List.getElem?_append_right behind] at found
    obtain ⟨within, same⟩ := List.getElem?_eq_some_iff.mp found
    rw [List.length_singleton] at within
    refine .inr ⟨by omega, ?_⟩
    rw [← same]
    exact List.getElem_singleton within

/-- Of two attempts in a row, both are before the last one, or the second one is the last one. -/
theorem consecutive_concat {next : Attempt}
    (found : (past ++ [attempt])[index]? = some other)
    (following : (past ++ [attempt])[index + 1]? = some next) :
    (past[index]? = some other ∧ past[index + 1]? = some next) ∨
      (past.getLast? = some other ∧ index + 1 = past.length ∧ next = attempt) := by
  rcases found_concat following with inside | ⟨last, same⟩
  · have within := (List.getElem?_eq_some_iff.mp inside).1
    rw [List.getElem?_append_left (by omega)] at found
    exact .inl ⟨found, inside⟩
  · rw [List.getElem?_append_left (by omega)] at found
    have position : past.length - 1 = index := by omega
    refine .inr ⟨?_, last, same⟩
    rw [List.getLast?_eq_getElem?, position]
    exact found

end Attempt

namespace History

/-- The attempts that follow, of which the first one has come as far as is given. -/
def attemptsFrom (attempt : Attempt) : History → List Attempt
  | [] => [attempt]
  | .redelivery _ :: rest => attempt :: attemptsFrom ⟨none, attempt.ended⟩ rest
  | .hook visit :: rest => attemptsFrom { attempt with ended := visit.after } rest
  | .step visit :: rest => attemptsFrom ⟨some visit, visit.after⟩ rest
  | .caught _ :: rest => attemptsFrom attempt rest
  | .exhausted _ :: rest => attemptsFrom attempt rest
  | .delivery .. :: rest => attemptsFrom attempt rest

/-- The attempts of a pass that begins with the exchange, in order. -/
def attempts (exchange : Exchange) (history : History) : List Attempt :=
  history.attemptsFrom ⟨none, exchange⟩

variable {attempt last : Attempt} {done : List Attempt} {first second : History}

theorem attemptsFrom_ne_nil : first.attemptsFrom attempt ≠ [] := by
  induction first generalizing attempt with
  | nil => exact List.cons_ne_nil attempt []
  | cons moment rest inductionHypothesis =>
      cases moment with
      | redelivery => exact List.cons_ne_nil attempt _
      | _ => exact inductionHypothesis

/-- What follows a history goes on with its last attempt. -/
theorem attemptsFrom_append (whole : first.attemptsFrom attempt = done ++ [last]) :
    (first ++ second : History).attemptsFrom attempt = done ++ second.attemptsFrom last := by
  induction first generalizing attempt done with
  | nil =>
      have alone : done ++ [last] = [] ++ [attempt] := whole.symm
      obtain ⟨rfl, same⟩ := List.append_inj' alone rfl
      obtain rfl := List.singleton_inj.mp same
      rfl
  | cons moment rest inductionHypothesis =>
      cases moment with
      | redelivery =>
          cases done with
          | nil => exact absurd (List.cons.inj whole).2 attemptsFrom_ne_nil
          | cons head others =>
              obtain ⟨rfl, later⟩ := List.cons.inj whole
              exact congrArg (attempt :: ·) (inductionHypothesis later)
      | _ => exact inductionHypothesis whole

/-- What neither begins a redelivery nor calls the step or what runs before it makes no attempt. -/
theorem attempts_append_of_rest (rest : ∀ last, second.attemptsFrom last = [last])
    (exchange : Exchange) :
    (first ++ second : History).attempts exchange = first.attempts exchange := by
  have nonempty : first.attempts exchange ≠ [] := attemptsFrom_ne_nil
  have whole := (List.dropLast_concat_getLast nonempty).symm
  rw [attempts, attemptsFrom_append whole, rest]
  exact whole.symm

end History

namespace ErrorHandler

variable {handler : ErrorHandler} {exchange after : Exchange} {earlier moments last : History}
  {standing next : Standing} {entry : Option Message} {result : Exchange × Outcome}

/-- The attempts before the one that a pass is about to make. -/
def Standing.past (standing : Standing) (exchange : Exchange) (earlier : History) : List Attempt :=
  if standing.preparation.isSome then earlier.attempts exchange else []

theorem Reached.unprepared (reached : Reached handler (outset exchange) earlier standing)
    (none : standing.preparation = none) : earlier = [] ∧ standing.exchange = exchange := by
  cases reached with
  | start => exact ⟨rfl, rfl⟩
  | again _ retried =>
      cases retried
      contradiction

theorem Retried.isSome_preparation (retried : Retried handler standing moments next) :
    next.preparation.isSome = true := by
  cases retried
  rfl

/-! ## One attempt more -/

/-- The moments of an attempt are one attempt more. -/
theorem Attempted.attemptsFrom_eq {preparation : Option Preparation} {ready : Exchange}
    (attempted : Attempted handler preparation ready moments after) {last : Attempt}
    (afresh : preparation = none → last = ⟨none, ready⟩) :
    ∃ attempt : Attempt, attempt.ended = after ∧
      moments.attemptsFrom last = (if preparation.isSome then [last] else []) ++ [attempt] ∧
      moments.steps = attempt.call.toList := by
  cases attempted with
  | @ran before _ _ prepared =>
      refine ⟨⟨some ⟨before, after⟩, after⟩, rfl, ?_, ?_⟩
      · cases prepared <;> rfl
      · rw [History.steps_append, prepared.steps_eq]
        rfl
  | withheld prepared failed =>
      refine ⟨⟨none, after⟩, rfl, ?_, prepared.steps_eq⟩
      cases prepared with
      | first =>
          rw [afresh rfl]
          rfl
      | unhooked => contradiction
      | hooked => rfl

/-- An attempt comes behind those before it. -/
theorem Reached.attempts_append (reached : Reached handler (outset exchange) earlier standing)
    (attempted : Attempted handler standing.preparation standing.exchange moments after) :
    ∃ attempt : Attempt, attempt.ended = after ∧
      (earlier ++ moments : History).attempts exchange =
          standing.past exchange earlier ++ [attempt] ∧
      moments.steps = attempt.call.toList := by
  have nonempty : earlier.attempts exchange ≠ [] := History.attemptsFrom_ne_nil
  have whole := (List.dropLast_concat_getLast nonempty).symm
  have afresh : standing.preparation = none →
      (earlier.attempts exchange).getLast nonempty = ⟨none, standing.exchange⟩ := by
    intro unprepared
    obtain ⟨rfl, same⟩ := reached.unprepared unprepared
    rw [same]
    rfl
  obtain ⟨attempt, ended, split, called⟩ := attempted.attemptsFrom_eq afresh
  refine ⟨attempt, ended, ?_, called⟩
  rw [History.attempts, History.attemptsFrom_append whole, split, Standing.past]
  cases prepared : standing.preparation with
  | none =>
      obtain ⟨rfl, _⟩ := reached.unprepared prepared
      rfl
  | some preparation =>
      have again := congrArg (· ++ [attempt]) whole.symm
      simpa using again

/-- The attempts before a redelivery are those before the attempt that failed, and that one. -/
theorem Reached.past_eq (reached : Reached handler (outset exchange) earlier standing)
    (retried : Retried handler standing moments next) :
    ∃ (attempt : Attempt) (own : History) (failure : Failure),
      next.past exchange (earlier ++ moments) = standing.past exchange earlier ++ [attempt] ∧
        Attempted handler standing.preparation standing.exchange own attempt.ended ∧
        moments = own ++ [.caught failure] ∧ own.steps = attempt.call.toList ∧
        attempt.failure? = some failure ∧ failure.isFatal = false ∧
        handler.mayRedeliver (handler.policyFor failure)
          (counted (attempt.ended.setCaught failure) (standing.redeliveries + 1))
          (standing.redeliveries + 1) = true ∧
        next.redeliveries = standing.redeliveries + 1 ∧
        next.exchange = counted (attempt.ended.setCaught failure) (standing.redeliveries + 1) := by
  cases retried with
  | @caught _ _ _ _ _ _ own failure attempted failed mild allowed =>
      obtain ⟨attempt, rfl, whole, called⟩ := reached.attempts_append attempted
      refine ⟨attempt, own, failure, ?_, attempted, rfl, called, failed, mild, allowed, rfl, rfl⟩
      rw [← whole, ← List.append_assoc]
      exact History.attempts_append_of_rest (fun _ => rfl) exchange

/-! ## The attempts before the last one -/

/-- What a history shows of the attempts before the next one. -/
structure Behind (past : List Attempt) (earlier : History) (standing : Standing) : Prop where
  count : past.length = standing.redeliveries
  steps : past.filterMap Attempt.call = earlier.steps
  failures : past.filterMap Attempt.failure? = earlier.failures
  failed : ∀ attempt ∈ past, attempt.failure?.isSome = true

theorem Reached.behind (reached : Reached handler (outset exchange) earlier standing) :
    Behind (standing.past exchange earlier) earlier standing := by
  induction reached with
  | start => exact ⟨rfl, rfl, rfl, fun _ listed => absurd listed List.not_mem_nil⟩
  | again reached retried inductionHypothesis =>
      obtain ⟨count, steps, failures, failed⟩ := inductionHypothesis
      obtain ⟨attempt, own, failure, past, attempted, rfl, called, caught, _, _, counts, _⟩ :=
        reached.past_eq retried
      rw [past]
      refine ⟨?_, ?_, ?_, ?_⟩
      · rw [List.length_append, count, counts]
        rfl
      · rw [Attempt.filterMap_concat, steps, ← called, History.steps_append, History.steps_append]
        exact congrArg (_ ++ ·) (List.append_nil own.steps).symm
      · rw [Attempt.filterMap_concat, failures, caught, History.failures_append,
          History.failures_append, attempted.moments.1]
        rfl
      · intro other listed
        rcases List.mem_append.mp listed with before | same
        · exact failed other before
        · rw [List.mem_singleton.mp same, caught]
          rfl

/-! ## The last attempt -/

/-- What follows the last attempt of a pass makes no further one, and shows why there is none. -/
structure Concludes (handler : ErrorHandler) (standing : Standing) (rest : History)
    (ended : Exchange) (outcome : Outcome) : Prop where
  attempts : ∀ last, rest.attemptsFrom last = [last]
  steps : rest.steps = []
  failures : rest.failures = ended.exception.toList
  unfailed : ended.exception = none →
    outcome = if ended.isFailed then .fault else .success standing.redeliveries
  failed : ∀ failure, ended.exception = some failure → failure.isFatal = true ∨
    standing.countable = 0 ∨
    handler.mayRedeliver (handler.policyFor failure)
      (counted (ended.setCaught failure) (standing.redeliveries + 1))
      (standing.redeliveries + 1) = false

theorem concludes_of_unfailed {outcome : Outcome} (unfailed : after.exception = none)
    (settled : outcome = if after.isFailed then .fault else .success standing.redeliveries) :
    Concludes handler standing [] after outcome where
  attempts _ := rfl
  steps := rfl
  failures := by rw [unfailed]; rfl
  unfailed _ := settled
  failed _ failed := by rw [unfailed] at failed; contradiction

theorem Ended.concludes {failure : Failure} {marked : Exchange} {rest : History}
    (ended : Ended handler (handler.policyFor failure) failure entry marked rest result)
    (failed : after.exception = some failure)
    (stopped : standing.countable = 0 ∨
      handler.mayRedeliver (handler.policyFor failure)
        (counted (after.setCaught failure) (standing.redeliveries + 1))
        (standing.redeliveries + 1) = false) :
    Concludes handler standing (.caught failure :: .exhausted marked :: rest) after result.2 where
  attempts _ := by cases ended <;> rfl
  steps := by cases ended <;> rfl
  failures := by rw [failed]; cases ended <;> rfl
  unfailed unfailed := by rw [failed] at unfailed; contradiction
  failed caught found := by
    obtain rfl := Option.some.inj (failed.symm.trans found)
    exact .inr stopped

theorem Closing.concludes (closing : Closing handler entry standing last result) :
    ∃ (moments rest : History) (after : Exchange), last = moments ++ rest ∧
      Attempted handler standing.preparation standing.exchange moments after ∧
      Concludes handler standing rest after result.2 := by
  cases closing with
  | succeeded attempted unfailed sound =>
      refine ⟨last, [], _, (List.append_nil last).symm, attempted, ?_⟩
      exact concludes_of_unfailed unfailed (by rw [sound]; rfl)
  | faulted attempted unfailed fault =>
      refine ⟨last, [], _, (List.append_nil last).symm, attempted, ?_⟩
      exact concludes_of_unfailed unfailed (by rw [fault]; rfl)
  | @misconfigured after moments failure attempted failed fatal =>
      refine ⟨moments, [.caught failure], after, rfl, attempted, fun _ => rfl, rfl, ?_, ?_, ?_⟩
      · rw [failed]
        rfl
      · intro unfailed
        rw [failed] at unfailed
        contradiction
      · intro caught found
        obtain rfl := Option.some.inj (failed.symm.trans found)
        exact .inl fatal
  | exhausted attempted failed mild stopped ended =>
      exact ⟨_, _, _, rfl, attempted, ended.concludes failed stopped⟩

/-! ## Whole passes -/

/-- How a history is made up of the attempts before the last one, the last attempt and what follows. -/
structure MadeUp (history : History) (exchange : Exchange) (past : List Attempt)
    (attempt : Attempt) : Prop where
  attempts : history.attempts exchange = past ++ [attempt]
  steps : history.steps = (history.attempts exchange).filterMap Attempt.call
  failures : history.failures = (history.attempts exchange).filterMap Attempt.failure?

theorem Behind.madeUp {past : List Attempt} {attempt : Attempt} {rest : History}
    {outcome : Outcome}
    (behind : Behind past earlier standing)
    (concludes : Concludes handler standing rest attempt.ended outcome)
    (whole : (earlier ++ moments : History).attempts exchange = past ++ [attempt])
    (called : moments.steps = attempt.call.toList)
    (quiet : moments.failures = []) :
    MadeUp (earlier ++ (moments ++ rest)) exchange past attempt := by
  have attempts : (earlier ++ (moments ++ rest) : History).attempts exchange =
      past ++ [attempt] := by
    rw [← List.append_assoc, History.attempts_append_of_rest concludes.attempts, whole]
  refine ⟨attempts, ?_, ?_⟩
  · rw [attempts, Attempt.filterMap_concat, behind.steps, ← called,
      History.steps_append, History.steps_append, concludes.steps, List.append_nil]
  · rw [attempts, Attempt.filterMap_concat, behind.failures, Attempt.failure?,
      History.failures_append, History.failures_append, quiet, concludes.failures, List.nil_append]

/-- Every pass goes through the attempts that its history shows, and the last one concludes it. -/
theorem attempts_of_observe {history : History}
    (given : (handler.observe exchange).Gives history result) :
    ∃ (earlier : History) (standing : Standing) (attempt : Attempt) (moments rest : History),
      Reached handler (outset exchange) earlier standing ∧
        Attempted handler standing.preparation standing.exchange moments attempt.ended ∧
        Concludes handler standing rest attempt.ended result.2 ∧
        moments.steps = attempt.call.toList ∧ history = earlier ++ (moments ++ rest) ∧
        MadeUp history exchange (standing.past exchange earlier) attempt := by
  obtain ⟨earlier, standing, last, reached, closing, rfl⟩ := course_of_observe given
  obtain ⟨moments, rest, after, rfl, attempted, concludes⟩ := closing.concludes
  obtain ⟨attempt, rfl, whole, called⟩ := reached.attempts_append attempted
  exact ⟨earlier, standing, attempt, moments, rest, reached, attempted, concludes, called, rfl,
    reached.behind.madeUp concludes whole called attempted.moments.1⟩

end ErrorHandler

end MessageRouting
