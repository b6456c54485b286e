import Mathlib.Data.List.Basic
import MessageRouting.Proofs.Failure.Captures
import MessageRouting.Redelivery.ExceptionPolicy

/-!
# Which policy applies

The policy for a failure is the first one that accepts the innermost cause that any policy
accepts. Captures around the failure and around its sources change neither the causes nor
the policy.
-/

namespace MessageRouting

namespace Failure

section

variable {ι : Type} {accepts : ι → Failure → Bool} {items : List ι} {failure : Failure}

/-- No item is found exactly if none accepts a cause. -/
theorem innermostFirst_eq_none_iff :
    innermostFirst accepts items failure = none ↔
      ∀ item ∈ items, ∀ cause ∈ failure.chain, accepts item cause = false := by
  rw [innermostFirst, List.findSome?_eq_none_iff]
  constructor
  · intro unaccepted item listed cause caused
    have nobody := unaccepted cause (List.mem_reverse.mpr caused)
    exact eq_false_of_ne_true (List.find?_eq_none.mp nobody item listed)
  · intro refused cause caused
    refine List.find?_eq_none.mpr fun item listed => ?_
    exact ne_true_of_eq_false (refused item listed cause (List.mem_reverse.mp caused))

/-- The item that is found is the first to accept a cause, and the causes further in are accepted by
none. -/
theorem innermostFirst_eq_some_iff {item : ι} :
    innermostFirst accepts items failure = some item ↔
      ∃ outer cause inner earlier later,
        failure.chain = outer ++ cause :: inner ∧ items = earlier ++ item :: later ∧
        accepts item cause = true ∧ (∀ other ∈ earlier, accepts other cause = false) ∧
        ∀ deeper ∈ inner, ∀ other ∈ items, accepts other deeper = false := by
  rw [innermostFirst, List.findSome?_eq_some_iff]
  constructor
  · rintro ⟨inner, cause, outer, whole, found, unaccepted⟩
    obtain ⟨accepted, earlier, later, listed, refused⟩ := List.find?_eq_some_iff_append.mp found
    refine ⟨outer.reverse, cause, inner.reverse, earlier, later, ?_, listed, accepted, ?_, ?_⟩
    · have turned := congrArg List.reverse whole
      simpa using turned
    · intro other before
      simpa using refused other before
    · intro deeper caused other known
      have nobody := unaccepted deeper (List.mem_reverse.mp caused)
      exact eq_false_of_ne_true (List.find?_eq_none.mp nobody other known)
  · rintro ⟨outer, cause, inner, earlier, later, whole, listed, accepted, refused, deeper⟩
    refine ⟨inner.reverse, cause, outer.reverse, ?_, ?_, ?_⟩
    · rw [whole]
      simp
    · refine List.find?_eq_some_iff_append.mpr ⟨accepted, earlier, later, listed, ?_⟩
      intro other before
      rw [refused other before]
      rfl
    · intro further caused
      refine List.find?_eq_none.mpr fun other known => ?_
      exact ne_true_of_eq_false (deeper further (List.mem_reverse.mp caused) other known)

/-- Items that judge causes whatever captures are around their sources are found for a failure as for
the bare one. -/
theorem innermostFirst_bare (ignores : ∀ item ∈ items, IgnoresCaptures (accepts item)) :
    innermostFirst accepts items failure.bare = innermostFirst accepts items failure := by
  rw [innermostFirst, innermostFirst, ← map_bare_chain, ← List.map_reverse, List.findSome?_map,
    ← List.head?_filterMap, ← List.head?_filterMap]
  refine congrArg List.head? (List.filterMap_congr fun cause caused => ?_)
  exact List.find?_congr fun item listed =>
    ignores item listed cause (inside_of_mem_chain (List.mem_reverse.mp caused))

end

/-- Captures that are put around a failure and around its sources, any number of them at any depth,
change nothing that is found out about its causes, and capturing what is captured changes nothing. The
chain lists the failures inside the captures, outermost first. No policy applies exactly if none
accepts a cause, and otherwise the first one that accepts the innermost cause that any accepts; it is
the same policy whatever the captures, if the policies judge causes and not the captures around their
sources. -/
theorem captures_change_nothing {failure wrapped : Failure} (enclosed : Enclosed failure wrapped) :
    let held := wrapped.capture
    held.chain = wrapped.inside :: (wrapped.inside.source?.map chain).getD [] ∧
    (∀ cause ∈ held.chain, cause.inside = cause) ∧
    held.chain.map bare = failure.bare.chain ∧
    held.chain.length = failure.chain.length ∧
    held.rootCause = failure.rootCause ∧
    held.renderChain = failure.renderChain ∧
    held.isFatal = failure.isFatal ∧
    (∀ test : Failure → Bool, IgnoresCaptures test →
      held.chain.any test = failure.chain.any test ∧
      (held.chain.find? test).map bare = (failure.chain.find? test).map bare) ∧
    (∀ (α : Type) (view : Failure → α), IgnoresCaptures view →
      held.chain.map view = failure.chain.map view) ∧
    (IgnoresCaptures isEngine ∧ IgnoresCaptures isNamed ∧ IgnoresCaptures isScripted ∧
      IgnoresCaptures name? ∧ IgnoresCaptures attempt? ∧ IgnoresCaptures display) ∧
    (captured held).capture = held ∧
    ∀ policies : List ExceptionPolicy,
      (PolicyStrategy.innermost policies held = none ↔
        ∀ policy ∈ policies, ∀ cause ∈ held.chain, policy.accepts cause = false) ∧
      (∀ policy, PolicyStrategy.innermost policies held = some policy ↔
        ∃ outer cause inner earlier later,
          held.chain = outer ++ cause :: inner ∧ policies = earlier ++ policy :: later ∧
          policy.accepts cause = true ∧ (∀ other ∈ earlier, other.accepts cause = false) ∧
          ∀ deeper ∈ inner, ∀ other ∈ policies, other.accepts deeper = false) ∧
      ((∀ policy ∈ policies, IgnoresCaptures policy.accepts) →
        PolicyStrategy.innermost policies held = PolicyStrategy.innermost policies failure) := by
  intro held
  have same : held.bare = failure.bare := (bare_capture wrapped).trans enclosed.bare_eq
  have causes : held.chain.map bare = failure.bare.chain := by
    rw [map_bare_chain, same]
  refine ⟨(chain_capture wrapped).trans (chain_eq wrapped), fun _ => inside_of_mem_chain, causes,
    ?_, ?_, ?_, ?_, ?_, ?_, ?_, rfl, ?_⟩
  · have counted := congrArg List.length causes
    rwa [← map_bare_chain failure, List.length_map, List.length_map] at counted
  · rw [← rootCause_bare held, same, rootCause_bare]
  · rw [← renderChain_bare held, same, renderChain_bare]
  · rw [← isFatal_bare held, same, isFatal_bare]
  · intro test ignores
    rw [← any_chain_bare ignores, ← find?_chain_bare ignores, same, any_chain_bare ignores,
      find?_chain_bare ignores]
    exact ⟨rfl, rfl⟩
  · intro α view ignores
    rw [← map_view_chain ignores held, same, map_view_chain ignores]
  · refine ⟨?_, ?_, ?_, ?_, ?_, ignoresCaptures_display⟩ <;>
      exact ignoresCaptures_of_sources (fun _ _ _ => rfl) fun _ _ => rfl
  · intro policies
    refine ⟨innermostFirst_eq_none_iff, fun _ => innermostFirst_eq_some_iff, fun ignores => ?_⟩
    rw [PolicyStrategy.innermost, ← innermostFirst_bare ignores, same, innermostFirst_bare ignores]

/-- A failure that was captured on its way, was put into another one and was captured twice more. -/
theorem captures_change_nothing_thrice :
    let cause := named "ConnectionReset" "connection reset"
    let plainly := wrapping "IoFailure" "io failure" cause
    let wrapped := captured (captured (wrapping "IoFailure" "io failure" (captured cause)))
    Enclosed plainly wrapped ∧ wrapped.capture.renderChain = plainly.renderChain ∧
      wrapped.capture.chain.any isNamed = plainly.chain.any isNamed := by
  intro cause plainly wrapped
  have enclosed : Enclosed plainly wrapped :=
    .trans (.wrapping _ _ (.around cause)) (.trans (.around _) (.around _))
  obtain ⟨_, _, _, _, _, rendered, _, tested, _, ignoring, _⟩ := captures_change_nothing enclosed
  exact ⟨enclosed, rendered, (tested isNamed ignoring.2.1).1⟩

def hasCapturedSource : Failure → Bool
  | wrapping _ _ (captured _) | routing _ (captured _) => true
  | _ => false

/-- A policy that looks for a capture around the source of a cause applies to one wrapping of a
failure and not to another. -/
theorem captured_source_seen_by_policy :
    let cause := named "ConnectionReset" "connection reset"
    let plainly := wrapping "IoFailure" "io failure" cause
    let wrapped := wrapping "IoFailure" "io failure" (captured cause)
    let policies : List ExceptionPolicy := [{ accepts := hasCapturedSource }]
    Enclosed plainly wrapped ∧ PolicyStrategy.innermost policies plainly.capture = none ∧
      (PolicyStrategy.innermost policies wrapped.capture).isSome = true := by
  intro cause plainly wrapped policies
  exact ⟨.wrapping _ _ (.around cause), rfl, rfl⟩

end Failure

end MessageRouting
