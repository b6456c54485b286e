import Mathlib.Data.List.Find
import MessageRouting.Failure

/-!
# Captures around failures

A failure that was captured may be captured again, and may turn up as the source of another
failure. Every failure is a bare failure with any number of captures around it and around
its sources. The chain of causes leaves the captures out, wherever they are.
-/

namespace MessageRouting

namespace Failure

def bare : Failure → Failure
  | wrapping name message source => wrapping name message source.bare
  | routing exchange source => routing exchange source.bare
  | captured failure => failure.bare
  | failure => failure

def inside : Failure → Failure
  | captured failure => failure.inside
  | failure => failure

/-- The failure that is named as the source. The source of a capture is that of what it captures. -/
def source? : Failure → Option Failure
  | wrapping _ _ source => some source
  | routing _ source => some (captured source)
  | inputOutput message => some (plain message)
  | captured failure => failure.source?
  | _ => none

/-- What is found out about a failure that is no capture does not depend on the captures around its
sources. -/
def IgnoresCaptures {α : Type} (view : Failure → α) : Prop :=
  ∀ failure : Failure, failure.inside = failure → view failure.bare = view failure

/-! ## Chains -/

/-- The chain begins with the failure inside and goes on with the chain of its source. -/
theorem chain_eq (failure : Failure) :
    failure.chain = failure.inside :: (failure.inside.source?.map chain).getD [] := by
  induction failure with
  | captured failure inductionHypothesis => exact inductionHypothesis
  | _ => rfl

/-- No capture is on the chain. -/
theorem inside_of_mem_chain {failure cause : Failure} (listed : cause ∈ failure.chain) :
    cause.inside = cause := by
  induction failure with
  | wrapping name message source inductionHypothesis =>
      rcases List.mem_cons.mp listed with rfl | behind
      · rfl
      · exact inductionHypothesis behind
  | routing exchange source inductionHypothesis =>
      rcases List.mem_cons.mp listed with rfl | behind
      · rfl
      · exact inductionHypothesis behind
  | inputOutput message =>
      rcases List.mem_cons.mp listed with rfl | behind
      · rfl
      · rw [List.mem_singleton.mp behind]
        rfl
  | captured failure inductionHypothesis => exact inductionHypothesis listed
  | _ => rw [List.mem_singleton.mp listed]; rfl

/-- Without their captures the causes are those of the bare failure. -/
theorem map_bare_chain (failure : Failure) : failure.chain.map bare = failure.bare.chain := by
  induction failure with
  | wrapping name message source inductionHypothesis =>
      exact congrArg (wrapping name message source.bare :: ·) inductionHypothesis
  | routing exchange source inductionHypothesis =>
      exact congrArg (routing exchange source.bare :: ·) inductionHypothesis
  | captured failure inductionHypothesis => exact inductionHypothesis
  | _ => rfl

theorem display_bare (failure : Failure) : failure.bare.display = failure.display := by
  induction failure with
  | routing exchange source inductionHypothesis =>
      exact congrArg (fun text => "Routing failed for exchange " ++ exchange ++ ": " ++ text)
        inductionHypothesis
  | captured failure inductionHypothesis => exact inductionHypothesis
  | _ => rfl

/-- The innermost cause has no source, so that there is no capture in it. -/
theorem exists_rootCause (failure : Failure) :
    ∃ root, failure.chain.getLast? = some root ∧ root.bare = root := by
  induction failure with
  | wrapping name message source inductionHypothesis =>
      obtain ⟨root, last, same⟩ := inductionHypothesis
      exact ⟨root, by rw [chain, List.getLast?_cons, last]; rfl, same⟩
  | routing exchange source inductionHypothesis =>
      obtain ⟨root, last, same⟩ := inductionHypothesis
      exact ⟨root, by rw [chain, List.getLast?_cons, last]; rfl, same⟩
  | captured failure inductionHypothesis => exact inductionHypothesis
  | _ => exact ⟨_, rfl, rfl⟩

theorem rootCause_bare (failure : Failure) : failure.bare.rootCause = failure.rootCause := by
  obtain ⟨root, last, same⟩ := failure.exists_rootCause
  rw [rootCause, rootCause, ← map_bare_chain, List.getLast?_map, last]
  exact same

theorem chain_capture (failure : Failure) : failure.capture.chain = failure.chain := by
  cases failure <;> rfl

theorem bare_capture (failure : Failure) : failure.capture.bare = failure.bare := by
  cases failure <;> rfl

/-! ## Captures put around -/

/-- The second failure is the first one with captures put around it and around its sources. -/
inductive Enclosed : Failure → Failure → Prop
  | refl (failure : Failure) : Enclosed failure failure
  | trans {first second third : Failure} :
      Enclosed first second → Enclosed second third → Enclosed first third
  | around (failure : Failure) : Enclosed failure (captured failure)
  | captured {first second : Failure} :
      Enclosed first second → Enclosed (captured first) (captured second)
  | wrapping (name message : String) {first second : Failure} :
      Enclosed first second → Enclosed (wrapping name message first) (wrapping name message second)
  | routing (exchange : String) {first second : Failure} :
      Enclosed first second → Enclosed (routing exchange first) (routing exchange second)

theorem Enclosed.bare_eq {first second : Failure} (enclosed : Enclosed first second) :
    second.bare = first.bare := by
  induction enclosed with
  | refl | around => rfl
  | trans _ _ former latter => exact latter.trans former
  | captured _ inductionHypothesis => exact inductionHypothesis
  | wrapping name message _ inductionHypothesis =>
      exact congrArg (Failure.wrapping name message) inductionHypothesis
  | routing exchange _ inductionHypothesis =>
      exact congrArg (Failure.routing exchange) inductionHypothesis

/-! ## What is found on the chain -/

section

variable {α : Type} {view : Failure → α} {test : Failure → Bool}

theorem ignoresCaptures_display : IgnoresCaptures display :=
  fun failure _ => failure.display_bare

theorem map_view_chain (ignores : IgnoresCaptures view) (failure : Failure) :
    failure.bare.chain.map view = failure.chain.map view := by
  rw [← map_bare_chain, List.map_map]
  exact List.map_congr_left fun cause listed => ignores cause (inside_of_mem_chain listed)

theorem any_chain_bare (ignores : IgnoresCaptures test) (failure : Failure) :
    failure.bare.chain.any test = failure.chain.any test := by
  have verdicts := congrArg (List.any · id) (map_view_chain ignores failure)
  rw [List.any_map, List.any_map] at verdicts
  exact verdicts

theorem find?_chain_bare (ignores : IgnoresCaptures test) (failure : Failure) :
    failure.bare.chain.find? test = (failure.chain.find? test).map bare := by
  rw [← map_bare_chain, List.find?_map]
  exact congrArg (Option.map bare) <| List.find?_congr fun cause listed =>
    ignores cause (inside_of_mem_chain listed)

theorem renderChain_bare (failure : Failure) : failure.bare.renderChain = failure.renderChain := by
  rw [renderChain, renderChain, map_view_chain ignoresCaptures_display]

theorem inside_ne_captured (failure other : Failure) : failure.inside ≠ captured other := by
  induction failure with
  | captured failure inductionHypothesis => exact inductionHypothesis
  | _ => exact nofun

/-- It is enough to look at the failures that have a source. -/
theorem ignoresCaptures_of_sources
    (wrapping : ∀ name message source,
      view (wrapping name message source.bare) = view (.wrapping name message source))
    (routing : ∀ exchange source,
      view (routing exchange source.bare) = view (.routing exchange source)) :
    IgnoresCaptures view := by
  intro failure uncaptured
  cases failure with
  | wrapping name message source => exact wrapping name message source
  | routing exchange source => exact routing exchange source
  | captured failure => exact absurd uncaptured (inside_ne_captured _ failure)
  | _ => rfl

theorem isFatal_bare (failure : Failure) : failure.bare.isFatal = failure.isFatal :=
  any_chain_bare (ignoresCaptures_of_sources (fun _ _ _ => rfl) fun _ _ => rfl) failure

end

end Failure

end MessageRouting
