import Mathlib.Data.List.Dedup
import MessageRouting.Idempotent.Repository

/-!
# What a repository holds

What adding and removing a key does to that key and to the others, and which keys a
repository loses when it answers a request.
-/

namespace MessageRouting

inductive RepositoryRequest where
  | add (key : String)
  | contains (key : String)
  | remove (key : String)
  | clear
  | size
deriving DecidableEq

inductive RepositoryAnswer where
  | truth (value : Bool)
  | number (value : Nat)
  | done
deriving DecidableEq

namespace KeyRepository

def answer (repository : KeyRepository) : RepositoryRequest → RepositoryAnswer × KeyRepository
  | .add key => (.truth (repository.add key).1, (repository.add key).2)
  | .contains key => (.truth (repository.contains key), repository)
  | .remove key => (.truth (repository.remove key).1, (repository.remove key).2)
  | .clear => (.done, repository.clear)
  | .size => (.number repository.size, repository)

variable {repository : KeyRepository} {key other : String}

theorem add_of_contains (held : repository.contains key = true) :
    repository.add key = (false, repository) :=
  if_pos held

/-- A key is answered as new if it was not remembered. -/
theorem fst_add (repository : KeyRepository) (key : String) :
    (repository.add key).1 = !repository.contains key := by
  by_cases held : repository.contains key = true
  · rw [add_of_contains held, held]
    rfl
  · rw [add, if_neg held, eq_false_of_ne_true held]
    rfl

theorem contains_add_self (repository : KeyRepository) (key : String) :
    (repository.add key).2.contains key = true := by
  by_cases held : repository.contains key = true
  · rw [add_of_contains held]
    exact held
  · rw [add, if_neg held]
    simp [contains]

theorem contains_of_contains_add (different : other ≠ key)
    (held : (repository.add other).2.contains key = true) : repository.contains key = true := by
  by_cases known : repository.contains other = true
  · rw [add_of_contains known] at held
    exact held
  · rw [add, if_neg known] at held
    have member : key ∈ (if repository.capacity ≤ repository.keys.length
        then repository.keys.drop 1 else repository.keys) := by
      simpa [contains, Ne.symm different] using held
    have before : key ∈ repository.keys := by
      split at member
      · exact List.mem_of_mem_drop member
      · exact member
    simpa [contains] using before

/-- Only the oldest key is lost to a key that is added. -/
theorem mem_take_of_displaced (held : key ∈ repository.keys)
    (lost : key ∉ (repository.add other).2.keys) : key ∈ repository.keys.take 1 := by
  unfold add at lost
  by_cases known : repository.contains other = true
  · rw [if_pos known] at lost
    exact absurd held lost
  · rw [if_neg known] at lost
    have split := repository.keys.take_append_drop 1
    rw [← split] at held
    rcases List.mem_append.mp held with oldest | later
    · exact oldest
    · refine absurd (List.mem_append_left _ ?_) lost
      split
      · exact later
      · exact List.mem_of_mem_drop later

theorem contains_remove_self (repository : KeyRepository) (key : String) :
    (repository.remove key).2.contains key = false := by
  unfold remove
  by_cases held : repository.contains key = true
  · rw [if_pos held]
    simp [contains]
  · rw [if_neg held]
    exact eq_false_of_ne_true held

theorem contains_remove_of_ne (different : other ≠ key) :
    (repository.remove other).2.contains key = repository.contains key := by
  unfold remove
  split
  · rw [Bool.eq_iff_iff]
    simp [contains, Ne.symm different]
  · rfl

end KeyRepository

/-! ## Lost keys -/

namespace RepositoryRequest

def released (repository : KeyRepository) : RepositoryRequest → List String
  | remove key => if repository.contains key then [key] else []
  | clear => repository.keys.dedup
  | _ => []

def evicted (repository : KeyRepository) : RepositoryRequest → List String
  | add key => (repository.keys.take 1).filter fun oldest => !(repository.add key).2.contains oldest
  | _ => []

variable {repository : KeyRepository} {key other : String}

/-- A repository that answers a request still holds a key, or it released or evicted it. -/
theorem kept_or_lost (request : RepositoryRequest) (held : key ∈ repository.keys) :
    key ∈ (repository.answer request).2.keys ∨ key ∈ request.released repository ∨
      key ∈ request.evicted repository := by
  cases request with
  | add other =>
      by_cases kept : key ∈ (repository.add other).2.keys
      · exact .inl kept
      · refine .inr (.inr (List.mem_filter.mpr ⟨KeyRepository.mem_take_of_displaced held kept, ?_⟩))
        simpa [KeyRepository.contains] using kept
  | contains other => exact .inl held
  | remove other =>
      by_cases same : key = other
      · subst same
        have known : repository.contains key = true := by simpa [KeyRepository.contains] using held
        exact .inr (.inl (by simp [released, known]))
      · have kept : (repository.remove other).2.contains key = repository.contains key :=
          KeyRepository.contains_remove_of_ne (Ne.symm same)
        have known : (repository.remove other).2.contains key = true := by
          rw [kept]
          simpa [KeyRepository.contains] using held
        exact .inl (by simpa [KeyRepository.contains, KeyRepository.answer] using known)
  | clear => exact .inr (.inl (List.mem_dedup.mpr held))
  | size => exact .inl held

/-- A key that is remembered already takes no place. -/
theorem evicted_of_contains (known : repository.contains other = true) :
    (add other).evicted repository = [] := by
  rw [evicted, KeyRepository.add_of_contains known, List.filter_eq_nil_iff]
  intro oldest first
  have held := List.mem_of_mem_take first
  simpa [KeyRepository.contains] using held

/-- Beside a key that is added another one is held as before, unless it is evicted. -/
theorem contains_add_of_ne (different : other ≠ key) :
    (repository.add other).2.contains key =
      if key ∈ (add other).evicted repository then false else repository.contains key := by
  by_cases gone : key ∈ (add other).evicted repository
  · rw [if_pos gone]
    simpa using (List.mem_filter.mp gone).2
  · rw [if_neg gone, Bool.eq_iff_iff]
    constructor
    · exact KeyRepository.contains_of_contains_add different
    · intro held
      have member : key ∈ repository.keys := by simpa [KeyRepository.contains] using held
      rcases kept_or_lost (add other) member with kept | impossible | lost
      · simpa [KeyRepository.contains, KeyRepository.answer] using kept
      · contradiction
      · exact absurd lost gone

end RepositoryRequest

namespace KeyRepository

/-- What a settlement asks of the repository: after a success to record a key that was not claimed, and
after a failure to release it if the options say so. -/
def settlement? (options : IdempotentOptions) (succeeded : Bool) (key : String) :
    Option RepositoryRequest :=
  if succeeded then if options.eager then none else some (.add key)
  else if options.removeOnFailure then some (.remove key) else none

theorem settle_eq (repository : KeyRepository) (options : IdempotentOptions) (succeeded : Bool)
    (key : String) :
    repository.settle options succeeded key =
      (settlement? options succeeded key).elim repository fun request =>
        (repository.answer request).2 := by
  unfold settle settlement? confirm
  cases succeeded with
  | true => cases options.eager <;> rfl
  | false => cases options.removeOnFailure <;> rfl

end KeyRepository

end MessageRouting
