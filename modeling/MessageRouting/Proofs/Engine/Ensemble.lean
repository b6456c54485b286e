import Mathlib.Logic.Relation
import MessageRouting.Proofs.Engine.Marked

/-!
# Routines side by side

A scheduler starts routines over one state and lets them go on one at a time, each
up to its next suspension, in any order and with anything in between that is
permitted. Written with their marks, the same routines give a history, and a law
that each of them obeys holds of the whole history.
-/

namespace MessageRouting

universe u v w

/-- Routines that were started, as a scheduler sees them: the state, and where each of them stands.
-/
structure Ensemble (σ : Type u) (α : Type v) where
  state : σ
  tasks : List (Routine.Progress σ α) := []

namespace Ensemble

variable {σ : Type u} {α : Type v}

/-- Starts a routine and lets it go on to its first suspension. -/
def start (routine : Routine σ α) (ensemble : Ensemble σ α) : Ensemble σ α where
  state := (routine.advance ensemble.state).2
  tasks := ensemble.tasks ++ [(routine.advance ensemble.state).1]

/-- Lets the routine of a number go on to its next suspension. -/
def goOn (number : Nat) (ensemble : Ensemble σ α) : Ensemble σ α :=
  match ensemble.tasks[number]? with
  | some (.waiting _ rest) =>
      { state := (rest.advance ensemble.state).2
        tasks := ensemble.tasks.set number (rest.advance ensemble.state).1 }
  | _ => ensemble

/-- A scheduler starts a routine of a kind, or lets one go on, or lets something else happen to the
state that is permitted. -/
inductive Step (starts : Routine σ α → Prop) (permits : σ → σ → Prop) :
    Ensemble σ α → Ensemble σ α → Prop
  | start {ensemble : Ensemble σ α} {routine : Routine σ α} :
      starts routine → Step starts permits ensemble (ensemble.start routine)
  | goOn {ensemble : Ensemble σ α} (number : Nat) :
      Step starts permits ensemble (ensemble.goOn number)
  | meanwhile {ensemble : Ensemble σ α} {after : σ} :
      permits ensemble.state after → Step starts permits ensemble { ensemble with state := after }

/-- What a scheduler does from one moment to another. -/
def Runs (starts : Routine σ α → Prop) (permits : σ → σ → Prop) :
    Ensemble σ α → Ensemble σ α → Prop :=
  Relation.ReflTransGen (Step starts permits)

end Ensemble

/-! ## With marks -/

/-- Routines that were started, and what was told of them, oldest entry first. -/
structure Chronicle (ε : Type w) (σ : Type u) (α : Type v) where
  state : σ
  tasks : List (Marked.Progress ε σ α) := []
  history : List ε := []

namespace Chronicle

variable {ε : Type w} {σ : Type u} {α : Type v} (observe : σ → σ → List ε)

/-- The routines without their marks. -/
def ensemble (chronicle : Chronicle ε σ α) : Ensemble σ α where
  state := chronicle.state
  tasks := chronicle.tasks.map Marked.Progress.unmarked

/-- Starts a routine and lets it go on to its first suspension. -/
def start (marked : Marked ε σ α) (chronicle : Chronicle ε σ α) : Chronicle ε σ α where
  state := (marked.advance chronicle.state).2
  tasks := chronicle.tasks ++ [(marked.advance chronicle.state).1]
  history := chronicle.history ++ marked.entries observe chronicle.state

/-- Lets the routine of a number go on to its next suspension. -/
def goOn (number : Nat) (chronicle : Chronicle ε σ α) : Chronicle ε σ α :=
  match chronicle.tasks[number]? with
  | some (.waiting _ rest) =>
      { state := (rest.advance chronicle.state).2
        tasks := chronicle.tasks.set number (rest.advance chronicle.state).1
        history := chronicle.history ++ rest.entries observe chronicle.state }
  | _ => chronicle

/-- Something else happens to the state. -/
def meanwhile (after : σ) (chronicle : Chronicle ε σ α) : Chronicle ε σ α :=
  { chronicle with
    state := after
    history := chronicle.history ++ observe chronicle.state after }

/-- What a scheduler does, told. -/
inductive Step (starts : Marked ε σ α → Prop) (permits : σ → σ → Prop) :
    Chronicle ε σ α → Chronicle ε σ α → Prop
  | start {chronicle : Chronicle ε σ α} {marked : Marked ε σ α} :
      starts marked → Step starts permits chronicle (chronicle.start observe marked)
  | goOn {chronicle : Chronicle ε σ α} (number : Nat) :
      Step starts permits chronicle (chronicle.goOn observe number)
  | meanwhile {chronicle : Chronicle ε σ α} {after : σ} :
      permits chronicle.state after →
      Step starts permits chronicle (chronicle.meanwhile observe after)

/-- What a scheduler does from one moment to another, told. -/
def Runs (starts : Marked ε σ α → Prop) (permits : σ → σ → Prop) :
    Chronicle ε σ α → Chronicle ε σ α → Prop :=
  Relation.ReflTransGen (Step observe starts permits)

variable {observe}

@[simp]
theorem ensemble_start (marked : Marked ε σ α) (chronicle : Chronicle ε σ α) :
    (chronicle.start observe marked).ensemble = chronicle.ensemble.start marked.unmarked := by
  have advanced := marked.advance_unmarked chronicle.state
  simp [start, ensemble, Ensemble.start, advanced]

@[simp]
theorem ensemble_goOn (number : Nat) (chronicle : Chronicle ε σ α) :
    (chronicle.goOn observe number).ensemble = chronicle.ensemble.goOn number := by
  have found : chronicle.ensemble.tasks[number]? =
      (chronicle.tasks[number]?).map Marked.Progress.unmarked := List.getElem?_map
  unfold goOn Ensemble.goOn
  rw [found]
  cases standing : chronicle.tasks[number]? with
  | none => rfl
  | some task =>
      cases task with
      | finished value => rfl
      | waiting span rest =>
          have advanced := rest.advance_unmarked chronicle.state
          simp [ensemble, Marked.Progress.unmarked, advanced, List.map_set]

/-- Whatever a scheduler does with routines, it does with the same routines written with marks. -/
theorem exists_of_runs {starts : Routine σ α → Prop} {begins : Marked ε σ α → Prop}
    {permits : σ → σ → Prop} {state : σ} {ensemble : Ensemble σ α}
    (written : ∀ routine, starts routine → ∃ marked, begins marked ∧ marked.unmarked = routine)
    (runs : Ensemble.Runs starts permits { state := state } ensemble) :
    ∃ chronicle : Chronicle ε σ α,
      Runs observe begins permits { state := state } chronicle ∧ chronicle.ensemble = ensemble := by
  induction runs with
  | refl => exact ⟨{ state := state }, .refl, rfl⟩
  | tail _ step inductionHypothesis =>
      obtain ⟨chronicle, ran, rfl⟩ := inductionHypothesis
      cases step with
      | start started =>
          obtain ⟨marked, begun, rfl⟩ := written _ started
          exact ⟨_, ran.tail (.start begun), ensemble_start marked chronicle⟩
      | goOn number => exact ⟨_, ran.tail (.goOn number), ensemble_goOn number chronicle⟩
      | meanwhile permitted => exact ⟨_, ran.tail (.meanwhile permitted), rfl⟩

/-! ## Laws of the whole history -/

/-- The law holds of the history, and every routine that waits obeys it. -/
structure Lawful (law : List ε → σ → σ → Prop) (outset : σ) (observe : σ → σ → List ε)
    (chronicle : Chronicle ε σ α) : Prop where
  told : law chronicle.history outset chronicle.state
  waiting : ∀ span rest, Marked.Progress.waiting span rest ∈ chronicle.tasks →
    rest.Obeys law observe

variable {law : List ε → σ → σ → Prop} {outset : σ} {starts : Marked ε σ α → Prop}
  {permits : σ → σ → Prop} {chronicle next : Chronicle ε σ α}

theorem Lawful.advanced {marked : Marked ε σ α} (lawful : Lawful law outset observe chronicle)
    (additive : Marked.Additive law) (obeys : marked.Obeys law observe)
    {tasks : List (Marked.Progress ε σ α)}
    (others : ∀ task ∈ tasks, task ∈ chronicle.tasks ∨ task = (marked.advance chronicle.state).1) :
    Lawful law outset observe
      { state := (marked.advance chronicle.state).2
        tasks := tasks
        history := chronicle.history ++ marked.entries observe chronicle.state } := by
  obtain ⟨more, rest⟩ := (obeys chronicle.state).advance
  rw [List.nil_append] at more
  refine ⟨additive.andThen lawful.told more, ?_⟩
  intro span other member
  rcases others _ member with before | now
  · exact lawful.waiting span other before
  · exact rest span other now.symm

theorem Lawful.step (lawful : Lawful law outset observe chronicle)
    (additive : Marked.Additive law)
    (obey : ∀ marked, starts marked → marked.Obeys law observe)
    (permitted : ∀ before after, permits before after → law (observe before after) before after)
    (step : Step observe starts permits chronicle next) : Lawful law outset observe next := by
  cases step with
  | start started =>
      apply lawful.advanced additive (obey _ started)
      intro task member
      rcases List.mem_append.mp member with before | last
      · exact .inl before
      · exact .inr (List.mem_singleton.mp last)
  | goOn number =>
      unfold goOn
      cases found : chronicle.tasks[number]? with
      | none => exact lawful
      | some task =>
          cases task with
          | finished value => exact lawful
          | waiting span rest =>
              have obeys := lawful.waiting span rest (List.mem_of_getElem? found)
              apply lawful.advanced additive obeys
              intro task member
              exact List.mem_or_eq_of_mem_set member
  | meanwhile permission =>
      exact ⟨additive.andThen lawful.told (permitted _ _ permission), lawful.waiting⟩

/-- A law that every routine obeys, and that whatever else happens obeys, holds of the history. -/
theorem law_of_runs (additive : Marked.Additive law)
    (obey : ∀ marked, starts marked → marked.Obeys law observe)
    (permitted : ∀ before after, permits before after → law (observe before after) before after)
    (runs : Runs observe starts permits { state := outset } chronicle) :
    law chronicle.history outset chronicle.state := by
  -- The law alone says nothing about the routines that wait; those must obey it from here.
  suffices lawful : Lawful law outset observe chronicle from lawful.told
  induction runs with
  | refl =>
      refine ⟨additive.nothing outset, ?_⟩
      intro span rest impossible
      contradiction
  | tail _ step inductionHypothesis => exact inductionHypothesis.step additive obey permitted step

/-! ## What each entry is founded on -/

/-- Every entry of the history is founded on the entries before it, and every routine that waits will
make marks that are founded on the history. -/
structure Founded (founded : List ε → ε → Prop) (chronicle : Chronicle ε σ α) : Prop where
  told : ∀ earlier entry later, chronicle.history = earlier ++ entry :: later →
    founded earlier entry
  waiting : ∀ span rest, Marked.Progress.waiting span rest ∈ chronicle.tasks →
    rest.EachMark (founded chronicle.history)

variable {founded : List ε → ε → Prop}

/-- A routine that goes on makes entries which are founded on the history. -/
structure Adds (founded : List ε → ε → Prop) (observe : σ → σ → List ε)
    (chronicle : Chronicle ε σ α) (marked : Marked ε σ α) : Prop where
  told : ∀ entry ∈ marked.entries observe chronicle.state, founded chronicle.history entry
  rest : ∀ span rest, (marked.advance chronicle.state).1 = .waiting span rest →
    rest.EachMark (founded chronicle.history)

theorem Founded.append {entries : List ε}
    (mono : ∀ earlier more entry, founded earlier entry → founded (earlier ++ more) entry)
    (before : ∀ earlier entry later, chronicle.history = earlier ++ entry :: later →
      founded earlier entry)
    (added : ∀ entry ∈ entries, founded chronicle.history entry) :
    ∀ earlier entry later, chronicle.history ++ entries = earlier ++ entry :: later →
      founded earlier entry := by
  intro earlier entry later whole
  rcases List.append_eq_append_iff.mp whole with ⟨between, rfl, rfl⟩ | ⟨between, told, last⟩
  · exact mono _ _ _ (added entry (List.mem_append_right _ List.mem_cons_self))
  · cases between with
    | nil =>
        rw [List.append_nil] at told
        rw [List.nil_append] at last
        rw [← told]
        apply added
        rw [← last]
        exact List.mem_cons_self
    | cons first others =>
        obtain ⟨rfl, -⟩ := List.cons.inj last
        exact before earlier entry others told

theorem Founded.advanced {marked : Marked ε σ α} (holds : Founded founded chronicle)
    (mono : ∀ earlier more entry, founded earlier entry → founded (earlier ++ more) entry)
    (adds : Adds founded observe chronicle marked) {tasks : List (Marked.Progress ε σ α)}
    (others : ∀ task ∈ tasks, task ∈ chronicle.tasks ∨ task = (marked.advance chronicle.state).1) :
    Founded founded
      { state := (marked.advance chronicle.state).2
        tasks := tasks
        history := chronicle.history ++ marked.entries observe chronicle.state } := by
  refine ⟨Founded.append mono holds.told adds.told, ?_⟩
  intro span rest member
  have standing : rest.EachMark (founded chronicle.history) := by
    rcases others _ member with before | now
    · exact holds.waiting span rest before
    · exact adds.rest span rest now.symm
  exact standing.mono fun entry => mono chronicle.history _ entry

/-- Entries are founded on what was told before if a routine that is started adds such entries. -/
theorem founded_of_runs
    (mono : ∀ earlier more entry, founded earlier entry → founded (earlier ++ more) entry)
    (noted : ∀ earlier before after, ∀ entry ∈ observe before after, founded earlier entry)
    (starting : ∀ marked chronicle, starts marked →
      Runs observe starts permits { state := outset } chronicle →
      Adds founded observe chronicle marked)
    (runs : Runs observe starts permits { state := outset } chronicle) :
    Founded founded chronicle := by
  induction runs with
  | refl =>
      refine ⟨?_, fun _ _ impossible => nomatch impossible⟩
      intro earlier entry later whole
      have nonempty : earlier ++ entry :: later ≠ [] := by simp
      exact absurd whole.symm nonempty
  | @tail chronicle next ran step inductionHypothesis =>
      cases step with
      | start started =>
          apply inductionHypothesis.advanced mono (starting _ chronicle started ran)
          intro task member
          rcases List.mem_append.mp member with before | last
          · exact .inl before
          · exact .inr (List.mem_singleton.mp last)
      | goOn number =>
          unfold goOn
          cases found : chronicle.tasks[number]? with
          | none => exact inductionHypothesis
          | some task =>
              cases task with
              | finished value => exact inductionHypothesis
              | waiting span rest =>
                  have each := inductionHypothesis.waiting span rest (List.mem_of_getElem? found)
                  obtain ⟨told, left⟩ := each.advance chronicle.state (noted chronicle.history)
                  apply inductionHypothesis.advanced mono ⟨told, left⟩
                  intro task member
                  exact List.mem_or_eq_of_mem_set member
      | meanwhile permission =>
          refine ⟨Founded.append mono inductionHypothesis.told (noted _ _ _), ?_⟩
          intro span rest member
          exact (inductionHypothesis.waiting span rest member).mono fun entry => mono _ _ entry

/-- If the marks of every routine are of a kind, and what is noted, too, then the whole history is. -/
theorem each_of_runs {kind : ε → Prop}
    (noted : ∀ before after, ∀ entry ∈ observe before after, kind entry)
    (each : ∀ marked, starts marked → marked.EachMark kind)
    (runs : Runs observe starts permits { state := outset } chronicle) :
    ∀ entry ∈ chronicle.history, kind entry := by
  have holds : Founded (fun _ => kind) chronicle := by
    refine founded_of_runs (fun _ _ _ => id) (fun _ => noted) ?_ runs
    intro marked standing started _
    obtain ⟨told, rest⟩ := (each marked started).advance standing.state noted
    exact ⟨told, rest⟩
  intro entry member
  obtain ⟨earlier, later, whole⟩ := List.append_of_mem member
  exact holds.told earlier entry later whole

end Chronicle

end MessageRouting
