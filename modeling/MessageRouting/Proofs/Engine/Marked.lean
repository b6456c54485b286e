import MessageRouting.Proofs.Engine.Advance

/-!
# Routines that make marks

To say what happens in which order when several routines run side by side, a
routine is written once more so that it makes a mark where something happens. A
log is there when a routine ends; marks can be read between two suspensions.
Without its marks the routine is the one that it was written after.

What a routine does to the state is told by entries as well: by its marks, and by
what an observer notes of each change. A law relates such entries to the state
before and after them. A routine obeys a law if the law holds between any two of
its suspensions.
-/

namespace MessageRouting

universe u v w x

/-- A routine with marks of type `ε`. -/
inductive Marked (ε : Type w) (σ : Type u) (α : Type v) where
  | done (value : α)
  | get (next : σ → Marked ε σ α)
  | put (state : σ) (next : Marked ε σ α)
  | sleep (span : Duration) (next : Unit → Marked ε σ α)
  | mark (entry : ε) (next : Marked ε σ α)

namespace Marked

variable {ε : Type w} {σ : Type u} {α : Type v} {β : Type x}

/-- Continues a routine with what its result calls for. -/
def bind : Marked ε σ α → (α → Marked ε σ β) → Marked ε σ β
  | done value, next => next value
  | get body, next => get fun state => (body state).bind next
  | put state body, next => put state (body.bind next)
  | sleep span body, next => sleep span fun _ => (body ()).bind next
  | mark entry body, next => mark entry (body.bind next)

instance : Monad (Marked ε σ) where
  pure := done
  bind := bind

def lift : Routine σ α → Marked ε σ α
  | .done value => done value
  | .get body => get fun state => lift (body state)
  | .put state body => put state (lift body)
  | .sleep span body => sleep span fun _ => lift (body ())

/-- Makes a mark and nothing else. -/
def note (entry : ε) : Marked ε σ PUnit :=
  mark entry (done ⟨⟩)

def marks (entries : List ε) (marked : Marked ε σ α) : Marked ε σ α :=
  entries.foldr mark marked

/-- A routine that makes the marks which its first look at the state calls for. -/
def announcing (announced : σ → List ε) : Routine σ α → Marked ε σ α
  | .get body => get fun state => marks (announced state) (lift (body state))
  | routine => lift routine

theorem bind_assoc {γ : Type x} {β : Type x} (marked : Marked ε σ α) (first : α → Marked ε σ β)
    (second : β → Marked ε σ γ) :
    (marked.bind first).bind second = marked.bind fun value => (first value).bind second := by
  induction marked with
  | done => rfl
  | get body inductionHypothesis => simp [bind, inductionHypothesis]
  | put state body inductionHypothesis => simp [bind, inductionHypothesis]
  | sleep span body inductionHypothesis => simp [bind, inductionHypothesis]
  | mark entry body inductionHypothesis => simp [bind, inductionHypothesis]

theorem lift_bind (routine : Routine σ α) (next : α → Routine σ β) :
    (lift (routine.bind next) : Marked ε σ β) = (lift routine).bind fun value => lift (next value) := by
  induction routine with
  | done => rfl
  | get body inductionHypothesis => simp [lift, bind, Routine.bind, inductionHypothesis]
  | put state body inductionHypothesis => simp [lift, bind, Routine.bind, inductionHypothesis]
  | sleep span body inductionHypothesis => simp [lift, bind, Routine.bind, inductionHypothesis]

/-! ## Without the marks -/

def unmarked : Marked ε σ α → Routine σ α
  | done value => .done value
  | get body => .get fun state => (body state).unmarked
  | put state body => .put state body.unmarked
  | sleep span body => .sleep span fun _ => (body ()).unmarked
  | mark _ body => body.unmarked

@[simp]
theorem unmarked_pure (value : α) : (pure value : Marked ε σ α).unmarked = pure value :=
  rfl

@[simp]
theorem unmarked_note (entry : ε) : (note entry : Marked ε σ PUnit).unmarked = pure ⟨⟩ :=
  rfl

@[simp]
theorem unmarked_lift (routine : Routine σ α) : (lift routine : Marked ε σ α).unmarked = routine := by
  induction routine with
  | done => rfl
  | get body inductionHypothesis => simp [lift, unmarked, inductionHypothesis]
  | put state body inductionHypothesis => simp [lift, unmarked, inductionHypothesis]
  | sleep span body inductionHypothesis => simp [lift, unmarked, inductionHypothesis]

theorem announcing_nothing (routine : Routine σ α) :
    (announcing (fun _ => []) routine : Marked ε σ α) = lift routine := by
  cases routine <;> rfl

theorem unmarked_marks (entries : List ε) (marked : Marked ε σ α) :
    (marks entries marked).unmarked = marked.unmarked := by
  induction entries with
  | nil => rfl
  | cons entry rest inductionHypothesis => exact inductionHypothesis

@[simp]
theorem unmarked_announcing (announced : σ → List ε) (routine : Routine σ α) :
    (announcing announced routine).unmarked = routine := by
  cases routine with
  | get body =>
      refine congrArg Routine.get (funext fun state => ?_)
      rw [unmarked_marks, unmarked_lift]
  | done value => exact unmarked_lift _
  | put state body => exact unmarked_lift _
  | sleep span body => exact unmarked_lift _

theorem marks_bind (entries : List ε) (marked : Marked ε σ α) (next : α → Marked ε σ β) :
    (marks entries marked).bind next = marks entries (marked.bind next) := by
  induction entries with
  | nil => rfl
  | cons entry rest inductionHypothesis => exact congrArg (mark entry) inductionHypothesis

theorem unmarked_bind_eq (marked : Marked ε σ α) (next : α → Marked ε σ β) :
    (marked.bind next).unmarked = marked.unmarked.bind fun value => (next value).unmarked := by
  induction marked with
  | done => rfl
  | get body inductionHypothesis => simp [bind, unmarked, Routine.bind, inductionHypothesis]
  | put state body inductionHypothesis => simp [bind, unmarked, Routine.bind, inductionHypothesis]
  | sleep span body inductionHypothesis => simp [bind, unmarked, Routine.bind, inductionHypothesis]
  | mark entry body inductionHypothesis => simpa [bind, unmarked] using inductionHypothesis

@[simp]
theorem unmarked_bind {α β : Type v} (marked : Marked ε σ α) (next : α → Marked ε σ β) :
    (marked >>= next).unmarked = marked.unmarked >>= fun value => (next value).unmarked :=
  unmarked_bind_eq marked next

/-! ## Going on -/

/-- Where a routine stands that ran as far as it can without waiting. -/
inductive Progress (ε : Type w) (σ : Type u) (α : Type v) where
  | finished (value : α)
  | waiting (span : Duration) (rest : Marked ε σ α)

/-- Where the routine without its marks stands. -/
def Progress.unmarked : Progress ε σ α → Routine.Progress σ α
  | finished value => .finished value
  | waiting span rest => .waiting span rest.unmarked

/-- Runs a routine up to its next suspension. -/
def advance : Marked ε σ α → σ → Progress ε σ α × σ
  | done value, state => (.finished value, state)
  | get body, state => (body state).advance state
  | put state body, _ => body.advance state
  | sleep span body, state => (.waiting span (body ()), state)
  | mark _ body, state => body.advance state

theorem advance_unmarked (marked : Marked ε σ α) (state : σ) :
    marked.unmarked.advance state =
      ((marked.advance state).1.unmarked, (marked.advance state).2) := by
  induction marked generalizing state with
  | done => rfl
  | get body inductionHypothesis => exact inductionHypothesis state state
  | put after body inductionHypothesis => exact inductionHypothesis after
  | sleep span body => rfl
  | mark entry body inductionHypothesis => exact inductionHypothesis state

/-- What is told of a routine up to its next suspension: its marks, and what is noted of the changes
of the state. -/
def entries (observe : σ → σ → List ε) : Marked ε σ α → σ → List ε
  | done _, _ => []
  | get body, state => (body state).entries observe state
  | put after body, state => observe state after ++ body.entries observe after
  | sleep _ _, _ => []
  | mark entry body, state => entry :: body.entries observe state

theorem advance_lift_bind {routine : Routine σ α} {next : α → Marked ε σ β} {value : α}
    {state after : σ} (finished : routine.advance state = (.finished value, after)) :
    ((lift routine).bind next).advance state = (next value).advance after := by
  induction routine generalizing state with
  | done result =>
      obtain ⟨same, rfl⟩ := Prod.mk.inj finished
      obtain rfl := Routine.Progress.finished.inj same
      rfl
  | get body inductionHypothesis => exact inductionHypothesis state finished
  | put middle body inductionHypothesis => exact inductionHypothesis finished
  | sleep span body =>
      obtain ⟨same, _⟩ := Prod.mk.inj finished
      contradiction

theorem entries_lift_bind {observe : σ → σ → List ε} {routine : Routine σ α}
    {next : α → Marked ε σ β} {value : α} {state after : σ}
    (finished : routine.advance state = (.finished value, after)) :
    ((lift routine).bind next).entries observe state =
      routine.changes observe state ++ (next value).entries observe after := by
  induction routine generalizing state with
  | done result =>
      obtain ⟨same, rfl⟩ := Prod.mk.inj finished
      obtain rfl := Routine.Progress.finished.inj same
      rfl
  | get body inductionHypothesis => exact inductionHypothesis state finished
  | put middle body inductionHypothesis =>
      have later := inductionHypothesis finished
      rw [Routine.changes, List.append_assoc, ← later]
      rfl
  | sleep span body =>
      obtain ⟨same, _⟩ := Prod.mk.inj finished
      contradiction

/-! ## Laws -/

/-- An observer that notes nothing, so that a routine is told by its marks alone. -/
def unnoted (_ _ : σ) : List ε :=
  []

/-- A law about entries and the state before and after them that may be applied piece by piece. -/
structure Additive (law : List ε → σ → σ → Prop) : Prop where
  nothing : ∀ state, law [] state state
  andThen : ∀ {first second : List ε} {before between after : σ},
    law first before between → law second between after → law (first ++ second) before after

/-- The law holds up to the next suspension, with the entries made since the state was `outset`, and
then from each suspension to the next, whatever the state is after a suspension. -/
def ObeysFrom (law : List ε → σ → σ → Prop) (observe : σ → σ → List ε) :
    List ε → σ → Marked ε σ α → σ → Prop
  | made, outset, done _, state => law made outset state
  | made, outset, get body, state => ObeysFrom law observe made outset (body state) state
  | made, outset, put after body, state =>
      ObeysFrom law observe (made ++ observe state after) outset body after
  | made, outset, sleep _ body, state =>
      law made outset state ∧ ∀ found, ObeysFrom law observe [] found (body ()) found
  | made, outset, mark entry body, state =>
      ObeysFrom law observe (made ++ [entry]) outset body state

/-- The law holds from each suspension of the routine to the next. -/
def Obeys (law : List ε → σ → σ → Prop) (observe : σ → σ → List ε) (marked : Marked ε σ α) : Prop :=
  ∀ state, ObeysFrom law observe [] state marked state

variable {law : List ε → σ → σ → Prop} {observe : σ → σ → List ε} {made more : List ε}
  {outset between state after : σ}

theorem ObeysFrom.prepend {marked : Marked ε σ α} (additive : Additive law)
    (earlier : law made outset between) (later : marked.ObeysFrom law observe more between state) :
    marked.ObeysFrom law observe (made ++ more) outset state := by
  induction marked generalizing more state with
  | done value => exact additive.andThen earlier later
  | get body inductionHypothesis => exact inductionHypothesis state later
  | put next body inductionHypothesis =>
      have appended := inductionHypothesis later
      rw [← List.append_assoc] at appended
      exact appended
  | sleep span body => exact ⟨additive.andThen earlier later.1, later.2⟩
  | mark entry body inductionHypothesis =>
      have appended := inductionHypothesis later
      rw [← List.append_assoc] at appended
      exact appended

/-- A routine that obeys the law may follow upon what obeys it. -/
theorem Obeys.from {marked : Marked ε σ α} (obeys : marked.Obeys law observe)
    (additive : Additive law) (earlier : law made outset state) :
    marked.ObeysFrom law observe made outset state := by
  have later := ObeysFrom.prepend additive earlier (obeys state)
  rw [List.append_nil] at later
  exact later

theorem obeys_done (additive : Additive law) (value : α) :
    (done value : Marked ε σ α).Obeys law observe :=
  additive.nothing

theorem ObeysFrom.bind {marked : Marked ε σ α} {next : α → Marked ε σ β}
    (additive : Additive law) (first : marked.ObeysFrom law observe made outset state)
    (second : ∀ value, marked.unmarked.Gives value → (next value).Obeys law observe) :
    (marked.bind next).ObeysFrom law observe made outset state := by
  induction marked generalizing made outset state with
  | done value => exact (second value (.done value)).from additive first
  | get body inductionHypothesis =>
      exact inductionHypothesis state first fun value given => second value (.get state given)
  | put after body inductionHypothesis =>
      exact inductionHypothesis first fun value given => second value (.put after given)
  | sleep span body inductionHypothesis =>
      refine ⟨first.1, ?_⟩
      intro found
      exact inductionHypothesis () (first.2 found) fun value given =>
        second value (.sleep span given)
  | mark entry body inductionHypothesis => exact inductionHypothesis first second

theorem Obeys.bind {marked : Marked ε σ α} {next : α → Marked ε σ β} (additive : Additive law)
    (first : marked.Obeys law observe)
    (second : ∀ value, marked.unmarked.Gives value → (next value).Obeys law observe) :
    (marked.bind next).Obeys law observe :=
  fun state => (first state).bind additive second

/-- A routine obeys a law that holds of each change which the routine makes. -/
theorem obeys_lift {kept : σ → σ → Prop} {routine : Routine σ α} (additive : Additive law)
    (lawful : ∀ {before after : σ}, kept before after → law (observe before after) before after)
    (respects : ∀ state, routine.Respects kept state) :
    (lift routine : Marked ε σ α).Obeys law observe := by
  suffices obeysFrom : ∀ {made : List ε} {outset state : σ}, routine.Respects kept state →
      law made outset state → (lift routine).ObeysFrom law observe made outset state from
    fun state => obeysFrom (respects state) (additive.nothing state)
  clear respects
  induction routine with
  | done value => exact fun _ earlier => earlier
  | get body inductionHypothesis =>
      exact fun {_ _ state} respects earlier => inductionHypothesis state respects earlier
  | put after body inductionHypothesis =>
      intro made outset state respects earlier
      exact inductionHypothesis respects.2 (additive.andThen earlier (lawful respects.1))
  | sleep span body inductionHypothesis =>
      intro made outset state respects earlier
      refine ⟨earlier, ?_⟩
      intro found
      exact inductionHypothesis () (respects found) (additive.nothing found)

/-- What follows a routine that ends at once is to obey the law together with it. -/
theorem obeysFrom_lift_bind {routine : Routine σ α} {next : α → Marked ε σ β} {value : α}
    (finished : routine.advance state = (.finished value, after))
    (rest : (next value).ObeysFrom law observe (made ++ routine.changes observe state) outset
      after) :
    ((lift routine).bind next).ObeysFrom law observe made outset state := by
  induction routine generalizing made state with
  | done result =>
      obtain ⟨same, rfl⟩ := Prod.mk.inj finished
      obtain rfl := Routine.Progress.finished.inj same
      rw [Routine.changes, List.append_nil] at rest
      exact rest
  | get body inductionHypothesis => exact inductionHypothesis state finished rest
  | put middle body inductionHypothesis =>
      rw [Routine.changes, ← List.append_assoc] at rest
      exact inductionHypothesis finished rest
  | sleep span body =>
      obtain ⟨same, _⟩ := Prod.mk.inj finished
      contradiction

theorem obeysFrom_quiet_bind {routine : Routine σ α} {next : α → Marked ε σ β} {value : α}
    (ends : routine.EndsQuietly observe state value after)
    (rest : (next value).ObeysFrom law observe made outset after) :
    ((lift routine).bind next).ObeysFrom law observe made outset state := by
  apply obeysFrom_lift_bind ends.advance
  rw [ends.changes, List.append_nil]
  exact rest

theorem obeysFrom_marks {entries : List ε} {marked : Marked ε σ α}
    (rest : marked.ObeysFrom law observe (made ++ entries) outset state) :
    (marks entries marked).ObeysFrom law observe made outset state := by
  induction entries generalizing made with
  | nil =>
      rw [List.append_nil] at rest
      exact rest
  | cons entry later inductionHypothesis =>
      refine inductionHypothesis ?_
      rw [List.append_assoc]
      exact rest

theorem obeys_announcing {announced : σ → List ε} {step : σ → α × σ}
    (lawful : ∀ state, law (announced state ++ observe state (step state).2) state (step state).2) :
    (announcing announced (Routine.change step)).Obeys law observe := by
  intro state
  refine obeysFrom_marks ?_
  rw [List.nil_append]
  exact lawful state

/-- What is announced of a change, and what is noted of it, is to obey the law together with what
follows. -/
theorem obeysFrom_announcing_bind {announced : σ → List ε} {step : σ → α × σ}
    {next : α → Marked ε σ β}
    (rest : (next (step state).1).ObeysFrom law observe
      (made ++ announced state ++ observe state (step state).2) outset (step state).2) :
    ((announcing announced (Routine.change step)).bind next).ObeysFrom law observe made outset
      state := by
  change ((marks (announced state) (lift _)).bind next).ObeysFrom law observe made outset state
  rw [marks_bind]
  exact obeysFrom_marks rest

/-- Up to its next suspension a routine obeys the law, and what is left of it obeys the law. -/
theorem ObeysFrom.advance {marked : Marked ε σ α}
    (obeys : marked.ObeysFrom law observe made outset state) :
    law (made ++ marked.entries observe state) outset (marked.advance state).2 ∧
      ∀ span rest, (marked.advance state).1 = .waiting span rest → rest.Obeys law observe := by
  induction marked generalizing made state with
  | done value =>
      have whole : made ++ (done value : Marked ε σ α).entries observe state = made :=
        List.append_nil made
      rw [whole]
      exact ⟨obeys, fun _ _ impossible => nomatch impossible⟩
  | get body inductionHypothesis => exact inductionHypothesis state obeys
  | put next body inductionHypothesis =>
      have later := inductionHypothesis obeys
      rw [List.append_assoc] at later
      exact later
  | sleep span body =>
      have whole : made ++ (sleep span body).entries observe state = made := List.append_nil made
      rw [whole]
      refine ⟨obeys.1, ?_⟩
      intro other rest same
      obtain ⟨rfl, rfl⟩ := Progress.waiting.inj same
      exact obeys.2
  | mark entry body inductionHypothesis =>
      have later := inductionHypothesis obeys
      rw [List.append_assoc] at later
      exact later

/-! ## Each mark -/

/-- Whatever states the routine finds, each mark that it makes is of the given kind. -/
def EachMark (kind : ε → Prop) : Marked ε σ α → Prop
  | done _ => True
  | get body => ∀ state, (body state).EachMark kind
  | put _ body => body.EachMark kind
  | sleep _ body => (body ()).EachMark kind
  | mark entry body => kind entry ∧ body.EachMark kind

theorem EachMark.mono {kind wider : ε → Prop} {marked : Marked ε σ α}
    (wide : ∀ entry, kind entry → wider entry) (each : marked.EachMark kind) :
    marked.EachMark wider := by
  induction marked with
  | done => trivial
  | get body inductionHypothesis => exact fun state => inductionHypothesis state (each state)
  | put state body inductionHypothesis => exact inductionHypothesis each
  | sleep span body inductionHypothesis => exact inductionHypothesis () each
  | mark entry body inductionHypothesis => exact ⟨wide entry each.1, inductionHypothesis each.2⟩

theorem EachMark.bind {kind : ε → Prop} {marked : Marked ε σ α} {next : α → Marked ε σ β}
    (first : marked.EachMark kind)
    (second : ∀ value, marked.unmarked.Gives value → (next value).EachMark kind) :
    (marked.bind next).EachMark kind := by
  induction marked with
  | done value => exact second value (.done value)
  | get body inductionHypothesis =>
      intro state
      exact inductionHypothesis state (first state) fun value given => second value (.get state given)
  | put state body inductionHypothesis =>
      exact inductionHypothesis first fun value given => second value (.put state given)
  | sleep span body inductionHypothesis =>
      exact inductionHypothesis () first fun value given => second value (.sleep span given)
  | mark entry body inductionHypothesis => exact ⟨first.1, inductionHypothesis first.2 second⟩

theorem eachMark_lift {kind : ε → Prop} (routine : Routine σ α) :
    (lift routine : Marked ε σ α).EachMark kind := by
  induction routine with
  | done => trivial
  | get body inductionHypothesis => exact inductionHypothesis
  | put state body inductionHypothesis => exact inductionHypothesis
  | sleep span body inductionHypothesis => exact inductionHypothesis ()

theorem eachMark_lift_bind {kind : ε → Prop} {routine : Routine σ α} {next : α → Marked ε σ β}
    (rest : ∀ value, routine.Gives value → (next value).EachMark kind) :
    ((lift routine).bind next).EachMark kind := by
  apply (eachMark_lift routine).bind
  intro value given
  rw [unmarked_lift] at given
  exact rest value given

theorem eachMark_marks {kind : ε → Prop} {entries : List ε} {marked : Marked ε σ α}
    (now : ∀ entry ∈ entries, kind entry) (rest : marked.EachMark kind) :
    (marks entries marked).EachMark kind := by
  induction entries with
  | nil => exact rest
  | cons entry later inductionHypothesis =>
      have others := inductionHypothesis fun other member =>
        now other (List.mem_cons_of_mem _ member)
      exact ⟨now entry List.mem_cons_self, others⟩

theorem eachMark_announcing {kind : ε → Prop} {announced : σ → List ε} (routine : Routine σ α)
    (each : ∀ state, ∀ entry ∈ announced state, kind entry) :
    (announcing announced routine).EachMark kind := by
  cases routine with
  | get body => exact fun state => eachMark_marks (each state) (eachMark_lift (body state))
  | done value => exact eachMark_lift _
  | put state body => exact eachMark_lift _
  | sleep span body => exact eachMark_lift _

/-- Up to its next suspension a routine makes marks of the kind, and so does what is left of it. -/
theorem EachMark.advance {kind : ε → Prop} {marked : Marked ε σ α}
    (each : marked.EachMark kind) (state : σ)
    (noted : ∀ before after, ∀ entry ∈ observe before after, kind entry) :
    (∀ entry ∈ marked.entries observe state, kind entry) ∧
      ∀ span rest, (marked.advance state).1 = .waiting span rest → rest.EachMark kind := by
  induction marked generalizing state with
  | done value =>
      refine ⟨fun _ impossible => absurd impossible List.not_mem_nil, ?_⟩
      exact fun _ _ impossible => nomatch impossible
  | get body inductionHypothesis => exact inductionHypothesis state (each state) state
  | put after body inductionHypothesis =>
      obtain ⟨later, left⟩ := inductionHypothesis each after
      refine ⟨?_, left⟩
      intro entry member
      rcases List.mem_append.mp member with now | further
      · exact noted state after entry now
      · exact later entry further
  | sleep span body =>
      refine ⟨fun _ impossible => absurd impossible List.not_mem_nil, ?_⟩
      intro other rest same
      obtain ⟨rfl, rfl⟩ := Progress.waiting.inj same
      exact each
  | mark entry body inductionHypothesis =>
      obtain ⟨later, left⟩ := inductionHypothesis each.2 state
      refine ⟨?_, left⟩
      intro other member
      rcases List.mem_cons.mp member with rfl | further
      · exact each.1
      · exact later other further

end Marked

end MessageRouting
