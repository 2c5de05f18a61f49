/-!
# Runs of a state machine

A run is a list of events taken by one step function.  The rules here prove
an invariant of every run from one step; the second one lets the invariant
mention the events that led to the state.  A condition along a run speaks of
every state and the event taken in it.
-/

namespace Run

variable {State : Type u} {Event : Type v}
variable (step : State → Event → State) (start : State)

/-- The state a sequence of events leads to. -/
def after (events : List Event) : State := events.foldl step start

@[simp]
theorem after_nil : after step start [] = start := rfl

theorem after_concat (events : List Event) (event : Event) :
    after step start (events ++ [event]) =
      step (after step start events) event := by
  simp [after]

theorem after_append (first second : List Event) :
    after step start (first ++ second) =
      after step (after step start first) second :=
  List.foldl_append

/-- Events that stand for several steps are events of their own. -/
theorem after_flatMap {Other : Type w} (steps : Other → List Event)
    (events : List Other) :
    after step start (events.flatMap steps) =
      after (fun state event => after step state (steps event)) start
        events :=
  List.foldl_flatMap

/-- The condition holds of every event of a run where it is taken. -/
def Along (condition : State → Event → Prop) : State → List Event → Prop
  | _, [] => True
  | state, event :: events =>
    condition state event ∧ Along condition (step state event) events

instance Along.decidable (condition : State → Event → Prop)
    [∀ state event, Decidable (condition state event)] :
    ∀ (state : State) (events : List Event),
      Decidable (Along step condition state events)
  | _, [] => inferInstanceAs (Decidable True)
  | state, event :: events =>
    have := Along.decidable condition (step state event) events
    inferInstanceAs (Decidable (_ ∧ _))

variable {step start}

theorem history_invariant {motive : List Event → State → Prop}
    (initial : motive [] start)
    (preserved : ∀ events event, motive events (after step start events) →
        motive (events ++ [event]) (step (after step start events) event))
    (events : List Event) : motive events (after step start events) := by
  have general : ∀ (later earlier : List Event),
      motive earlier (after step start earlier) →
        motive (earlier ++ later) (after step start (earlier ++ later)) := by
    intro later
    induction later with
    | nil =>
      intro earlier holds
      simpa using holds
    | cons event later ih =>
      intro earlier holds
      have next := preserved earlier event holds
      rw [← after_concat step start] at next
      simpa using ih (earlier ++ [event]) next
  simpa using general events [] initial

variable {motive : State → Prop} {condition : State → Event → Prop}

theorem invariant (initial : motive start)
    (preserved : ∀ state event, motive state → motive (step state event))
    (events : List Event) : motive (after step start events) := by
  apply history_invariant initial
  intro earlier event holds
  exact preserved _ event holds

theorem invariant_along_mem {events : List Event}
    (initial : motive start)
    (preserved : ∀ state, ∀ event ∈ events, motive state →
      condition state event → motive (step state event))
    (along : Along step condition start events) :
    motive (after step start events) := by
  induction events generalizing start with
  | nil => exact initial
  | cons event events ih =>
    have first := preserved start event List.mem_cons_self initial along.1
    exact ih first (fun state later member =>
      preserved state later (List.mem_cons_of_mem _ member)) along.2

theorem invariant_along (initial : motive start)
    (preserved : ∀ state event, motive state → condition state event →
      motive (step state event))
    {events : List Event} (along : Along step condition start events) :
    motive (after step start events) :=
  invariant_along_mem initial
    (fun state event _ => preserved state event) along

/-- What the end of a run implies of every state before it, and of the events
taken there. -/
theorem along_of_after {holds : State → Prop} {events : List Event}
    (preserved : ∀ state event, motive state → motive (step state event))
    (back : ∀ state event, motive state → holds (step state event) →
      holds state ∧ condition state event)
    (initial : motive start) (last : holds (after step start events)) :
    holds start ∧ Along step condition start events := by
  induction events generalizing start with
  | nil => exact ⟨last, trivial⟩
  | cons event events ih =>
    have later := ih (preserved start event initial) last
    have here := back start event initial later.1
    exact ⟨here.1, here.2, later.2⟩

end Run
