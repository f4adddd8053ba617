import Mathlib.Data.List.Basic

namespace ChattingProgram.Machine

/-! # Runs of guarded transition systems

An event either fires and gives the next state or is not enabled.  A run is a
list of events, so a property of every interleaving is a property of every
list; the rules below reduce it to one step.
-/

structure System (State Event : Type) where
  step : Event → State → Option State

namespace System

variable {State Event : Type} {system : System State Event}

def run (system : System State Event) : List Event → State → Option State
  | [], state => some state
  | event :: rest, state => (system.step event state).bind (system.run rest)

@[simp] theorem run_nil (state : State) : system.run [] state = some state := rfl

theorem run_cons_some :
    system.run (event :: rest) before = some after ↔
      ∃ next, system.step event before = some next ∧ system.run rest next = some after := by
  simp only [run, Option.bind_eq_some_iff]

theorem run_append (first second : List Event) (before : State) :
    system.run (first ++ second) before = (system.run first before).bind (system.run second) := by
  induction first generalizing before with
  | nil => rfl
  | cons event rest ih =>
      simp only [List.cons_append, run]
      cases system.step event before with
      | none => rfl
      | some next => exact ih next

theorem run_append_some :
    system.run (first ++ second) before = some after ↔
      ∃ middle, system.run first before = some middle ∧ system.run second middle = some after := by
  rw [run_append, Option.bind_eq_some_iff]

/-- Every event of a run is taken in a state that meets the guard. -/
def Guarded (system : System State Event) (Guard : Event → State → Prop) :
    List Event → State → Prop
  | [], _ => True
  | event :: rest, state => Guard event state ∧
      ∀ next, system.step event state = some next → system.Guarded Guard rest next

instance decidableGuarded (system : System State Event) (Guard : Event → State → Prop)
    [∀ event state, Decidable (Guard event state)] :
    ∀ events state, Decidable (system.Guarded Guard events state)
  | [], _ => .isTrue trivial
  | event :: rest, state =>
      match stepped : system.step event state with
      | none => decidable_of_iff (Guard event state) (by simp [Guarded, stepped])
      | some next =>
          have := system.decidableGuarded Guard rest next
          decidable_of_iff (Guard event state ∧ system.Guarded Guard rest next)
            (by simp [Guarded, stepped])

theorem guarded_of_forall {Guard : Event → Prop} (all : ∀ event ∈ events, Guard event) :
    system.Guarded (fun event _ => Guard event) events state := by
  induction events generalizing state with
  | nil => trivial
  | cons event rest ih =>
      refine ⟨all event (by simp), ?_⟩
      intro next _
      exact ih (fun event member => all event (by simp [member]))

theorem Guarded.mono {First Second : Event → State → Prop}
    (guarded : system.Guarded First events state)
    (weaker : ∀ {event state}, First event state → Second event state) :
    system.Guarded Second events state := by
  induction events generalizing state with
  | nil => trivial
  | cons event rest ih => exact ⟨weaker guarded.1, fun next stepped => ih (guarded.2 next stepped)⟩

theorem Guarded.and {First Second : Event → State → Prop}
    (first : system.Guarded First events state) (second : system.Guarded Second events state) :
    system.Guarded (fun event state => First event state ∧ Second event state) events state := by
  induction events generalizing state with
  | nil => trivial
  | cons event rest ih =>
      exact ⟨⟨first.1, second.1⟩, fun next stepped => ih (first.2 next stepped)
      (second.2 next stepped)⟩

/-- A run that does not meet a condition throughout has a first step that does not. -/
theorem exists_of_not_guarded {Guard : Event → State → Prop}
    (broken : ¬ system.Guarded Guard events state) :
    ∃ first event rest middle, events = first ++ event :: rest ∧
      system.run first state = some middle ∧
      system.Guarded Guard first state ∧ ¬ Guard event middle := by
  induction events generalizing state with
  | nil => exact absurd trivial broken
  | cons event rest ih =>
      by_cases met : Guard event state
      · simp only [Guarded, met, true_and, not_forall] at broken
        obtain ⟨next, stepped, broken⟩ := broken
        obtain ⟨first, last, tail, middle, rfl, ran, guarded, unmet⟩ := ih broken
        refine ⟨event :: first, last, tail, middle, rfl, run_cons_some.mpr ⟨next, stepped, ran⟩,
          ⟨met, ?_⟩, unmet⟩
        intro other otherStep
        cases stepped.symm.trans otherStep
        exact guarded
      · exact ⟨[], event, rest, state, rfl, rfl, trivial, met⟩

/-- A run that comes to a property takes a step that brings it about. -/
theorem exists_entry (Property : State → Prop) (ran : system.run events before = some after)
    (outside : ¬ Property before) (inside : Property after) :
    ∃ first event rest middle next, events = first ++ event :: rest ∧
      system.run first before = some middle ∧
      system.step event middle = some next ∧ system.run rest next = some after ∧ ¬ Property middle ∧
      Property next := by
  induction events generalizing before with
  | nil =>
      cases ran
      contradiction
  | cons event rest ih =>
      obtain ⟨next, stepped, remaining⟩ := run_cons_some.mp ran
      by_cases here : Property next
      · exact ⟨[], event, rest, before, next, rfl, rfl, stepped, remaining, outside, here⟩
      · obtain ⟨first, last, tail, middle, final, rfl, reached, entry⟩ := ih remaining here
        exact ⟨event :: first, last, tail, middle, final, rfl,
          run_cons_some.mpr ⟨next, stepped, reached⟩, entry⟩

/-- The invariant rule for runs whose steps all meet a condition. -/
theorem run_preserves_guarded {Guard : Event → State → Prop} {Invariant : State → Prop}
    (stepPreserves : ∀ {event before after}, Guard event before →
      system.step event before = some after → Invariant before → Invariant after)
    {events : List Event} {before after : State}
    (guarded : system.Guarded Guard events before)
    (ran : system.run events before = some after) (start : Invariant before) :
    Invariant after := by
  induction events generalizing before with
  | nil => cases ran; exact start
  | cons event rest ih =>
      obtain ⟨next, stepped, remaining⟩ := run_cons_some.mp ran
      exact ih (guarded.2 next stepped) remaining (stepPreserves guarded.1 stepped start)

/-- The invariant rule: what one step preserves, every run preserves. -/
theorem run_preserves {Invariant : State → Prop}
    (stepPreserves : ∀ {event before after},
      system.step event before = some after → Invariant before → Invariant after)
    {events : List Event} {before after : State}
    (ran : system.run events before = some after) (start : Invariant before) :
    Invariant after :=
  run_preserves_guarded (fun _ => stepPreserves) (guarded_of_forall fun _ _ => trivial) ran start

/-- The invariant rule for properties of a state and of the events that led to it. -/
theorem run_history {Invariant : List Event → State → Prop}
    (stepPreserves : ∀ {past event before after}, system.step event before = some after →
      Invariant past before → Invariant (past ++ [event]) after)
    (ran : system.run events before = some after) (start : Invariant past before) :
    Invariant (past ++ events) after := by
  induction events generalizing past before with
  | nil =>
      cases ran
      rwa [List.append_nil]
  | cons event rest ih =>
      obtain ⟨next, stepped, remaining⟩ := run_cons_some.mp ran
      have later := ih remaining (stepPreserves stepped start)
      rwa [List.append_assoc] at later

/-- A state that no step changes is never left. -/
theorem run_stuck (stuck : ∀ event ∈ events, system.step event state = some state) :
    system.run events state = some state := by
  induction events with
  | nil => rfl
  | cons event rest ih =>
      refine run_cons_some.mpr ⟨state, stuck event (by simp), ih ?_⟩
      intro other member
      exact stuck other (by simp [member])

/-- The simulation rule: if a second system matches every step of the first, up to events that
are not visible, it matches every run. -/
theorem run_simulated {Other : Type} {second : System Other Event} {Guard : Event → State → Prop}
    {Related : State → Other → Prop} {visible : Event → Bool}
    (stepSimulated : ∀ {event before after matched}, Guard event before →
      system.step event before = some after →
      Related before matched → ∃ events next, second.run events matched = some next ∧
        events.filter visible = [event].filter visible ∧ Related after next) {matched : Other}
    (guarded : system.Guarded Guard events before) (ran : system.run events before = some after)
    (related : Related before matched) :
    ∃ others final, second.run others matched = some final ∧
      others.filter visible = events.filter visible ∧
      Related after final := by
  induction events generalizing before matched with
  | nil =>
      cases ran
      exact ⟨[], matched, rfl, rfl, related⟩
  | cons event rest ih =>
      obtain ⟨next, stepped, remaining⟩ := run_cons_some.mp ran
      obtain ⟨first, middle, ranFirst, sameFirst, relatedNext⟩ :=
        stepSimulated guarded.1 stepped related
      obtain ⟨others, final, ranOthers, sameOthers, relatedFinal⟩ :=
        ih (guarded.2 next stepped) remaining relatedNext
      refine ⟨first ++ others, final, run_append_some.mpr ⟨middle, ranFirst, ranOthers⟩,
        ?_, relatedFinal⟩
      rw [List.filter_append, sameFirst, sameOthers, ← List.filter_append]
      rfl

end System

end ChattingProgram.Machine
