import Mathlib.Tactic

namespace VoiceCall.Foundation

universe u v

/-- A history grows by what is read from its last item. -/
theorem filterMap_append_singleton {Item : Type u} {Read : Type v} (read : Item → Option Read)
    (history : List Item) (item : Item) :
    (history ++ [item]).filterMap read = history.filterMap read ++ (read item).toList := by
  rw [List.filterMap_append, List.filterMap_cons, List.filterMap_nil]
  cases read item with
  | none => rfl
  | some value => rfl

/-- A machine takes one event at a time and refuses an event with `none`. -/
structure Machine (State : Type u) (Event : Type v) where
  initial : State → Prop
  step : State → Event → Option State

namespace Machine

variable {State : Type u} {Event : Type v}

/-- This function runs a list of events and stops at the first refusal. -/
def exec (machine : Machine State Event) : State → List Event → Option State
  | state, [] => some state
  | state, event :: rest => (machine.step state event).bind fun next => machine.exec next rest

@[simp] theorem exec_nil (machine : Machine State Event) (state : State) :
    machine.exec state [] = some state := rfl

theorem exec_cons (machine : Machine State Event) (state : State) (event : Event)
    (rest : List Event) :
    machine.exec state (event :: rest) =
      (machine.step state event).bind fun next => machine.exec next rest := rfl

theorem exec_append (machine : Machine State Event) (state : State)
    (first second : List Event) :
    machine.exec state (first ++ second) =
      (machine.exec state first).bind fun middle => machine.exec middle second := by
  induction first generalizing state with
  | nil => rfl
  | cons event rest ih =>
      simp only [List.cons_append, exec_cons, ih, Option.bind_assoc]

/-- What starts true of the empty history and survives each step holds of a whole history. -/
@[elab_as_elim]
theorem exec_induction {machine : Machine State Event} {start last : State}
    {property : List Event → State → Prop} (empty : property [] start)
    (preserved : ∀ events state event next, property events state →
      machine.step state event = some next → property (events ++ [event]) next)
    {events : List Event} (ran : machine.exec start events = some last) :
    property events last := by
  induction events using List.reverseRecOn generalizing last with
  | nil =>
      cases ran
      exact empty
  | append_singleton events event ih =>
      rw [exec_append] at ran
      obtain ⟨middle, before, rest⟩ := Option.bind_eq_some_iff.mp ran
      obtain ⟨_, taken, same⟩ := Option.bind_eq_some_iff.mp rest
      cases same
      exact preserved events middle event _ (ih before) taken

/-- A state is reachable under a guard when every step of some run to it meets the guard. -/
inductive ReachableUnder (machine : Machine State Event)
    (allowed : State → Event → Prop) : State → Prop
  | initial {state : State} (start : machine.initial state) :
      ReachableUnder machine allowed state
  | step {state next : State} {event : Event}
      (before : ReachableUnder machine allowed state) (meets : allowed state event)
      (taken : machine.step state event = some next) :
      ReachableUnder machine allowed next

/-- A reachable state ends a run with no guard. -/
abbrev Reachable (machine : Machine State Event) : State → Prop :=
  machine.ReachableUnder fun _ _ => True

variable {machine : Machine State Event} {allowed : State → Event → Prop}

/-- A property that starts true and survives each allowed step holds of every such run's end. -/
theorem ReachableUnder.invariant {property : State → Prop}
    (start : ∀ state, machine.initial state → property state)
    (preserved : ∀ state event next, property state → allowed state event →
      machine.step state event = some next → property next)
    {state : State} (reached : machine.ReachableUnder allowed state) : property state := by
  induction reached with
  | initial isInitial => exact start _ isInitial
  | step _ meets taken ih => exact preserved _ _ _ ih meets taken

/-- A weaker guard allows every run of a stronger one. -/
theorem ReachableUnder.mono {weaker : State → Event → Prop}
    (implied : ∀ state event, allowed state event → weaker state event)
    {state : State} (reached : machine.ReachableUnder allowed state) :
    machine.ReachableUnder weaker state := by
  induction reached with
  | initial start => exact .initial start
  | step _ meets taken ih => exact .step ih (implied _ _ meets) taken

/-- Every guarded run is a run. -/
theorem ReachableUnder.reachable {state : State}
    (reached : machine.ReachableUnder allowed state) : machine.Reachable state :=
  reached.mono fun _ _ _ => trivial

/-- A run of events that every state allows keeps to the guard. -/
theorem ReachableUnder.exec {state last : State} {events : List Event}
    (reached : machine.ReachableUnder allowed state)
    (meets : ∀ event ∈ events, ∀ state, allowed state event)
    (ran : machine.exec state events = some last) : machine.ReachableUnder allowed last := by
  induction events generalizing state with
  | nil =>
      cases ran
      exact reached
  | cons event rest ih =>
      obtain ⟨next, taken, ran⟩ := Option.bind_eq_some_iff.mp ran
      have first := meets event List.mem_cons_self state
      exact ih (.step reached first taken)
        (fun other member => meets other (List.mem_cons_of_mem _ member)) ran

/-- A run from a reachable state ends in a reachable state. -/
theorem Reachable.exec {state last : State} {events : List Event}
    (reached : machine.Reachable state) (ran : machine.exec state events = some last) :
    machine.Reachable last :=
  ReachableUnder.exec reached (fun _ _ _ => trivial) ran

/-- A checked run from an initial state ends in a reachable state that passes the check. -/
theorem reachable_of_exec (machine : Machine State Event) {start : State}
    (isInitial : machine.initial start) (events : List Event)
    (check : State → Bool)
    (passed : (machine.exec start events).any check = true) :
    ∃ last, machine.Reachable last ∧ check last = true := by
  obtain ⟨last, ran, checked⟩ := (Option.any_eq_true _ _).mp passed
  exact ⟨last, Reachable.exec (.initial isInitial) ran, checked⟩

/-- Events that every state allows lead from a guarded state to a guarded state.
The check says what is wanted of the last one. -/
theorem ReachableUnder.exec_any {state : State}
    (reached : machine.ReachableUnder allowed state) (events : List Event)
    (meets : ∀ event ∈ events, ∀ state, allowed state event) (check : State → Bool)
    (passed : (machine.exec state events).any check = true) :
    ∃ last, machine.ReachableUnder allowed last ∧ check last = true := by
  obtain ⟨last, ran, checked⟩ := (Option.any_eq_true _ _).mp passed
  exact ⟨last, reached.exec meets ran, checked⟩

/-- A restricted machine refuses what its guard does not allow. -/
def restrict (machine : Machine State Event) (allowed : State → Event → Prop)
    [∀ state event, Decidable (allowed state event)] : Machine State Event where
  initial := machine.initial
  step state event := if allowed state event then machine.step state event else none

/-- A checked run of the restricted machine is a guarded run. -/
theorem reachableUnder_of_exec (machine : Machine State Event) (allowed : State → Event → Prop)
    [∀ state event, Decidable (allowed state event)] {start : State}
    (isInitial : machine.initial start) (events : List Event) (check : State → Bool)
    (passed : ((machine.restrict allowed).exec start events).any check = true) :
    ∃ last, machine.ReachableUnder allowed last ∧ check last = true := by
  obtain ⟨last, reached, checked⟩ :=
    reachable_of_exec (machine.restrict allowed) isInitial events check passed
  refine ⟨last, ?_, checked⟩
  clear checked passed
  induction reached with
  | initial start => exact .initial start
  | step _ _ taken ih =>
      obtain ⟨meets, stepped⟩ := Option.ite_none_right_eq_some.mp taken
      exact .step ih meets stepped

/-- A traced state keeps the steps that led to it, each with the state it was taken in. -/
structure Traced (State : Type u) (Event : Type v) where
  current : State
  steps : List (State × Event)

/-- The traced machine takes the same steps and remembers them. -/
def traced (machine : Machine State Event) : Machine (Traced State Event) Event where
  initial run := machine.initial run.current ∧ run.steps = []
  step run event := (machine.step run.current event).map fun next =>
    ⟨next, run.steps ++ [(run.current, event)]⟩

theorem traced_step_iff {run next : Traced State Event} {event : Event} :
    machine.traced.step run event = some next ↔
      machine.step run.current event = some next.current ∧
        next.steps = run.steps ++ [(run.current, event)] := by
  obtain ⟨current, steps⟩ := next
  rw [traced, Option.map_eq_some_iff]
  constructor
  · rintro ⟨state, taken, same⟩
    cases same
    exact ⟨taken, rfl⟩
  · rintro ⟨taken, rfl⟩
    exact ⟨current, taken, rfl⟩

/-- A traced run is a run. -/
theorem ReachableUnder.untraced {guard : Traced State Event → Event → Prop}
    {run : Traced State Event} (reached : machine.traced.ReachableUnder guard run) :
    machine.Reachable run.current := by
  induction reached with
  | initial start => exact .initial start.1
  | step _ _ taken ih => exact .step ih trivial (traced_step_iff.mp taken).1

/-- A part of the state that answers each step with at most one act of a machine of its own
runs that machine through the acts of the whole run. -/
theorem exec_simulated {Part : Type u} {Act : Type v} {component : Machine Part Act}
    (related : State → Part → Prop) {act : State → Event → Option Act}
    (stepped : ∀ state event next part, related state part → machine.step state event = some next →
      ∃ after, component.exec part (act state event).toList = some after ∧ related next after)
    {start : State} {part : Part} (begins : related start part) {events : List Event}
    {run : Traced State Event} (ran : machine.traced.exec ⟨start, []⟩ events = some run) :
    ∃ last, component.exec part (run.steps.filterMap fun taken => act taken.1 taken.2) = some last ∧
      related run.current last := by
  refine exec_induction ?_ ?_ ran
  · exact ⟨part, rfl, begins⟩
  · rintro _ before event after ⟨middle, acted, linked⟩ taken
    obtain ⟨moved, grown⟩ := traced_step_iff.mp taken
    obtain ⟨last, actsOn, linkedOn⟩ := stepped _ _ _ _ linked moved
    refine ⟨last, ?_, linkedOn⟩
    rw [grown, filterMap_append_singleton, exec_append, acted, Option.bind_some, actsOn]

end Machine

/-- A history that grows twice by items with a property grows by such items. -/
theorem grown_trans {Item : Type v} {quiet : Item → Prop} {first second third : List Item}
    (before : ∃ added, second = first ++ added ∧ ∀ item ∈ added, quiet item)
    (after : ∃ added, third = second ++ added ∧ ∀ item ∈ added, quiet item) :
    ∃ added, third = first ++ added ∧ ∀ item ∈ added, quiet item := by
  obtain ⟨added, grown, holds⟩ := before
  obtain ⟨later, grownLater, holdsLater⟩ := after
  refine ⟨added ++ later, ?_, ?_⟩
  · rw [grownLater, grown, List.append_assoc]
  · intro item member
    rcases List.mem_append.mp member with earlier | last
    · exact holds item earlier
    · exact holdsLater item last

/-- A fold over a history ignores a tail of items that change no state. -/
theorem foldl_append_silent {State : Type u} {Item : Type v} (change : State → Item → State)
    (start : State) (history added : List Item)
    (silent : ∀ item ∈ added, ∀ state, change state item = state) :
    (history ++ added).foldl change start = history.foldl change start := by
  rw [List.foldl_append]
  induction added generalizing history with
  | nil => rfl
  | cons item rest ih =>
      rw [List.foldl_cons, silent item List.mem_cons_self]
      exact ih history fun other member => silent other (List.mem_cons_of_mem _ member)

end VoiceCall.Foundation
