import VoiceCall.Client.Audio
import VoiceCall.Foundation.Bracket
import VoiceCall.Foundation.Machine

namespace VoiceCall.Client

open Foundation

/-- The three methods are called in any order, and the sink may stop by itself between them. -/
inductive OutputEvent where
  | start (sinkStarts : Bool)
  | stop
  | receivedData (data : List UInt8)
  | deviceError
deriving DecidableEq, Repr

/-- A session runs from a start that succeeds to a stop, and no device error belongs in between. -/
def playback : Bracket OutputEvent where
  opens event := event = .start true
  closes event := event = .stop
  intrudes event := event = .deviceError

namespace AudioOutput

/-- The constructor leaves the pointer as the memory has it. -/
def constructed (device : Handle) : AudioOutput := ⟨device, 0, none, []⟩

/-- An error stops the sink and ends its session, and nobody tells the pointer. -/
def deviceError (output : AudioOutput) : AudioOutput := { output with running := none }

/-- The result `none` is a write through a pointer to no running session. -/
def machine : Machine AudioOutput OutputEvent where
  initial output := ∃ device, output = constructed device
  step output
    | .start sinkStarts => some (output.start sinkStarts)
    | .stop => some output.stop
    | .receivedData data => output.receivedData data
    | .deviceError => some output.deviceError

/-- The pointer is null or the handle of the latest start, whose session runs.
A write goes to a running session, and a start of a stopped sink starts it if the sink can. -/
structure Matched (output : AudioOutput) : Prop where
  handle : output.device = .null ∨ ∃ index, output.device = .session index ∧
    output.running = some index ∧ output.sessions = index + 1
  live : ∀ data, ∃ next, output.receivedData data = some next ∧
    (next = output ∨ output.running.isSome = true)
  starts : output.running = none → ∀ sinkStarts,
    (output.start sinkStarts).running.isSome = sinkStarts

/-- Before the first event and after each of them the pointer matches the sink. -/
def MatchesThroughout (device : Handle) (events : List OutputEvent) : Prop :=
  ∀ before, before <+: events →
    ∃ output, machine.exec (constructed device) before = some output ∧ output.Matched

/-- The pointer follows its events when it is the latest session's in a session and else null. -/
structure Follows (output : AudioOutput) (events : List OutputEvent) : Prop where
  running : playback.Pending events → ∃ index, output.device = .session index ∧
    output.running = some index ∧ output.sessions = index + 1
  resting : ¬playback.Pending events → output.device = .null ∧ output.running = none

variable {output : AudioOutput} {events : List OutputEvent}

theorem follows_constructed : (constructed .null).Follows [] :=
  ⟨fun pending => (Bracket.not_pending_nil pending).elim, fun _ => ⟨rfl, rfl⟩⟩

/-- An event that neither opens nor closes a session keeps the pointer where it is. -/
theorem Follows.keep (follows : output.Follows events) {next : AudioOutput} {event : OutputEvent}
    (same : next.device = output.device ∧ next.running = output.running ∧
      next.sessions = output.sessions)
    (idle : ¬playback.opens event) (keeps : ¬playback.closes event) :
    next.Follows (events ++ [event]) := by
  obtain ⟨device, running, sessions⟩ := same
  have unchanged : playback.Pending (events ++ [event]) ↔ playback.Pending events := by
    simp [Bracket.pending_append_singleton, idle, keeps]
  refine ⟨fun pending => ?_, fun resting => ?_⟩
  · rw [device, running, sessions]
    exact follows.running (unchanged.mp pending)
  · rw [device, running]
    exact follows.resting (mt unchanged.mpr resting)

theorem Follows.start (follows : output.Follows events) :
    (output.start true).Follows (events ++ [.start true]) := by
  refine ⟨fun _ => ?_, fun resting => ?_⟩
  · by_cases pending : playback.Pending events
    · obtain ⟨index, isSession, running, latest⟩ := follows.running pending
      exact ⟨index, by simp [AudioOutput.start, isSession, running, latest]⟩
    · obtain ⟨isNull, _⟩ := follows.resting pending
      exact ⟨output.sessions, by simp [AudioOutput.start, isNull]⟩
  · exact (resting (Bracket.pending_append_singleton.mpr (.inl rfl))).elim

theorem Follows.stop (follows : output.Follows events) :
    output.stop.Follows (events ++ [.stop]) := by
  refine ⟨fun pending => ?_, fun _ => ?_⟩
  · rcases Bracket.pending_append_singleton.mp pending with opened | ⟨keeps, _⟩
    · cases opened
    · exact (keeps rfl).elim
  · by_cases pending : playback.Pending events
    · obtain ⟨index, _, running, _⟩ := follows.running pending
      simp [AudioOutput.stop, running]
    · obtain ⟨isNull, stopped⟩ := follows.resting pending
      simp [AudioOutput.stop, isNull, stopped]

/-- Data that follows its session is written, and data outside a session is dropped. -/
theorem Follows.receivedData (follows : output.Follows events) (data : List UInt8) :
    ∃ next, output.receivedData data = some next ∧
      (next = output ∨ output.running.isSome = true) ∧
      next.device = output.device ∧ next.running = output.running ∧
      next.sessions = output.sessions := by
  by_cases pending : playback.Pending events
  · obtain ⟨index, isSession, running, _⟩ := follows.running pending
    refine ⟨{ output with written := output.written ++ data }, ?_, .inr ?_, rfl, rfl, rfl⟩
    · simp [AudioOutput.receivedData, isSession, running]
    · rw [running, Option.isSome_some]
  · obtain ⟨isNull, _⟩ := follows.resting pending
    exact ⟨output, by simp [AudioOutput.receivedData, isNull], .inl rfl, rfl, rfl, rfl⟩

theorem Follows.step (follows : output.Follows events) {event : OutputEvent}
    (respects : playback.intrudes event → ¬playback.Pending events) :
    ∃ next, machine.step output event = some next ∧ next.Follows (events ++ [event]) := by
  cases event with
  | start sinkStarts =>
      refine ⟨_, rfl, ?_⟩
      cases sinkStarts with
      | true => exact follows.start
      | false =>
          have same : output.start false = output := by simp [AudioOutput.start]
          rw [same]
          exact follows.keep ⟨rfl, rfl, rfl⟩ (by simp [playback]) (by simp [playback])
  | stop => exact ⟨_, rfl, follows.stop⟩
  | receivedData data =>
      obtain ⟨next, wrote, _, same⟩ := follows.receivedData data
      exact ⟨next, wrote, follows.keep same (by simp [playback]) (by simp [playback])⟩
  | deviceError =>
      have stopped := (follows.resting (respects rfl)).2
      refine ⟨_, rfl, follows.keep ⟨rfl, ?_, rfl⟩ (by simp [playback]) (by simp [playback])⟩
      exact stopped.symm

theorem Follows.matched (follows : output.Follows events) : output.Matched := by
  refine ⟨?_, fun data => ?_, fun stopped sinkStarts => ?_⟩
  · by_cases pending : playback.Pending events
    · exact .inr (follows.running pending)
    · exact .inl (follows.resting pending).1
  · obtain ⟨next, wrote, into, _⟩ := follows.receivedData data
    exact ⟨next, wrote, into⟩
  · have idle : ¬playback.Pending events := by
      intro pending
      obtain ⟨index, _, running, _⟩ := follows.running pending
      rw [stopped] at running
      cases running
    cases sinkStarts with
    | true => simp [AudioOutput.start, (follows.resting idle).1]
    | false => simp [AudioOutput.start, stopped]

/-- A run of respectful events loses no event and keeps the pointer behind its events. -/
theorem follows_of_respected (respected : playback.Respected events) :
    ∃ output, machine.exec (constructed .null) events = some output ∧ output.Follows events := by
  induction events using List.reverseRecOn with
  | nil => exact ⟨_, rfl, follows_constructed⟩
  | append_singleton events event ih =>
      obtain ⟨earlier, respects⟩ := Bracket.respected_append_singleton.mp respected
      obtain ⟨output, ran, follows⟩ := ih earlier
      obtain ⟨next, taken, after⟩ := follows.step respects
      refine ⟨next, ?_, after⟩
      rw [Machine.exec_append, ran, Option.bind_some, Machine.exec_cons, taken]
      rfl

/-- An error in a session leaves the pointer at the device that went with it. -/
theorem Follows.not_matched (follows : output.Follows events)
    (pending : playback.Pending events) : ¬output.deviceError.Matched := by
  intro matched
  obtain ⟨index, isSession, _⟩ := follows.running pending
  rcases matched.handle with isNull | ⟨_, _, running, _⟩
  · rw [AudioOutput.deviceError, isSession] at isNull
    cases isNull
  · cases running

/-- A pointer that starts null matches the sink until an error comes in a session. -/
theorem matchesThroughout_null_iff (events : List OutputEvent) :
    MatchesThroughout .null events ↔ playback.Respected events := by
  refine Bracket.iff_respected ?_ ?_ ?_ events
  · intro before isPrefix
    rw [List.prefix_nil.mp isPrefix]
    exact ⟨_, rfl, follows_constructed.matched⟩
  · intro history event holds before isPrefix
    exact holds before (isPrefix.trans (List.prefix_append _ _))
  · intro history event respected _
    obtain ⟨output, ran, follows⟩ := follows_of_respected respected
    constructor
    · rintro holds rfl pending
      obtain ⟨next, ranOn, matched⟩ := holds _ List.prefix_rfl
      rw [Machine.exec_append, ran] at ranOn
      cases ranOn
      exact follows.not_matched pending matched
    · intro respects before isPrefix
      have whole := Bracket.respected_append_singleton.mpr ⟨respected, respects⟩
      obtain ⟨last, ranBefore, after⟩ := follows_of_respected (whole.of_prefix isPrefix)
      exact ⟨last, ranBefore, after.matched⟩

/-- The pointer matches the sink exactly when the memory happens to start it at null
and the sink never stops by itself in a session. -/
theorem handle_matches_iff (device : Handle) (events : List OutputEvent) :
    MatchesThroughout device events ↔ device = .null ∧ playback.Respected events := by
  by_cases isNull : device = .null
  · subst isNull
    rw [matchesThroughout_null_iff]
    exact (and_iff_right rfl).symm
  · refine iff_of_false (fun holds => ?_) fun both => isNull both.1
    obtain ⟨output, ran, matched⟩ := holds [] List.nil_prefix
    cases ran
    rcases matched.handle with null | ⟨_, _, running, _⟩
    · exact isNull null
    · cases running

/-- An unset pointer keeps the first start from starting the sink. -/
theorem handle_matches_fails : ¬∀ device events, MatchesThroughout device events := by
  intro claim
  obtain ⟨output, ran, matched⟩ := claim .wild [.start true] _ List.prefix_rfl
  cases ran
  cases matched.starts rfl true

end AudioOutput
end VoiceCall.Client
