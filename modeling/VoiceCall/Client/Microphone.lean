import VoiceCall.Client.Audio
import VoiceCall.Foundation.Bracket
import VoiceCall.Foundation.Machine

namespace VoiceCall.Client

open Foundation

inductive SampleFormat where
  | unknown
  | uInt8
  | int16
  | int32
  | float
deriving DecidableEq, Repr

/-- A format keeps the number of channels that its configuration stands for. -/
structure AudioFormat where
  sampleRate : Nat
  channelCount : Nat
  sampleFormat : SampleFormat
deriving DecidableEq, Repr

/-- The multimedia library answers for the default device of the moment. -/
structure AudioDevice where
  isFormatSupported : AudioFormat → Bool
  preferredFormat : AudioFormat

/-- An unsupported format gives way to the preferred one of the device. -/
def AudioDevice.choose (device : AudioDevice) (format : AudioFormat) : AudioFormat :=
  if device.isFormatSupported format then format else device.preferredFormat

/-- The calls of the two methods. `QIODevice::open` answers whether the device opens. -/
inductive InputCall where
  | openDevice (inputDevice : AudioDevice) (opens : Bool)
  | close

/-- A source that runs hands over chunks between the calls, in any order. -/
inductive InputEvent where
  | issue (call : InputCall)
  | capture (source : Nat) (data : List UInt8)

/-- The calls of a run, without what the sources do. -/
def issued (events : List InputEvent) : List InputCall :=
  events.filterMap fun event =>
    match event with
    | .issue call => some call
    | .capture _ _ => none

theorem issued_append_issue (events : List InputEvent) (call : InputCall) :
    issued (events ++ [.issue call]) = issued events ++ [call] :=
  filterMap_append_singleton _ _ _

theorem issued_append_capture (events : List InputEvent) (source : Nat) (data : List UInt8) :
    issued (events ++ [.capture source data]) = issued events :=
  (filterMap_append_singleton _ _ _).trans (List.append_nil _)

theorem issued_map_issue (calls : List InputCall) : issued (calls.map .issue) = calls := by
  induction calls with
  | nil => rfl
  | cons call rest ih => exact congrArg (call :: ·) ih

/-- A recording runs from an open that succeeds to a close, and no open belongs in between. -/
def recording : Bracket InputCall where
  opens call := ∃ inputDevice, call = .openDevice inputDevice true
  closes call := call = .close
  intrudes call := ∃ inputDevice opens, call = .openDevice inputDevice opens

/-- The microphone keeps the format of each source in the order of their creation,
the chunks that the sources have captured and those that `dataReady` has emitted. -/
structure Microphone where
  input : AudioInput
  formats : List AudioFormat
  captured : List (Nat × List UInt8)
  emitted : List (List UInt8)
deriving DecidableEq, Repr

namespace Microphone

/-- The constructor asks no device for its format. -/
def initial : Microphone := ⟨.initial, [⟨44100, 1, .int16⟩], [], []⟩

/-- The format that `open` asks for. -/
def requestedFormat : AudioFormat := ⟨48000, 1, .int16⟩

/-- The format of the new source is chosen before the device opens, for writing only. -/
def openDevice (microphone : Microphone) (inputDevice : AudioDevice) (opens : Bool) :
    Microphone :=
  { microphone with
    input := microphone.input.openDevice opens
    formats := microphone.formats ++ [inputDevice.choose requestedFormat] }

def close (microphone : Microphone) : Microphone :=
  { microphone with input := microphone.input.close }

/-- The raw bytes are emitted as they are. -/
def writeData (microphone : Microphone) (data : List UInt8) : Microphone :=
  { microphone with emitted := microphone.emitted ++ [data] }

/-- A running source writes its chunk to the device, which refuses it when it is closed. -/
def capture (microphone : Microphone) (source : Nat) (data : List UInt8) : Option Microphone :=
  if source ∈ microphone.input.started then
    let heard := { microphone with captured := microphone.captured ++ [(source, data)] }
    some (if microphone.input.isOpen then heard.writeData data else heard)
  else none

def apply (microphone : Microphone) : InputCall → Microphone
  | .openDevice inputDevice opens => microphone.openDevice inputDevice opens
  | .close => microphone.close

def machine : Machine Microphone InputEvent where
  initial microphone := microphone = initial
  step microphone
    | .issue call => some (microphone.apply call)
    | .capture source data => microphone.capture source data

/-- One source runs at most, it is the current one, and none runs after a close.
Outside a recording nothing is captured, and every captured chunk is emitted once. -/
structure Single (microphone : Microphone) (calls : List InputCall) : Prop where
  atMostOne : microphone.input.started.length ≤ 1
  isCurrent : ∀ source ∈ microphone.input.started, source = microphone.input.audioSource
  released : calls.getLast? = some .close → microphone.input.started = []
  silent : ¬recording.Pending calls → ∀ source data, microphone.capture source data = none
  emittedOnce : microphone.emitted = microphone.captured.map Prod.snd

/-- After each of the calls, and after every chunk that comes between two of them,
the microphone keeps to one source. -/
def Released (calls : List InputCall) : Prop :=
  ∀ events microphone, issued events <+: calls →
    machine.exec initial events = some microphone →
    microphone.Single (issued events)

/-- The microphone follows its calls when the current source runs in a recording and only there. -/
structure Follows (microphone : Microphone) (calls : List InputCall) : Prop where
  known : microphone.input.audioSource < microphone.input.sources
  running : recording.Pending calls →
    microphone.input.started = [microphone.input.audioSource] ∧ microphone.input.isOpen = true
  resting : ¬recording.Pending calls → microphone.input.started = []
  emittedOnce : microphone.emitted = microphone.captured.map Prod.snd

variable {microphone next : Microphone} {calls : List InputCall}

theorem follows_initial : initial.Follows [] :=
  ⟨by decide, fun pending => (Bracket.not_pending_nil pending).elim, fun _ => rfl, rfl⟩

/-- An open that comes in no recording starts the new source or none. -/
theorem Follows.openDevice (follows : microphone.Follows calls)
    (idle : ¬recording.Pending calls) (inputDevice : AudioDevice) (opens : Bool) :
    (microphone.openDevice inputDevice opens).Follows
      (calls ++ [.openDevice inputDevice opens]) := by
  have none := follows.resting idle
  cases opens with
  | true =>
      refine ⟨Nat.lt_succ_self _, fun _ => ?_, fun resting => ?_, follows.emittedOnce⟩
      · simp [Microphone.openDevice, AudioInput.openDevice, none]
      · exact (resting (Bracket.pending_append_singleton.mpr (.inl ⟨inputDevice, rfl⟩))).elim
  | false =>
      refine ⟨Nat.lt_succ_self _, fun pending => ?_, fun _ => none, follows.emittedOnce⟩
      rcases Bracket.pending_append_singleton.mp pending with ⟨_, opened⟩ | ⟨_, before⟩
      · cases opened
      · exact (idle before).elim

/-- A close stops the current source, which is the only one that may run. -/
theorem Follows.close (follows : microphone.Follows calls) :
    microphone.close.Follows (calls ++ [.close]) := by
  refine ⟨follows.known, fun pending => ?_, fun _ => ?_, follows.emittedOnce⟩
  · rcases Bracket.pending_append_singleton.mp pending with ⟨_, opened⟩ | ⟨keeps, _⟩
    · cases opened
    · exact (keeps rfl).elim
  · by_cases pending : recording.Pending calls
    · simp [Microphone.close, AudioInput.close, (follows.running pending).1]
    · simp [Microphone.close, AudioInput.close, follows.resting pending]

theorem Follows.apply (follows : microphone.Follows calls) {call : InputCall}
    (respects : recording.intrudes call → ¬recording.Pending calls) :
    (microphone.apply call).Follows (calls ++ [call]) := by
  cases call with
  | openDevice inputDevice opens =>
      exact follows.openDevice (respects ⟨inputDevice, opens, rfl⟩) inputDevice opens
  | close => exact follows.close

/-- A source runs only in a recording, where the device is open. -/
theorem Follows.capture (follows : microphone.Follows calls) {source : Nat} {data : List UInt8}
    (taken : microphone.capture source data = some next) : next.Follows calls := by
  obtain ⟨runs, heard⟩ := Option.ite_none_right_eq_some.mp taken
  by_cases pending : recording.Pending calls
  · obtain ⟨started, isOpen⟩ := follows.running pending
    simp only [isOpen, if_true, Option.some.injEq] at heard
    subst heard
    refine ⟨follows.known, fun _ => ⟨started, isOpen⟩, follows.resting, ?_⟩
    simp [writeData, follows.emittedOnce]
  · rw [follows.resting pending] at runs
    cases runs

theorem Follows.single (follows : microphone.Follows calls) : microphone.Single calls := by
  have runsAtMost : microphone.input.started = [microphone.input.audioSource] ∨
      microphone.input.started = [] := by
    by_cases pending : recording.Pending calls
    · exact .inl (follows.running pending).1
    · exact .inr (follows.resting pending)
  refine ⟨?_, ?_, fun ended => follows.resting ?_, fun idle source data => ?_,
    follows.emittedOnce⟩
  · rcases runsAtMost with one | none
    · rw [one, List.length_singleton]
    · rw [none]
      exact Nat.zero_le _
  · intro source member
    rcases runsAtMost with one | none
    · exact List.mem_singleton.mp (one ▸ member)
    · rw [none] at member
      cases member
  · obtain ⟨before, rfl⟩ := List.getLast?_eq_some_iff.mp ended
    intro pending
    rcases Bracket.pending_append_singleton.mp pending with ⟨_, opened⟩ | ⟨keeps, _⟩
    · cases opened
    · exact keeps rfl
  · rw [Microphone.capture, follows.resting idle]
    rfl

/-- A run of respectful calls keeps the microphone behind its calls, whatever the sources do. -/
theorem follows_of_exec {events : List InputEvent}
    (respected : recording.Respected (issued events))
    (ran : machine.exec initial events = some microphone) :
    microphone.Follows (issued events) := by
  revert respected
  refine Machine.exec_induction ?_ ?_ ran
  · exact fun _ => follows_initial
  · intro events before event after ih taken respected
    cases event with
    | issue call =>
        cases taken
        rw [issued_append_issue] at respected ⊢
        obtain ⟨earlier, respects⟩ := Bracket.respected_append_singleton.mp respected
        exact (ih earlier).apply respects
    | capture source data =>
        rw [issued_append_capture] at respected ⊢
        exact (ih respected).capture taken

/-- The calls alone make a run. -/
theorem exec_issue (microphone : Microphone) (calls : List InputCall) :
    machine.exec microphone (calls.map .issue) = some (calls.foldl apply microphone) := by
  induction calls generalizing microphone with
  | nil => rfl
  | cons call rest ih => exact ih (microphone.apply call)

/-- An open in a recording leaves the old source running behind the new one. -/
theorem Follows.not_single (follows : microphone.Follows calls)
    (pending : recording.Pending calls) (inputDevice : AudioDevice) (opens : Bool)
    (later : List InputCall) : ¬(microphone.openDevice inputDevice opens).Single later := by
  intro single
  have runs := (follows.running pending).1
  cases opens with
  | true => simpa [Microphone.openDevice, AudioInput.openDevice, runs] using single.atMostOne
  | false =>
      have same := single.isCurrent microphone.input.audioSource (by
        simp [Microphone.openDevice, AudioInput.openDevice, runs])
      exact follows.known.ne same

/-- The microphone is released exactly when no open comes between an open that succeeds
and the next close. -/
theorem microphone_released_iff (calls : List InputCall) :
    Released calls ↔ recording.Respected calls := by
  refine Bracket.iff_respected ?_ ?_ ?_ calls
  · intro events microphone isPrefix ran
    refine (follows_of_exec ?_ ran).single
    rw [List.prefix_nil.mp isPrefix]
    exact Bracket.respected_nil
  · intro history call holds events microphone isPrefix ran
    exact holds events microphone (isPrefix.trans (List.prefix_append _ _)) ran
  · intro history call respected _
    constructor
    · rintro holds ⟨inputDevice, opens, rfl⟩ pending
      have follows := follows_of_exec (by rwa [issued_map_issue]) (exec_issue initial history)
      rw [issued_map_issue] at follows
      have ran : machine.exec initial
          ((history ++ [InputCall.openDevice inputDevice opens]).map .issue) =
            some ((history.foldl apply initial).openDevice inputDevice opens) := by
        rw [exec_issue, List.foldl_append]
        rfl
      have single := holds _ _ (by rw [issued_map_issue]) ran
      exact follows.not_single pending inputDevice opens _ single
    · intro respects events microphone isPrefix ran
      refine (follows_of_exec (Bracket.Respected.of_prefix ?_ isPrefix) ran).single
      exact Bracket.respected_append_singleton.mpr ⟨respected, respects⟩

/-- Two calls become ready and one ends: the first source goes on running. -/
theorem microphone_released_fails : ¬∀ calls, Released calls := by
  intro claim
  have ran (inputDevice : AudioDevice) : machine.exec initial
      ([.openDevice inputDevice true, .openDevice inputDevice true, .close].map .issue) =
        some ⟨⟨2, 3, [1], false⟩, _, [], []⟩ := rfl
  have single := claim _ _ _ (by rw [issued_map_issue]) (ran ⟨fun _ => true, ⟨48000, 1, .int16⟩⟩)
  rw [issued_map_issue] at single
  cases single.released rfl

end Microphone
end VoiceCall.Client
