import VoiceCall.Client.Ending
import VoiceCall.Client.Microphone
import VoiceCall.Client.Speaker

namespace VoiceCall.Client

open Foundation

namespace WebRTC

/-- Only the queued slots call the microphone. An end closes it whatever the role. -/
def inputEvent (inputDevice : AudioDevice) (webRtc : WebRTC) : Event → Option InputEvent
  | .runQueued deviceOpens _ =>
      match webRtc.queue with
      | [] => none
      | .connectionReady _ :: _ =>
          if webRtc.isOfferer then some (.issue (.openDevice inputDevice deviceOpens)) else none
      | .endConnection _ :: _ => some (.issue .close)
  | _ => none

/-- The queued slots and the messages call the playback side. -/
def outputEvent (webRtc : WebRTC) : Event → Option OutputEvent
  | .runQueued _ sinkStarts =>
      match webRtc.queue with
      | [] => none
      | .connectionReady _ :: _ =>
          if webRtc.isOfferer then none else some (.start sinkStarts)
      | .endConnection _ :: _ => some .stop
  | .message _ data => some (.receivedData data)
  | _ => none

/-- The events of the microphone in a run. -/
def inputEvents (inputDevice : AudioDevice) (steps : List (WebRTC × Event)) : List InputEvent :=
  steps.filterMap fun taken => taken.1.inputEvent inputDevice taken.2

/-- The events of the playback side in a run. -/
def outputEvents (steps : List (WebRTC × Event)) : List OutputEvent :=
  steps.filterMap fun taken => taken.1.outputEvent taken.2

variable {library : RtcLibrary} {webRtc next : WebRTC} {event : Event}

/-- A step calls the microphone as it says and touches it in no other way. -/
theorem step_input (inputDevice : AudioDevice) (taken : webRtc.step library event = some next)
    {microphone : Microphone} (same : microphone.input = webRtc.audioInput) :
    ∃ after, Microphone.machine.exec microphone (webRtc.inputEvent inputDevice event).toList =
      some after ∧ after.input = next.audioInput := by
  cases event with
  | runQueued deviceOpens sinkStarts =>
      rcases runQueued_cases taken with ⟨id, rest, waiting, rfl⟩ | ⟨id, rest, waiting, rfl⟩
      · cases role : webRtc.isOfferer with
        | true =>
            refine ⟨microphone.openDevice inputDevice deviceOpens, ?_, ?_⟩
            · simp [inputEvent, waiting, role, Machine.exec_cons, Microphone.machine,
                Microphone.apply]
            · simp [connectionReady, Microphone.openDevice, same]
        | false =>
            refine ⟨microphone, ?_, ?_⟩
            · simp [inputEvent, waiting, role]
            · simp [connectionReady, same]
      · refine ⟨microphone.close, ?_, ?_⟩
        · simp [inputEvent, waiting, Machine.exec_cons, Microphone.machine, Microphone.apply]
        · simp [endConnection, Microphone.close, same]
  | message track data =>
      obtain ⟨_, output, _, rfl⟩ := message_cases taken
      exact ⟨microphone, rfl, same⟩
  | _ =>
      have muted : webRtc.Muted next := (Muted.of_step taken).resolve_right (by simp)
      exact ⟨microphone, rfl, same.trans muted.input.symm⟩

/-- A step calls the playback side as it says and touches it in no other way. -/
theorem step_output (taken : webRtc.step library event = some next) :
    AudioOutput.machine.exec webRtc.audioOutput (webRtc.outputEvent event).toList =
      some next.audioOutput := by
  cases event with
  | runQueued deviceOpens sinkStarts =>
      rcases runQueued_cases taken with ⟨id, rest, waiting, rfl⟩ | ⟨id, rest, waiting, rfl⟩
      · cases role : webRtc.isOfferer with
        | true => simp [outputEvent, waiting, role, connectionReady]
        | false =>
            simp [outputEvent, waiting, role, connectionReady, Machine.exec_cons,
              AudioOutput.machine]
      · simp [outputEvent, waiting, endConnection, Machine.exec_cons, AudioOutput.machine]
  | message track data =>
      obtain ⟨_, output, wrote, rfl⟩ := message_cases taken
      simp [outputEvent, Machine.exec_cons, AudioOutput.machine, wrote]
  | _ =>
      have muted : webRtc.Muted next := (Muted.of_step taken).resolve_right (by simp)
      exact congrArg some muted.output.symm

/-- Every run of the client is a run of its microphone. -/
theorem input_of_exec (inputDevice : AudioDevice) {wild : Bool} {events : List Event}
    {run : Machine.Traced WebRTC Event}
    (ran : (machine library).traced.exec ⟨initial wild, []⟩ events = some run) :
    ∃ microphone,
      Microphone.machine.exec .initial (inputEvents inputDevice run.steps) = some microphone ∧
        microphone.input = run.current.audioInput :=
  Machine.exec_simulated
    (fun (webRtc : WebRTC) (microphone : Microphone) => microphone.input = webRtc.audioInput)
    (fun _ _ _ _ same taken => step_input inputDevice taken same) rfl ran

/-- Every run of the client is a run of its playback side. -/
theorem output_of_exec {wild : Bool} {events : List Event} {run : Machine.Traced WebRTC Event}
    (ran : (machine library).traced.exec ⟨initial wild, []⟩ events = some run) :
    AudioOutput.machine.exec (.initial wild) (outputEvents run.steps) =
      some run.current.audioOutput := by
  have stepped (state : WebRTC) (event : Event) (next : WebRTC) (output : AudioOutput)
      (same : output = state.audioOutput) (taken : (machine library).step state event = some next) :
      ∃ after, AudioOutput.machine.exec output (state.outputEvent event).toList = some after ∧
        after = next.audioOutput := by
    subst same
    exact ⟨_, step_output taken, rfl⟩
  obtain ⟨_, played, rfl⟩ := Machine.exec_simulated
    (fun webRtc output => output = webRtc.audioOutput) stepped rfl ran
  exact played

/-- A client whose calls keep their recordings apart runs one source at most, the current one,
and none outside a recording. -/
theorem microphone_of_exec (inputDevice : AudioDevice) {wild : Bool} {events : List Event}
    {run : Machine.Traced WebRTC Event}
    (ran : (machine library).traced.exec ⟨initial wild, []⟩ events = some run)
    (respected : recording.Respected (issued (inputEvents inputDevice run.steps))) :
    run.current.audioInput.started.length ≤ 1 ∧
      (∀ source ∈ run.current.audioInput.started, source = run.current.audioInput.audioSource) ∧
      (¬recording.Pending (issued (inputEvents inputDevice run.steps)) →
        run.current.audioInput.started = []) := by
  obtain ⟨microphone, called, same⟩ := input_of_exec inputDevice ran
  have follows := Microphone.follows_of_exec respected called
  rw [← same]
  exact ⟨follows.single.atMostOne, follows.single.isCurrent, follows.resting⟩

/-- Two calls are made, both are answered and become ready, and then both end. -/
def twoCallsRun : List Event :=
  [.startCall "bob", .startCall "carol", .gatheringComplete 0, .gatheringComplete 1,
    .answerReceived "bob" "v=0 o=bob a=setup:active",
    .answerReceived "carol" "v=0 o=carol a=setup:active",
    .stateChanged 0 .connected, .runQueued true true,
    .stateChanged 1 .connected, .runQueued true true,
    .stateChanged 0 .closed, .runQueued true true,
    .stateChanged 1 .closed, .runQueued true true]

-- The source of the first call runs on when no call is left to close it.
example : ((machine .sample).exec (initial false) twoCallsRun).any (fun webRtc =>
    audioConnection webRtc.log = none ∧ webRtc.audioInput.started = [1]) = true := by decide

/-- No event of the client is an error of the sink. -/
theorem outputEvent_ne_deviceError (webRtc : WebRTC) (event : Event) :
    webRtc.outputEvent event ≠ some .deviceError := by
  unfold outputEvent
  split
  · split
    · simp
    · split <;> simp
    · simp
  · simp
  · simp

/-- As long as the sink reports no error, a pointer that starts null matches it. -/
theorem handle_of_exec {events : List Event} {run : Machine.Traced WebRTC Event}
    (ran : (machine library).traced.exec ⟨initial false, []⟩ events = some run) :
    run.current.audioOutput.Matched := by
  have noError : playback.Respected (outputEvents run.steps) := by
    refine Bracket.respected_of_none fun event member isError => ?_
    obtain ⟨⟨state, issued⟩, _, called⟩ := List.mem_filterMap.mp member
    exact state.outputEvent_ne_deviceError issued (called.trans (congrArg some isError))
  obtain ⟨output, played, follows⟩ := AudioOutput.follows_of_respected noError
  have isNull : AudioOutput.initial false = .constructed .null := rfl
  rw [← isNull, output_of_exec ran] at played
  cases played
  exact follows.matched

end WebRTC
end VoiceCall.Client
