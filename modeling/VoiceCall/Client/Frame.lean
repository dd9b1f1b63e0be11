import VoiceCall.Client.Sound

namespace VoiceCall.Client

open Foundation

/-- Two signals carry a description. -/
def Observation.Describes : Observation → Prop
  | .offerIsReady _ _ _ => True
  | .answerIsReady _ _ _ => True
  | _ => False

/-- Two observations say that a queued slot has run. -/
def Observation.slot : Observation → Option QueuedSlot
  | .connectionReady connection => some (.connectionReady connection)
  | .endConnection connection => some (.endConnection connection)
  | _ => none

/-- A quiet event negotiates nothing: no connection is made and no description moves. -/
def Event.Quiet : Event → Prop
  | .endCall _ => True
  | .rejectCall _ => True
  | .rejectedReceived _ => True
  | .dataReady _ _ _ => True
  | .stateChanged _ _ => True
  | .remoteTrack _ => True
  | .message _ _ => True
  | .runQueued _ _ => True
  | _ => False

/-- The negotiation of a connection is everything but its transport state. -/
structure PeerConnection.SameNegotiation (before after : PeerConnection) : Prop where
  peerId : after.peerId = before.peerId
  signaling : after.signaling = before.signaling
  gathering : after.gathering = before.gathering
  localDescription : after.localDescription = before.localDescription
  remoteDescription : after.remoteDescription = before.remoteDescription
  open_of_open : after.state ≠ .closed → before.state ≠ .closed

theorem PeerConnection.SameNegotiation.refl (connection : PeerConnection) :
    connection.SameNegotiation connection :=
  ⟨rfl, rfl, rfl, rfl, rfl, id⟩

theorem Observation.Describes.slot {observation : Observation}
    (describes : observation.Describes) : observation.slot = none := by
  cases observation with
  | offerIsReady _ _ _ | answerIsReady _ _ _ => rfl
  | _ => cases describes

namespace WebRTC

/-- The gathering callback describes its connection or does nothing but complete it. -/
theorem gatheringComplete_cases {library : RtcLibrary} {webRtc next : WebRTC} {id : ConnectionId}
    (taken : webRtc.step library (.gatheringComplete id) = some next) :
    webRtc.Gathering id ∧ (next = webRtc.gathered id ∨
      ∃ observation : Observation, observation.Describes ∧
        next = (webRtc.gathered id).record observation) := by
  obtain ⟨gathering, ran⟩ := Option.ite_none_right_eq_some.mp taken
  obtain ⟨source, _, emitted⟩ := Option.map_eq_some_iff.mp ran
  refine ⟨gathering, ?_⟩
  subst emitted
  split
  · exact .inl rfl
  · split
    · exact .inr ⟨.offerIsReady _ _ _, trivial, rfl⟩
    · exact .inr ⟨.answerIsReady _ _ _, trivial, rfl⟩

/-- An undisturbed client keeps its role, its map and every negotiation, and describes nothing. -/
structure Undisturbed (webRtc next : WebRTC) : Prop where
  role : next.isOfferer = webRtc.isOfferer
  entries : next.peerConnections = webRtc.peerConnections
  created : next.created = webRtc.created
  negotiation : ∀ id, (webRtc.connections id).SameNegotiation (next.connections id)
  log : ∃ added, next.log = webRtc.log ++ added ∧ ∀ observation ∈ added, ¬observation.Describes

namespace Undisturbed

variable {library : RtcLibrary} {webRtc middle next : WebRTC}

theorem refl (webRtc : WebRTC) : webRtc.Undisturbed webRtc :=
  ⟨rfl, rfl, rfl, fun _ => .refl _, [], by simp, by simp⟩

theorem record (undisturbed : webRtc.Undisturbed next) {observation : Observation}
    (silent : ¬observation.Describes) : webRtc.Undisturbed (next.record observation) := by
  obtain ⟨role, entries, created, negotiation, grown⟩ := undisturbed
  exact ⟨role, entries, created, negotiation,
    grown_trans grown ⟨[observation], rfl, by simpa using silent⟩⟩

theorem setConnection (undisturbed : webRtc.Undisturbed next) {id : ConnectionId}
    {connection : PeerConnection}
    (same : (webRtc.connections id).SameNegotiation connection) :
    webRtc.Undisturbed (next.setConnection id connection) := by
  refine ⟨undisturbed.role, undisturbed.entries, undisturbed.created, ?_, undisturbed.log⟩
  intro other
  by_cases here : other = id
  · subst here
    rwa [setConnection_connections, Function.update_self]
  · rw [setConnection_connections, Function.update_of_ne here]
    exact undisturbed.negotiation other

/-- The members outside the negotiation are free to change. -/
theorem of_eq (undisturbed : webRtc.Undisturbed middle) (role : next.isOfferer = middle.isOfferer)
    (entries : next.peerConnections = middle.peerConnections)
    (created : next.created = middle.created) (connections : next.connections = middle.connections)
    (log : next.log = middle.log) : webRtc.Undisturbed next := by
  refine ⟨role.trans undisturbed.role, entries.trans undisturbed.entries,
    created.trans undisturbed.created, ?_, ?_⟩
  · rw [connections]
    exact undisturbed.negotiation
  · rw [log]
    exact undisturbed.log

theorem onStateChange (undisturbed : webRtc.Undisturbed next) (id : ConnectionId)
    (state : ConnectionState) : webRtc.Undisturbed (next.onStateChange id state) := by
  obtain ⟨slots, outcome⟩ := next.onStateChange_queue id state
  rw [outcome]
  exact undisturbed.of_eq rfl rfl rfl rfl rfl

theorem connectionReady (undisturbed : webRtc.Undisturbed next) (deviceOpens sinkStarts : Bool) :
    webRtc.Undisturbed (next.connectionReady deviceOpens sinkStarts) := by
  obtain ⟨input, output, outcome⟩ := next.connectionReady_devices deviceOpens sinkStarts
  rw [outcome]
  exact undisturbed.of_eq rfl rfl rfl rfl rfl

theorem endConnection (undisturbed : webRtc.Undisturbed next) :
    webRtc.Undisturbed next.endConnection := by
  have stopped : webRtc.Undisturbed { next with
      peerSdps := fun _ => none
      audioInput := next.audioInput.close
      audioOutput := next.audioOutput.stop } := undisturbed.of_eq rfl rfl rfl rfl rfl
  exact stopped.record (by simp [Observation.Describes])

theorem runQueued {deviceOpens sinkStarts : Bool}
    (ran : webRtc.runQueued deviceOpens sinkStarts = some next) : webRtc.Undisturbed next := by
  have dequeued (rest : List QueuedSlot) : webRtc.Undisturbed { webRtc with queue := rest } :=
    (refl webRtc).of_eq rfl rfl rfl rfl rfl
  rcases runQueued_cases ran with ⟨id, rest, _, rfl⟩ | ⟨id, rest, _, rfl⟩
  · exact ((dequeued rest).connectionReady _ _).record (by simp [Observation.Describes])
  · exact (dequeued rest).endConnection.record (by simp [Observation.Describes])

/-- A quiet event leaves the negotiation undisturbed. -/
theorem of_quiet {event : Event} (quiet : event.Quiet)
    (taken : webRtc.step library event = some next) : webRtc.Undisturbed next := by
  cases event with
  | startCall _ | registerName _ | acceptCall _ | offerReceived _ _ | answerReceived _ _
  | setRemoteCandidate _ | gatheringComplete _ => cases quiet
  | endCall name =>
      obtain ⟨id, _, closed⟩ := Option.map_eq_some_iff.mp taken
      subst closed
      have recorded : webRtc.Undisturbed (webRtc.record (.endCall name)) :=
        (refl webRtc).record (by simp [Observation.Describes])
      exact recorded.setConnection ⟨rfl, rfl, rfl, rfl, rfl, fun isOpen => isOpen⟩
  | rejectCall name =>
      cases taken
      exact (refl webRtc).record (by simp [Observation.Describes])
  | rejectedReceived peerID =>
      cases taken
      exact (refl webRtc).record (by simp [Observation.Describes])
  | dataReady data now sendSucceeds =>
      cases taken
      have counted : webRtc.Undisturbed webRtc.count := (refl webRtc).of_eq rfl rfl rfl rfl rfl
      rcases webRtc.dataReady_cases data now sendSucceeds with ⟨_, _, _, _, sent⟩ | ⟨_, unsent⟩
      · rw [sent]
        exact counted.record (by simp [Observation.Describes])
      · rwa [unsent]
  | stateChanged id state =>
      obtain ⟨⟨_, changes, _⟩, changed⟩ := Option.ite_none_right_eq_some.mp taken
      cases changed
      have moved : webRtc.Undisturbed
          (webRtc.setConnection id ((webRtc.connections id).changeState state)) :=
        (refl webRtc).setConnection ⟨rfl, rfl, rfl, rfl, rfl, fun _ => changes⟩
      exact moved.onStateChange id state
  | remoteTrack id =>
      obtain ⟨_, set⟩ := Option.ite_none_right_eq_some.mp taken
      cases set
      exact (refl webRtc).of_eq rfl rfl rfl rfl rfl
  | message track data =>
      obtain ⟨_, output, _, rfl⟩ := message_cases taken
      exact (refl webRtc).of_eq rfl rfl rfl rfl rfl
  | runQueued deviceOpens sinkStarts => exact runQueued taken

end Undisturbed

/-- The audio devices stay as they are, and no queued slot runs. -/
structure Muted (webRtc next : WebRTC) : Prop where
  input : next.audioInput = webRtc.audioInput
  output : next.audioOutput = webRtc.audioOutput
  log : ∃ added, next.log = webRtc.log ++ added ∧ ∀ observation ∈ added, observation.slot = none

namespace Muted

variable {library : RtcLibrary} {webRtc middle next : WebRTC}

/-- The members outside the audio devices and the log are free to change. -/
theorem of_log {added : List Observation} (input : next.audioInput = webRtc.audioInput)
    (output : next.audioOutput = webRtc.audioOutput) (grown : next.log = webRtc.log ++ added)
    (silent : ∀ observation ∈ added, observation.slot = none) : webRtc.Muted next :=
  ⟨input, output, added, grown, silent⟩

theorem of_eq (input : next.audioInput = webRtc.audioInput)
    (output : next.audioOutput = webRtc.audioOutput) (log : next.log = webRtc.log) :
    webRtc.Muted next :=
  of_log input output (log.trans (List.append_nil _).symm) (by simp)

theorem trans (first : webRtc.Muted middle) (second : middle.Muted next) :
    webRtc.Muted next := by
  exact ⟨second.input.trans first.input, second.output.trans first.output,
    grown_trans first.log second.log⟩

theorem record {observation : Observation} (silent : observation.slot = none) :
    webRtc.Muted (webRtc.record observation) :=
  of_log rfl rfl rfl (by simpa using silent)

theorem acceptPeer (description : Description) (peerId : String) :
    webRtc.Muted (settle (webRtc.acceptPeer library description peerId)) := by
  have ready : webRtc.Muted (webRtc.acceptReady peerId) := by
    unfold acceptReady
    split
    · exact of_eq rfl rfl rfl
    · exact of_eq rfl rfl rfl
  have called : webRtc.Muted (webRtc.acceptCalled description peerId) := ready.trans (record rfl)
  obtain ⟨connection, outcome⟩ := webRtc.acceptPeer_settle library description peerId
  rw [outcome]
  exact called.trans (of_eq rfl rfl rfl)

theorem answerReceived (peerID sdp : String) :
    webRtc.Muted (settle (webRtc.answerReceived library peerID sdp)) := by
  have stored : webRtc.Muted (webRtc.storeSdp peerID sdp) := of_eq rfl rfl rfl
  have accepted : webRtc.Muted
      (settle ((webRtc.storeSdp peerID sdp).acceptPeer library ⟨.answer, sdp⟩ peerID)) :=
    stored.trans (acceptPeer _ _)
  rcases webRtc.answerReceived_outcome library peerID sdp with
    ⟨_, outcome⟩ | ⟨_, outcome | outcome⟩
  · rwa [outcome]
  · rwa [outcome]
  · rw [outcome]
    exact accepted.trans (record rfl)

/-- Only a turn of the event loop and a message reach the audio devices. -/
theorem of_step {event : Event} (taken : webRtc.step library event = some next) :
    webRtc.Muted next ∨ (∃ deviceOpens sinkStarts, event = .runQueued deviceOpens sinkStarts) ∨
      ∃ track data, event = .message track data := by
  cases event with
  | runQueued deviceOpens sinkStarts => exact .inr (.inl ⟨_, _, rfl⟩)
  | message track data => exact .inr (.inr ⟨_, _, rfl⟩)
  | startCall targetName =>
      cases taken
      left
      rw [startCall_eq]
      exact of_log rfl rfl rfl (by simp [Observation.slot])
  | registerName username =>
      cases taken
      exact .inl (of_log rfl rfl rfl (by simp [Observation.slot]))
  | endCall name =>
      obtain ⟨id, _, closed⟩ := Option.map_eq_some_iff.mp taken
      subst closed
      exact .inl (of_log rfl rfl rfl (by simp [Observation.slot]))
  | acceptCall name =>
      cases taken
      left
      rcases webRtc.acceptCall_cases library name with outcome | ⟨sdp, _, _, outcome⟩
      · rw [outcome]
        exact of_eq rfl rfl rfl
      · rw [outcome]
        exact acceptPeer _ _
  | rejectCall name =>
      cases taken
      exact .inl (record rfl)
  | offerReceived peerID sdp =>
      cases taken
      exact .inl (of_log rfl rfl rfl (by simp [Observation.slot]))
  | answerReceived peerID sdp =>
      cases taken
      exact .inl (answerReceived _ _)
  | rejectedReceived peerID =>
      cases taken
      exact .inl (record rfl)
  | setRemoteCandidate peerID =>
      cases taken
      left
      unfold setRemoteCandidate
      split
      · exact of_eq rfl rfl rfl
      · exact of_eq rfl rfl rfl
  | dataReady data now sendSucceeds =>
      cases taken
      left
      obtain ⟨added, outcome, sends⟩ := webRtc.dataReady_grows data now sendSucceeds
      rw [outcome]
      refine of_log rfl rfl rfl fun observation member => ?_
      obtain ⟨_, _, rfl⟩ := sends observation member
      rfl
  | gatheringComplete id =>
      left
      have gathered : webRtc.Muted (webRtc.gathered id) := of_eq rfl rfl rfl
      obtain ⟨_, quiet | ⟨observation, describes, announced⟩⟩ := gatheringComplete_cases taken
      · rwa [quiet]
      · rw [announced]
        exact gathered.trans (record describes.slot)
  | stateChanged id state =>
      obtain ⟨_, slots, rfl⟩ := stateChanged_cases taken
      exact .inl (of_eq rfl rfl rfl)
  | remoteTrack id =>
      obtain ⟨_, set⟩ := Option.ite_none_right_eq_some.mp taken
      cases set
      exact .inl (of_eq rfl rfl rfl)

end Muted

/-- The audio devices keep their states, and no queued slot runs. -/
structure Unheard (webRtc next : WebRTC) : Prop where
  input : next.audioInput = webRtc.audioInput
  device : next.audioOutput.device = webRtc.audioOutput.device
  running : next.audioOutput.running = webRtc.audioOutput.running
  log : ∃ added, next.log = webRtc.log ++ added ∧ ∀ observation ∈ added, observation.slot = none

namespace Unheard

variable {library : RtcLibrary} {webRtc next : WebRTC}

theorem of_muted (muted : webRtc.Muted next) : webRtc.Unheard next :=
  ⟨muted.input, by rw [muted.output], by rw [muted.output], muted.log⟩

theorem record {observation : Observation} (silent : observation.slot = none) :
    webRtc.Unheard (webRtc.record observation) := of_muted (.record silent)

end Unheard
end WebRTC
end VoiceCall.Client
