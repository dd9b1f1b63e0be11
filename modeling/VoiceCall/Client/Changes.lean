import VoiceCall.Client.Frame
import VoiceCall.Client.Interference
import Mathlib.Logic.Relation

namespace VoiceCall.Client

theorem Observation.Describes.sent {observation : Observation}
    (describes : observation.Describes) : observation.sent = none := by
  cases observation with
  | offerIsReady _ _ _ | answerIsReady _ _ _ => rfl
  | _ => cases describes

namespace WebRTC

/-- Every operation but the sending of a chunk is made of these changes. -/
inductive Change (webRtc : WebRTC) : WebRTC → Prop
  | record (observation : Observation) (unsent : observation.sent = none) :
      Change webRtc (webRtc.record observation)
  | setIsOfferer (newIsOfferer : Bool) : Change webRtc (webRtc.setIsOfferer newIsOfferer)
  | storeSdp (peerID sdp : String) : Change webRtc (webRtc.storeSdp peerID sdp)
  | clearSdps : Change webRtc { webRtc with peerSdps := fun _ => none }
  | addPeer (peerId : String) : Change webRtc (webRtc.addPeer peerId)
  | setTrack (owner : ConnectionId) : Change webRtc (webRtc.setTrack owner)
  | setConnection (id : ConnectionId) (connection : PeerConnection) :
      Change webRtc (webRtc.setConnection id connection)
  | setQueue (slots : List QueuedSlot) : Change webRtc { webRtc with queue := slots }
  | setAudio (input : AudioInput) (output : AudioOutput) :
      Change webRtc { webRtc with audioInput := input, audioOutput := output }

/-- Several changes, one after the other. -/
abbrev Changes : WebRTC → WebRTC → Prop := Relation.ReflTransGen Change

namespace Changes

variable {library : RtcLibrary} {webRtc next : WebRTC}

theorem acceptPeer (changed : webRtc.Changes next) (description : Description) (peerId : String) :
    webRtc.Changes (settle (next.acceptPeer library description peerId)) := by
  have ready : webRtc.Changes (next.acceptReady peerId) := by
    unfold acceptReady
    split
    · exact changed.tail (.addPeer peerId)
    · exact changed
  have called : webRtc.Changes (next.acceptCalled description peerId) :=
    ready.tail (.record _ rfl)
  obtain ⟨connection, outcome⟩ := next.acceptPeer_settle library description peerId
  rw [outcome]
  exact called.tail (.setConnection _ _)

theorem answerReceived (webRtc : WebRTC) (peerID sdp : String) :
    webRtc.Changes (settle (webRtc.answerReceived library peerID sdp)) := by
  have stored : webRtc.Changes (webRtc.storeSdp peerID sdp) := .single (.storeSdp peerID sdp)
  have accepted : webRtc.Changes
      (settle ((webRtc.storeSdp peerID sdp).acceptPeer library ⟨.answer, sdp⟩ peerID)) :=
    stored.acceptPeer _ _
  rcases webRtc.answerReceived_outcome library peerID sdp with
    ⟨_, outcome⟩ | ⟨_, outcome | outcome⟩
  · rwa [outcome]
  · rwa [outcome]
  · rw [outcome]
    exact accepted.tail (.record _ rfl)

theorem runQueued {deviceOpens sinkStarts : Bool}
    (ran : webRtc.runQueued deviceOpens sinkStarts = some next) : webRtc.Changes next := by
  have dequeued (rest : List QueuedSlot) : webRtc.Changes { webRtc with queue := rest } :=
    .single (.setQueue rest)
  rcases runQueued_cases ran with ⟨id, rest, _, rfl⟩ | ⟨id, rest, _, rfl⟩
  · obtain ⟨input, output, outcome⟩ :=
      { webRtc with queue := rest }.connectionReady_devices deviceOpens sinkStarts
    rw [outcome]
    exact ((dequeued rest).tail (.setAudio _ _)).tail (.record _ rfl)
  · have cleared := (dequeued rest).tail .clearSdps
    exact ((cleared.tail (.setAudio _ _)).tail (.record .endReceived rfl)).tail (.record _ rfl)

/-- Every event but a captured chunk changes the client by these changes. -/
theorem of_step {event : Event} (noChunk : ∀ data now ok, event ≠ .dataReady data now ok)
    (taken : webRtc.step library event = some next) : webRtc.Changes next := by
  cases event with
  | dataReady data now ok => exact absurd rfl (noChunk data now ok)
  | startCall targetName =>
      cases taken
      rw [startCall_eq]
      have recorded : webRtc.Changes (webRtc.record (.startCall targetName)) :=
        .single (.record _ rfl)
      have added := (recorded.tail (.setIsOfferer true)).tail (.addPeer targetName)
      exact (added.tail (.setTrack _)).tail (.setConnection _ _)
  | registerName username =>
      cases taken
      have answering : webRtc.Changes (webRtc.setIsOfferer false) := .single (.setIsOfferer _)
      exact (answering.tail (.addPeer _)).tail (.record _ rfl)
  | endCall name =>
      obtain ⟨id, _, closed⟩ := Option.map_eq_some_iff.mp taken
      subst closed
      have recorded : webRtc.Changes (webRtc.record (.endCall name)) := .single (.record _ rfl)
      exact recorded.tail (.setConnection _ _)
  | acceptCall name =>
      cases taken
      rcases webRtc.acceptCall_cases library name with outcome | ⟨sdp, _, _, outcome⟩
      · rw [outcome]
      · rw [outcome]
        exact acceptPeer .refl _ _
  | rejectCall name =>
      cases taken
      exact .single (.record _ rfl)
  | offerReceived peerID sdp =>
      cases taken
      have stored : webRtc.Changes (webRtc.storeSdp peerID sdp) := .single (.storeSdp _ _)
      exact (stored.tail (.setIsOfferer _)).tail (.record _ rfl)
  | answerReceived peerID sdp =>
      cases taken
      exact answerReceived webRtc peerID sdp
  | rejectedReceived peerID =>
      cases taken
      exact .single (.record _ rfl)
  | setRemoteCandidate peerID =>
      cases taken
      unfold setRemoteCandidate
      split
      · exact .refl
      · exact .single (.addPeer _)
  | gatheringComplete id =>
      have gathered : webRtc.Changes (webRtc.gathered id) := .single (.setConnection _ _)
      obtain ⟨_, rfl | ⟨observation, describes, rfl⟩⟩ := gatheringComplete_cases taken
      · exact gathered
      · exact gathered.tail (.record _ describes.sent)
  | stateChanged id state =>
      obtain ⟨_, slots, rfl⟩ := stateChanged_cases taken
      have moved : webRtc.Changes (webRtc.setConnection id
          ((webRtc.connections id).changeState state)) := .single (.setConnection _ _)
      exact moved.tail (.setQueue slots)
  | remoteTrack id =>
      obtain ⟨_, set⟩ := Option.ite_none_right_eq_some.mp taken
      cases set
      exact .single (.setTrack id)
  | message track data =>
      obtain ⟨_, output, _, rfl⟩ := message_cases taken
      exact .single (.setAudio _ _)
  | runQueued deviceOpens sinkStarts => exact runQueued taken

/-- The map loses no entry by these changes. -/
theorem entry (changed : webRtc.Changes next) {peerId : String}
    (held : (webRtc.peerConnections peerId).isSome = true) :
    (next.peerConnections peerId).isSome = true := by
  induction changed with
  | refl => exact held
  | tail _ change ih =>
      cases change with
      | addPeer other =>
          rw [addPeer_peerConnections, Function.update_apply]
          split
          · rfl
          · exact ih
      | _ => exact ih

end Changes

/-- No event removes an entry of the map. -/
theorem entry_of_step {library : RtcLibrary} {webRtc next : WebRTC} {event : Event}
    (taken : webRtc.step library event = some next) {peerId : String}
    (held : (webRtc.peerConnections peerId).isSome = true) :
    (next.peerConnections peerId).isSome = true := by
  by_cases isChunk : ∃ data now ok, event = .dataReady data now ok
  · obtain ⟨data, now, ok, rfl⟩ := isChunk
    cases taken
    obtain ⟨added, outcome, _⟩ := webRtc.dataReady_grows data now ok
    rw [outcome]
    exact held
  · push Not at isChunk
    exact (Changes.of_step isChunk taken).entry held

end WebRTC
end VoiceCall.Client
