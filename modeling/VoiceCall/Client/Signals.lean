import VoiceCall.Client.Reports

namespace VoiceCall.Client

/-- The window handles four signals. -/
def Observation.heard : Observation → Bool
  | .incommigCall _ | .acceptedReceived | .rejectReceived | .endReceived => true
  | _ => false

namespace WebRTC

variable {library : RtcLibrary} {webRtc next : WebRTC}

/-- The signals to the window that a later state has emitted. -/
def signals (webRtc next : WebRTC) : List Observation :=
  (webRtc.since next).filter Observation.heard

theorem signals_of_log {added : List Observation} (grown : next.log = webRtc.log ++ added) :
    webRtc.signals next = added.filter Observation.heard := by
  rw [signals, since_of_log grown]

/-- An answer is taken when it parses and the client still offers on the entry of its peer. -/
def takesAnswer (library : RtcLibrary) (webRtc : WebRTC) (peerID sdp : String) : Bool :=
  library.parses sdp .answer && webRtc.isOfferer &&
    (webRtc.peerConnections peerID).any fun id =>
      (webRtc.connections id).signaling = .haveLocalOffer &&
        library.accepts (webRtc.connections id) ⟨.answer, sdp⟩

/-- The signals to the window that an event emits. -/
def signalsOf (library : RtcLibrary) (webRtc : WebRTC) : Event → List Observation
  | .offerReceived peerID _ => [.incommigCall peerID]
  | .answerReceived peerID sdp =>
      if takesAnswer library webRtc peerID sdp then [.acceptedReceived] else []
  | .rejectedReceived _ => [.rejectReceived]
  | .runQueued _ _ => if webRtc.ending.isSome then [.endReceived] else []
  | _ => []

/-- A new connection refuses every answer, and an old one takes it when it offers. -/
theorem acceptFound_answer (webRtc : WebRTC) (peerID : String) {sdp : String}
    (parsed : library.parses sdp .answer = true) :
    ((webRtc.acceptFound peerID).setRemoteDescription library (webRtc.acceptTarget peerID)
      ⟨.answer, sdp⟩).isSome = takesAnswer library webRtc peerID sdp := by
  rcases webRtc.acceptReady_cases peerID with ⟨offering, entry, ready⟩ | ⟨replaces, target, ready⟩
  · rw [acceptFound, ready, takesAnswer, parsed, offering, entry, Option.any_some]
    cases accepted :
        library.accepts (webRtc.connections (webRtc.acceptTarget peerID)) ⟨.answer, sdp⟩ with
    | false => simp [PeerConnection.setRemoteDescription, accepted]
    | true =>
        by_cases waiting : (webRtc.connections (webRtc.acceptTarget peerID)).signaling =
            .haveLocalOffer
        · simp [PeerConnection.setRemoteDescription, accepted, waiting]
        · simp [PeerConnection.setRemoteDescription, accepted, waiting]
  · have refused : (PeerConnection.fresh peerID).setRemoteDescription library webRtc.created
        ⟨.answer, sdp⟩ = none := by
      simp [PeerConnection.setRemoteDescription, PeerConnection.fresh]
    rw [acceptFound, ready, target, addPeer_connections, Function.update_self, refused, takesAnswer]
    rcases replaces with absent | answering
    · simp [absent]
    · simp [answering]

/-- An answer is announced exactly when it is taken. -/
theorem answerReceived_signals (library : RtcLibrary) (webRtc : WebRTC) (peerID sdp : String) :
    webRtc.signals (settle (webRtc.answerReceived library peerID sdp)) =
      if takesAnswer library webRtc peerID sdp then [.acceptedReceived] else [] := by
  cases parsed : library.parses sdp .answer with
  | false =>
      have stored : settle (webRtc.answerReceived library peerID sdp) =
          webRtc.storeSdp peerID sdp := by
        simp [answerReceived, parsed, settle]
      simp [stored, signals, since, takesAnswer, parsed]
  | true =>
      -- The text that is stored first does not decide whether the answer is taken.
      have taken : _ = takesAnswer library webRtc peerID sdp :=
        acceptFound_answer (webRtc.storeSdp peerID sdp) peerID parsed
      have grown : ((webRtc.storeSdp peerID sdp).acceptCalled ⟨.answer, sdp⟩ peerID).log =
          webRtc.log ++ _ := (webRtc.storeSdp peerID sdp).acceptCalled_log _ _
      rcases (webRtc.storeSdp peerID sdp).acceptPeer_cases library ⟨.answer, sdp⟩ peerID with
        ⟨connection, applied, accepted⟩ | ⟨refused, threw⟩
      · rw [applied, Option.isSome_some] at taken
        have outcome : settle (webRtc.answerReceived library peerID sdp) =
            (((webRtc.storeSdp peerID sdp).acceptCalled ⟨.answer, sdp⟩ peerID).setConnection
              ((webRtc.storeSdp peerID sdp).acceptTarget peerID) connection).record
                .acceptedReceived := by
          simp [answerReceived, parsed, accepted, Except.map, settle]
        rw [← taken, outcome, signals_of_log (by
          rw [record_log, setConnection_log, grown, List.append_assoc])]
        rfl
      · rw [refused, Option.isSome_none] at taken
        have outcome : settle (webRtc.answerReceived library peerID sdp) =
            (webRtc.storeSdp peerID sdp).acceptCalled ⟨.answer, sdp⟩ peerID := by
          simp [answerReceived, parsed, threw, Except.map, settle]
        rw [← taken, outcome, signals_of_log grown]
        rfl

/-- An answer that is taken finds the entry of its peer and replaces none. -/
theorem answerReceived_entries {peerID sdp : String}
    (takes : takesAnswer library webRtc peerID sdp = true) :
    (settle (webRtc.answerReceived library peerID sdp)).peerConnections =
      webRtc.peerConnections := by
  simp only [takesAnswer, Bool.and_eq_true] at takes
  obtain ⟨⟨parsed, offering⟩, waiting⟩ := takes
  have entry : webRtc.peerConnections peerID ≠ none := by
    intro absent
    simp [absent] at waiting
  have ready : (webRtc.storeSdp peerID sdp).acceptReady peerID = webRtc.storeSdp peerID sdp := by
    unfold acceptReady
    rw [if_neg]
    simp [entry, offering]
  rcases (webRtc.storeSdp peerID sdp).acceptPeer_cases library ⟨.answer, sdp⟩ peerID with
    ⟨connection, _, outcome⟩ | ⟨_, outcome⟩
  · simp [answerReceived, parsed, outcome, Except.map, settle, acceptCalled, ready]
  · simp [answerReceived, parsed, outcome, Except.map, settle, acceptCalled, ready]

theorem acceptCall_signals (library : RtcLibrary) (webRtc : WebRTC) (name : String) :
    webRtc.signals (settle (webRtc.acceptCall library name)) = [] := by
  rcases webRtc.acceptCall_cases library name with outcome | ⟨sdp, _, _, outcome⟩
  · rw [outcome, signals_of_log (List.append_nil _).symm]
    rfl
  · rw [outcome, signals_of_log (acceptPeer_logs library webRtc _ name)]
    rfl

theorem runQueued_signals {deviceOpens sinkStarts : Bool}
    (ran : webRtc.runQueued deviceOpens sinkStarts = some next) :
    webRtc.signals next = if webRtc.ending.isSome then [.endReceived] else [] := by
  rcases runQueued_cases ran with ⟨id, rest, waiting, rfl⟩ | ⟨id, rest, waiting, rfl⟩
  · have notEnding : webRtc.ending = none := by simp [ending, waiting]
    obtain ⟨input, output, outcome⟩ :=
      { webRtc with queue := rest }.connectionReady_devices deviceOpens sinkStarts
    have grown : (({ webRtc with queue := rest }.connectionReady deviceOpens sinkStarts).record
        (.connectionReady id)).log = webRtc.log ++ [.connectionReady id] := by
      rw [outcome]
      rfl
    rw [signals_of_log grown, notEnding]
    rfl
  · have isEnding : webRtc.ending = some id := by simp [ending, waiting]
    have grown : ({ webRtc with queue := rest }.endConnection.record (.endConnection id)).log =
        webRtc.log ++ [.endReceived, .endConnection id] := by simp [endConnection]
    rw [signals_of_log grown, isEnding]
    rfl

/-- Each event emits its own signals and no others. -/
theorem step_signals {event : Event} (taken : webRtc.step library event = some next) :
    webRtc.signals next = signalsOf library webRtc event := by
  have silent (same : next.log = webRtc.log) : webRtc.signals next = [] :=
    signals_of_log (same.trans (List.append_nil _).symm)
  have said (observation : Observation) (grown : next.log = webRtc.log ++ [observation]) :
      webRtc.signals next = [observation].filter Observation.heard := signals_of_log grown
  cases event with
  | startCall targetName =>
      cases taken
      exact said (.startCall targetName) (by rw [startCall_eq]; rfl)
  | registerName username =>
      cases taken
      exact said _ rfl
  | endCall name =>
      obtain ⟨id, _, closed⟩ := Option.map_eq_some_iff.mp taken
      subst closed
      exact said _ rfl
  | acceptCall name =>
      cases taken
      exact acceptCall_signals library webRtc name
  | rejectCall name =>
      cases taken
      exact said _ rfl
  | offerReceived peerID sdp =>
      cases taken
      exact said _ rfl
  | answerReceived peerID sdp =>
      cases taken
      exact answerReceived_signals library webRtc peerID sdp
  | rejectedReceived peerID =>
      cases taken
      exact said _ rfl
  | setRemoteCandidate peerID =>
      cases taken
      refine silent ?_
      unfold setRemoteCandidate
      split <;> rfl
  | dataReady data now sendSucceeds =>
      cases taken
      obtain ⟨added, outcome, sends⟩ := webRtc.dataReady_grows data now sendSucceeds
      rw [outcome, signals_of_log (by rfl)]
      refine List.filter_eq_nil_iff.mpr fun observation member => ?_
      obtain ⟨_, _, rfl⟩ := sends observation member
      simp [Observation.heard]
  | gatheringComplete id =>
      obtain ⟨_, rfl | ⟨observation, describes, rfl⟩⟩ := gatheringComplete_cases taken
      · exact silent rfl
      · cases observation with
        | offerIsReady _ _ _ | answerIsReady _ _ _ => exact said _ rfl
        | _ => cases describes
  | stateChanged id state =>
      obtain ⟨_, slots, rfl⟩ := stateChanged_cases taken
      exact silent rfl
  | remoteTrack id =>
      obtain ⟨_, set⟩ := Option.ite_none_right_eq_some.mp taken
      cases set
      exact silent rfl
  | message track data =>
      obtain ⟨_, output, _, rfl⟩ := message_cases taken
      exact silent rfl
  | runQueued deviceOpens sinkStarts => exact runQueued_signals taken

end WebRTC
end VoiceCall.Client
