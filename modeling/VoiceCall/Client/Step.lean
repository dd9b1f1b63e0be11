import VoiceCall.Client.WebRTC
import VoiceCall.Foundation.Machine

namespace VoiceCall.Client

open Foundation

/-- An event is a user operation, a slot call, a callback of the library or a turn of the loop. -/
inductive Event where
  | startCall (targetName : String)
  | registerName (username : String)
  | endCall (name : String)
  | acceptCall (name : String)
  | rejectCall (name : String)
  | offerReceived (peerID sdp : String)
  | answerReceived (peerID sdp : String)
  | rejectedReceived (peerID : String)
  | setRemoteCandidate (peerID : String)
  | dataReady (data : List UInt8) (now : UInt32) (sendSucceeds : Bool)
  | gatheringComplete (id : ConnectionId)
  | stateChanged (id : ConnectionId) (state : ConnectionState)
  | remoteTrack (id : ConnectionId)
  | message (track : TrackId) (data : List UInt8)
  | runQueued (deviceOpens sinkStarts : Bool)
deriving DecidableEq, Repr

/-- An exception leaves the client in the state it carries. -/
def settle : Except WebRTC WebRTC → WebRTC
  | .ok webRtc => webRtc
  | .error webRtc => webRtc

namespace WebRTC

/-- A connection gathers from its first local description until its callback has run. -/
def Gathering (webRtc : WebRTC) (id : ConnectionId) : Prop :=
  id < webRtc.created ∧ (webRtc.connections id).gathering = .inProgress ∧
    (webRtc.connections id).state ≠ .closed

instance (webRtc : WebRTC) (id : ConnectionId) : Decidable (webRtc.Gathering id) :=
  inferInstanceAs (Decidable (_ ∧ _ ∧ _))

/-- The library delivers a track for an offer that an open connection has taken. -/
def MayDeliverTrack (webRtc : WebRTC) (id : ConnectionId) : Prop :=
  id < webRtc.created ∧ (webRtc.connections id).state ≠ .closed ∧
    (webRtc.connections id).remoteDescription.any (fun remote => remote.type = .offer) = true

instance (webRtc : WebRTC) (id : ConnectionId) : Decidable (webRtc.MayDeliverTrack id) :=
  inferInstanceAs (Decidable (_ ∧ _ ∧ _))

def gathered (webRtc : WebRTC) (id : ConnectionId) : WebRTC :=
  webRtc.setConnection id { webRtc.connections id with gathering := .complete }

/-- The result `none` is a refused event or the end of the process. -/
def step (library : RtcLibrary) (webRtc : WebRTC) : Event → Option WebRTC
  | .startCall targetName => some (webRtc.startCall library targetName)
  | .registerName username => some (webRtc.registerName username)
  | .endCall name => webRtc.endCall name
  | .acceptCall name => some (settle (webRtc.acceptCall library name))
  | .rejectCall name => some (webRtc.rejectCall name)
  | .offerReceived peerID sdp => some (webRtc.offerReceived peerID sdp)
  | .answerReceived peerID sdp => some (settle (webRtc.answerReceived library peerID sdp))
  | .rejectedReceived peerID => some (webRtc.rejectedReceived peerID)
  | .setRemoteCandidate peerID => some (webRtc.setRemoteCandidate peerID)
  | .dataReady data now sendSucceeds => some (webRtc.dataReady data now sendSucceeds)
  | .gatheringComplete id =>
      if webRtc.Gathering id then
        (webRtc.gathered id).onGatheringComplete (webRtc.connections id).peerId
      else none
  | .stateChanged id state =>
      if id < webRtc.created ∧ (webRtc.connections id).MayChange state then
        some ((webRtc.setConnection id ((webRtc.connections id).changeState state)).onStateChange
          id state)
      else none
  | .remoteTrack id => if webRtc.MayDeliverTrack id then some (webRtc.setTrack id) else none
  | .message track data =>
      if track < webRtc.tracks ∧ webRtc.trackIsOpen track = true then webRtc.onMessage data
      else none
  | .runQueued deviceOpens sinkStarts => webRtc.runQueued deviceOpens sinkStarts

/-- The constructor does not set the playback pointer, so a client starts with any value of it. -/
def machine (library : RtcLibrary) : Machine WebRTC Event where
  initial webRtc := ∃ wild, webRtc = initial wild
  step := step library

/-- The observations that a later state adds to the log. -/
def since (webRtc next : WebRTC) : List Observation := next.log.drop webRtc.log.length

theorem since_of_log {webRtc next : WebRTC} {added : List Observation}
    (grown : next.log = webRtc.log ++ added) : webRtc.since next = added := by
  rw [since, grown, List.drop_left]

variable {library : RtcLibrary} {webRtc next : WebRTC}

/-- A call puts one offering connection and its track in the place of the peer's old one. -/
theorem startCall_eq (targetName : String) :
    webRtc.startCall library targetName =
      ((((webRtc.record (.startCall targetName)).setIsOfferer true).addPeer targetName).setTrack
        webRtc.created).setConnection webRtc.created
          ((PeerConnection.fresh targetName).setLocalOffer library webRtc.created) := by
  simp [startCall, addAudioTrack, generateOfferSDP, addPeer, setTrack, record, setIsOfferer]

/-- A replaced connection is asked to close. -/
theorem released_held {peerId : String} {id : ConnectionId}
    (held : webRtc.peerConnections peerId = some id) :
    webRtc.released peerId id = (webRtc.connections id).close := by
  simp [released, held]

/-- A connection that is not the entry of the name is left alone. -/
theorem released_of_ne {peerId : String} {id : ConnectionId}
    (other : webRtc.peerConnections peerId ≠ some id) :
    webRtc.released peerId id = webRtc.connections id := by
  cases entry : webRtc.peerConnections peerId with
  | none => simp [released, entry]
  | some held =>
      have different : id ≠ held := by
        rintro rfl
        exact other entry
      simp [released, entry, different]

/-- The drop of a connection touches no more than its request to close. -/
theorem released_keeps (webRtc : WebRTC) (peerId : String) (id : ConnectionId) :
    ∃ closing, webRtc.released peerId id =
      { webRtc.connections id with closing := closing } := by
  by_cases held : webRtc.peerConnections peerId = some id
  · exact ⟨true, released_held held⟩
  · exact ⟨_, released_of_ne held⟩

/-- An older connection outlasts the creation of a new one, apart from its request to close. -/
theorem addPeer_older {id : ConnectionId} (older : id ≠ webRtc.created) (peerId : String) :
    ∃ closing, (webRtc.addPeer peerId).connections id =
      { webRtc.connections id with closing := closing } := by
  rw [addPeer_connections, Function.update_of_ne older]
  exact webRtc.released_keeps peerId id

theorem startCall_older (library : RtcLibrary) {id : ConnectionId} (older : id ≠ webRtc.created)
    (targetName : String) :
    ∃ closing, (webRtc.startCall library targetName).connections id =
      { webRtc.connections id with closing := closing } := by
  rw [startCall_eq, setConnection_connections, Function.update_of_ne older]
  exact addPeer_older older targetName

theorem registerName_older {id : ConnectionId} (older : id ≠ webRtc.created) (username : String) :
    ∃ closing, (webRtc.registerName username).connections id =
      { webRtc.connections id with closing := closing } :=
  addPeer_older older username

/-- The connection that `acceptPeer` uses is the peer's own, or the next one to be created. -/
def acceptTarget (webRtc : WebRTC) (peerId : String) : ConnectionId :=
  match webRtc.peerConnections peerId with
  | some id => if webRtc.isOfferer then id else webRtc.created
  | none => webRtc.created

/-- Either an offering client keeps the peer's connection, or a new one takes its place. -/
theorem acceptReady_cases (webRtc : WebRTC) (peerId : String) :
    (webRtc.isOfferer = true ∧ webRtc.peerConnections peerId = some (webRtc.acceptTarget peerId) ∧
        webRtc.acceptReady peerId = webRtc) ∨
      ((webRtc.peerConnections peerId = none ∨ webRtc.isOfferer = false) ∧
        webRtc.acceptTarget peerId = webRtc.created ∧
        webRtc.acceptReady peerId = webRtc.addPeer peerId) := by
  cases found : webRtc.peerConnections peerId with
  | none =>
      right
      simp [acceptTarget, acceptReady, found]
  | some id =>
      cases offering : webRtc.isOfferer with
      | true =>
          left
          simp [acceptTarget, acceptReady, found, offering]
      | false =>
          right
          simp [acceptTarget, acceptReady, found, offering]

theorem acceptReady_entry (webRtc : WebRTC) (peerId : String) :
    (webRtc.acceptReady peerId).peerConnections peerId = some (webRtc.acceptTarget peerId) := by
  rcases webRtc.acceptReady_cases peerId with ⟨_, entry, ready⟩ | ⟨_, target, ready⟩
  · rw [ready, entry]
  · rw [ready, target]
    simp [addPeer]

/-- Only the map and the connections change before the library is called. -/
theorem acceptReady_keeps (webRtc : WebRTC) (peerId : String) :
    (webRtc.acceptReady peerId).isOfferer = webRtc.isOfferer ∧
      (webRtc.acceptReady peerId).log = webRtc.log ∧
      (webRtc.acceptReady peerId).queue = webRtc.queue ∧
      (webRtc.acceptReady peerId).peerTrack = webRtc.peerTrack ∧
      (webRtc.acceptReady peerId).trackOwner = webRtc.trackOwner := by
  unfold acceptReady
  split
  · exact ⟨rfl, rfl, rfl, rfl, rfl⟩
  · exact ⟨rfl, rfl, rfl, rfl, rfl⟩

theorem acceptReady_isOfferer (webRtc : WebRTC) (peerId : String) :
    (webRtc.acceptReady peerId).isOfferer = webRtc.isOfferer := (webRtc.acceptReady_keeps peerId).1

theorem acceptReady_connections {id : ConnectionId} (inside : id < webRtc.created)
    (peerId : String) : ∃ closing, (webRtc.acceptReady peerId).connections id =
      { webRtc.connections id with closing := closing } := by
  unfold acceptReady
  split
  · exact addPeer_older inside.ne peerId
  · exact ⟨_, rfl⟩

/-- The state in which `acceptPeer` calls the library. -/
def acceptCalled (webRtc : WebRTC) (description : Description) (peerId : String) : WebRTC :=
  (webRtc.acceptReady peerId).record
    (.setRemoteDescription peerId (webRtc.acceptTarget peerId) description)

theorem acceptCalled_log (webRtc : WebRTC) (description : Description) (peerId : String) :
    (webRtc.acceptCalled description peerId).log =
      webRtc.log ++ [.setRemoteDescription peerId (webRtc.acceptTarget peerId) description] := by
  rw [acceptCalled, record_log, (webRtc.acceptReady_keeps peerId).2.1]

theorem acceptCalled_peerSdps (webRtc : WebRTC) (description : Description) (peerId : String) :
    (webRtc.acceptCalled description peerId).peerSdps = webRtc.peerSdps := by
  rw [acceptCalled, record_peerSdps, acceptReady]
  split <;> rfl

/-- The connection on which the library is called, as the call finds it. -/
def acceptFound (webRtc : WebRTC) (peerId : String) : PeerConnection :=
  (webRtc.acceptReady peerId).connections (webRtc.acceptTarget peerId)

/-- The library is called once, on the connection that is then in the map. -/
theorem acceptPeer_cases (library : RtcLibrary) (webRtc : WebRTC) (description : Description)
    (peerId : String) :
    (∃ connection,
        (webRtc.acceptFound peerId).setRemoteDescription library (webRtc.acceptTarget peerId)
          description = some connection ∧
        webRtc.acceptPeer library description peerId =
          .ok ((webRtc.acceptCalled description peerId).setConnection
            (webRtc.acceptTarget peerId) connection)) ∨
      ((webRtc.acceptFound peerId).setRemoteDescription library (webRtc.acceptTarget peerId)
          description = none ∧
        webRtc.acceptPeer library description peerId =
          .error (webRtc.acceptCalled description peerId)) := by
  simp only [acceptPeer, acceptReady_entry, acceptFound]
  cases ((webRtc.acceptReady peerId).connections (webRtc.acceptTarget peerId)).setRemoteDescription
      library (webRtc.acceptTarget peerId) description with
  | some connection => exact .inl ⟨connection, rfl, rfl⟩
  | none => exact .inr ⟨rfl, rfl⟩

/-- An exception or none, the call changes one connection at most. -/
theorem acceptPeer_settle (library : RtcLibrary) (webRtc : WebRTC) (description : Description)
    (peerId : String) :
    ∃ connection, settle (webRtc.acceptPeer library description peerId) =
      (webRtc.acceptCalled description peerId).setConnection (webRtc.acceptTarget peerId)
        connection := by
  rcases webRtc.acceptPeer_cases library description peerId with
    ⟨connection, _, outcome⟩ | ⟨_, outcome⟩
  · exact ⟨connection, by rw [outcome]; rfl⟩
  · refine ⟨webRtc.acceptFound peerId, ?_⟩
    have same : (webRtc.acceptCalled description peerId).connections (webRtc.acceptTarget peerId) =
        webRtc.acceptFound peerId := rfl
    rw [outcome, setConnection, ← same, Function.update_eq_self]
    rfl

/-- A chunk is sent exactly when the client offers and its one track is open. -/
theorem dataReady_cases (webRtc : WebRTC) (data : List UInt8) (now : UInt32)
    (sendSucceeds : Bool) :
    (∃ track, webRtc.isOfferer = true ∧ webRtc.peerTrack = some track ∧
        webRtc.trackIsOpen track = true ∧
        webRtc.dataReady data now sendSucceeds =
          webRtc.count.record (.send track (webRtc.count.packet data now) sendSucceeds)) ∨
      ((webRtc.isOfferer = true → ∀ track, webRtc.peerTrack = some track →
          webRtc.trackIsOpen track = false) ∧
        webRtc.dataReady data now sendSucceeds = webRtc.count) := by
  unfold dataReady
  cases webRtc.isOfferer with
  | false => exact .inr ⟨by simp, rfl⟩
  | true =>
      cases webRtc.peerTrack with
      | none => exact .inr ⟨by simp, rfl⟩
      | some track =>
          cases isOpen : webRtc.trackIsOpen track with
          | true => exact .inl ⟨track, rfl, rfl, isOpen, by simp [isOpen]⟩
          | false => exact .inr ⟨by simp [isOpen], by simp [isOpen]⟩

/-- Whatever becomes of a chunk, the counter advances and the log tells of a packet at most. -/
theorem dataReady_grows (webRtc : WebRTC) (data : List UInt8) (now : UInt32)
    (sendSucceeds : Bool) :
    ∃ added, webRtc.dataReady data now sendSucceeds =
        { webRtc.count with log := webRtc.log ++ added } ∧
      ∀ observation ∈ added, ∃ track packet, observation = .send track packet sendSucceeds := by
  rcases webRtc.dataReady_cases data now sendSucceeds with ⟨track, _, _, _, sent⟩ | ⟨_, unsent⟩
  · refine ⟨_, sent, ?_⟩
    intro observation member
    exact ⟨track, _, List.mem_singleton.mp member⟩
  · refine ⟨[], ?_, by simp⟩
    rw [unsent, List.append_nil]
    rfl

/-- A state change touches nothing but the queue. -/
theorem onStateChange_queue (webRtc : WebRTC) (id : ConnectionId) (state : ConnectionState) :
    ∃ slots, webRtc.onStateChange id state = { webRtc with queue := slots } := by
  unfold onStateChange
  split
  · exact ⟨_, rfl⟩
  · exact ⟨_, rfl⟩
  · exact ⟨webRtc.queue, rfl⟩

/-- A reported state goes into its connection, and at most a slot is queued. -/
theorem stateChanged_cases {id : ConnectionId} {state : ConnectionState}
    (taken : webRtc.step library (.stateChanged id state) = some next) :
    (id < webRtc.created ∧ (webRtc.connections id).MayChange state) ∧
      ∃ slots, next = { webRtc.setConnection id ((webRtc.connections id).changeState state) with
        queue := slots } := by
  obtain ⟨allowed, changed⟩ := Option.ite_none_right_eq_some.mp taken
  cases changed
  exact ⟨allowed, (webRtc.setConnection id
    ((webRtc.connections id).changeState state)).onStateChange_queue id state⟩

/-- A message that arrives is handed to the playback side. -/
theorem message_cases {track : TrackId} {data : List UInt8}
    (taken : webRtc.step library (.message track data) = some next) :
    (track < webRtc.tracks ∧ webRtc.trackIsOpen track = true) ∧
      ∃ output, webRtc.audioOutput.receivedData data = some output ∧
        next = { webRtc with audioOutput := output } := by
  obtain ⟨allowed, ran⟩ := Option.ite_none_right_eq_some.mp taken
  obtain ⟨output, wrote, played⟩ := Option.map_eq_some_iff.mp ran
  exact ⟨allowed, output, wrote, played.symm⟩

/-- A connection that becomes ready touches nothing but the two devices. -/
theorem connectionReady_devices (webRtc : WebRTC) (deviceOpens sinkStarts : Bool) :
    ∃ input output, webRtc.connectionReady deviceOpens sinkStarts =
      { webRtc with audioInput := input, audioOutput := output } := by
  unfold connectionReady
  split
  · exact ⟨_, webRtc.audioOutput, rfl⟩
  · exact ⟨webRtc.audioInput, _, rfl⟩

/-- A turn of the loop runs the first slot and records whose it was. -/
theorem runQueued_cases {deviceOpens sinkStarts : Bool}
    (ran : webRtc.runQueued deviceOpens sinkStarts = some next) :
    (∃ id rest, webRtc.queue = .connectionReady id :: rest ∧
        next = ({ webRtc with queue := rest }.connectionReady deviceOpens sinkStarts).record
          (.connectionReady id)) ∨
      ∃ id rest, webRtc.queue = .endConnection id :: rest ∧
        next = { webRtc with queue := rest }.endConnection.record (.endConnection id) := by
  unfold runQueued at ran
  split at ran
  · cases ran
  · next id rest waiting => exact .inl ⟨id, rest, waiting, (Option.some.inj ran).symm⟩
  · next id rest waiting => exact .inr ⟨id, rest, waiting, (Option.some.inj ran).symm⟩

/-- An accept that does anything applies the stored text of the name as an offer. -/
theorem acceptCall_cases (library : RtcLibrary) (webRtc : WebRTC) (name : String) :
    settle (webRtc.acceptCall library name) = webRtc ∨
      ∃ sdp, webRtc.peerSdps name = some sdp ∧ library.parses sdp .offer = true ∧
        settle (webRtc.acceptCall library name) =
          settle (webRtc.acceptPeer library ⟨.offer, sdp⟩ name) := by
  unfold acceptCall
  cases webRtc.peerSdps name with
  | none => exact .inl rfl
  | some sdp =>
      cases parsed : library.parses sdp .offer with
      | false =>
          left
          simp [parsed, settle]
      | true =>
          right
          exact ⟨sdp, rfl, parsed, by simp [parsed]⟩

/-- An answer is stored first, and only an applied one is announced. -/
theorem answerReceived_cases (library : RtcLibrary) (webRtc : WebRTC) (peerID sdp : String) :
    (library.parses sdp .answer = false ∧
        settle (webRtc.answerReceived library peerID sdp) = webRtc.storeSdp peerID sdp) ∨
      (library.parses sdp .answer = true ∧
        ((∃ accepted,
            (webRtc.storeSdp peerID sdp).acceptPeer library ⟨.answer, sdp⟩ peerID =
              .ok accepted ∧
            settle (webRtc.answerReceived library peerID sdp) =
              accepted.record .acceptedReceived) ∨
          ∃ failed,
            (webRtc.storeSdp peerID sdp).acceptPeer library ⟨.answer, sdp⟩ peerID =
              .error failed ∧
            settle (webRtc.answerReceived library peerID sdp) = failed)) := by
  unfold answerReceived
  cases parsed : library.parses sdp .answer with
  | false =>
      left
      exact ⟨rfl, by simp [settle]⟩
  | true =>
      right
      refine ⟨rfl, ?_⟩
      simp only [if_true]
      cases (webRtc.storeSdp peerID sdp).acceptPeer library ⟨.answer, sdp⟩ peerID with
      | ok accepted => exact .inl ⟨accepted, rfl, rfl⟩
      | error failed => exact .inr ⟨failed, rfl, rfl⟩

/-- An answer leaves the client as `acceptPeer` does, up to the announcement. -/
theorem answerReceived_outcome (library : RtcLibrary) (webRtc : WebRTC) (peerID sdp : String) :
    (library.parses sdp .answer = false ∧
        settle (webRtc.answerReceived library peerID sdp) = webRtc.storeSdp peerID sdp) ∨
      (library.parses sdp .answer = true ∧
        (settle (webRtc.answerReceived library peerID sdp) =
            settle ((webRtc.storeSdp peerID sdp).acceptPeer library ⟨.answer, sdp⟩ peerID) ∨
          settle (webRtc.answerReceived library peerID sdp) =
            (settle ((webRtc.storeSdp peerID sdp).acceptPeer library ⟨.answer, sdp⟩
              peerID)).record .acceptedReceived)) := by
  rcases webRtc.answerReceived_cases library peerID sdp with
    unparsed | ⟨parsed, ⟨accepted, applied, outcome⟩ | ⟨failed, applied, outcome⟩⟩
  · exact .inl unparsed
  · exact .inr ⟨parsed, .inr (by rw [outcome, applied]; rfl)⟩
  · exact .inr ⟨parsed, .inl (by rw [outcome, applied]; rfl)⟩

end WebRTC
end VoiceCall.Client
