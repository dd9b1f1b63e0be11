import VoiceCall.Client.Step

namespace VoiceCall.Client

/-- The connection that an observation names. -/
def Observation.connection : Observation → Option ConnectionId
  | .offerIsReady _ _ source => some source
  | .answerIsReady _ _ source => some source
  | .setRemoteDescription _ target _ => some target
  | .connectionReady connection => some connection
  | .endConnection connection => some connection
  | _ => none

def QueuedSlot.connection : QueuedSlot → ConnectionId
  | .connectionReady connection => connection
  | .endConnection connection => connection

namespace WebRTC

/-- Every identifier that the client, its queue and its log hold has been created,
and the map holds each connection under the name that its callbacks captured. -/
structure Sound (webRtc : WebRTC) : Prop where
  entry : ∀ peerId id, webRtc.peerConnections peerId = some id →
    id < webRtc.created ∧ (webRtc.connections id).peerId = peerId
  track : ∀ track, webRtc.peerTrack = some track → track < webRtc.tracks
  owner : ∀ track < webRtc.tracks, webRtc.trackOwner track < webRtc.created
  logged : ∀ observation ∈ webRtc.log, ∀ id ∈ observation.connection, id < webRtc.created
  queued : ∀ slot ∈ webRtc.queue, slot.connection < webRtc.created

namespace Sound

variable {library : RtcLibrary} {webRtc : WebRTC}

theorem initial (wild : Bool) : (WebRTC.initial wild).Sound := by
  constructor <;> simp

theorem record (sound : webRtc.Sound) {observation : Observation}
    (named : ∀ id ∈ observation.connection, id < webRtc.created) :
    (webRtc.record observation).Sound := by
  refine ⟨sound.entry, sound.track, sound.owner, ?_, sound.queued⟩
  intro other member
  rcases List.mem_append.mp member with old | new
  · exact sound.logged other old
  · rw [List.mem_singleton.mp new]
    exact named

theorem setIsOfferer (sound : webRtc.Sound) (newIsOfferer : Bool) :
    (webRtc.setIsOfferer newIsOfferer).Sound :=
  ⟨sound.entry, sound.track, sound.owner, sound.logged, sound.queued⟩

theorem storeSdp (sound : webRtc.Sound) (peerID sdp : String) :
    (webRtc.storeSdp peerID sdp).Sound :=
  ⟨sound.entry, sound.track, sound.owner, sound.logged, sound.queued⟩

theorem setConnection (sound : webRtc.Sound) {id : ConnectionId} {connection : PeerConnection}
    (sameName : connection.peerId = (webRtc.connections id).peerId) :
    (webRtc.setConnection id connection).Sound := by
  refine ⟨?_, sound.track, sound.owner, sound.logged, sound.queued⟩
  intro peerId other entry
  refine ⟨(sound.entry peerId other entry).1, ?_⟩
  by_cases same : other = id
  · subst same
    rw [setConnection_connections, Function.update_self, sameName]
    exact (sound.entry peerId other entry).2
  · rw [setConnection_connections, Function.update_of_ne same]
    exact (sound.entry peerId other entry).2

theorem addPeer (sound : webRtc.Sound) (peerId : String) : (webRtc.addPeer peerId).Sound := by
  constructor
  · intro query id entry
    by_cases same : query = peerId
    · subst same
      rw [addPeer_peerConnections, Function.update_self] at entry
      rw [← Option.some.inj entry, addPeer_connections, Function.update_self]
      exact ⟨Nat.lt_succ_self _, rfl⟩
    · rw [addPeer_peerConnections, Function.update_of_ne same] at entry
      have older := sound.entry query id entry
      obtain ⟨closing, kept⟩ := addPeer_older older.1.ne peerId
      rw [kept]
      exact ⟨Nat.lt_succ_of_lt older.1, older.2⟩
  · exact sound.track
  · intro track inside
    exact Nat.lt_succ_of_lt (sound.owner track inside)
  · intro observation member id named
    exact Nat.lt_succ_of_lt (sound.logged observation member id named)
  · intro slot member
    exact Nat.lt_succ_of_lt (sound.queued slot member)

theorem setTrack (sound : webRtc.Sound) {owner : ConnectionId} (inside : owner < webRtc.created) :
    (webRtc.setTrack owner).Sound := by
  refine ⟨sound.entry, ?_, ?_, sound.logged, sound.queued⟩
  · intro track current
    have isLast : webRtc.tracks = track := Option.some.inj current
    rw [← isLast]
    exact Nat.lt_succ_self _
  · intro track below
    by_cases isLast : track = webRtc.tracks
    · subst isLast
      rw [setTrack_trackOwner, Function.update_self]
      exact inside
    · rw [setTrack_trackOwner, Function.update_of_ne isLast]
      rw [setTrack_tracks] at below
      exact sound.owner track (by omega)

theorem startCall (sound : webRtc.Sound) (targetName : String) :
    (webRtc.startCall library targetName).Sound := by
  rw [startCall_eq]
  have recorded : (webRtc.record (.startCall targetName)).Sound := sound.record (by simp
    [Observation.connection])
  have added := (recorded.setIsOfferer true).addPeer targetName
  refine (added.setTrack (Nat.lt_succ_self _)).setConnection ?_
  simp [PeerConnection.setLocalOffer]

theorem acceptReady (sound : webRtc.Sound) (peerId : String) :
    (webRtc.acceptReady peerId).Sound := by
  rcases webRtc.acceptReady_cases peerId with ⟨_, _, ready⟩ | ⟨_, _, ready⟩
  · rwa [ready]
  · rw [ready]
    exact sound.addPeer peerId

theorem acceptCalled (sound : webRtc.Sound) (description : Description) (peerId : String) :
    (webRtc.acceptCalled description peerId).Sound := by
  refine (sound.acceptReady peerId).record ?_
  intro id named
  rw [← Option.some.inj named]
  exact ((sound.acceptReady peerId).entry peerId _ (webRtc.acceptReady_entry peerId)).1

theorem acceptPeer (library : RtcLibrary) (sound : webRtc.Sound) (description : Description)
    (peerId : String) :
    (settle (webRtc.acceptPeer library description peerId)).Sound := by
  rcases webRtc.acceptPeer_cases library description peerId with
    ⟨connection, applied, outcome⟩ | ⟨_, outcome⟩
  · rw [outcome]
    exact (sound.acceptCalled description peerId).setConnection
      (PeerConnection.setRemoteDescription_keeps applied).2.1
  · rw [outcome]
    exact sound.acceptCalled description peerId

theorem acceptCall (sound : webRtc.Sound) (name : String) :
    (settle (webRtc.acceptCall library name)).Sound := by
  rcases webRtc.acceptCall_cases library name with outcome | ⟨sdp, _, _, outcome⟩
  · rwa [outcome]
  · rw [outcome]
    exact sound.acceptPeer library _ name

theorem answerReceived (sound : webRtc.Sound) (peerID sdp : String) :
    (settle (webRtc.answerReceived library peerID sdp)).Sound := by
  have stored := sound.storeSdp peerID sdp
  have accepted := stored.acceptPeer library ⟨.answer, sdp⟩ peerID
  rcases webRtc.answerReceived_outcome library peerID sdp with
    ⟨_, outcome⟩ | ⟨_, outcome | outcome⟩
  · rwa [outcome]
  · rwa [outcome]
  · rw [outcome]
    exact accepted.record (by simp [Observation.connection])

theorem registerName (sound : webRtc.Sound) (username : String) :
    (webRtc.registerName username).Sound :=
  ((sound.setIsOfferer false).addPeer username).record (by simp [Observation.connection])

theorem offerReceived (sound : webRtc.Sound) (peerID sdp : String) :
    (webRtc.offerReceived peerID sdp).Sound :=
  ((sound.storeSdp peerID sdp).setIsOfferer false).record (by simp [Observation.connection])

theorem setRemoteCandidate (sound : webRtc.Sound) (peerID : String) :
    (webRtc.setRemoteCandidate peerID).Sound := by
  unfold WebRTC.setRemoteCandidate
  split
  · exact sound
  · exact sound.addPeer peerID

theorem dataReady (sound : webRtc.Sound) (data : List UInt8) (now : UInt32)
    (sendSucceeds : Bool) : (webRtc.dataReady data now sendSucceeds).Sound := by
  have counted : webRtc.count.Sound :=
    ⟨sound.entry, sound.track, sound.owner, sound.logged, sound.queued⟩
  rcases webRtc.dataReady_cases data now sendSucceeds with ⟨_, _, _, _, sent⟩ | ⟨_, unsent⟩
  · rw [sent]
    exact counted.record (by simp [Observation.connection])
  · rwa [unsent]

theorem onGatheringComplete (sound : webRtc.Sound) {peerId : String} {next : WebRTC}
    (ran : webRtc.onGatheringComplete peerId = some next) : next.Sound := by
  obtain ⟨source, entry, emitted⟩ := Option.map_eq_some_iff.mp ran
  have inside := (sound.entry peerId source entry).1
  subst emitted
  split
  · exact sound
  · split
    · exact sound.record (by simpa [Observation.connection] using inside)
    · exact sound.record (by simpa [Observation.connection] using inside)

theorem onStateChange (sound : webRtc.Sound) {id : ConnectionId} (inside : id < webRtc.created)
    (state : ConnectionState) : (webRtc.onStateChange id state).Sound := by
  have queued (slot : QueuedSlot) (named : slot.connection = id) :
      ({ webRtc with queue := webRtc.queue ++ [slot] } : WebRTC).Sound := by
    refine ⟨sound.entry, sound.track, sound.owner, sound.logged, ?_⟩
    intro other member
    rcases List.mem_append.mp member with old | new
    · exact sound.queued other old
    · rw [List.mem_singleton.mp new, named]
      exact inside
  unfold WebRTC.onStateChange
  split
  · exact queued _ rfl
  · exact queued _ rfl
  · exact sound

theorem runQueued (sound : webRtc.Sound) {deviceOpens sinkStarts : Bool} {next : WebRTC}
    (ran : webRtc.runQueued deviceOpens sinkStarts = some next) : next.Sound := by
  have queued := sound.queued
  rcases runQueued_cases ran with ⟨id, rest, waiting, rfl⟩ | ⟨id, rest, waiting, rfl⟩
  · rw [waiting, List.forall_mem_cons] at queued
    obtain ⟨input, output, outcome⟩ :=
      { webRtc with queue := rest }.connectionReady_devices deviceOpens sinkStarts
    have ready : { webRtc with
        queue := rest, audioInput := input, audioOutput := output }.Sound :=
      ⟨sound.entry, sound.track, sound.owner, sound.logged, queued.2⟩
    rw [outcome]
    refine ready.record ?_
    intro other named
    rw [← Option.some.inj named]
    exact queued.1
  · rw [waiting, List.forall_mem_cons] at queued
    have ended : ({ webRtc with queue := rest }.endConnection).Sound := by
      refine Sound.record ?_ (by simp [Observation.connection])
      exact ⟨sound.entry, sound.track, sound.owner, sound.logged, queued.2⟩
    refine ended.record ?_
    intro other named
    rw [← Option.some.inj named]
    exact queued.1

/-- Every step keeps the identifiers within the created ones. -/
theorem step (sound : webRtc.Sound) {event : Event} {next : WebRTC}
    (taken : webRtc.step library event = some next) : next.Sound := by
  cases event with
  | startCall targetName =>
      cases taken
      exact sound.startCall targetName
  | registerName username =>
      cases taken
      exact sound.registerName username
  | endCall name =>
      obtain ⟨id, _, closed⟩ := Option.map_eq_some_iff.mp taken
      subst closed
      exact (sound.record (by simp [Observation.connection])).setConnection rfl
  | acceptCall name =>
      cases taken
      exact sound.acceptCall name
  | rejectCall name =>
      cases taken
      exact sound.record (by simp [Observation.connection])
  | offerReceived peerID sdp =>
      cases taken
      exact sound.offerReceived peerID sdp
  | answerReceived peerID sdp =>
      cases taken
      exact sound.answerReceived peerID sdp
  | rejectedReceived peerID =>
      cases taken
      exact sound.record (by simp [Observation.connection])
  | setRemoteCandidate peerID =>
      cases taken
      exact sound.setRemoteCandidate peerID
  | dataReady data now sendSucceeds =>
      cases taken
      exact sound.dataReady data now sendSucceeds
  | gatheringComplete id =>
      obtain ⟨_, ran⟩ := Option.ite_none_right_eq_some.mp taken
      exact (sound.setConnection (by rfl)).onGatheringComplete ran
  | stateChanged id state =>
      obtain ⟨⟨inside, _⟩, changed⟩ := Option.ite_none_right_eq_some.mp taken
      cases changed
      exact (sound.setConnection (by rfl)).onStateChange inside state
  | remoteTrack id =>
      obtain ⟨delivers, set⟩ := Option.ite_none_right_eq_some.mp taken
      cases set
      exact sound.setTrack delivers.1
  | message track data =>
      obtain ⟨_, output, _, rfl⟩ := message_cases taken
      exact ⟨sound.entry, sound.track, sound.owner, sound.logged, sound.queued⟩
  | runQueued deviceOpens sinkStarts => exact sound.runQueued taken

end Sound

/-- Every reachable client is sound. -/
theorem sound_of_reachable {library : RtcLibrary} {webRtc : WebRTC}
    (reached : (machine library).Reachable webRtc) : webRtc.Sound := by
  refine reached.invariant ?_ fun _ _ _ sound _ taken => sound.step taken
  intro state start
  obtain ⟨wild, rfl⟩ := start
  exact .initial wild

end WebRTC
end VoiceCall.Client
