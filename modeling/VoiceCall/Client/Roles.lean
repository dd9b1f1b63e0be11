import VoiceCall.Client.Frame

namespace VoiceCall.Client

open Foundation

/-- A negotiated connection is open and has both descriptions, the local one of the type. -/
def PeerConnection.Negotiated (connection : PeerConnection) (type : SdpType) : Prop :=
  (∃ description ∈ connection.localDescription, description.type = type) ∧
    connection.remoteDescription.isSome = true ∧ connection.state ≠ .closed

namespace WebRTC

variable {library : RtcLibrary} {webRtc next : WebRTC}

/-- The slot `connectionReady` has run for the connection. -/
def Ready (webRtc : WebRTC) (id : ConnectionId) : Prop := .connectionReady id ∈ webRtc.log

/-- The slot `endConnection` has run for the connection. -/
def Ended (webRtc : WebRTC) (id : ConnectionId) : Prop := .endConnection id ∈ webRtc.log

/-- A call is live on an open connection from its negotiation until its end has run. -/
def Live (webRtc : WebRTC) (type : SdpType) (id : ConnectionId) : Prop :=
  id < webRtc.created ∧ (webRtc.connections id).Negotiated type ∧ ¬webRtc.Ended id

/-- The one track of the client belongs to the connection. -/
def TrackOf (webRtc : WebRTC) (id : ConnectionId) : Prop :=
  ∃ track ∈ webRtc.peerTrack, webRtc.trackOwner track = id

instance (webRtc : WebRTC) (id : ConnectionId) : Decidable (webRtc.Ready id) :=
  inferInstanceAs (Decidable (_ ∈ _))

instance (webRtc : WebRTC) (id : ConnectionId) : Decidable (webRtc.Ended id) :=
  inferInstanceAs (Decidable (_ ∈ _))

instance (connection : PeerConnection) (type : SdpType) : Decidable (connection.Negotiated type) :=
  inferInstanceAs (Decidable (_ ∧ _ ∧ _))

instance (webRtc : WebRTC) (type : SdpType) (id : ConnectionId) :
    Decidable (webRtc.Live type id) :=
  inferInstanceAs (Decidable (_ ∧ _ ∧ _))

instance (webRtc : WebRTC) (id : ConnectionId) : Decidable (webRtc.TrackOf id) :=
  inferInstanceAs (Decidable (∃ _ ∈ _, _))

/-- No outgoing call is live. -/
def NoOutgoing (webRtc : WebRTC) : Prop := ∀ id < webRtc.created, ¬webRtc.Live .offer id

/-- The devices obey the slot that is about to run, and an end meets no other ready call. -/
def SlotFits (webRtc : WebRTC) (deviceOpens sinkStarts : Bool) : QueuedSlot → Prop
  | .connectionReady _ =>
      if webRtc.isOfferer then deviceOpens = true
      else sinkStarts = true ∧ webRtc.audioOutput.device ≠ .wild
  | .endConnection id => ∀ other < webRtc.created, other ≠ id → webRtc.Ready other →
      ¬webRtc.Live .offer other ∧ ¬webRtc.Live .answer other

/-- The guard keeps the role of every live call. An outgoing call excludes every other offer,
call and track, and an incoming call that is not ready yet excludes an outgoing one. -/
def RolesKept (library : RtcLibrary) (webRtc : WebRTC) : Event → Prop
  | .startCall _ => webRtc.NoOutgoing ∧
      ∀ id < webRtc.created, webRtc.Live .answer id → webRtc.Ready id
  | .registerName _ => webRtc.NoOutgoing
  | .offerReceived _ _ => webRtc.NoOutgoing
  | .acceptCall name => ∀ sdp ∈ webRtc.peerSdps name, library.parses sdp .offer = true →
      library.accepts (webRtc.acceptFound name) ⟨.offer, sdp⟩ = true → webRtc.isOfferer = false
  | .answerReceived peerID sdp => library.parses sdp .answer = true →
      ∀ id ∈ webRtc.peerConnections peerID, webRtc.isOfferer = true →
        (webRtc.connections id).signaling = .haveLocalOffer →
        library.accepts (webRtc.connections id) ⟨.answer, sdp⟩ = true → webRtc.TrackOf id
  | .remoteTrack _ => webRtc.NoOutgoing
  | .runQueued deviceOpens sinkStarts =>
      ∀ slot ∈ webRtc.queue.head?, webRtc.SlotFits deviceOpens sinkStarts slot
  | _ => True

instance (webRtc : WebRTC) : Decidable webRtc.NoOutgoing :=
  inferInstanceAs (Decidable (∀ _ < _, _))

instance (webRtc : WebRTC) (deviceOpens sinkStarts : Bool) :
    ∀ slot, Decidable (webRtc.SlotFits deviceOpens sinkStarts slot)
  | .connectionReady _ => inferInstanceAs (Decidable
      (if webRtc.isOfferer = true then deviceOpens = true
      else sinkStarts = true ∧ webRtc.audioOutput.device ≠ .wild))
  | .endConnection _ => inferInstanceAs (Decidable (∀ _ < _, _))

instance (library : RtcLibrary) (webRtc : WebRTC) :
    ∀ event, Decidable (RolesKept library webRtc event)
  | .startCall _ =>
      inferInstanceAs (Decidable (webRtc.NoOutgoing ∧ ∀ id < webRtc.created, _ → webRtc.Ready id))
  | .registerName _ | .offerReceived _ _ | .remoteTrack _ =>
      inferInstanceAs (Decidable webRtc.NoOutgoing)
  | .acceptCall _ => inferInstanceAs (Decidable (∀ _ ∈ webRtc.peerSdps _, _))
  | .answerReceived _ _ => inferInstanceAs (Decidable (_ → ∀ _ ∈ webRtc.peerConnections _, _))
  | .runQueued _ _ => inferInstanceAs (Decidable (∀ _ ∈ webRtc.queue.head?, _))
  | .endCall _ | .rejectCall _ | .rejectedReceived _ | .setRemoteCandidate _ | .dataReady _ _ _
  | .gatheringComplete _ | .stateChanged _ _ | .message _ _ => .isTrue trivial

/-- Every live call has the role of its description, and the device of its role once ready. -/
structure RolesRight (webRtc : WebRTC) : Prop where
  offering : ∀ id, webRtc.Live .offer id → webRtc.isOfferer = true ∧ webRtc.TrackOf id
  capturing : ∀ id, webRtc.Live .offer id → webRtc.Ready id → webRtc.audioInput.Capturing
  answering : ∀ id, webRtc.Live .answer id → ¬webRtc.Ready id → webRtc.isOfferer = false
  playing : ∀ id, webRtc.Live .answer id → webRtc.Ready id → webRtc.audioOutput.Playing
  settled : webRtc.audioOutput.device ≠ .wild → webRtc.audioOutput.Settled
  offered : ∀ id, (webRtc.connections id).signaling = .haveLocalOffer →
    (webRtc.connections id).remoteDescription = none ∧
      ∃ description ∈ (webRtc.connections id).localDescription, description.type = .offer
  negotiated : ∀ id, webRtc.Ready id ∨ .connectionReady id ∈ webRtc.queue →
    (webRtc.connections id).remoteDescription.isSome = true
  transport : ∀ id, (webRtc.connections id).state = .connected →
    (webRtc.connections id).tracksOpen = true

theorem NoOutgoing.not_live (none : webRtc.NoOutgoing) (id : ConnectionId) :
    ¬webRtc.Live .offer id :=
  fun live => none id live.1 live

theorem Unheard.ready_iff (unheard : webRtc.Unheard next) (id : ConnectionId) :
    next.Ready id ↔ webRtc.Ready id := by
  obtain ⟨added, grown, silent⟩ := unheard.log
  rw [Ready, Ready, grown, List.mem_append, or_iff_left_iff_imp]
  intro member
  cases silent _ member

theorem Unheard.ended_iff (unheard : webRtc.Unheard next) (id : ConnectionId) :
    next.Ended id ↔ webRtc.Ended id := by
  obtain ⟨added, grown, silent⟩ := unheard.log
  rw [Ended, Ended, grown, List.mem_append, or_iff_left_iff_imp]
  intro member
  cases silent _ member

theorem Unheard.playing (unheard : webRtc.Unheard next)
    (playing : webRtc.audioOutput.Playing) : next.audioOutput.Playing := by
  rwa [AudioOutput.Playing, unheard.device, unheard.running]

namespace RolesRight

theorem initial (wild : Bool) : (WebRTC.initial wild).RolesRight where
  offering id live := absurd live.1 (Nat.not_lt_zero id)
  capturing id live := absurd live.1 (Nat.not_lt_zero id)
  answering id live := absurd live.1 (Nat.not_lt_zero id)
  playing id live := absurd live.1 (Nat.not_lt_zero id)
  settled tame := by
    cases wild with
    | true => exact absurd rfl tame
    | false => exact .inl ⟨rfl, rfl⟩
  offered id waiting := by cases waiting
  negotiated id ready := by
    rcases ready with logged | queued
    · cases logged
    · cases queued
  transport id connected := by cases connected

/-- A change outside the members that decide a role keeps the roles. -/
theorem unheard (right : webRtc.RolesRight) (unheard : webRtc.Unheard next)
    (role : next.isOfferer = webRtc.isOfferer) (created : next.created = webRtc.created)
    (connections : next.connections = webRtc.connections)
    (peerTrack : next.peerTrack = webRtc.peerTrack)
    (trackOwner : next.trackOwner = webRtc.trackOwner) (queue : next.queue = webRtc.queue) :
    next.RolesRight := by
  have ready := unheard.ready_iff
  have live (type : SdpType) (id : ConnectionId) : next.Live type id ↔ webRtc.Live type id := by
    rw [Live, Live, created, connections, unheard.ended_iff]
  constructor
  · intro id outgoing
    rw [role, TrackOf, peerTrack, trackOwner]
    exact right.offering id ((live _ id).mp outgoing)
  · intro id outgoing isReady
    rw [unheard.input]
    exact right.capturing id ((live _ id).mp outgoing) ((ready id).mp isReady)
  · intro id incoming waiting
    rw [role]
    exact right.answering id ((live _ id).mp incoming) (mt (ready id).mpr waiting)
  · intro id incoming isReady
    exact unheard.playing (right.playing id ((live _ id).mp incoming) ((ready id).mp isReady))
  · intro tame
    rw [unheard.device] at tame
    rw [AudioOutput.Settled, AudioOutput.Playing, unheard.device, unheard.running]
    exact right.settled tame
  · rw [connections]
    exact right.offered
  · intro id isReady
    rw [ready, queue] at isReady
    rw [connections]
    exact right.negotiated id isReady
  · rw [connections]
    exact right.transport

theorem record (right : webRtc.RolesRight) {observation : Observation}
    (silent : observation.slot = none) : (webRtc.record observation).RolesRight :=
  right.unheard (.record silent) rfl rfl rfl rfl rfl rfl

theorem storeSdp (right : webRtc.RolesRight) (peerID sdp : String) :
    (webRtc.storeSdp peerID sdp).RolesRight :=
  right.unheard (.of_muted (.of_eq rfl rfl rfl)) rfl rfl rfl rfl rfl rfl

/-- The role may change to what every live call needs. -/
theorem setIsOfferer (right : webRtc.RolesRight) {role : Bool} (quiet : webRtc.NoOutgoing)
    (ready : role = true → ∀ id, webRtc.Live .answer id → webRtc.Ready id) :
    (webRtc.setIsOfferer role).RolesRight := by
  refine ⟨?_, right.capturing, ?_, right.playing, right.settled, right.offered,
    right.negotiated, right.transport⟩
  · intro id outgoing
    exact absurd outgoing (quiet.not_live id)
  · intro id incoming waiting
    cases role with
    | false => rfl
    | true => exact absurd (ready rfl id incoming) waiting

/-- The track may change while no outgoing call is live. -/
theorem setTrack (right : webRtc.RolesRight) (quiet : webRtc.NoOutgoing) (owner : ConnectionId) :
    (webRtc.setTrack owner).RolesRight := by
  refine ⟨?_, right.capturing, right.answering, right.playing, right.settled, right.offered,
    right.negotiated, right.transport⟩
  intro id outgoing
  exact absurd outgoing (quiet.not_live id)

/-- A changed connection must have the role and the device of its new description. -/
theorem setConnection (right : webRtc.RolesRight) {target : ConnectionId}
    {connection : PeerConnection}
    (outgoing : connection.Negotiated .offer → ¬webRtc.Ended target →
      webRtc.isOfferer = true ∧ webRtc.TrackOf target ∧
        (webRtc.Ready target → webRtc.audioInput.Capturing))
    (incoming : connection.Negotiated .answer → ¬webRtc.Ended target →
      (¬webRtc.Ready target → webRtc.isOfferer = false) ∧
        (webRtc.Ready target → webRtc.audioOutput.Playing))
    (offered : connection.signaling = .haveLocalOffer →
      connection.remoteDescription = none ∧
        ∃ description ∈ connection.localDescription, description.type = .offer)
    (negotiated : webRtc.Ready target ∨ .connectionReady target ∈ webRtc.queue →
      connection.remoteDescription.isSome = true)
    (transport : connection.state = .connected → connection.tracksOpen = true) :
    (webRtc.setConnection target connection).RolesRight := by
  have live (type : SdpType) (id : ConnectionId)
      (alive : (webRtc.setConnection target connection).Live type id) :
      (id = target ∧ connection.Negotiated type ∧ ¬webRtc.Ended target) ∨
        webRtc.Live type id := by
    obtain ⟨inside, described, ongoing⟩ := alive
    by_cases here : id = target
    · subst here
      rw [setConnection_connections, Function.update_self] at described
      exact .inl ⟨rfl, described, ongoing⟩
    · rw [setConnection_connections, Function.update_of_ne here] at described
      exact .inr ⟨inside, described, ongoing⟩
  constructor
  · intro id alive
    rcases live _ id alive with ⟨rfl, described, ongoing⟩ | older
    · exact ⟨(outgoing described ongoing).1, (outgoing described ongoing).2.1⟩
    · exact right.offering id older
  · intro id alive isReady
    rcases live _ id alive with ⟨rfl, described, ongoing⟩ | older
    · exact (outgoing described ongoing).2.2 isReady
    · exact right.capturing id older isReady
  · intro id alive waiting
    rcases live _ id alive with ⟨rfl, described, ongoing⟩ | older
    · exact (incoming described ongoing).1 waiting
    · exact right.answering id older waiting
  · intro id alive isReady
    rcases live _ id alive with ⟨rfl, described, ongoing⟩ | older
    · exact (incoming described ongoing).2 isReady
    · exact right.playing id older isReady
  · exact right.settled
  · intro id
    by_cases here : id = target
    · subst here
      rw [setConnection_connections, Function.update_self]
      exact offered
    · rw [setConnection_connections, Function.update_of_ne here]
      exact right.offered id
  · intro id isReady
    by_cases here : id = target
    · subst here
      rw [setConnection_connections, Function.update_self]
      exact negotiated isReady
    · rw [setConnection_connections, Function.update_of_ne here]
      exact right.negotiated id isReady
  · intro id
    by_cases here : id = target
    · subst here
      rw [setConnection_connections, Function.update_self]
      exact transport
    · rw [setConnection_connections, Function.update_of_ne here]
      exact right.transport id

/-- A change of a connection outside its negotiation keeps the roles. -/
theorem setConnection_same (right : webRtc.RolesRight) {target : ConnectionId}
    {connection : PeerConnection} (inside : target < webRtc.created)
    (signaling : connection.signaling = (webRtc.connections target).signaling)
    (localSame : connection.localDescription = (webRtc.connections target).localDescription)
    (remoteSame : connection.remoteDescription = (webRtc.connections target).remoteDescription)
    (openBefore : connection.state ≠ .closed → (webRtc.connections target).state ≠ .closed)
    (transport : connection.state = .connected → connection.tracksOpen = true) :
    (webRtc.setConnection target connection).RolesRight := by
  have described (type : SdpType) (negotiated : connection.Negotiated type) :
      (webRtc.connections target).Negotiated type := by
    rw [PeerConnection.Negotiated, localSame, remoteSame] at negotiated
    exact ⟨negotiated.1, negotiated.2.1, openBefore negotiated.2.2⟩
  refine right.setConnection ?_ ?_ ?_ ?_ transport
  · intro outgoing ongoing
    have alive : webRtc.Live .offer target := ⟨inside, described _ outgoing, ongoing⟩
    exact ⟨(right.offering target alive).1, (right.offering target alive).2,
      right.capturing target alive⟩
  · intro incoming ongoing
    have alive : webRtc.Live .answer target := ⟨inside, described _ incoming, ongoing⟩
    exact ⟨right.answering target alive, right.playing target alive⟩
  · rw [signaling, localSame, remoteSame]
    exact right.offered target
  · rw [remoteSame]
    exact right.negotiated target

/-- No slot has run or waits for a connection that does not exist yet. -/
theorem unborn (sound : webRtc.Sound) :
    ¬(webRtc.Ready webRtc.created ∨ .connectionReady webRtc.created ∈ webRtc.queue) := by
  rintro (logged | queued)
  · exact Nat.lt_irrefl _ (sound.logged _ logged _ rfl)
  · exact Nat.lt_irrefl _ (sound.queued _ queued)

/-- The connection that loses its entry keeps its negotiation. -/
theorem released (right : webRtc.RolesRight) (sound : webRtc.Sound) (peerId : String) :
    { webRtc with connections := webRtc.released peerId }.RolesRight := by
  cases entry : webRtc.peerConnections peerId with
  | none =>
      have same : webRtc.released peerId = webRtc.connections := by
        simp [WebRTC.released, entry]
      rw [same]
      exact right
  | some id =>
      have same : { webRtc with connections := webRtc.released peerId } =
          webRtc.setConnection id (webRtc.connections id).close := by
        simp [WebRTC.released, entry, WebRTC.setConnection]
      rw [same]
      exact right.setConnection_same (sound.entry peerId id entry).1 rfl rfl rfl
        (fun isOpen => isOpen) (right.transport id)

/-- A new connection has no part in a call yet. -/
theorem addPeer (right : webRtc.RolesRight) (sound : webRtc.Sound) (peerId : String) :
    (webRtc.addPeer peerId).RolesRight := by
  have undescribed (type : SdpType) : ¬(PeerConnection.fresh peerId).Negotiated type := by
    rintro ⟨⟨_, described, _⟩, _⟩
    cases described
  have notReady := unborn sound
  have base : ({ webRtc with connections := webRtc.released peerId }.setConnection webRtc.created
      (.fresh peerId)).RolesRight := by
    refine (right.released sound peerId).setConnection ?_ ?_ (fun offered => by cases offered) ?_
      (fun connected => by cases connected)
    · exact fun negotiated => absurd negotiated (undescribed .offer)
    · exact fun negotiated => absurd negotiated (undescribed .answer)
    · exact fun ready => absurd ready notReady
  have live (type : SdpType) (id : ConnectionId) (alive : (webRtc.addPeer peerId).Live type id) :
      ({ webRtc with connections := webRtc.released peerId }.setConnection webRtc.created
        (.fresh peerId)).Live type id := by
    obtain ⟨below, negotiated, ongoing⟩ := alive
    refine ⟨?_, negotiated, ongoing⟩
    rcases Nat.lt_succ_iff_lt_or_eq.mp below with older | newest
    · exact older
    · rw [newest, addPeer_connections, Function.update_self] at negotiated
      exact absurd negotiated (undescribed type)
  exact ⟨fun id alive => base.offering id (live _ id alive),
    fun id alive => base.capturing id (live _ id alive),
    fun id alive => base.answering id (live _ id alive),
    fun id alive => base.playing id (live _ id alive),
    base.settled, base.offered, base.negotiated, base.transport⟩

/-- A call starts while no outgoing call is live and every incoming one is ready. -/
theorem startCall (right : webRtc.RolesRight) (sound : webRtc.Sound) {targetName : String}
    (quiet : webRtc.NoOutgoing)
    (ready : ∀ id < webRtc.created, webRtc.Live .answer id → webRtc.Ready id) :
    (webRtc.startCall library targetName).RolesRight := by
  have unheard : webRtc.Unheard (webRtc.record (.startCall targetName)) := .record rfl
  have live (type : SdpType) (id : ConnectionId)
      (alive : (webRtc.record (.startCall targetName)).Live type id) : webRtc.Live type id :=
    ⟨alive.1, alive.2.1, mt (unheard.ended_iff id).mpr alive.2.2⟩
  have quietRecorded : (webRtc.record (.startCall targetName)).NoOutgoing :=
    fun id inside alive => quiet id inside (live _ id alive)
  have recorded : (webRtc.record (.startCall targetName)).RolesRight := right.record rfl
  have recordedSound : (webRtc.record (.startCall targetName)).Sound :=
    sound.record (by simp [Observation.connection])
  have offering : ((webRtc.record (.startCall targetName)).setIsOfferer true).RolesRight := by
    refine recorded.setIsOfferer quietRecorded fun _ id alive => ?_
    exact (unheard.ready_iff id).mpr (ready id alive.1 (live _ id alive))
  have offeringSound := recordedSound.setIsOfferer true
  have added := offering.addPeer offeringSound targetName
  have quietAdded : (((webRtc.record (.startCall targetName)).setIsOfferer true).addPeer
      targetName).NoOutgoing := by
    intro id below alive
    obtain ⟨_, negotiated, ongoing⟩ := alive
    rcases Nat.lt_succ_iff_lt_or_eq.mp below with older | newest
    · obtain ⟨closing, kept⟩ := addPeer_older older.ne targetName
      rw [kept] at negotiated
      exact quietRecorded id older ⟨older, negotiated, ongoing⟩
    · rw [newest, addPeer_connections, Function.update_self] at negotiated
      obtain ⟨⟨_, described, _⟩, _⟩ := negotiated
      cases described
  rw [startCall_eq]
  refine (added.setTrack quietAdded webRtc.created).setConnection ?_ ?_ ?_ ?_ ?_
  · rintro ⟨_, remote, _⟩
    cases remote
  · rintro ⟨_, remote, _⟩
    cases remote
  · intro _
    exact ⟨rfl, _, rfl, rfl⟩
  · intro isReady
    exact absurd isReady (unborn offeringSound)
  · intro connected
    cases connected

theorem acceptCalled (right : webRtc.RolesRight) (sound : webRtc.Sound)
    (description : Description) (peerId : String) :
    (webRtc.acceptCalled description peerId).RolesRight := by
  have ready : (webRtc.acceptReady peerId).RolesRight := by
    rcases webRtc.acceptReady_cases peerId with ⟨_, _, ready⟩ | ⟨_, _, ready⟩
    · rwa [ready]
    · rw [ready]
      exact right.addPeer sound peerId
  exact ready.record rfl

/-- An offer is accepted on a new connection of a client that answers. -/
theorem acceptPeer_offer (right : webRtc.RolesRight) (sound : webRtc.Sound) {sdp peerId : String}
    (answers : library.accepts (webRtc.acceptFound peerId) ⟨.offer, sdp⟩ = true →
      webRtc.isOfferer = false) :
    (settle (webRtc.acceptPeer library ⟨.offer, sdp⟩ peerId)).RolesRight := by
  have called := right.acceptCalled sound ⟨.offer, sdp⟩ peerId
  rcases webRtc.acceptPeer_cases library ⟨.offer, sdp⟩ peerId with
    ⟨connection, applied, outcome⟩ | ⟨_, outcome⟩
  · have made := PeerConnection.setRemoteDescription_offer rfl applied
    have answering := answers (Option.ite_none_right_eq_some.mp applied).1
    have fresh : webRtc.acceptTarget peerId = webRtc.created ∧
        webRtc.acceptFound peerId = .fresh peerId := by
      rcases webRtc.acceptReady_cases peerId with ⟨offering, _, _⟩ | ⟨_, target, ready⟩
      · rw [answering] at offering
        cases offering
      · refine ⟨target, ?_⟩
        rw [acceptFound, ready, target, addPeer_connections, Function.update_self]
    have unready : ¬((webRtc.acceptCalled ⟨.offer, sdp⟩ peerId).Ready webRtc.created ∨
        .connectionReady webRtc.created ∈ (webRtc.acceptCalled ⟨.offer, sdp⟩ peerId).queue) := by
      obtain ⟨_, log, queue, _, _⟩ := webRtc.acceptReady_keeps peerId
      rw [Ready, WebRTC.acceptCalled, record_log, record_queue, log, queue, List.mem_append]
      simpa [Ready] using unborn sound
    rw [outcome, fresh.1]
    refine called.setConnection ?_ ?_ ?_ ?_ ?_
    · rintro ⟨⟨description, described, kind⟩, _⟩ _
      rw [made] at described
      cases described
      cases kind
    · intro _ _
      refine ⟨fun _ => (webRtc.acceptReady_isOfferer peerId).trans answering, fun isReady => ?_⟩
      exact absurd (.inl isReady) unready
    · intro waiting
      rw [made] at waiting
      cases waiting
    · exact fun isReady => absurd isReady unready
    · intro connected
      rw [made, fresh.2] at connected
      cases connected
  · rwa [outcome]

/-- An answer is accepted on an offering connection whose track is the client's one track. -/
theorem acceptPeer_answer (right : webRtc.RolesRight) (sound : webRtc.Sound)
    {sdp peerId : String}
    (tracked : ∀ id ∈ webRtc.peerConnections peerId, webRtc.isOfferer = true →
      (webRtc.connections id).signaling = .haveLocalOffer →
      library.accepts (webRtc.connections id) ⟨.answer, sdp⟩ = true → webRtc.TrackOf id) :
    (settle (webRtc.acceptPeer library ⟨.answer, sdp⟩ peerId)).RolesRight := by
  have called := right.acceptCalled sound ⟨.answer, sdp⟩ peerId
  rcases webRtc.acceptPeer_cases library ⟨.answer, sdp⟩ peerId with
    ⟨connection, applied, outcome⟩ | ⟨_, outcome⟩
  · have accepted := (Option.ite_none_right_eq_some.mp applied).1
    obtain ⟨waiting, made⟩ := PeerConnection.setRemoteDescription_answer rfl applied
    rw [outcome]
    rcases webRtc.acceptReady_cases peerId with ⟨offering, entry, ready⟩ | ⟨_, target, ready⟩
    · have found : webRtc.acceptFound peerId = webRtc.connections (webRtc.acceptTarget peerId) := by
        rw [acceptFound, ready]
      have same : webRtc.acceptCalled ⟨.answer, sdp⟩ peerId = webRtc.record
          (.setRemoteDescription peerId (webRtc.acceptTarget peerId) ⟨.answer, sdp⟩) := by
        rw [WebRTC.acceptCalled, ready]
      rw [found] at waiting accepted made
      obtain ⟨noRemote, offer⟩ := right.offered _ waiting
      have unready : ¬(webRtc.Ready (webRtc.acceptTarget peerId) ∨
          .connectionReady (webRtc.acceptTarget peerId) ∈ webRtc.queue) := by
        intro isReady
        have remote := right.negotiated _ isReady
        rw [noRemote] at remote
        cases remote
      rw [same] at called ⊢
      have unreadyCalled : ¬(webRtc.record (.setRemoteDescription peerId
          (webRtc.acceptTarget peerId) ⟨.answer, sdp⟩)).Ready (webRtc.acceptTarget peerId) :=
        fun isReady => unready (.inl ((Unheard.ready_iff (.record rfl) _).mp isReady))
      refine called.setConnection ?_ ?_ ?_ ?_ ?_
      · intro _ _
        exact ⟨offering, tracked _ entry offering waiting accepted,
          fun isReady => absurd isReady unreadyCalled⟩
      · rintro ⟨⟨description, described, kind⟩, _⟩ _
        obtain ⟨own, isOwn, isOffer⟩ := offer
        rw [made] at described
        rw [Option.mem_def.mp isOwn] at described
        cases described
        rw [isOffer] at kind
        cases kind
      · intro still
        rw [made] at still
        cases still
      · intro _
        rw [made]
        rfl
      · rw [made]
        exact right.transport _
    · rw [acceptFound, ready, target, addPeer_connections, Function.update_self] at waiting
      cases waiting
  · rwa [outcome]

/-- A slot may be queued for a negotiated connection. -/
theorem onStateChange (right : webRtc.RolesRight) {id : ConnectionId} {state : ConnectionState}
    (negotiated : state = .connected →
      (webRtc.connections id).remoteDescription.isSome = true) :
    (webRtc.onStateChange id state).RolesRight := by
  have queued (slot : QueuedSlot) (known : slot = .connectionReady id →
      (webRtc.connections id).remoteDescription.isSome = true)
      (own : slot.connection = id) :
      ({ webRtc with queue := webRtc.queue ++ [slot] } : WebRTC).RolesRight := by
    refine ⟨right.offering, right.capturing, right.answering, right.playing, right.settled,
      right.offered, ?_, right.transport⟩
    intro other isReady
    rcases isReady with logged | waiting
    · exact right.negotiated other (.inl logged)
    · rcases List.mem_append.mp waiting with old | new
      · exact right.negotiated other (.inr old)
      · have same := List.mem_singleton.mp new
        rw [← same] at known own
        rw [← own] at known
        have here : other = id := own
        subst here
        exact known rfl
  unfold WebRTC.onStateChange
  split
  · exact queued _ (fun _ => negotiated rfl) rfl
  · exact queued _ (fun wrong => by cases wrong) rfl
  · exact right

/-- A ready connection gets the device of its role. -/
theorem connectionReady (right : webRtc.RolesRight) {deviceOpens sinkStarts : Bool}
    {id : ConnectionId} {rest : List QueuedSlot}
    (waiting : webRtc.queue = .connectionReady id :: rest)
    (fits : webRtc.SlotFits deviceOpens sinkStarts (.connectionReady id)) :
    (({ webRtc with queue := rest }.connectionReady deviceOpens sinkStarts).record
      (.connectionReady id)).RolesRight := by
  have negotiated (input : AudioInput) (output : AudioOutput) (other : ConnectionId)
      (isReady : ({ webRtc with queue := rest, audioInput := input, audioOutput := output }.record
        (.connectionReady id)).Ready other ∨ .connectionReady other ∈ rest) :
      (webRtc.connections other).remoteDescription.isSome = true := by
    rcases isReady with logged | queued
    · rcases List.mem_append.mp logged with old | new
      · exact right.negotiated other (.inl old)
      · cases List.mem_singleton.mp new
        exact right.negotiated id (.inr (by rw [waiting]; exact List.mem_cons_self))
    · exact right.negotiated other (.inr (by rw [waiting]; exact List.mem_cons_of_mem _ queued))
  have live (input : AudioInput) (output : AudioOutput) (type : SdpType) (other : ConnectionId)
      (alive : ({ webRtc with queue := rest, audioInput := input, audioOutput := output }.record
        (.connectionReady id)).Live type other) : webRtc.Live type other :=
    ⟨alive.1, alive.2.1, fun ended => alive.2.2 (List.mem_append_left _ ended)⟩
  unfold WebRTC.connectionReady
  simp only [SlotFits] at fits
  split
  · next offering =>
      rw [if_pos offering] at fits
      subst fits
      refine ⟨fun other alive => right.offering other (live _ _ _ _ alive), ?_, ?_, ?_,
        right.settled, right.offered, negotiated _ _, right.transport⟩
      · exact fun _ _ _ => webRtc.audioInput.capturing_openDevice
      · intro other alive unready
        exact right.answering other (live _ _ _ _ alive)
          fun isReady => unready (List.mem_append_left _ isReady)
      · intro other alive _
        by_cases isReady : webRtc.Ready other
        · exact right.playing other (live _ _ _ _ alive) isReady
        · have answers := right.answering other (live _ _ _ _ alive) isReady
          rw [answers] at offering
          cases offering
  · next answering =>
      rw [if_neg answering] at fits
      obtain ⟨starts, tame⟩ := fits
      subst starts
      have playing := (right.settled tame).start
      refine ⟨fun other alive => right.offering other (live _ _ _ _ alive), ?_, ?_, ?_,
        fun _ => .inr playing, right.offered, negotiated _ _, right.transport⟩
      · intro other alive _
        exact absurd (right.offering other (live _ _ _ _ alive)).1 answering
      · exact fun _ _ _ => Bool.eq_false_of_not_eq_true answering
      · exact fun _ _ _ => playing

/-- The end of a connection leaves no ready call without its device. -/
theorem endConnection (right : webRtc.RolesRight) {id : ConnectionId} {rest : List QueuedSlot}
    (waiting : webRtc.queue = .endConnection id :: rest) {deviceOpens sinkStarts : Bool}
    (fits : webRtc.SlotFits deviceOpens sinkStarts (.endConnection id)) :
    ({ webRtc with queue := rest }.endConnection.record (.endConnection id)).RolesRight := by
  generalize reached : { webRtc with queue := rest }.endConnection.record (.endConnection id) = next
  have log : next.log = webRtc.log ++ [.endReceived, .endConnection id] := by
    rw [← reached]
    simp [WebRTC.endConnection]
  have ready (other : ConnectionId) (isReady : next.Ready other) : webRtc.Ready other := by
    rw [Ready, log, List.mem_append] at isReady
    exact isReady.resolve_right (by simp)
  have live (type : SdpType) (other : ConnectionId) (alive : next.Live type other) :
      webRtc.Live type other ∧ other ≠ id := by
    obtain ⟨inside, negotiated, ongoing⟩ := alive
    rw [Ended, log, List.mem_append, not_or] at ongoing
    rw [← reached] at inside negotiated
    refine ⟨⟨inside, negotiated, ongoing.1⟩, ?_⟩
    rintro rfl
    exact ongoing.2 (by simp)
  have alone (type : SdpType) (other : ConnectionId) (alive : next.Live type other)
      (isReady : next.Ready other) :
      ¬webRtc.Live .offer other ∧ ¬webRtc.Live .answer other :=
    fits other (live _ other alive).1.1 (live _ other alive).2 (ready other isReady)
  constructor
  · intro other alive
    have kept := right.offering other (live _ other alive).1
    rw [← reached]
    exact kept
  · intro other alive isReady
    exact absurd (live _ other alive).1 (alone _ other alive isReady).1
  · intro other alive unready
    have kept := right.answering other (live _ other alive).1 fun isReady =>
      unready (by rw [Ready, log]; exact List.mem_append_left _ isReady)
    rw [← reached]
    exact kept
  · intro other alive isReady
    exact absurd (live _ other alive).1 (alone _ other alive isReady).2
  · rw [← reached]
    exact AudioOutput.settled_stop right.settled
  · rw [← reached]
    exact right.offered
  · intro other isReady
    have earlier : webRtc.Ready other ∨ .connectionReady other ∈ webRtc.queue := by
      rcases isReady with logged | queued
      · exact .inl (ready other logged)
      · rw [← reached] at queued
        exact .inr (by rw [waiting]; exact List.mem_cons_of_mem _ queued)
    have kept := right.negotiated other earlier
    rw [← reached]
    exact kept
  · rw [← reached]
    exact right.transport

theorem runQueued (right : webRtc.RolesRight) {deviceOpens sinkStarts : Bool}
    (allowed : ∀ slot ∈ webRtc.queue.head?, webRtc.SlotFits deviceOpens sinkStarts slot)
    (ran : webRtc.runQueued deviceOpens sinkStarts = some next) : next.RolesRight := by
  rcases runQueued_cases ran with ⟨id, rest, waiting, rfl⟩ | ⟨id, rest, waiting, rfl⟩
  · exact right.connectionReady waiting (allowed _ (by rw [waiting]; rfl))
  · exact right.endConnection waiting (allowed _ (by rw [waiting]; rfl))

/-- Every guarded step keeps the roles of the live calls. -/
theorem step (right : webRtc.RolesRight) (sound : webRtc.Sound) {event : Event}
    (allowed : RolesKept library webRtc event)
    (taken : webRtc.step library event = some next) : next.RolesRight := by
  cases event with
  | startCall targetName =>
      cases taken
      exact right.startCall sound allowed.1 allowed.2
  | registerName username =>
      cases taken
      have reset : (webRtc.setIsOfferer false).RolesRight :=
        right.setIsOfferer allowed (fun wrong => by cases wrong)
      exact (reset.addPeer (sound.setIsOfferer false) username).record rfl
  | endCall name =>
      obtain ⟨id, entry, closed⟩ := Option.map_eq_some_iff.mp taken
      subst closed
      have recorded : (webRtc.record (.endCall name)).RolesRight := right.record rfl
      exact recorded.setConnection_same (sound.entry name id entry).1 rfl rfl rfl
        (fun isOpen => isOpen) (right.transport id)
  | acceptCall name =>
      cases taken
      rcases webRtc.acceptCall_cases library name with outcome | ⟨sdp, stored, parsed, outcome⟩
      · rwa [outcome]
      · rw [outcome]
        exact right.acceptPeer_offer sound (allowed sdp stored parsed)
  | rejectCall name =>
      cases taken
      exact right.record rfl
  | offerReceived peerID sdp =>
      cases taken
      have stored := right.storeSdp peerID sdp
      have reset : ((webRtc.storeSdp peerID sdp).setIsOfferer false).RolesRight :=
        stored.setIsOfferer allowed (fun wrong => by cases wrong)
      exact reset.record rfl
  | answerReceived peerID sdp =>
      cases taken
      have stored := right.storeSdp peerID sdp
      rcases webRtc.answerReceived_outcome library peerID sdp with
        ⟨_, outcome⟩ | ⟨parsed, outcomes⟩
      · rwa [outcome]
      · have accepted := stored.acceptPeer_answer (sound.storeSdp peerID sdp) (allowed parsed)
        rcases outcomes with outcome | outcome
        · rwa [outcome]
        · rw [outcome]
          exact accepted.record rfl
  | rejectedReceived peerID =>
      cases taken
      exact right.record rfl
  | setRemoteCandidate peerID =>
      cases taken
      unfold WebRTC.setRemoteCandidate
      split
      · exact right
      · exact right.addPeer sound peerID
  | dataReady data now sendSucceeds =>
      cases taken
      have counted : webRtc.count.RolesRight :=
        right.unheard (.of_muted (.of_eq rfl rfl rfl)) rfl rfl rfl rfl rfl rfl
      rcases webRtc.dataReady_cases data now sendSucceeds with ⟨_, _, _, _, sent⟩ | ⟨_, unsent⟩
      · rw [sent]
        exact counted.record rfl
      · rwa [unsent]
  | gatheringComplete id =>
      obtain ⟨gathering, outcomes⟩ := gatheringComplete_cases taken
      have gathered : (webRtc.gathered id).RolesRight :=
        right.setConnection_same gathering.1 rfl rfl rfl (fun isOpen => isOpen)
          (right.transport id)
      rcases outcomes with rfl | ⟨observation, describes, rfl⟩
      · exact gathered
      · exact gathered.record describes.slot
  | stateChanged id state =>
      obtain ⟨⟨inside, changes⟩, changed⟩ := Option.ite_none_right_eq_some.mp taken
      cases changed
      have moved : (webRtc.setConnection id
          ((webRtc.connections id).changeState state)).RolesRight := by
        refine right.setConnection_same inside rfl rfl rfl (fun _ => changes.1) ?_
        intro connected
        have isConnected : state = .connected := connected
        rw [isConnected]
        rfl
      refine moved.onStateChange fun connected => ?_
      rw [setConnection_connections, Function.update_self]
      exact (changes.2 connected).2
  | remoteTrack id =>
      obtain ⟨_, set⟩ := Option.ite_none_right_eq_some.mp taken
      cases set
      exact right.setTrack allowed id
  | message track data =>
      obtain ⟨_, output, wrote, rfl⟩ := message_cases taken
      obtain ⟨device, running⟩ := AudioOutput.receivedData_keeps wrote
      exact right.unheard ⟨rfl, device, running, [], by simp, by simp⟩ rfl rfl rfl rfl rfl rfl
  | runQueued deviceOpens sinkStarts => exact right.runQueued allowed taken

end RolesRight

/-- Every guarded run keeps the roles of the live calls. -/
theorem rolesRight_of_reachableUnder
    (reached : (machine library).ReachableUnder (RolesKept library) webRtc) :
    webRtc.RolesRight := by
  induction reached with
  | initial start =>
      obtain ⟨wild, rfl⟩ := start
      exact .initial wild
  | step before allowed taken ih =>
      exact ih.step (sound_of_reachable before.reachable) allowed taken

/-- Every chunk goes out on a track of the connection. -/
def SendsOn (webRtc : WebRTC) (id : ConnectionId) : Prop :=
  ∀ data now sendSucceeds, ∃ track packet, webRtc.trackOwner track = id ∧
    webRtc.since (webRtc.dataReady data now sendSucceeds) = [.send track packet sendSucceeds]

/-- A ready outgoing call captures and sends on its own track. -/
theorem RolesRight.sendsOn (right : webRtc.RolesRight) {id : ConnectionId}
    (live : webRtc.Live .offer id) (connected : (webRtc.connections id).state = .connected) :
    webRtc.SendsOn id := by
  obtain ⟨offering, track, current, owner⟩ := right.offering id live
  have isOpen : webRtc.trackIsOpen track = true := by
    rw [trackIsOpen, owner]
    exact right.transport id connected
  intro data now sendSucceeds
  rcases webRtc.dataReady_cases data now sendSucceeds with ⟨used, _, found, _, sent⟩ | ⟨idle, _⟩
  · rw [Option.mem_def.mp current] at found
    cases found
    refine ⟨track, webRtc.count.packet data now, owner, ?_⟩
    rw [sent]
    exact since_of_log (by simp)
  · rw [idle offering track current] at isOpen
    cases isOpen

end WebRTC
end VoiceCall.Client
