import VoiceCall.Client.Ending
import VoiceCall.Client.Gathering

namespace VoiceCall.Client

open Foundation

/-- A silent observation tells the server nothing and does not touch the client's own call. -/
def Observation.Silent : Observation → Prop
  | .incommigCall _ | .setRemoteDescription _ _ _ | .send _ _ _ | .connectionReady _
  | .endConnection _ => True
  | _ => False

/-- The two outcomes of a call that a client hears of. -/
def Observation.Outcome : Observation → Prop
  | .acceptedReceived | .rejectReceived => True
  | _ => False

theorem Observation.Outcome.not_silent {observation : Observation}
    (outcome : observation.Outcome) : ¬observation.Silent := by
  cases observation with
  | acceptedReceived | rejectReceived => exact fun silent => silent
  | _ => cases outcome

/-- The text that an observation sends to the peer as an offer. -/
def Observation.offerTo (peerID : String) : Observation → Option String
  | .offerIsReady peer description _ => if peer = peerID then some description.sdp else none
  | _ => none

/-- The last offer that the client has sent to the peer. -/
def latestOffer (log : List Observation) (peerID : String) : Option String :=
  log.foldl (fun latest observation => (observation.offerTo peerID).or latest) none

/-- A call starts without an offer, takes the last one sent, and is over when it is ended,
refused or reported as ended. -/
def callAfter (call : Option (String × Option String)) (observation : Observation) :
    Option (String × Option String) :=
  match observation with
  | .startCall name => some (name, none)
  | .offerIsReady peerID description _ => call.map fun current =>
      if current.1 = peerID then (peerID, some description.sdp) else current
  | .endCall name => call.filter fun current => current.1 ≠ name
  | .endReceived => none
  | .rejectReceived => none
  | _ => call

/-- The peer that the client is calling, and the offer it has sent in this call. -/
def currentCall (log : List Observation) : Option (String × Option String) :=
  log.foldl callAfter none

theorem latestOffer_append {log added : List Observation} {peerID : String}
    (silent : ∀ observation ∈ added, observation.offerTo peerID = none) :
    latestOffer (log ++ added) peerID = latestOffer log peerID := by
  refine foldl_append_silent _ _ _ _ ?_
  intro observation member latest
  rw [silent observation member, Option.none_or]

theorem Observation.Silent.offerTo {observation : Observation} (silent : observation.Silent)
    (peerID : String) : observation.offerTo peerID = none := by
  cases observation with
  | offerIsReady _ _ _ => cases silent
  | _ => rfl

theorem currentCall_append {log added : List Observation}
    (silent : ∀ observation ∈ added, observation.Silent) :
    currentCall (log ++ added) = currentCall log := by
  refine foldl_append_silent _ _ _ _ ?_
  intro observation member call
  have quiet := silent observation member
  cases observation with
  | startCall _ | endCall _ | offerIsReady _ _ _ | rejectReceived | endReceived => cases quiet
  | _ => rfl

namespace WebRTC

variable {library : RtcLibrary} {webRtc next : WebRTC}

/-- A gathering connection announces a description of the type when its callback runs. -/
def Announces (webRtc : WebRTC) (id : ConnectionId) (type : SdpType) : Prop :=
  webRtc.Gathering id ∧ ∃ source ∈ webRtc.peerConnections (webRtc.connections id).peerId,
    ∃ description ∈ (webRtc.connections source).localDescription, description.type = type

instance (webRtc : WebRTC) (id : ConnectionId) (type : SdpType) :
    Decidable (webRtc.Announces id type) :=
  inferInstanceAs (Decidable (_ ∧ ∃ _ ∈ webRtc.peerConnections _, _))

/-- An accept takes effect when the stored text parses and the library takes it. -/
def Accepts (library : RtcLibrary) (webRtc : WebRTC) (name sdp : String) : Prop :=
  webRtc.peerSdps name = some sdp ∧ library.parses sdp .offer = true ∧
    library.accepts (webRtc.acceptFound name) ⟨.offer, sdp⟩ = true

/-- The observations that one event may add to the log. -/
def Logs (library : RtcLibrary) (webRtc : WebRTC) (added : List Observation) : Event → Prop
  | .startCall targetName => added = [.startCall targetName]
  | .registerName username => added = [.connectToSignalingServer username]
  | .endCall name => added = [.endCall name]
  | .acceptCall name => (∀ observation ∈ added, observation.Silent) ∧
      ∀ sdp, Accepts library webRtc name sdp →
        ∃ target, .setRemoteDescription name target ⟨.offer, sdp⟩ ∈ added
  | .rejectCall name => added = [.callRejected name (webRtc.peerSdps name)]
  | .rejectedReceived _ => added = [.rejectReceived]
  | .answerReceived _ _ => ∀ observation ∈ added,
      observation.Silent ∨ observation = .acceptedReceived
  | .gatheringComplete id => added = [] ∨ ∃ description source,
      webRtc.Announces id description.type ∧
        added = [if webRtc.isOfferer then
            .offerIsReady (webRtc.connections id).peerId description source
          else .answerIsReady (webRtc.connections id).peerId description source]
  | .runQueued _ _ => (∀ observation ∈ added, observation.Silent) ∨
      ∃ id ∈ webRtc.ending, added = [.endReceived, .endConnection id]
  | _ => ∀ observation ∈ added, observation.Silent

/-- A client calls the library with the offer it accepts, and otherwise says nothing. -/
theorem acceptPeer_logs (library : RtcLibrary) (webRtc : WebRTC) (description : Description)
    (peerId : String) :
    (settle (webRtc.acceptPeer library description peerId)).log =
      webRtc.log ++ [.setRemoteDescription peerId (webRtc.acceptTarget peerId) description] := by
  obtain ⟨connection, outcome⟩ := webRtc.acceptPeer_settle library description peerId
  rw [outcome]
  exact webRtc.acceptCalled_log description peerId

theorem acceptPeer_isOfferer (library : RtcLibrary) (webRtc : WebRTC) (description : Description)
    (peerId : String) : (settle (webRtc.acceptPeer library description peerId)).isOfferer =
      webRtc.isOfferer := by
  obtain ⟨connection, outcome⟩ := webRtc.acceptPeer_settle library description peerId
  rw [outcome]
  exact acceptReady_isOfferer webRtc peerId

theorem acceptCall_logs (library : RtcLibrary) (webRtc : WebRTC) (name : String) :
    ∃ added, (settle (webRtc.acceptCall library name)).log = webRtc.log ++ added ∧
      Logs library webRtc added (.acceptCall name) := by
  rcases webRtc.acceptCall_cases library name with outcome | ⟨sdp, stored, _, outcome⟩
  · rw [outcome]
    refine ⟨[], by simp, by simp, ?_⟩
    intro sdp accepts
    have called : webRtc.acceptCall library name =
        webRtc.acceptPeer library ⟨.offer, sdp⟩ name := by
      simp [acceptCall, accepts.1, accepts.2.1]
    have grown := acceptPeer_logs library webRtc ⟨.offer, sdp⟩ name
    rw [← called, outcome] at grown
    simp at grown
  · rw [outcome, acceptPeer_logs]
    refine ⟨_, rfl, by simp [Observation.Silent], ?_⟩
    intro other accepts
    cases stored.symm.trans accepts.1
    exact ⟨_, List.mem_cons_self⟩

theorem answerReceived_logs (library : RtcLibrary) (webRtc : WebRTC) (peerID sdp : String) :
    ∃ added, (settle (webRtc.answerReceived library peerID sdp)).log = webRtc.log ++ added ∧
      Logs library webRtc added (.answerReceived peerID sdp) := by
  have grown := acceptPeer_logs library (webRtc.storeSdp peerID sdp) ⟨.answer, sdp⟩ peerID
  rw [storeSdp_log] at grown
  rcases webRtc.answerReceived_outcome library peerID sdp with
    ⟨_, outcome⟩ | ⟨_, outcome | outcome⟩
  · exact ⟨[], by simp [outcome], by simp [Logs]⟩
  · rw [outcome, grown]
    exact ⟨_, rfl, by simp [Logs, Observation.Silent]⟩
  · rw [outcome, record_log, grown, List.append_assoc]
    exact ⟨_, rfl, by simp [Logs, Observation.Silent]⟩

/-- The callback announces the entry of its peer under the tag of the present role. -/
theorem gatheringComplete_logs {id : ConnectionId}
    (taken : webRtc.step library (.gatheringComplete id) = some next) :
    ∃ added, next.log = webRtc.log ++ added ∧
      Logs library webRtc added (.gatheringComplete id) := by
  obtain ⟨gathering, ran⟩ := Option.ite_none_right_eq_some.mp taken
  obtain ⟨source, entry, emitted⟩ := Option.map_eq_some_iff.mp ran
  rw [gathered_localDescription, gathered_isOfferer] at emitted
  rw [gathered_peerConnections] at entry
  cases described : (webRtc.connections source).localDescription with
  | none =>
      rw [described] at emitted
      subst emitted
      exact ⟨[], by simp, .inl rfl⟩
  | some description =>
      rw [described] at emitted
      have announces : webRtc.Announces id description.type :=
        ⟨gathering, source, entry, description, described, rfl⟩
      subst emitted
      refine ⟨_, ?_, .inr ⟨description, source, announces, rfl⟩⟩
      by_cases offering : webRtc.isOfferer = true
      · simp [offering]
      · simp [offering]

theorem runQueued_logs {deviceOpens sinkStarts : Bool}
    (ran : webRtc.runQueued deviceOpens sinkStarts = some next) :
    ∃ added, next.log = webRtc.log ++ added ∧
      Logs library webRtc added (.runQueued deviceOpens sinkStarts) := by
  rcases runQueued_cases ran with ⟨id, rest, waiting, rfl⟩ | ⟨id, rest, waiting, rfl⟩
  · obtain ⟨input, output, outcome⟩ :=
      { webRtc with queue := rest }.connectionReady_devices deviceOpens sinkStarts
    refine ⟨[.connectionReady id], by rw [record_log, outcome], .inl ?_⟩
    simp [Observation.Silent]
  · refine ⟨[.endReceived, .endConnection id], by simp [endConnection], .inr ⟨id, ?_, rfl⟩⟩
    simp [ending, waiting]

/-- Every event adds to the log what it may add, and removes nothing. -/
theorem step_logs {event : Event} (taken : webRtc.step library event = some next) :
    ∃ added, next.log = webRtc.log ++ added ∧ Logs library webRtc added event := by
  cases event with
  | startCall targetName =>
      cases taken
      rw [startCall_eq]
      exact ⟨_, rfl, rfl⟩
  | registerName username =>
      cases taken
      exact ⟨_, rfl, rfl⟩
  | endCall name =>
      obtain ⟨id, _, closed⟩ := Option.map_eq_some_iff.mp taken
      subst closed
      exact ⟨_, rfl, rfl⟩
  | acceptCall name =>
      cases taken
      exact acceptCall_logs library webRtc name
  | rejectCall name =>
      cases taken
      exact ⟨_, rfl, rfl⟩
  | offerReceived peerID sdp =>
      cases taken
      exact ⟨_, rfl, by simp [Logs, Observation.Silent]⟩
  | answerReceived peerID sdp =>
      cases taken
      exact answerReceived_logs library webRtc peerID sdp
  | rejectedReceived peerID =>
      cases taken
      exact ⟨_, rfl, rfl⟩
  | setRemoteCandidate peerID =>
      cases taken
      unfold setRemoteCandidate
      split
      · exact ⟨[], by simp, by simp [Logs]⟩
      · exact ⟨[], by simp, by simp [Logs]⟩
  | dataReady data now sendSucceeds =>
      cases taken
      obtain ⟨added, outcome, sends⟩ := webRtc.dataReady_grows data now sendSucceeds
      refine ⟨added, by rw [outcome], fun observation member => ?_⟩
      obtain ⟨_, _, rfl⟩ := sends observation member
      trivial
  | gatheringComplete id => exact gatheringComplete_logs taken
  | stateChanged id state =>
      obtain ⟨_, slots, rfl⟩ := stateChanged_cases taken
      exact ⟨[], by simp, by simp [Logs]⟩
  | remoteTrack id =>
      obtain ⟨_, set⟩ := Option.ite_none_right_eq_some.mp taken
      cases set
      exact ⟨[], by simp, by simp [Logs]⟩
  | message track data =>
      obtain ⟨_, output, _, rfl⟩ := message_cases taken
      exact ⟨[], by simp, by simp [Logs]⟩
  | runQueued deviceOpens sinkStarts => exact runQueued_logs taken

namespace Announces

variable {id : ConnectionId} {type : SdpType}

/-- What a change of other connections and entries leaves as it was is announced as before. -/
theorem of_same (announces : next.Announces id type) (gathering : webRtc.Gathering id)
    (peerId : (next.connections id).peerId = (webRtc.connections id).peerId)
    (entry : next.peerConnections (webRtc.connections id).peerId =
      webRtc.peerConnections (webRtc.connections id).peerId)
    (described : ∀ source ∈ webRtc.peerConnections (webRtc.connections id).peerId,
      (next.connections source).localDescription =
        (webRtc.connections source).localDescription) :
    webRtc.Announces id type := by
  obtain ⟨_, source, held, description, isLocal, kind⟩ := announces
  rw [peerId, entry] at held
  rw [described source held] at isLocal
  exact ⟨gathering, source, held, description, isLocal, kind⟩

/-- A new connection has nothing to announce and takes the word from its peer's old ones. -/
theorem of_addPeer (sound : webRtc.Sound) {peerId : String}
    (announces : (webRtc.addPeer peerId).Announces id type) :
    webRtc.Announces id type ∧
      ((webRtc.addPeer peerId).connections id).peerId = (webRtc.connections id).peerId := by
  obtain ⟨gathering, sameName⟩ := announces.1.of_addPeer
  refine ⟨announces.of_same gathering sameName ?_ ?_, sameName⟩
  · rw [addPeer_peerConnections, Function.update_of_ne]
    intro replaced
    obtain ⟨_, source, held, description, described, _⟩ := announces
    rw [sameName, replaced, addPeer_peerConnections, Function.update_self] at held
    cases held
    rw [addPeer_connections, Function.update_self] at described
    cases described
  · intro source held
    obtain ⟨closing, kept⟩ := addPeer_older (sound.entry _ source held).1.ne peerId
    rw [kept]

theorem of_acceptReady (sound : webRtc.Sound) {peerId : String}
    (announces : (webRtc.acceptReady peerId).Announces id type) :
    webRtc.Announces id type ∧
      ((webRtc.acceptReady peerId).connections id).peerId = (webRtc.connections id).peerId := by
  rcases webRtc.acceptReady_cases peerId with ⟨_, _, ready⟩ | ⟨_, _, ready⟩
  · rw [ready] at announces ⊢
    exact ⟨announces, rfl⟩
  · rw [ready] at announces ⊢
    exact announces.of_addPeer sound

/-- A connection set under its own name speaks only for the gatherings of that name. -/
theorem of_setConnection (sound : webRtc.Sound) {target : ConnectionId}
    {connection : PeerConnection}
    (sameName : connection.peerId = (webRtc.connections target).peerId)
    (announces : (webRtc.setConnection target connection).Announces id type) :
    ((webRtc.setConnection target connection).connections id).peerId =
        (webRtc.connections id).peerId ∧
      ((webRtc.connections id).peerId ≠ connection.peerId → webRtc.Announces id type) := by
  have peerId : ((webRtc.setConnection target connection).connections id).peerId =
      (webRtc.connections id).peerId := by
    by_cases here : id = target
    · subst here
      rw [setConnection_connections, Function.update_self, sameName]
    · rw [setConnection_connections, Function.update_of_ne here]
  refine ⟨peerId, fun different => ?_⟩
  have here : id ≠ target := by
    rintro rfl
    exact different sameName.symm
  obtain ⟨below, gathering, isOpen⟩ := announces.1
  rw [setConnection_connections, Function.update_of_ne here] at gathering isOpen
  refine announces.of_same ⟨below, gathering, isOpen⟩ peerId rfl ?_
  intro source held
  rw [setConnection_connections, Function.update_of_ne]
  rintro rfl
  exact different ((sound.entry _ source held).2.symm.trans sameName.symm)

/-- An undisturbed client announces what it announced. -/
theorem of_undisturbed (undisturbed : webRtc.Undisturbed next)
    (announces : next.Announces id type) :
    webRtc.Announces id type ∧
      (next.connections id).peerId = (webRtc.connections id).peerId := by
  have negotiation := undisturbed.negotiation
  have gathering : webRtc.Gathering id := by
    obtain ⟨below, gathers, isOpen⟩ := announces.1
    rw [undisturbed.created] at below
    rw [(negotiation id).gathering] at gathers
    exact ⟨below, gathers, (negotiation id).open_of_open isOpen⟩
  refine ⟨announces.of_same gathering (negotiation id).peerId ?_ ?_, (negotiation id).peerId⟩
  · rw [undisturbed.entries]
  · exact fun source _ => (negotiation source).localDescription

/-- A call makes its peer's gatherings announce an offer. -/
theorem of_startCall (sound : webRtc.Sound) {targetName : String}
    (announces : (webRtc.startCall library targetName).Announces id type) :
    (webRtc.Announces id type ∧ ((webRtc.startCall library targetName).connections id).peerId =
        (webRtc.connections id).peerId) ∨
      (((webRtc.startCall library targetName).connections id).peerId = targetName ∧
        type = .offer) := by
  by_cases called : ((webRtc.startCall library targetName).connections id).peerId = targetName
  · right
    refine ⟨called, ?_⟩
    obtain ⟨_, source, held, description, described, kind⟩ := announces
    rw [called] at held
    rw [startCall_eq] at held described
    rw [setConnection_peerConnections, setTrack_peerConnections, addPeer_peerConnections,
      Function.update_self] at held
    cases held
    rw [← kind]
    simp [PeerConnection.setLocalOffer] at described
    rw [← described]
  · left
    have recorded : (webRtc.record (.startCall targetName)).Sound :=
      sound.record (by simp [Observation.connection])
    have addedSound := (recorded.setIsOfferer true).addPeer targetName
    have setSound : ((((webRtc.record (.startCall targetName)).setIsOfferer true).addPeer
        targetName).setTrack webRtc.created).Sound := addedSound.setTrack (Nat.lt_succ_self _)
    rw [startCall_eq] at announces called ⊢
    obtain ⟨peerId, kept⟩ := announces.of_setConnection setSound
      (by simp [PeerConnection.setLocalOffer])
    rw [peerId] at called ⊢
    obtain ⟨older, sameName⟩ :=
      Announces.of_addPeer (recorded.setIsOfferer true) (kept called)
    exact ⟨older, sameName⟩

theorem of_acceptCalled (sound : webRtc.Sound) {description : Description} {peerId : String}
    (announces : (webRtc.acceptCalled description peerId).Announces id type) :
    webRtc.Announces id type ∧
      ((webRtc.acceptCalled description peerId).connections id).peerId =
        (webRtc.connections id).peerId :=
  of_acceptReady sound announces

/-- An accepted offer makes its peer's gatherings announce an answer. -/
theorem of_acceptPeer_offer (sound : webRtc.Sound) {sdp peerId : String}
    (announces : (settle (webRtc.acceptPeer library ⟨.offer, sdp⟩ peerId)).Announces id type) :
    (webRtc.Announces id type ∧
        ((settle (webRtc.acceptPeer library ⟨.offer, sdp⟩ peerId)).connections id).peerId =
          (webRtc.connections id).peerId) ∨
      (((settle (webRtc.acceptPeer library ⟨.offer, sdp⟩ peerId)).connections id).peerId =
          peerId ∧ library.accepts (webRtc.acceptFound peerId) ⟨.offer, sdp⟩ = true ∧
        type = .answer) := by
  have calledSound := sound.acceptCalled ⟨.offer, sdp⟩ peerId
  rcases webRtc.acceptPeer_cases library ⟨.offer, sdp⟩ peerId with
    ⟨connection, applied, outcome⟩ | ⟨_, outcome⟩
  · have made := PeerConnection.setRemoteDescription_offer rfl applied
    have accepted : library.accepts (webRtc.acceptFound peerId) ⟨.offer, sdp⟩ = true :=
      (Option.ite_none_right_eq_some.mp applied).1
    have ownName : connection.peerId = peerId := by
      rw [made]
      exact sound.acceptFound_peerId peerId
    rw [outcome] at announces ⊢
    obtain ⟨peerId', kept⟩ := of_setConnection calledSound
      (PeerConnection.setRemoteDescription_keeps applied).2.1 announces
    rw [settle, peerId']
    by_cases called : ((webRtc.acceptCalled ⟨.offer, sdp⟩ peerId).connections id).peerId = peerId
    · refine .inr ⟨called, accepted, ?_⟩
      obtain ⟨_, source, held, description, described, kind⟩ := announces
      rw [settle, peerId', called, setConnection_peerConnections] at held
      cases held.symm.trans (webRtc.acceptReady_entry peerId)
      rw [settle, setConnection_connections, Function.update_self, made] at described
      cases described
      exact kind.symm
    · rw [ownName] at kept
      obtain ⟨older, sameName⟩ := (kept called).of_acceptCalled sound
      exact .inl ⟨older, sameName⟩
  · rw [outcome] at announces ⊢
    exact .inl (of_acceptCalled sound announces)

/-- An answer describes nothing. -/
theorem of_acceptPeer_answer (sound : webRtc.Sound) {sdp peerId : String}
    (announces : (settle (webRtc.acceptPeer library ⟨.answer, sdp⟩ peerId)).Announces id type) :
    webRtc.Announces id type ∧
      ((settle (webRtc.acceptPeer library ⟨.answer, sdp⟩ peerId)).connections id).peerId =
        (webRtc.connections id).peerId := by
  have called : (webRtc.acceptCalled ⟨.answer, sdp⟩ peerId).Announces id type →
      webRtc.Announces id type ∧
        ((webRtc.acceptCalled ⟨.answer, sdp⟩ peerId).connections id).peerId =
          (webRtc.connections id).peerId := of_acceptCalled sound
  rcases webRtc.acceptPeer_cases library ⟨.answer, sdp⟩ peerId with
    ⟨connection, applied, outcome⟩ | ⟨_, outcome⟩
  · obtain ⟨_, made⟩ := PeerConnection.setRemoteDescription_answer rfl applied
    have same (other : ConnectionId) :
        let before := (webRtc.acceptCalled ⟨.answer, sdp⟩ peerId).connections other
        let after := ((webRtc.acceptCalled ⟨.answer, sdp⟩ peerId).setConnection
          (webRtc.acceptTarget peerId) connection).connections other
        after.peerId = before.peerId ∧ after.gathering = before.gathering ∧
          after.state = before.state ∧ after.localDescription = before.localDescription := by
      by_cases here : other = webRtc.acceptTarget peerId
      · subst here
        simp only [setConnection_connections, Function.update_self, made]
        exact ⟨rfl, rfl, rfl, rfl⟩
      · simp [here]
    rw [outcome] at announces ⊢
    obtain ⟨below, gathering, isOpen⟩ := announces.1
    have before : (webRtc.acceptCalled ⟨.answer, sdp⟩ peerId).Announces id type :=
      announces.of_same ⟨below, (same id).2.1 ▸ gathering, (same id).2.2.1 ▸ isOpen⟩
        (same id).1 rfl fun source _ => (same source).2.2.2
    obtain ⟨older, sameName⟩ := called before
    exact ⟨older, (same id).1.trans sameName⟩
  · rw [outcome] at announces ⊢
    exact called announces

/-- A gathering that has completed announces nothing any more. -/
theorem of_gathered {other : ConnectionId}
    (announces : (webRtc.gathered other).Announces id type) :
    webRtc.Announces id type ∧ id ≠ other ∧
      ((webRtc.gathered other).connections id).peerId = (webRtc.connections id).peerId := by
  obtain ⟨below, gathering, isOpen⟩ := announces.1
  have here : id ≠ other := by
    rintro rfl
    simp [gathered] at gathering
  have same : (webRtc.gathered other).connections id = webRtc.connections id := by
    simp [gathered, here]
  rw [same] at gathering isOpen
  have before : webRtc.Announces id type :=
    announces.of_same ⟨below, gathering, isOpen⟩ (by rw [same]) rfl
      fun source _ => gathered_localDescription webRtc other source
  exact ⟨before, here, by rw [same]⟩

/-- Only a call and an accept that takes effect make a connection announce something new. -/
theorem before (sound : webRtc.Sound) {event : Event}
    (taken : webRtc.step library event = some next) (announces : next.Announces id type) :
    (webRtc.Announces id type ∧
        (next.connections id).peerId = (webRtc.connections id).peerId) ∨
      (event = .startCall (next.connections id).peerId ∧ type = .offer) ∨
      ∃ sdp, event = .acceptCall (next.connections id).peerId ∧
        Accepts library webRtc (next.connections id).peerId sdp ∧ type = .answer := by
  cases event with
  | startCall targetName =>
      cases taken
      rcases announces.of_startCall sound with older | ⟨called, kind⟩
      · exact .inl older
      · exact .inr (.inl ⟨by rw [called], kind⟩)
  | registerName username =>
      cases taken
      exact .inl (of_addPeer (sound.setIsOfferer false) announces)
  | acceptCall name =>
      cases taken
      rcases webRtc.acceptCall_cases library name with outcome | ⟨sdp, stored, parsed, outcome⟩
      · rw [outcome] at announces ⊢
        exact .inl ⟨announces, rfl⟩
      · rw [outcome] at announces ⊢
        rcases of_acceptPeer_offer sound announces with older | ⟨called, accepted, kind⟩
        · exact .inl older
        · refine .inr (.inr ⟨sdp, ?_⟩)
          rw [called]
          exact ⟨rfl, ⟨stored, parsed, accepted⟩, kind⟩
  | offerReceived peerID sdp =>
      cases taken
      exact .inl ⟨announces, rfl⟩
  | answerReceived peerID sdp =>
      cases taken
      left
      rcases webRtc.answerReceived_outcome library peerID sdp with
        ⟨_, outcome⟩ | ⟨_, outcome | outcome⟩
      · rw [outcome] at announces ⊢
        exact ⟨announces, rfl⟩
      · rw [outcome] at announces ⊢
        exact of_acceptPeer_answer (sound.storeSdp peerID sdp) announces
      · rw [outcome] at announces ⊢
        exact of_acceptPeer_answer (sound.storeSdp peerID sdp) announces
  | setRemoteCandidate peerID =>
      cases taken
      left
      unfold setRemoteCandidate at announces ⊢
      split at announces
      · next present =>
          rw [if_pos present]
          exact ⟨announces, rfl⟩
      · next missing =>
          rw [if_neg missing]
          exact announces.of_addPeer sound
  | gatheringComplete other =>
      obtain ⟨_, ran⟩ := Option.ite_none_right_eq_some.mp taken
      obtain ⟨_, _, emitted⟩ := Option.map_eq_some_iff.mp ran
      left
      have logged : ∃ added, next =
          { webRtc.gathered other with log := (webRtc.gathered other).log ++ added } := by
        subst emitted
        split
        · exact ⟨[], by rw [List.append_nil]⟩
        · split
          · exact ⟨_, rfl⟩
          · exact ⟨_, rfl⟩
      obtain ⟨added, made⟩ := logged
      subst made
      have gathered : (webRtc.gathered other).Announces id type := announces
      obtain ⟨older, _, sameName⟩ := gathered.of_gathered
      exact ⟨older, sameName⟩
  | endCall _ | rejectCall _ | rejectedReceived _ | dataReady _ _ _ | stateChanged _ _
  | remoteTrack _ | message _ _ | runQueued _ _ =>
      exact .inl (announces.of_undisturbed (.of_quiet (by trivial) taken))

end Announces

/-- A disrupting event ends the client's own call or starts another one. -/
def Disrupts (webRtc : WebRTC) : Event → Prop
  | .startCall _ | .endCall _ | .rejectedReceived _ => True
  | .runQueued _ _ => webRtc.ending.isSome = true
  | _ => False

/-- An event offers to a peer when it completes a gathering in the offering role. -/
def Offers (webRtc : WebRTC) (peerId : String) : Event → Prop
  | .gatheringComplete id => webRtc.isOfferer = true ∧
      (webRtc.connections id).peerId = peerId ∧
      (webRtc.Announces id .offer ∨ webRtc.Announces id .answer)
  | _ => False

theorem Announces.some_type {id : ConnectionId} {type : SdpType}
    (announces : webRtc.Announces id type) :
    webRtc.Announces id .offer ∨ webRtc.Announces id .answer := by
  cases type with
  | offer => exact .inl announces
  | answer => exact .inr announces

/-- Only a new offer to the peer changes the last one. -/
theorem latestOffer_step {event : Event} {peerId : String}
    (taken : webRtc.step library event = some next) (quiet : ¬webRtc.Offers peerId event) :
    latestOffer next.log peerId = latestOffer webRtc.log peerId := by
  obtain ⟨added, grown, logs⟩ := step_logs taken
  rw [grown]
  refine latestOffer_append fun observation member => ?_
  cases event with
  | startCall _ | registerName _ | endCall _ | rejectCall _ | rejectedReceived _ =>
      cases logs
      rw [List.mem_singleton.mp member]
      rfl
  | acceptCall _ => exact (logs.1 observation member).offerTo peerId
  | offerReceived _ _ | setRemoteCandidate _ | dataReady _ _ _ | stateChanged _ _ | remoteTrack _
  | message _ _ => exact (logs observation member).offerTo peerId
  | answerReceived _ _ =>
      rcases logs observation member with silent | accepted
      · exact silent.offerTo peerId
      · rw [accepted]
        rfl
  | gatheringComplete id =>
      rcases logs with none | ⟨description, source, announces, sent⟩
      · rw [none] at member
        cases member
      · rw [sent] at member
        rw [List.mem_singleton.mp member]
        cases offering : webRtc.isOfferer with
        | false => rfl
        | true =>
            have other : (webRtc.connections id).peerId ≠ peerId :=
              fun same => quiet ⟨offering, same, announces.some_type⟩
            simp [Observation.offerTo, other]
  | runQueued _ _ =>
      rcases logs with silent | ⟨id, _, ended⟩
      · exact (silent observation member).offerTo peerId
      · rw [ended] at member
        rcases List.mem_cons.mp member with same | last
        · rw [same]
          rfl
        · rw [List.mem_singleton.mp last]
          rfl

/-- Only a disrupting event or an offer to the called peer changes the current call. -/
theorem currentCall_step {event : Event} (taken : webRtc.step library event = some next)
    (calm : ¬webRtc.Disrupts event)
    (quiet : ∀ call ∈ currentCall webRtc.log, ¬webRtc.Offers call.1 event) :
    currentCall next.log = currentCall webRtc.log := by
  obtain ⟨added, grown, logs⟩ := step_logs taken
  rw [grown]
  cases event with
  | startCall _ | endCall _ | rejectedReceived _ => exact absurd trivial calm
  | registerName _ | rejectCall _ =>
      cases logs
      simp [currentCall, callAfter]
  | acceptCall _ => exact currentCall_append logs.1
  | offerReceived _ _ | setRemoteCandidate _ | dataReady _ _ _ | stateChanged _ _ | remoteTrack _
  | message _ _ => exact currentCall_append logs
  | answerReceived _ _ =>
      refine foldl_append_silent _ _ _ _ fun observation member call => ?_
      rcases logs observation member with silent | accepted
      · cases observation with
        | startCall _ | endCall _ | offerIsReady _ _ _ | rejectReceived | endReceived =>
            cases silent
        | _ => rfl
      · rw [accepted]
        rfl
  | gatheringComplete id =>
      rcases logs with none | ⟨description, source, announces, sent⟩
      · rw [none, List.append_nil]
      · rw [sent, currentCall, List.foldl_append, List.foldl_cons, List.foldl_nil]
        change callAfter (currentCall webRtc.log) _ = currentCall webRtc.log
        cases offering : webRtc.isOfferer with
        | false => rfl
        | true =>
            cases current : currentCall webRtc.log with
            | none => rfl
            | some call =>
                have other : call.1 ≠ (webRtc.connections id).peerId :=
                  fun same => quiet call current ⟨offering, same.symm, announces.some_type⟩
                simp [callAfter, other]
  | runQueued _ _ =>
      rcases logs with silent | ⟨id, ending, _⟩
      · exact currentCall_append silent
      · exact absurd (Option.isSome_of_mem ending) calm

/-- An outcome is announced only in the slot of an answer or with the signal of a rejection. -/
theorem outcome_of_since {event : Event} {observation : Observation}
    (taken : webRtc.step library event = some next) (outcome : observation.Outcome)
    (heard : observation ∈ webRtc.since next) :
    (∃ peerID sdp, event = .answerReceived peerID sdp ∧ observation = .acceptedReceived) ∨
      ∃ peerID, event = .rejectedReceived peerID ∧ observation = .rejectReceived := by
  obtain ⟨added, grown, logs⟩ := step_logs taken
  rw [since_of_log grown] at heard
  cases event with
  | answerReceived peerID sdp =>
      have accepted := (logs observation heard).resolve_left outcome.not_silent
      exact .inl ⟨peerID, sdp, rfl, accepted⟩
  | rejectedReceived peerID =>
      cases logs
      exact .inr ⟨peerID, rfl, List.mem_singleton.mp heard⟩
  | startCall _ | registerName _ | endCall _ | rejectCall _ =>
      cases logs
      cases List.mem_singleton.mp heard
      cases outcome
  | acceptCall _ => exact absurd (logs.1 observation heard) outcome.not_silent
  | offerReceived _ _ | setRemoteCandidate _ | dataReady _ _ _ | stateChanged _ _ | remoteTrack _
  | message _ _ => exact absurd (logs observation heard) outcome.not_silent
  | gatheringComplete id =>
      rcases logs with none | ⟨description, source, _, sent⟩
      · rw [none] at heard
        cases heard
      · rw [sent, List.mem_singleton] at heard
        subst heard
        split at outcome
        · cases outcome
        · cases outcome
  | runQueued _ _ =>
      rcases logs with silent | ⟨id, _, ended⟩
      · exact absurd (silent observation heard) outcome.not_silent
      · rw [ended] at heard
        rcases List.mem_cons.mp heard with same | last
        · subst same
          cases outcome
        · cases List.mem_singleton.mp last
          cases outcome

/-- A call makes the client offer, and an offer or a registration makes it answer. -/
theorem isOfferer_step {event : Event} (taken : webRtc.step library event = some next) :
    next.isOfferer = webRtc.isOfferer ∨ (∃ name, event = .startCall name ∧
        next.isOfferer = true) ∨
      (∃ peerID sdp, event = .offerReceived peerID sdp) ∨
      ∃ username, event = .registerName username := by
  cases event with
  | startCall name =>
      cases taken
      refine .inr (.inl ⟨name, rfl, ?_⟩)
      rw [startCall_eq]
      rfl
  | registerName username => exact .inr (.inr (.inr ⟨username, rfl⟩))
  | offerReceived peerID sdp => exact .inr (.inr (.inl ⟨peerID, sdp, rfl⟩))
  | acceptCall name =>
      cases taken
      left
      rcases webRtc.acceptCall_cases library name with outcome | ⟨sdp, _, _, outcome⟩
      · rw [outcome]
      · rw [outcome, acceptPeer_isOfferer]
  | answerReceived peerID sdp =>
      cases taken
      left
      have kept := acceptPeer_isOfferer library (webRtc.storeSdp peerID sdp) ⟨.answer, sdp⟩ peerID
      rcases webRtc.answerReceived_outcome library peerID sdp with
        ⟨_, outcome⟩ | ⟨_, outcome | outcome⟩
      · rw [outcome]
        rfl
      · rw [outcome]
        exact kept
      · rw [outcome]
        exact kept
  | setRemoteCandidate peerID =>
      cases taken
      left
      unfold setRemoteCandidate
      split
      · rfl
      · rfl
  | gatheringComplete id =>
      left
      obtain ⟨_, rfl | ⟨observation, _, rfl⟩⟩ := gatheringComplete_cases taken
      · rfl
      · rfl
  | endCall _ | rejectCall _ | rejectedReceived _ | dataReady _ _ _ | stateChanged _ _
  | remoteTrack _ | message _ _ | runQueued _ _ =>
      exact .inl (Undisturbed.of_quiet (by trivial) taken).role

end WebRTC
end VoiceCall.Client
