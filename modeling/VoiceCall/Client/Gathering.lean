import VoiceCall.Client.Frame

namespace VoiceCall.Client

open Foundation

/-- The two description signals, with the type that the signal stands for. -/
def Observation.sends : Observation → Option (SdpType × String × Description × ConnectionId)
  | .offerIsReady peerID description source => some (.offer, peerID, description, source)
  | .answerIsReady peerID description source => some (.answer, peerID, description, source)
  | _ => none

namespace WebRTC

variable {library : RtcLibrary} {webRtc next : WebRTC}

/-- A gathering connection that the map still holds speaks for itself. -/
def Speaks (webRtc : WebRTC) (id : ConnectionId) : Prop :=
  webRtc.Gathering id ∧ webRtc.peerConnections (webRtc.connections id).peerId = some id

/-- The local description of a connection, when there is one, has the type. -/
def DescribedAs (webRtc : WebRTC) (id : ConnectionId) (type : SdpType) : Prop :=
  ∀ description ∈ (webRtc.connections id).localDescription, description.type = type

/-- The callback of a connection sends nothing, or its own description to its own peer
as what the description is. -/
def DescribesItself (webRtc next : WebRTC) (id : ConnectionId) : Prop :=
  ∀ observation ∈ webRtc.since next, ∀ type peerID description source,
    observation.sends = some (type, peerID, description, source) →
      peerID = (webRtc.connections id).peerId ∧ source = id ∧
        (webRtc.connections id).localDescription = some description ∧ type = description.type

/-- An accepted offer hits no gathering of its peer, and an offering client starts none. -/
def AcceptsQuietly (webRtc : WebRTC) (name : String) : Prop :=
  (∀ id, webRtc.Gathering id → (webRtc.connections id).peerId ≠ name) ∧
    ¬(webRtc.isOfferer = true ∧ (webRtc.acceptFound name).gathering = .new ∧
      (webRtc.acceptFound name).state ≠ .closed)

/-- The guard keeps the role and the map as every gathering in progress needs them. -/
def TagsKept (library : RtcLibrary) (webRtc : WebRTC) : Event → Prop
  | .startCall targetName => ∀ id, webRtc.Gathering id →
      (webRtc.connections id).peerId ≠ targetName ∧
        (webRtc.Speaks id → webRtc.DescribedAs id .offer)
  | .registerName username => ∀ id, webRtc.Speaks id →
      (webRtc.connections id).peerId = username ∨ webRtc.DescribedAs id .answer
  | .offerReceived _ _ => ∀ id, webRtc.Speaks id → webRtc.DescribedAs id .answer
  | .acceptCall name => ∀ sdp, webRtc.peerSdps name = some sdp →
      library.parses sdp .offer = true →
      library.accepts (webRtc.acceptFound name) ⟨.offer, sdp⟩ = true → webRtc.AcceptsQuietly name
  | _ => True

/-- Every gathering connection speaks for itself under the right tag, or its peer's entry
has nothing to say. -/
def TagsRight (webRtc : WebRTC) : Prop :=
  ∀ id, webRtc.Gathering id → ∃ source,
    webRtc.peerConnections (webRtc.connections id).peerId = some source ∧
      ∀ description ∈ (webRtc.connections source).localDescription,
        source = id ∧ (webRtc.isOfferer = true ↔ description.type = .offer)

@[simp] theorem gathered_localDescription (webRtc : WebRTC) (id source : ConnectionId) :
    ((webRtc.gathered id).connections source).localDescription =
      (webRtc.connections source).localDescription := by
  by_cases same : source = id
  · subst same
    simp [gathered]
  · simp [gathered, same]

@[simp] theorem gathered_peerConnections (webRtc : WebRTC) (id : ConnectionId) :
    (webRtc.gathered id).peerConnections = webRtc.peerConnections := rfl

@[simp] theorem gathered_isOfferer (webRtc : WebRTC) (id : ConnectionId) :
    (webRtc.gathered id).isOfferer = webRtc.isOfferer := rfl

@[simp] theorem gathered_log (webRtc : WebRTC) (id : ConnectionId) :
    (webRtc.gathered id).log = webRtc.log := rfl

/-- The callback signals the description of the entry under the tag of the present role. -/
theorem gatheringComplete_since {id source : ConnectionId}
    (entry : webRtc.peerConnections (webRtc.connections id).peerId = some source)
    (taken : webRtc.step library (.gatheringComplete id) = some next) :
    webRtc.since next = match (webRtc.connections source).localDescription with
      | none => []
      | some description =>
          if webRtc.isOfferer then
            [.offerIsReady (webRtc.connections id).peerId description source]
          else [.answerIsReady (webRtc.connections id).peerId description source] := by
  obtain ⟨_, ran⟩ := Option.ite_none_right_eq_some.mp taken
  simp only [onGatheringComplete, gathered_peerConnections, entry, Option.map_some,
    gathered_localDescription, gathered_isOfferer, Option.some.injEq] at ran
  subst ran
  cases (webRtc.connections source).localDescription with
  | none => exact since_of_log (by simp)
  | some description =>
      by_cases offering : webRtc.isOfferer = true
      · simp only [offering, if_true]
        exact since_of_log (by simp)
      · simp only [offering, if_false, Bool.false_eq_true]
        exact since_of_log (by simp)

/-- A gathering connection that the invariant covers describes itself. -/
theorem TagsRight.describesItself (right : webRtc.TagsRight) {id : ConnectionId}
    (taken : webRtc.step library (.gatheringComplete id) = some next) :
    webRtc.DescribesItself next id := by
  obtain ⟨gathering, _⟩ := Option.ite_none_right_eq_some.mp taken
  obtain ⟨source, entry, tagged⟩ := right id gathering
  intro observation member type peerID description origin sends
  rw [gatheringComplete_since entry taken] at member
  cases described : (webRtc.connections source).localDescription with
  | none => simp [described] at member
  | some own =>
      obtain ⟨same, role⟩ := tagged own described
      subst same
      rw [described] at member
      cases offering : webRtc.isOfferer with
      | true =>
          simp only [offering, if_true, List.mem_singleton] at member
          subst member
          cases sends
          exact ⟨rfl, rfl, described, (role.mp offering).symm⟩
      | false =>
          simp only [offering, if_false, List.mem_singleton, Bool.false_eq_true] at member
          subst member
          cases sends
          refine ⟨rfl, rfl, described, ?_⟩
          cases kind : description.type with
          | offer =>
              rw [role.mpr kind] at offering
              cases offering
          | answer => rfl

/-- A gathering connection whose entry is another one, or whose tag is wrong, breaks the rule. -/
theorem not_describesItself {id source : ConnectionId} {description : Description}
    (gathering : webRtc.Gathering id)
    (entry : webRtc.peerConnections (webRtc.connections id).peerId = some source)
    (described : (webRtc.connections source).localDescription = some description)
    (wrong : source ≠ id ∨ ¬(webRtc.isOfferer = true ↔ description.type = .offer)) :
    ∃ last, webRtc.step library (.gatheringComplete id) = some last ∧
      ¬webRtc.DescribesItself last id := by
  have taken : ∃ last, webRtc.step library (.gatheringComplete id) = some last := by
    rw [step, if_pos gathering, onGatheringComplete, gathered_peerConnections, entry]
    exact ⟨_, rfl⟩
  obtain ⟨last, taken⟩ := taken
  refine ⟨last, taken, fun describes => ?_⟩
  have added := gatheringComplete_since entry taken
  rw [described] at added
  cases offering : webRtc.isOfferer with
  | true =>
      rw [offering] at added wrong
      obtain ⟨_, same, _, tag⟩ := describes _ (by rw [added]; exact List.mem_cons_self) _ _ _ _ rfl
      rcases wrong with other | mistagged
      · exact other same
      · exact mistagged (iff_of_true rfl tag.symm)
  | false =>
      rw [offering] at added wrong
      obtain ⟨_, same, _, tag⟩ := describes _ (by rw [added]; exact List.mem_cons_self) _ _ _ _ rfl
      rcases wrong with other | mistagged
      · exact other same
      · exact mistagged (iff_of_false (by decide) (by rw [← tag]; decide))

/-- A gathering that a change neither starts nor touches is right after it as before. -/
theorem TagsRight.of_unchanged (right : webRtc.TagsRight) (sound : webRtc.Sound)
    (role : next.isOfferer = webRtc.isOfferer)
    (entries : next.peerConnections = webRtc.peerConnections)
    (gathering : ∀ id, next.Gathering id → webRtc.Gathering id)
    (peerId : ∀ id < webRtc.created, (next.connections id).peerId = (webRtc.connections id).peerId)
    (described : ∀ id < webRtc.created,
      (next.connections id).localDescription = (webRtc.connections id).localDescription) :
    next.TagsRight := by
  intro id gathers
  obtain ⟨source, entry, tagged⟩ := right id (gathering id gathers)
  have inside := (gathering id gathers).1
  have sourceInside := (sound.entry _ source entry).1
  refine ⟨source, ?_, ?_⟩
  · rw [entries, peerId id inside]
    exact entry
  · rw [role, described source sourceInside]
    exact tagged

/-- A new role must suit every connection that speaks for itself. -/
theorem TagsRight.setIsOfferer (right : webRtc.TagsRight) {type : SdpType}
    (suits : ∀ id, webRtc.Speaks id → webRtc.DescribedAs id type) :
    (webRtc.setIsOfferer (type = .offer)).TagsRight := by
  intro id gathers
  obtain ⟨source, entry, tagged⟩ := right id gathers
  refine ⟨source, entry, ?_⟩
  intro description described
  obtain ⟨same, _⟩ := tagged description described
  subst same
  have kind := suits source ⟨gathers, entry⟩ description described
  exact ⟨rfl, by rw [kind, setIsOfferer_isOfferer, decide_eq_true_eq]⟩

/-- A new connection does not gather, and the others gather under their names as before. -/
theorem Gathering.of_addPeer {peerId : String} {id : ConnectionId}
    (gathers : (webRtc.addPeer peerId).Gathering id) :
    webRtc.Gathering id ∧
      ((webRtc.addPeer peerId).connections id).peerId = (webRtc.connections id).peerId := by
  obtain ⟨below, gathering, isOpen⟩ := gathers
  rcases Nat.lt_succ_iff_lt_or_eq.mp below with older | newest
  · obtain ⟨closing, kept⟩ := addPeer_older older.ne peerId
    rw [kept] at gathering isOpen ⊢
    exact ⟨⟨older, gathering, isOpen⟩, rfl⟩
  · subst newest
    rw [addPeer_connections, Function.update_self] at gathering
    cases gathering

theorem Gathering.of_acceptReady {peerId : String} {id : ConnectionId}
    (gathers : (webRtc.acceptReady peerId).Gathering id) :
    webRtc.Gathering id ∧
      ((webRtc.acceptReady peerId).connections id).peerId = (webRtc.connections id).peerId := by
  rcases webRtc.acceptReady_cases peerId with ⟨_, _, ready⟩ | ⟨_, _, ready⟩
  · rw [ready] at gathers ⊢
    exact ⟨gathers, rfl⟩
  · rw [ready] at gathers ⊢
    exact gathers.of_addPeer

/-- A new entry has nothing to say yet, so the gatherings of its peer fall silent. -/
theorem TagsRight.addPeer (right : webRtc.TagsRight) (sound : webRtc.Sound) (peerId : String) :
    (webRtc.addPeer peerId).TagsRight := by
  intro id gathers
  obtain ⟨gathering, same⟩ := gathers.of_addPeer
  obtain ⟨source, entry, tagged⟩ := right id gathering
  have sourceInside := (sound.entry _ source entry).1
  rw [same, addPeer_peerConnections]
  by_cases replaced : (webRtc.connections id).peerId = peerId
  · refine ⟨webRtc.created, by rw [replaced, Function.update_self], ?_⟩
    rw [addPeer_connections, Function.update_self]
    intro description described
    cases described
  · refine ⟨source, by rw [Function.update_of_ne replaced, entry], ?_⟩
    obtain ⟨closing, kept⟩ := addPeer_older sourceInside.ne peerId
    rw [kept]
    exact tagged

/-- A connection may be described while no connection of its peer gathers. -/
theorem TagsRight.describe (right : webRtc.TagsRight) (sound : webRtc.Sound)
    {target : ConnectionId} {connection : PeerConnection}
    (entry : webRtc.peerConnections connection.peerId = some target)
    (alone : ∀ id, webRtc.Gathering id → (webRtc.connections id).peerId ≠ connection.peerId)
    (suits : connection.gathering = .inProgress → connection.state ≠ .closed →
      ∀ description ∈ connection.localDescription,
        webRtc.isOfferer = true ↔ description.type = .offer) :
    (webRtc.setConnection target connection).TagsRight := by
  intro id gathers
  obtain ⟨below, gathering, isOpen⟩ := gathers
  by_cases here : id = target
  · subst here
    rw [setConnection_connections, Function.update_self] at gathering isOpen ⊢
    refine ⟨id, entry, ?_⟩
    rw [Function.update_self]
    exact fun description described => ⟨rfl, suits gathering isOpen description described⟩
  · rw [setConnection_connections, Function.update_of_ne here] at gathering isOpen ⊢
    obtain ⟨source, sourceEntry, tagged⟩ := right id ⟨below, gathering, isOpen⟩
    refine ⟨source, sourceEntry, ?_⟩
    have different : source ≠ target := by
      rintro rfl
      have sameName := (sound.entry _ source entry).2
      rw [(sound.entry _ source sourceEntry).2] at sameName
      exact alone id ⟨below, gathering, isOpen⟩ sameName
    rw [Function.update_of_ne different]
    exact tagged

theorem TagsRight.undisturbed (right : webRtc.TagsRight) (sound : webRtc.Sound)
    (undisturbed : webRtc.Undisturbed next) : next.TagsRight := by
  have negotiation := undisturbed.negotiation
  refine right.of_unchanged sound undisturbed.role undisturbed.entries ?_
    (fun id _ => (negotiation id).peerId) fun id _ => (negotiation id).localDescription
  intro id gathers
  obtain ⟨below, gathering, isOpen⟩ := gathers
  rw [undisturbed.created] at below
  rw [(negotiation id).gathering] at gathering
  exact ⟨below, gathering, (negotiation id).open_of_open isOpen⟩

theorem TagsRight.startCall (right : webRtc.TagsRight) (sound : webRtc.Sound)
    {targetName : String} (allowed : TagsKept library webRtc (.startCall targetName)) :
    (webRtc.startCall library targetName).TagsRight := by
  have recorded : (webRtc.record (.startCall targetName)).Sound :=
    sound.record (by simp [Observation.connection])
  have kept : (webRtc.record (.startCall targetName)).TagsRight := right
  have offering : ((webRtc.record (.startCall targetName)).setIsOfferer true).TagsRight :=
    kept.setIsOfferer fun id speaks => (allowed id speaks.1).2 speaks
  have addedSound := (recorded.setIsOfferer true).addPeer targetName
  have added := offering.addPeer (recorded.setIsOfferer true) targetName
  have tracked : ((((webRtc.record (.startCall targetName)).setIsOfferer true).addPeer
      targetName).setTrack webRtc.created).TagsRight := added
  rw [startCall_eq]
  refine tracked.describe (addedSound.setTrack (Nat.lt_succ_self _)) ?_ ?_ ?_
  · simp [PeerConnection.setLocalOffer, PeerConnection.fresh]
  · intro id gathers
    obtain ⟨gathering, same⟩ := Gathering.of_addPeer gathers
    rw [setTrack_connections, same]
    exact (allowed id gathering).1
  · intro _ _ description described
    rw [← Option.some.inj described]
    simp

theorem TagsRight.acceptCalled (right : webRtc.TagsRight) (sound : webRtc.Sound)
    (description : Description) (peerId : String) :
    (webRtc.acceptCalled description peerId).TagsRight := by
  have ready : (webRtc.acceptReady peerId).TagsRight := by
    rcases webRtc.acceptReady_cases peerId with ⟨_, _, ready⟩ | ⟨_, _, ready⟩
    · rwa [ready]
    · rw [ready]
      exact right.addPeer sound peerId
  exact ready

/-- The connection on which the library is called belongs to the peer. -/
theorem Sound.acceptFound_peerId (sound : webRtc.Sound) (peerId : String) :
    (webRtc.acceptFound peerId).peerId = peerId :=
  ((sound.acceptReady peerId).entry peerId _ (webRtc.acceptReady_entry peerId)).2

/-- An answer describes nothing. -/
theorem TagsRight.acceptPeer_answer (library : RtcLibrary) (right : webRtc.TagsRight)
    (sound : webRtc.Sound) (sdp peerId : String) :
    (settle (webRtc.acceptPeer library ⟨.answer, sdp⟩ peerId)).TagsRight := by
  have called := right.acceptCalled sound ⟨.answer, sdp⟩ peerId
  have calledSound := sound.acceptCalled ⟨.answer, sdp⟩ peerId
  rcases webRtc.acceptPeer_cases library ⟨.answer, sdp⟩ peerId with
    ⟨connection, applied, outcome⟩ | ⟨_, outcome⟩
  · obtain ⟨_, made⟩ := PeerConnection.setRemoteDescription_answer rfl applied
    have same (id : ConnectionId) :
        let before := (webRtc.acceptCalled ⟨.answer, sdp⟩ peerId).connections id
        let after := ((webRtc.acceptCalled ⟨.answer, sdp⟩ peerId).setConnection
          (webRtc.acceptTarget peerId) connection).connections id
        after.peerId = before.peerId ∧ after.gathering = before.gathering ∧
          after.state = before.state ∧ after.localDescription = before.localDescription := by
      by_cases here : id = webRtc.acceptTarget peerId
      · subst here
        simp only [setConnection_connections, Function.update_self, made]
        exact ⟨rfl, rfl, rfl, rfl⟩
      · simp [here]
    rw [outcome]
    refine TagsRight.of_unchanged called calledSound rfl rfl ?_ (fun id _ => (same id).1)
      fun id _ => (same id).2.2.2
    intro id gathers
    obtain ⟨below, gathering, isOpen⟩ := gathers
    exact ⟨below, (same id).2.1 ▸ gathering, (same id).2.2.1 ▸ isOpen⟩
  · rwa [outcome]

/-- An accepted offer is answered by a client that answers, or gathers nothing. -/
theorem TagsRight.acceptPeer_offer (right : webRtc.TagsRight) (sound : webRtc.Sound)
    {sdp peerId : String}
    (quietly : library.accepts (webRtc.acceptFound peerId) ⟨.offer, sdp⟩ = true →
      webRtc.AcceptsQuietly peerId) :
    (settle (webRtc.acceptPeer library ⟨.offer, sdp⟩ peerId)).TagsRight := by
  have called := right.acceptCalled sound ⟨.offer, sdp⟩ peerId
  have calledSound := sound.acceptCalled ⟨.offer, sdp⟩ peerId
  rcases webRtc.acceptPeer_cases library ⟨.offer, sdp⟩ peerId with
    ⟨connection, applied, outcome⟩ | ⟨_, outcome⟩
  · have made := PeerConnection.setRemoteDescription_offer rfl applied
    have accepted : library.accepts (webRtc.acceptFound peerId) ⟨.offer, sdp⟩ = true :=
      (Option.ite_none_right_eq_some.mp applied).1
    obtain ⟨alone, answering⟩ := quietly accepted
    have name : connection.peerId = peerId := by rw [made]; exact sound.acceptFound_peerId peerId
    rw [outcome]
    refine called.describe calledSound ?_ ?_ ?_
    · rw [name]
      exact webRtc.acceptReady_entry peerId
    · intro id gathers
      obtain ⟨gathering, same⟩ := Gathering.of_acceptReady gathers
      rw [name, WebRTC.acceptCalled, record_connections, same]
      exact alone id gathering
    · intro gathering isOpen description described
      rw [made] at gathering isOpen described
      rw [← Option.some.inj described, WebRTC.acceptCalled, record_isOfferer,
        acceptReady_isOfferer]
      refine iff_of_false ?_ (by simp)
      intro offering
      cases before : (webRtc.acceptFound peerId).gathering with
      | new => exact answering ⟨offering, before, isOpen⟩
      | inProgress =>
          have inside := ((sound.acceptReady peerId).entry peerId _
            (webRtc.acceptReady_entry peerId)).1
          have gathers : (webRtc.acceptReady peerId).Gathering (webRtc.acceptTarget peerId) :=
            ⟨inside, before, isOpen⟩
          obtain ⟨earlier, same⟩ := gathers.of_acceptReady
          refine alone _ earlier ?_
          rw [← same]
          exact sound.acceptFound_peerId peerId
      | complete => simp [PeerConnection.gather, before] at gathering
  · rwa [outcome]

theorem TagsRight.onGatheringComplete (right : webRtc.TagsRight) {peerId : String}
    (ran : webRtc.onGatheringComplete peerId = some next) : next.TagsRight := by
  obtain ⟨source, _, emitted⟩ := Option.map_eq_some_iff.mp ran
  subst emitted
  split
  · exact right
  · split
    · exact right
    · exact right

/-- Every guarded step keeps the tags of the gatherings right. -/
theorem TagsRight.step (right : webRtc.TagsRight) (sound : webRtc.Sound) {event : Event}
    (allowed : TagsKept library webRtc event)
    (taken : webRtc.step library event = some next) : next.TagsRight := by
  cases event with
  | startCall targetName =>
      cases taken
      exact right.startCall sound allowed
  | registerName username =>
      cases taken
      intro id gathers
      obtain ⟨gathering, same⟩ := Gathering.of_addPeer gathers
      have sameName : ((webRtc.registerName username).connections id).peerId =
          (webRtc.connections id).peerId := same
      rw [sameName]
      by_cases replaced : (webRtc.connections id).peerId = username
      · refine ⟨webRtc.created, ?_, ?_⟩
        · simp [WebRTC.registerName, replaced]
        · simp [WebRTC.registerName, PeerConnection.fresh]
      · obtain ⟨source, entry, tagged⟩ := right id gathering
        have sourceInside := (sound.entry _ source entry).1
        refine ⟨source, ?_, ?_⟩
        · simp [WebRTC.registerName, replaced, entry]
        · intro description described
          obtain ⟨closing, kept⟩ := registerName_older sourceInside.ne username
          rw [kept] at described
          obtain ⟨itself, _⟩ := tagged description described
          subst itself
          have kind := (allowed source ⟨gathering, entry⟩).resolve_left replaced _ described
          simp [WebRTC.registerName, kind]
  | acceptCall name =>
      cases taken
      rcases webRtc.acceptCall_cases library name with outcome | ⟨sdp, stored, parsed, outcome⟩
      · rwa [outcome]
      · rw [outcome]
        exact right.acceptPeer_offer sound (allowed sdp stored parsed)
  | offerReceived peerID sdp =>
      cases taken
      exact right.setIsOfferer allowed
  | answerReceived peerID sdp =>
      cases taken
      have stored : (webRtc.storeSdp peerID sdp).TagsRight := right
      have accepted := stored.acceptPeer_answer library (sound.storeSdp peerID sdp) sdp peerID
      rcases webRtc.answerReceived_outcome library peerID sdp with
        ⟨_, outcome⟩ | ⟨_, outcome | outcome⟩
      · rwa [outcome]
      · rwa [outcome]
      · rw [outcome]
        exact accepted
  | setRemoteCandidate peerID =>
      cases taken
      unfold WebRTC.setRemoteCandidate
      split
      · exact right
      · exact right.addPeer sound peerID
  | gatheringComplete id =>
      obtain ⟨_, ran⟩ := Option.ite_none_right_eq_some.mp taken
      have same (other : ConnectionId) :
          ((webRtc.gathered id).connections other).peerId = (webRtc.connections other).peerId := by
        by_cases here : other = id
        · subst here
          simp [gathered]
        · simp [gathered, here]
      have gathered : (webRtc.gathered id).TagsRight := by
        refine right.of_unchanged sound rfl rfl ?_ (fun other _ => same other)
          fun other _ => gathered_localDescription webRtc id other
        intro other gathers
        obtain ⟨below, gathering, isOpen⟩ := gathers
        by_cases here : other = id
        · subst here
          simp [gathered] at gathering
        · simp only [gathered, setConnection_connections, Function.update_of_ne here]
            at gathering isOpen
          exact ⟨below, gathering, isOpen⟩
      exact gathered.onGatheringComplete ran
  | endCall _ | rejectCall _ | rejectedReceived _ | dataReady _ _ _ | stateChanged _ _
  | remoteTrack _ | message _ _ | runQueued _ _ =>
      exact right.undisturbed sound (.of_quiet (by trivial) taken)

/-- Every guarded run keeps the tags of the gatherings right. -/
theorem tagsRight_of_reachableUnder
    (reached : (machine library).ReachableUnder (TagsKept library) webRtc) :
    webRtc.TagsRight := by
  induction reached with
  | initial start =>
      obtain ⟨_, rfl⟩ := start
      intro id gathers
      exact absurd gathers.1 (Nat.not_lt_zero id)
  | step before allowed taken ih =>
      exact ih.step (sound_of_reachable before.reachable) allowed taken

theorem not_describedAs {id : ConnectionId} {type : SdpType}
    (other : ¬webRtc.DescribedAs id type) :
    ∃ description, (webRtc.connections id).localDescription = some description ∧
      description.type ≠ type := by
  simpa [DescribedAs] using other

/-- A client that turns to answering mistags the offer that is being gathered. -/
theorem answering_breaks {id : ConnectionId} (speaks : webRtc.Speaks id)
    (answering : webRtc.isOfferer = false) (offers : ¬webRtc.DescribedAs id .answer) :
    ∃ last, webRtc.step library (.gatheringComplete id) = some last ∧
      ¬webRtc.DescribesItself last id := by
  obtain ⟨description, described, kind⟩ := not_describedAs offers
  refine not_describesItself speaks.1 speaks.2 described (.inr fun role => ?_)
  cases isType : description.type with
  | offer =>
      rw [role.mpr isType] at answering
      cases answering
  | answer => exact kind isType

/-- A call mistags an answer that is being gathered, or speaks for the connection it replaces. -/
theorem startCall_breaks {targetName : String}
    (refused : ¬TagsKept library webRtc (.startCall targetName)) :
    ∃ id last,
      (webRtc.startCall library targetName).step library (.gatheringComplete id) = some last ∧
        ¬(webRtc.startCall library targetName).DescribesItself last id := by
  obtain ⟨id, gathering, clash⟩ : ∃ id, webRtc.Gathering id ∧
      ((webRtc.connections id).peerId ≠ targetName →
        webRtc.Speaks id ∧ ¬webRtc.DescribedAs id .offer) := by
    simpa [TagsKept] using refused
  have older : id ≠ webRtc.created := gathering.1.ne
  obtain ⟨closing, same⟩ := startCall_older library older targetName
  have gathers : (webRtc.startCall library targetName).Gathering id := by
    refine ⟨?_, by rw [same]; exact gathering.2.1, by rw [same]; exact gathering.2.2⟩
    rw [startCall_eq]
    exact Nat.lt_succ_of_lt gathering.1
  refine ⟨id, ?_⟩
  by_cases called : (webRtc.connections id).peerId = targetName
  · have described : ((webRtc.startCall library targetName).connections
        webRtc.created).localDescription =
          some ⟨.offer, library.describe webRtc.created .offer⟩ := by
      rw [startCall_eq, setConnection_connections, Function.update_self]
      rfl
    refine not_describesItself gathers ?_ described (.inl older.symm)
    rw [same, called, startCall_eq]
    simp
  · obtain ⟨speaks, notOffer⟩ := clash called
    obtain ⟨description, described, kind⟩ := not_describedAs notOffer
    refine not_describesItself gathers ?_ (by rw [same]; exact described)
      (.inr fun role => kind (role.mp ?_))
    · rw [same, startCall_eq]
      simpa [called] using speaks.2
    · rw [startCall_eq]
      rfl

/-- An accepted offer describes the peer's entry and keeps the role. -/
theorem acceptPeer_offer_applied (sound : webRtc.Sound) {sdp name : String}
    (accepted : library.accepts (webRtc.acceptFound name) ⟨.offer, sdp⟩ = true) :
    let next := settle (webRtc.acceptPeer library ⟨.offer, sdp⟩ name)
    let target := webRtc.acceptTarget name
    next.isOfferer = webRtc.isOfferer ∧ next.peerConnections name = some target ∧
      target < next.created ∧ webRtc.created ≤ next.created ∧
      (∀ id < webRtc.created, id ≠ target → ∃ closing, next.connections id =
        { webRtc.connections id with closing := closing }) ∧
      (next.connections target).peerId = name ∧
      (next.connections target).gathering = (webRtc.acceptFound name).gather ∧
      (next.connections target).state = (webRtc.acceptFound name).state ∧
      (next.connections target).localDescription =
        some ⟨.answer, library.describe target .answer⟩ := by
  have entry := webRtc.acceptReady_entry name
  have inside := ((sound.acceptReady name).entry name _ entry).1
  have createdLe : webRtc.created ≤ (webRtc.acceptReady name).created := by
    unfold acceptReady
    split
    · exact Nat.le_succ _
    · exact Nat.le_refl _
  rcases webRtc.acceptPeer_cases library ⟨.offer, sdp⟩ name with
    ⟨connection, applied, outcome⟩ | ⟨applied, _⟩
  · have made := PeerConnection.setRemoteDescription_offer rfl applied
    rw [outcome]
    refine ⟨acceptReady_isOfferer webRtc name, entry, inside, createdLe, ?_, ?_⟩
    · intro id older other
      rw [settle, setConnection_connections, Function.update_of_ne other]
      exact acceptReady_connections older name
    · simp only [settle, setConnection_connections, Function.update_self, made]
      exact ⟨sound.acceptFound_peerId name, trivial, trivial, trivial⟩
  · simp [PeerConnection.setRemoteDescription, accepted] at applied

/-- An accepted offer speaks for a gathering connection of its peer, or under the wrong tag. -/
theorem acceptCall_breaks (sound : webRtc.Sound) {name : String}
    (refused : ¬TagsKept library webRtc (.acceptCall name)) :
    ∃ id last,
      (settle (webRtc.acceptCall library name)).step library (.gatheringComplete id) =
          some last ∧
        ¬(settle (webRtc.acceptCall library name)).DescribesItself last id := by
  obtain ⟨sdp, stored, parsed, accepted, clash⟩ : ∃ sdp, webRtc.peerSdps name = some sdp ∧
      library.parses sdp .offer = true ∧
      library.accepts (webRtc.acceptFound name) ⟨.offer, sdp⟩ = true ∧
      ¬webRtc.AcceptsQuietly name := by
    simpa [TagsKept] using refused
  have called : webRtc.acceptCall library name =
      webRtc.acceptPeer library ⟨.offer, sdp⟩ name := by
    simp [acceptCall, stored, parsed]
  obtain ⟨role, entry, inside, createdLe, others, named, gathering, state, described⟩ :=
    acceptPeer_offer_applied sound accepted
  rw [called]
  -- an offering client announces its answer as an offer
  have mistags (offering : webRtc.isOfferer = true)
      (gathers : (webRtc.acceptFound name).gather = .inProgress)
      (isOpen : (webRtc.acceptFound name).state ≠ .closed) :
      ∃ id last, (settle (webRtc.acceptPeer library ⟨.offer, sdp⟩ name)).step library
          (.gatheringComplete id) = some last ∧
        ¬(settle (webRtc.acceptPeer library ⟨.offer, sdp⟩ name)).DescribesItself last id := by
    refine ⟨_, not_describesItself ⟨inside, gathering.trans gathers, ?_⟩ ?_ described
      (.inr ?_)⟩
    · rwa [state]
    · rw [named, entry]
    · simp [role, offering]
  by_cases busy : ∃ id, webRtc.Gathering id ∧ (webRtc.connections id).peerId = name
  · obtain ⟨id, earlier, sameName⟩ := busy
    by_cases here : id = webRtc.acceptTarget name
    · obtain ⟨closing, found⟩ : ∃ closing, webRtc.acceptFound name =
          { webRtc.connections id with closing := closing } := by
        rw [acceptFound, ← here]
        exact acceptReady_connections earlier.1 name
      have offering : webRtc.isOfferer = true := by
        rcases webRtc.acceptReady_cases name with ⟨offering, _, _⟩ | ⟨_, fresh, _⟩
        · exact offering
        · rw [here, fresh] at earlier
          exact absurd earlier.1 (Nat.lt_irrefl _)
      refine mistags offering ?_ ?_
      · rw [found, PeerConnection.gather, earlier.2.1]
      · rw [found]
        exact earlier.2.2
    · obtain ⟨closing, same⟩ := others id earlier.1 here
      have gathers : (settle (webRtc.acceptPeer library ⟨.offer, sdp⟩ name)).Gathering id :=
        ⟨Nat.lt_of_lt_of_le earlier.1 createdLe, by rw [same]; exact earlier.2.1,
          by rw [same]; exact earlier.2.2⟩
      refine ⟨id, not_describesItself gathers ?_ described (.inl (Ne.symm here))⟩
      rw [same, sameName, entry]
  · have fresh : webRtc.isOfferer = true ∧ (webRtc.acceptFound name).gathering = .new ∧
        (webRtc.acceptFound name).state ≠ .closed := by
      by_contra quiet
      exact clash ⟨fun id earlier sameName => busy ⟨id, earlier, sameName⟩, quiet⟩
    refine mistags fresh.1 ?_ fresh.2.2
    rw [PeerConnection.gather, fresh.2.1]

/-- In a guarded run every gathering callback describes its own connection.
A step against the guard makes some callback break the rule. -/
theorem gathering_describes_itself (library : RtcLibrary) :
    (∀ webRtc, (machine library).ReachableUnder (TagsKept library) webRtc →
      ∀ id next, webRtc.step library (.gatheringComplete id) = some next →
        webRtc.DescribesItself next id) ∧
    ∀ webRtc, (machine library).Reachable webRtc → ∀ event next,
      ¬TagsKept library webRtc event → webRtc.step library event = some next →
      ∃ id last, next.step library (.gatheringComplete id) = some last ∧
        ¬next.DescribesItself last id := by
  constructor
  · intro webRtc reached id next taken
    exact (tagsRight_of_reachableUnder reached).describesItself taken
  · intro webRtc reached event next refused taken
    have sound := sound_of_reachable reached
    cases event with
    | startCall targetName =>
        cases taken
        exact startCall_breaks refused
    | registerName username =>
        cases taken
        obtain ⟨id, speaks, other, offers⟩ : ∃ id, webRtc.Speaks id ∧
            (webRtc.connections id).peerId ≠ username ∧ ¬webRtc.DescribedAs id .answer := by
          simpa [TagsKept] using refused
        have older : id ≠ webRtc.created := speaks.1.1.ne
        obtain ⟨closing, same⟩ := registerName_older older username
        refine ⟨id, answering_breaks ⟨⟨Nat.lt_succ_of_lt speaks.1.1, ?_⟩, ?_⟩ rfl ?_⟩
        · rw [same]
          exact speaks.1.2
        · rw [same]
          simpa [registerName, other] using speaks.2
        · rwa [DescribedAs, same]
    | offerReceived peerID sdp =>
        cases taken
        obtain ⟨id, speaks, offers⟩ : ∃ id, webRtc.Speaks id ∧
            ¬webRtc.DescribedAs id .answer := by
          simpa [TagsKept] using refused
        exact ⟨id, answering_breaks speaks rfl offers⟩
    | acceptCall name =>
        cases taken
        exact acceptCall_breaks sound refused
    | endCall _ | rejectCall _ | answerReceived _ _ | rejectedReceived _ | setRemoteCandidate _
    | dataReady _ _ _ | gatheringComplete _ | stateChanged _ _ | remoteTrack _ | message _ _
    | runQueued _ _ => exact absurd trivial refused

theorem gathering_describes_itself_startCall :
    ∃ webRtc next : WebRTC, webRtc.step .sample (.gatheringComplete 0) = some next ∧
      .offerIsReady "alice" ⟨.offer, RtcLibrary.sample.describe 0 .offer⟩ 0 ∈
        webRtc.since next ∧
      webRtc.DescribesItself next 0 := by
  have first : TagsKept .sample (initial false) (.startCall "alice") :=
    fun id gathers => absurd gathers.1 (Nat.not_lt_zero id)
  have called : (machine .sample).ReachableUnder (TagsKept .sample)
      ((initial false).startCall .sample "alice") := .step (.initial ⟨false, rfl⟩) first rfl
  have taken : ((initial false).startCall .sample "alice").step .sample (.gatheringComplete 0) =
      some _ := rfl
  refine ⟨_, _, taken, by decide, (gathering_describes_itself .sample).1 _ called 0 _ taken⟩

/-- The offer of a third party turns an outgoing offer into an answer. -/
theorem gathering_describes_itself_fails :
    ¬∀ library webRtc, (machine library).Reachable webRtc → ∀ id next,
      webRtc.step library (.gatheringComplete id) = some next →
        webRtc.DescribesItself next id := by
  intro claim
  obtain ⟨webRtc, reached, disturbed⟩ := Machine.reachable_of_exec (machine .sample)
    ⟨false, rfl⟩ [.startCall "alice", .offerReceived "carol" "v=0 o=carol a=setup:actpass"]
    (fun webRtc => (webRtc.step .sample (.gatheringComplete 0)).any fun next =>
      .answerIsReady "alice" ⟨.offer, RtcLibrary.sample.describe 0 .offer⟩ 0 ∈
        webRtc.since next)
    (by decide)
  obtain ⟨next, taken, sent⟩ := (Option.any_eq_true _ _).mp disturbed
  have tag := (claim .sample webRtc reached 0 next taken _ (of_decide_eq_true sent) _ _ _ _
    rfl).2.2.2
  cases tag

end WebRTC
end VoiceCall.Client
