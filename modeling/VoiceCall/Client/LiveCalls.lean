import VoiceCall.Client.LiveOffers

namespace VoiceCall.Client

open Foundation

/-- An active connection has a description, and nobody has closed it or asked to. -/
def PeerConnection.Active (connection : PeerConnection) : Prop :=
  (connection.localDescription.isSome = true ∨ connection.remoteDescription.isSome = true) ∧
    connection.closing = false ∧ connection.state ≠ .closed

instance (connection : PeerConnection) : Decidable connection.Active :=
  inferInstanceAs (Decidable (_ ∧ _ ∧ _))

/-- The calls of a client by peer: those it offered, and those whose offer it accepted. -/
structure Calls where
  outgoing : String → Bool
  accepted : String → Bool

namespace Calls

def none : Calls := ⟨fun _ => false, fun _ => false⟩

/-- A call is live while its offer is neither rejected nor ended, or accepted and not ended. -/
def Live (calls : Calls) (peerId : String) : Prop :=
  calls.outgoing peerId = true ∨ calls.accepted peerId = true

def offer (calls : Calls) (peerId : String) : Calls :=
  { calls with outgoing := Function.update calls.outgoing peerId true }

def accept (calls : Calls) (peerId : String) : Calls :=
  { calls with accepted := Function.update calls.accepted peerId true }

def reject (calls : Calls) (peerId : String) : Calls :=
  { calls with outgoing := Function.update calls.outgoing peerId false }

def finish (calls : Calls) (peerId : String) : Calls where
  outgoing := Function.update calls.outgoing peerId false
  accepted := Function.update calls.accepted peerId false

variable {calls : Calls} {peerId other : String}

theorem live_offer : (calls.offer peerId).Live peerId := by
  simp [Live, offer]

theorem live_accept : (calls.accept peerId).Live peerId := by
  simp [Live, accept]

theorem Live.offer (live : calls.Live other) : (calls.offer peerId).Live other := by
  by_cases same : other = peerId
  · subst same
    exact live_offer
  · simpa [Live, Calls.offer, same] using live

theorem Live.accept (live : calls.Live other) : (calls.accept peerId).Live other := by
  by_cases same : other = peerId
  · subst same
    exact live_accept
  · simpa [Live, Calls.accept, same] using live

theorem live_reject_iff :
    (calls.reject peerId).Live other ↔
      if other = peerId then calls.accepted other = true else calls.Live other := by
  by_cases same : other = peerId
  · subst same
    simp [Live, reject]
  · simp [Live, reject, same]

theorem Live.of_finish (live : (calls.finish peerId).Live other) : calls.Live other := by
  by_cases same : other = peerId
  · subst same
    simp [Live, finish] at live
  · simpa [Live, finish, same] using live

theorem Live.finish (live : calls.Live other) (different : other ≠ peerId) :
    (calls.finish peerId).Live other := by
  simpa [Live, Calls.finish, different] using live

end Calls

/-- A call ends with its connection when `acceptReady` puts a new one in its place. -/
def callsReady (calls : Calls) (webRtc : WebRTC) (peerId : String) : Calls :=
  if (webRtc.peerConnections peerId).isSome = false ∨ webRtc.isOfferer = false then
    calls.finish peerId
  else calls

/-- A call begins when it is made or its offer is accepted. A rejection is over an outgoing
call. A call ends when the user ends it, when its connection closes or when a new one replaces
that connection. -/
def callsAfter (library : RtcLibrary) (calls : Calls) (step : WebRTC × Event) : Calls :=
  match step.2 with
  | .startCall targetName => (calls.finish targetName).offer targetName
  | .registerName username => calls.finish username
  | .acceptCall name =>
      if (step.1.peerSdps name).any (library.parses · .offer) then
        if takesOffer library step.1 name then (callsReady calls step.1 name).accept name
        else callsReady calls step.1 name
      else calls
  | .answerReceived peerID sdp =>
      if library.parses sdp .answer then callsReady calls step.1 peerID else calls
  | .rejectedReceived peerID => calls.reject peerID
  | .endCall name => calls.finish name
  | .stateChanged id .closed =>
      if step.1.peerConnections (step.1.connections id).peerId = some id then
        calls.finish (step.1.connections id).peerId
      else calls
  | _ => calls

/-- The calls that are live after the steps of a run. -/
def liveCalls (library : RtcLibrary) (steps : List (WebRTC × Event)) : Calls :=
  steps.foldl (callsAfter library) .none

namespace WebRTC

variable {library : RtcLibrary} {webRtc next : WebRTC} {calls : Calls}

/-- Every active connection is the entry of its peer, whose call is live. -/
def Owned (webRtc : WebRTC) (calls : Calls) : Prop :=
  ∀ id < webRtc.created, (webRtc.connections id).Active →
    webRtc.peerConnections (webRtc.connections id).peerId = some id ∧
      calls.Live (webRtc.connections id).peerId

/-- A client is engaged with a peer while the peer's entry is active. -/
def Engaged (webRtc : WebRTC) (peerId : String) : Prop :=
  ∃ id ∈ webRtc.peerConnections peerId, (webRtc.connections id).Active

instance (webRtc : WebRTC) (peerId : String) : Decidable (webRtc.Engaged peerId) :=
  inferInstanceAs (Decidable (∃ _ ∈ webRtc.peerConnections peerId, _))

/-- The guard lets no rejection reach an active entry whose offer was not accepted. -/
def CallsKept (webRtc : WebRTC) (calls : Calls) : Event → Prop
  | .rejectedReceived peerID => webRtc.Engaged peerID → calls.accepted peerID = true
  | _ => True

instance (webRtc : WebRTC) (calls : Calls) : ∀ event, Decidable (CallsKept webRtc calls event)
  | .rejectedReceived peerID => inferInstanceAs (Decidable (webRtc.Engaged peerID → _))
  | .startCall _ | .registerName _ | .endCall _ | .acceptCall _ | .rejectCall _
  | .offerReceived _ _ | .answerReceived _ _ | .setRemoteCandidate _ | .dataReady _ _ _
  | .gatheringComplete _ | .stateChanged _ _ | .remoteTrack _ | .message _ _
  | .runQueued _ _ => .isTrue trivial

namespace Owned

/-- Only the map and the connections matter. -/
theorem of_eq (owned : webRtc.Owned calls) (created : next.created = webRtc.created)
    (entries : next.peerConnections = webRtc.peerConnections)
    (connections : next.connections = webRtc.connections) : next.Owned calls := by
  rw [Owned, created, entries, connections]
  exact owned

/-- A call may end once its peer is no longer engaged. -/
theorem of_calls {after : Calls} (owned : webRtc.Owned calls)
    (kept : ∀ peerId, calls.Live peerId → webRtc.Engaged peerId → after.Live peerId) :
    webRtc.Owned after := by
  intro id inside active
  obtain ⟨entry, live⟩ := owned id inside active
  exact ⟨entry, kept _ live ⟨id, entry, active⟩⟩

/-- A new connection ends the call of the one that it replaces. -/
theorem addPeer (owned : webRtc.Owned calls) (peerId : String) :
    (webRtc.addPeer peerId).Owned (calls.finish peerId) := by
  intro id inside active
  have older : id ≠ webRtc.created := by
    rintro rfl
    rw [addPeer_connections, Function.update_self] at active
    revert active
    simp [PeerConnection.Active, PeerConnection.fresh]
  rw [addPeer_connections, Function.update_of_ne older] at active ⊢
  have unreplaced : webRtc.peerConnections peerId ≠ some id := by
    intro held
    rw [released_held held] at active
    cases active.2.1
  rw [released_of_ne unreplaced] at active ⊢
  obtain ⟨entry, live⟩ := owned id (Nat.lt_of_le_of_ne (Nat.le_of_lt_succ inside) older) active
  have different : (webRtc.connections id).peerId ≠ peerId := by
    intro same
    exact unreplaced (same ▸ entry)
  rw [addPeer_peerConnections, Function.update_of_ne different]
  exact ⟨entry, live.finish different⟩

/-- A connection may change under its name while it stays covered. -/
theorem setConnection (owned : webRtc.Owned calls) {target : ConnectionId}
    {connection : PeerConnection}
    (sameName : connection.peerId = (webRtc.connections target).peerId)
    (covered : connection.Active → (webRtc.connections target).Active ∨
      webRtc.peerConnections connection.peerId = some target ∧ calls.Live connection.peerId) :
    (webRtc.setConnection target connection).Owned calls := by
  intro id inside active
  by_cases here : id = target
  · subst here
    rw [setConnection_connections, Function.update_self] at active ⊢
    rcases covered active with before | held
    · rw [sameName]
      exact owned id inside before
    · exact held
  · rw [setConnection_connections, Function.update_of_ne here] at active ⊢
    exact owned id inside active

end Owned
/-- A connection that waits for an answer has described itself. -/
def OffersDescribed (webRtc : WebRTC) : Prop :=
  ∀ id, (webRtc.connections id).signaling = .haveLocalOffer →
    (webRtc.connections id).localDescription.isSome = true

namespace OffersDescribed

theorem of_eq (described : webRtc.OffersDescribed)
    (connections : next.connections = webRtc.connections) : next.OffersDescribed := by
  rwa [OffersDescribed, connections]

theorem setConnection (described : webRtc.OffersDescribed) {id : ConnectionId}
    {connection : PeerConnection}
    (own : connection.signaling = .haveLocalOffer → connection.localDescription.isSome = true) :
    (webRtc.setConnection id connection).OffersDescribed := by
  intro other
  by_cases here : other = id
  · subst here
    rwa [setConnection_connections, Function.update_self]
  · rw [setConnection_connections, Function.update_of_ne here]
    exact described other

theorem addPeer (described : webRtc.OffersDescribed) (peerId : String) :
    (webRtc.addPeer peerId).OffersDescribed := by
  intro id waiting
  by_cases newest : id = webRtc.created
  · subst newest
    rw [addPeer_connections, Function.update_self] at waiting
    cases waiting
  · obtain ⟨closing, kept⟩ := addPeer_older newest peerId
    rw [kept] at waiting ⊢
    exact described id waiting

theorem acceptReady (described : webRtc.OffersDescribed) (peerId : String) :
    (webRtc.acceptReady peerId).OffersDescribed := by
  unfold WebRTC.acceptReady
  split
  · exact described.addPeer peerId
  · exact described

theorem acceptPeer (described : webRtc.OffersDescribed) (description : Description)
    (peerId : String) :
    (settle (webRtc.acceptPeer library description peerId)).OffersDescribed := by
  have called : (webRtc.acceptCalled description peerId).OffersDescribed :=
    (described.acceptReady peerId).of_eq rfl
  rcases webRtc.acceptPeer_cases library description peerId with
    ⟨connection, applied, outcome⟩ | ⟨_, outcome⟩
  · rw [outcome]
    refine called.setConnection fun waiting => ?_
    rw [(PeerConnection.setRemoteDescription_keeps applied).1] at waiting
    cases waiting
  · rwa [outcome]

/-- Only an offer of the own side makes a connection wait for an answer. -/
theorem step (described : webRtc.OffersDescribed) {event : Event}
    (taken : webRtc.step library event = some next) : next.OffersDescribed := by
  cases event with
  | startCall targetName =>
      cases taken
      rw [startCall_eq]
      have called : ((webRtc.record (.startCall targetName)).setIsOfferer true).OffersDescribed :=
        described.of_eq rfl
      exact ((called.addPeer targetName).of_eq rfl).setConnection fun _ => rfl
  | registerName username =>
      cases taken
      exact (OffersDescribed.addPeer (described.of_eq rfl) username).of_eq rfl
  | acceptCall name =>
      cases taken
      rcases webRtc.acceptCall_cases library name with outcome | ⟨sdp, _, _, outcome⟩
      · rwa [outcome]
      · rw [outcome]
        exact described.acceptPeer _ _
  | offerReceived peerID sdp =>
      cases taken
      exact described.of_eq rfl
  | answerReceived peerID sdp =>
      cases taken
      have stored : (webRtc.storeSdp peerID sdp).OffersDescribed := described.of_eq rfl
      have accepted : (settle ((webRtc.storeSdp peerID sdp).acceptPeer library ⟨.answer, sdp⟩
          peerID)).OffersDescribed := stored.acceptPeer _ _
      rcases webRtc.answerReceived_outcome library peerID sdp with
        ⟨_, outcome⟩ | ⟨_, outcome | outcome⟩
      · rw [outcome]
        exact described.of_eq rfl
      · rwa [outcome]
      · rw [outcome]
        exact accepted.of_eq rfl
  | setRemoteCandidate peerID =>
      cases taken
      unfold setRemoteCandidate
      split
      · exact described
      · exact described.addPeer peerID
  | gatheringComplete id =>
      have gathered : (webRtc.gathered id).OffersDescribed := described.setConnection (described id)
      obtain ⟨_, rfl | ⟨observation, _, rfl⟩⟩ := gatheringComplete_cases taken
      · exact gathered
      · exact gathered.of_eq rfl
  | endCall _ | rejectCall _ | rejectedReceived _ | dataReady _ _ _ | stateChanged _ _
  | remoteTrack _ | message _ _ | runQueued _ _ =>
      have undisturbed : webRtc.Undisturbed next := .of_quiet (by trivial) taken
      intro id
      rw [(undisturbed.negotiation id).signaling, (undisturbed.negotiation id).localDescription]
      exact described id

end OffersDescribed

theorem offersDescribed_of_reachable (reached : (machine library).Reachable webRtc) :
    webRtc.OffersDescribed := by
  refine reached.invariant ?_ fun _ _ _ described _ taken => described.step taken
  intro state start id waiting
  obtain ⟨wild, rfl⟩ := start
  cases waiting

namespace Owned

/-- The renewed call to a peer takes the place of the old one. -/
theorem startCall (owned : webRtc.Owned calls) (targetName : String) :
    (webRtc.startCall library targetName).Owned
      ((calls.finish targetName).offer targetName) := by
  rw [startCall_eq]
  have began : ((webRtc.record (.startCall targetName)).setIsOfferer true).Owned calls :=
    owned.of_eq rfl rfl rfl
  have still (peerId : String) (live : (calls.finish targetName).Live peerId) :
      ((calls.finish targetName).offer targetName).Live peerId := live.offer
  have replaced := (began.addPeer targetName).of_calls fun peerId live _ => still peerId live
  refine (replaced.of_eq rfl rfl rfl).setConnection ?_ fun _ => .inr ⟨?_, ?_⟩
  · simp [PeerConnection.setLocalOffer]
  · simp [PeerConnection.setLocalOffer, PeerConnection.fresh]
  · exact Calls.live_offer

theorem acceptReady (owned : webRtc.Owned calls) (peerId : String) :
    (webRtc.acceptReady peerId).Owned (callsReady calls webRtc peerId) := by
  unfold WebRTC.acceptReady callsReady
  split
  · exact owned.addPeer peerId
  · exact owned

/-- An accepted offer makes its connection active, and its call is live. -/
theorem acceptPeer_offer (owned : webRtc.Owned calls) (sound : webRtc.Sound)
    {peerId sdp : String} {after : Calls}
    (kept : ∀ other, (callsReady calls webRtc peerId).Live other → after.Live other)
    (live : library.accepts (webRtc.acceptFound peerId) ⟨.offer, sdp⟩ = true →
      after.Live peerId) :
    (settle (webRtc.acceptPeer library ⟨.offer, sdp⟩ peerId)).Owned after := by
  have ready := (owned.acceptReady peerId).of_calls fun other live _ => kept other live
  have called : (webRtc.acceptCalled ⟨.offer, sdp⟩ peerId).Owned after :=
    ready.of_eq rfl rfl rfl
  rcases webRtc.acceptPeer_cases library ⟨.offer, sdp⟩ peerId with
    ⟨connection, applied, outcome⟩ | ⟨_, outcome⟩
  · have entry := webRtc.acceptReady_entry peerId
    have name := ((sound.acceptReady peerId).entry peerId _ entry).2
    have sameName := (PeerConnection.setRemoteDescription_keeps applied).2.1
    have accepts : library.accepts (webRtc.acceptFound peerId) ⟨.offer, sdp⟩ = true := by
      by_contra refused
      simp [PeerConnection.setRemoteDescription, refused] at applied
    rw [outcome]
    refine called.setConnection sameName fun _ => .inr ?_
    rw [sameName, acceptFound, name]
    exact ⟨entry, live accepts⟩
  · rwa [outcome]

/-- An accepted answer settles a connection that was active before. -/
theorem acceptPeer_answer (owned : webRtc.Owned calls) (described : webRtc.OffersDescribed)
    (sdp peerId : String) :
    (settle (webRtc.acceptPeer library ⟨.answer, sdp⟩ peerId)).Owned
      (callsReady calls webRtc peerId) := by
  have called : (webRtc.acceptCalled ⟨.answer, sdp⟩ peerId).Owned
      (callsReady calls webRtc peerId) := (owned.acceptReady peerId).of_eq rfl rfl rfl
  rcases webRtc.acceptPeer_cases library ⟨.answer, sdp⟩ peerId with
    ⟨connection, applied, outcome⟩ | ⟨_, outcome⟩
  · obtain ⟨waiting, settled⟩ := PeerConnection.setRemoteDescription_answer rfl applied
    rw [outcome]
    refine called.setConnection (PeerConnection.setRemoteDescription_keeps applied).2.1 ?_
    rintro ⟨_, notClosing, isOpen⟩
    rw [settled] at notClosing isOpen
    exact .inl ⟨.inl (described.acceptReady peerId _ waiting), notClosing, isOpen⟩
  · rwa [outcome]

theorem acceptCall (owned : webRtc.Owned calls) (sound : webRtc.Sound) (name : String) :
    (settle (webRtc.acceptCall library name)).Owned
      (callsAfter library calls (webRtc, .acceptCall name)) := by
  cases stored : webRtc.peerSdps name with
  | none => simpa [WebRTC.acceptCall, callsAfter, settle, stored] using owned
  | some sdp =>
      cases parsed : library.parses sdp .offer with
      | false => simpa [WebRTC.acceptCall, callsAfter, settle, stored, parsed] using owned
      | true =>
          simp only [WebRTC.acceptCall, callsAfter, takesOffer, stored, parsed, Option.any_some,
            Bool.true_and, if_true]
          refine owned.acceptPeer_offer sound (fun other live => ?_) fun accepts => ?_
          · split
            · exact live.accept
            · exact live
          · rw [if_pos accepts]
            exact Calls.live_accept

theorem answerReceived (owned : webRtc.Owned calls) (described : webRtc.OffersDescribed)
    (peerID sdp : String) :
    (settle (webRtc.answerReceived library peerID sdp)).Owned
      (callsAfter library calls (webRtc, .answerReceived peerID sdp)) := by
  have stored : (webRtc.storeSdp peerID sdp).Owned calls := owned.of_eq rfl rfl rfl
  have accepted : (settle ((webRtc.storeSdp peerID sdp).acceptPeer library ⟨.answer, sdp⟩
      peerID)).Owned (callsReady calls webRtc peerID) :=
    stored.acceptPeer_answer (described.of_eq rfl) sdp peerID
  rcases webRtc.answerReceived_outcome library peerID sdp with
    ⟨unparsed, outcome⟩ | ⟨parsed, outcome | outcome⟩
  · simpa [outcome, callsAfter, unparsed] using stored
  · simpa [outcome, callsAfter, parsed] using accepted
  · simp only [outcome, callsAfter, parsed, if_true]
    exact accepted.of_eq rfl rfl rfl

theorem rejectedReceived (owned : webRtc.Owned calls) {peerID : String}
    (kept : CallsKept webRtc calls (.rejectedReceived peerID)) :
    (webRtc.rejectedReceived peerID).Owned (calls.reject peerID) := by
  have rejected : webRtc.Owned (calls.reject peerID) := by
    refine owned.of_calls fun peerId live engaged => ?_
    rw [Calls.live_reject_iff]
    split
    · next same => exact same ▸ kept (same ▸ engaged)
    · exact live
  exact rejected.of_eq rfl rfl rfl

/-- A connection that is asked to close ends the call of its peer. -/
theorem endCall (owned : webRtc.Owned calls) {name : String}
    (taken : webRtc.endCall name = some next) : next.Owned (calls.finish name) := by
  obtain ⟨id, entry, closed⟩ := Option.map_eq_some_iff.mp taken
  subst closed
  have recorded : (webRtc.record (.endCall name)).Owned calls := owned.of_eq rfl rfl rfl
  have closing : ((webRtc.record (.endCall name)).setConnection id
      (webRtc.connections id).close).Owned calls := by
    refine recorded.setConnection rfl fun active => ?_
    cases active.2.1
  refine closing.of_calls fun peerId live engaged => live.finish ?_
  rintro rfl
  obtain ⟨held, isHeld, active⟩ := engaged
  have same : held = id := Option.some.inj (isHeld.symm.trans entry)
  subst same
  rw [setConnection_connections, Function.update_self] at active
  cases active.2.1

/-- A connection that is closed ends the call of its peer when it is the peer's entry. -/
theorem stateChanged (owned : webRtc.Owned calls) {id : ConnectionId} {state : ConnectionState}
    (taken : webRtc.step library (.stateChanged id state) = some next) :
    next.Owned (callsAfter library calls (webRtc, .stateChanged id state)) := by
  obtain ⟨⟨_, wasOpen, _⟩, slots, rfl⟩ := stateChanged_cases taken
  have moved : (webRtc.setConnection id ((webRtc.connections id).changeState state)).Owned
      calls := by
    refine owned.setConnection rfl fun active => .inl ⟨active.1, active.2.1, wasOpen⟩
  have queued (after : Calls)
      (owned : (webRtc.setConnection id ((webRtc.connections id).changeState state)).Owned after) :
      { webRtc.setConnection id ((webRtc.connections id).changeState state) with
        queue := slots }.Owned after := owned.of_eq rfl rfl rfl
  apply queued
  unfold callsAfter
  cases state with
  | closed =>
      simp only
      split
      · next entry =>
          refine moved.of_calls fun peerId live engaged => live.finish ?_
          rintro rfl
          obtain ⟨held, isHeld, active⟩ := engaged
          have same : held = id := Option.some.inj (isHeld.symm.trans entry)
          subst same
          rw [setConnection_connections, Function.update_self] at active
          exact active.2.2 rfl
      · exact moved
  | _ => exact moved

/-- A step that keeps the calls leaves every active connection with a live call. -/
theorem step (owned : webRtc.Owned calls) (sound : webRtc.Sound)
    (described : webRtc.OffersDescribed) {event : Event}
    (kept : CallsKept webRtc calls event)
    (taken : webRtc.step library event = some next) :
    next.Owned (callsAfter library calls (webRtc, event)) := by
  cases event with
  | startCall targetName =>
      cases taken
      exact owned.startCall targetName
  | registerName username =>
      cases taken
      have reset : (webRtc.setIsOfferer false).Owned calls := owned.of_eq rfl rfl rfl
      exact (reset.addPeer username).of_eq rfl rfl rfl
  | endCall name => exact owned.endCall taken
  | acceptCall name =>
      cases taken
      exact owned.acceptCall sound name
  | rejectCall name =>
      cases taken
      exact owned.of_eq rfl rfl rfl
  | offerReceived peerID sdp =>
      cases taken
      exact owned.of_eq rfl rfl rfl
  | answerReceived peerID sdp =>
      cases taken
      exact owned.answerReceived described peerID sdp
  | rejectedReceived peerID =>
      cases taken
      exact owned.rejectedReceived kept
  | setRemoteCandidate peerID =>
      cases taken
      unfold setRemoteCandidate
      split
      · exact owned
      · exact (owned.addPeer peerID).of_calls fun _ live _ => live.of_finish
  | dataReady data now sendSucceeds =>
      cases taken
      obtain ⟨added, outcome, _⟩ := webRtc.dataReady_grows data now sendSucceeds
      rw [outcome]
      exact owned.of_eq rfl rfl rfl
  | gatheringComplete id =>
      have gathered : (webRtc.gathered id).Owned calls :=
        owned.setConnection rfl fun active => .inl active
      obtain ⟨_, rfl | ⟨observation, _, rfl⟩⟩ := gatheringComplete_cases taken
      · exact gathered
      · exact gathered.of_eq rfl rfl rfl
  | stateChanged id state => exact owned.stateChanged taken
  | remoteTrack id =>
      obtain ⟨_, set⟩ := Option.ite_none_right_eq_some.mp taken
      cases set
      exact owned.of_eq rfl rfl rfl
  | message track data =>
      obtain ⟨_, output, _, rfl⟩ := message_cases taken
      exact owned.of_eq rfl rfl rfl
  | runQueued deviceOpens sinkStarts =>
      rcases runQueued_cases taken with ⟨id, rest, _, rfl⟩ | ⟨id, rest, _, rfl⟩
      · obtain ⟨input, output, outcome⟩ :=
          { webRtc with queue := rest }.connectionReady_devices deviceOpens sinkStarts
        rw [outcome]
        exact owned.of_eq rfl rfl rfl
      · exact owned.of_eq rfl rfl rfl

end Owned

/-- A rejection that breaks the guard leaves an active connection without a live call. -/
theorem not_owned_of_not_kept (sound : webRtc.Sound) {event : Event}
    (breaks : ¬CallsKept webRtc calls event)
    (taken : webRtc.step library event = some next) :
    ¬next.Owned (callsAfter library calls (webRtc, event)) := by
  cases event with
  | rejectedReceived peerID =>
      cases taken
      simp only [CallsKept, not_forall] at breaks
      obtain ⟨⟨id, held, active⟩, notAccepted⟩ := breaks
      obtain ⟨inside, name⟩ := sound.entry peerID id held
      intro owned
      have live := (owned id inside active).2
      have sameName : ((webRtc.rejectedReceived peerID).connections id).peerId = peerID := name
      rw [sameName, callsAfter, Calls.live_reject_iff, if_pos rfl] at live
      exact notAccepted live
  | _ => exact absurd trivial breaks

/-- Every active connection of a run belongs to a live call. -/
def NoneOutlives (library : RtcLibrary) (run : ClientRun) : Prop :=
  run.current.Owned (liveCalls library run.steps)

/-- In a guarded run no connection outlives its call. In any run a step from such a state
leads to another one exactly when it meets the guard. -/
theorem no_connection_outlives_its_call (library : RtcLibrary) :
    (∀ run, (machine library).traced.ReachableUnder
        (fun run => CallsKept run.current (liveCalls library run.steps)) run →
      NoneOutlives library run) ∧
    ∀ run, (machine library).traced.Reachable run → NoneOutlives library run →
      ∀ event next, (machine library).traced.step run event = some next →
        (NoneOutlives library next ↔
          CallsKept run.current (liveCalls library run.steps) event) := by
  have exact_step (run : ClientRun) (reached : (machine library).traced.Reachable run)
      (none : NoneOutlives library run) (event : Event) (next : ClientRun)
      (taken : (machine library).traced.step run event = some next) :
      NoneOutlives library next ↔
        CallsKept run.current (liveCalls library run.steps) event := by
    obtain ⟨stepped, grown⟩ := Machine.traced_step_iff.mp taken
    have client := reached.untraced
    have sound := sound_of_reachable client
    have after : liveCalls library next.steps =
        callsAfter library (liveCalls library run.steps) (run.current, event) := by
      rw [grown, liveCalls, List.foldl_append]
      rfl
    rw [NoneOutlives, after]
    constructor
    · intro owned
      by_contra breaks
      exact not_owned_of_not_kept sound breaks stepped owned
    · intro kept
      exact none.step sound (offersDescribed_of_reachable client) kept stepped
  refine ⟨?_, exact_step⟩
  intro run reached
  induction reached with
  | initial start =>
      obtain ⟨⟨_, isInitial⟩, _⟩ := start
      intro id inside
      rw [isInitial] at inside
      exact absurd inside (Nat.not_lt_zero _)
  | step before meets taken ih =>
      exact (exact_step _ before.reachable ih _ _ taken).mpr meets

/-- A renewed call drops the first connection, and a rejection may come once the second call
has ended. -/
theorem no_connection_outlives_its_call_renewed :
    ∃ run : ClientRun, NoneOutlives .sample run ∧ run.current.created = 3 ∧
      ¬(run.current.connections 0).Active ∧ ¬(run.current.connections 1).Active ∧
      run.current.Engaged "bob" := by
  obtain ⟨run, reached, checked⟩ := Machine.reachableUnder_of_exec (machine .sample).traced
    (fun run => CallsKept run.current (liveCalls .sample run.steps)) (freshRun_initial .sample)
    [.startCall "bob", .startCall "bob", .endCall "bob", .rejectedReceived "bob",
      .startCall "bob"]
    (fun run => run.current.created = 3 ∧ ¬(run.current.connections 0).Active ∧
      ¬(run.current.connections 1).Active ∧ run.current.Engaged "bob")
    (by decide)
  exact ⟨run, (no_connection_outlives_its_call .sample).1 run reached,
    of_decide_eq_true checked⟩

/-- A rejected call leaves its connection open. -/
theorem no_connection_outlives_its_call_fails :
    ¬∀ library run, (machine library).traced.Reachable run → NoneOutlives library run := by
  intro claim
  obtain ⟨run, reached, checked⟩ := Machine.reachable_of_exec (machine .sample).traced
    (freshRun_initial .sample)
    [.startCall "bob", .gatheringComplete 0, .rejectedReceived "bob"]
    (fun run => run.current.created = 1 ∧ (run.current.connections 0).Active ∧
      (run.current.connections 0).peerId = "bob" ∧
      (liveCalls .sample run.steps).outgoing "bob" = false ∧
      (liveCalls .sample run.steps).accepted "bob" = false)
    (by decide)
  obtain ⟨one, active, name, notOutgoing, notAccepted⟩ := of_decide_eq_true checked
  have live := (claim .sample run reached 0 (by rw [one]; exact Nat.zero_lt_one) active).2
  rw [name, Calls.Live, notOutgoing, notAccepted] at live
  revert live
  decide

end WebRTC
end VoiceCall.Client
