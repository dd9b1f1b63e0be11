import VoiceCall.Client.Frame

namespace VoiceCall.Client

open Foundation

namespace WebRTC

variable {library : RtcLibrary} {webRtc next : WebRTC}

/-- The offer of a connection was sent to the peer. -/
def OfferSent (webRtc : WebRTC) (peerId : String) (id : ConnectionId) : Prop :=
  ∃ description, .offerIsReady peerId description id ∈ webRtc.log ∧ description.type = .offer

/-- The client awaits an answer to an offer that it sent and that is still unanswered. -/
def Awaiting (webRtc : WebRTC) (peerId : String) (id : ConnectionId) : Prop :=
  webRtc.OfferSent peerId id ∧ (webRtc.connections id).signaling = .haveLocalOffer

/-- An awaited answer belongs to the connection in the map of an offering client. -/
def AnswersSettled (webRtc : WebRTC) : Prop :=
  ∀ peerId id, webRtc.Awaiting peerId id →
    webRtc.peerConnections peerId = some id ∧ webRtc.isOfferer = true

/-- No offer awaits its answer. -/
def NoneAwaiting (webRtc : WebRTC) : Prop := ∀ peerId id, ¬webRtc.Awaiting peerId id

theorem not_noneAwaiting :
    ¬webRtc.NoneAwaiting ↔ ∃ peerId id, webRtc.Awaiting peerId id := by
  simp [NoneAwaiting]

/-- The guard admits an answer only for an awaited one.
No offer and no registration comes in between, and no second call to the same peer. -/
def AnswersAwaited (library : RtcLibrary) (webRtc : WebRTC) : Event → Prop
  | .answerReceived peerID sdp =>
      library.parses sdp .answer = true → ∃ id, webRtc.Awaiting peerID id
  | .offerReceived _ _ => webRtc.NoneAwaiting
  | .registerName _ => webRtc.NoneAwaiting
  | .startCall targetName => ∀ id, ¬webRtc.Awaiting targetName id
  | _ => True

/-- An answer keeps the map and the track, and reaches no connection but one that awaits it. -/
def CompletesItsOffer (webRtc next : WebRTC) (peerID : String) : Prop :=
  next.peerConnections = webRtc.peerConnections ∧ next.peerTrack = webRtc.peerTrack ∧
    ∀ peerId target description,
      .setRemoteDescription peerId target description ∈ webRtc.since next →
        webRtc.Awaiting peerID target

/-- A parsed answer changes the map as `acceptReady` does and calls the library once. -/
theorem answerReceived_effect (webRtc : WebRTC) (peerID : String) {sdp : String}
    (parsed : library.parses sdp .answer = true) :
    (settle (webRtc.answerReceived library peerID sdp)).peerConnections =
        (webRtc.acceptReady peerID).peerConnections ∧
      (settle (webRtc.answerReceived library peerID sdp)).peerTrack = webRtc.peerTrack ∧
      ∃ rest, webRtc.since (settle (webRtc.answerReceived library peerID sdp)) =
          .setRemoteDescription peerID (webRtc.acceptTarget peerID) ⟨.answer, sdp⟩ :: rest ∧
        ∀ peerId target description,
          .setRemoteDescription peerId target description ∉ rest := by
  have stored : ((webRtc.storeSdp peerID sdp).acceptReady peerID).peerConnections =
        (webRtc.acceptReady peerID).peerConnections ∧
      ((webRtc.storeSdp peerID sdp).acceptReady peerID).peerTrack = webRtc.peerTrack ∧
      ((webRtc.storeSdp peerID sdp).acceptReady peerID).log = webRtc.log := by
    unfold acceptReady
    simp only [storeSdp_peerConnections, storeSdp_isOfferer]
    split <;> exact ⟨rfl, rfl, rfl⟩
  obtain ⟨entries, track, log⟩ := stored
  have called : ((webRtc.storeSdp peerID sdp).acceptCalled ⟨.answer, sdp⟩ peerID).log =
      webRtc.log ++ [.setRemoteDescription peerID (webRtc.acceptTarget peerID) ⟨.answer, sdp⟩] := by
    rw [acceptCalled, record_log, log]
    rfl
  rcases webRtc.answerReceived_cases library peerID sdp with
    ⟨unparsed, _⟩ | ⟨_, ⟨accepted, applied, outcome⟩ | ⟨failed, applied, outcome⟩⟩
  · rw [parsed] at unparsed
    cases unparsed
  · rcases acceptPeer_cases library (webRtc.storeSdp peerID sdp) ⟨.answer, sdp⟩ peerID with
      ⟨connection, _, made⟩ | ⟨_, made⟩
    · rw [made] at applied
      cases applied
      rw [outcome]
      refine ⟨entries, track, [.acceptedReceived], ?_, by simp⟩
      refine since_of_log ?_
      rw [record_log, setConnection_log, called, List.append_assoc, List.singleton_append]
    · rw [made] at applied
      cases applied
  · rcases acceptPeer_cases library (webRtc.storeSdp peerID sdp) ⟨.answer, sdp⟩ peerID with
      ⟨connection, _, made⟩ | ⟨_, made⟩
    · rw [made] at applied
      cases applied
    · rw [made] at applied
      cases applied
      rw [outcome]
      exact ⟨entries, track, [], since_of_log called, by simp⟩

/-- A text that does not parse is only stored. -/
theorem completesItsOffer_unparsed {peerID sdp : String}
    (unparsed : library.parses sdp .answer = false) :
    webRtc.CompletesItsOffer (settle (webRtc.answerReceived library peerID sdp)) peerID := by
  rcases webRtc.answerReceived_cases library peerID sdp with ⟨_, outcome⟩ | ⟨parsed, _⟩
  · rw [outcome]
    refine ⟨rfl, rfl, ?_⟩
    have unchanged : (webRtc.storeSdp peerID sdp).log = webRtc.log ++ [] := by simp
    intro peerId target description member
    rw [since_of_log unchanged] at member
    cases member
  · rw [unparsed] at parsed
    cases parsed

/-- An awaited answer is applied to the connection that awaits it. -/
theorem AnswersSettled.completes (settled : webRtc.AnswersSettled) {peerID sdp : String}
    (awaited : library.parses sdp .answer = true → ∃ id, webRtc.Awaiting peerID id) :
    webRtc.CompletesItsOffer (settle (webRtc.answerReceived library peerID sdp)) peerID := by
  cases parsed : library.parses sdp .answer with
  | false => exact completesItsOffer_unparsed parsed
  | true =>
      obtain ⟨id, awaiting⟩ := awaited parsed
      obtain ⟨entry, offering⟩ := settled peerID id awaiting
      have target : webRtc.acceptTarget peerID = id := by simp [acceptTarget, entry, offering]
      have kept : webRtc.acceptReady peerID = webRtc := by simp [acceptReady, entry, offering]
      obtain ⟨entries, track, rest, added, silent⟩ :=
        answerReceived_effect webRtc peerID parsed
      refine ⟨entries.trans (by rw [kept]), track, ?_⟩
      intro peerId other description member
      rw [added, List.mem_cons] at member
      rcases member with here | later
      · cases here
        rwa [target]
      · exact absurd later (silent peerId other description)

/-- A parsed answer that nothing awaits breaks the rule. -/
theorem not_completes_unawaited {peerID sdp : String} (parsed : library.parses sdp .answer = true)
    (unawaited : ¬webRtc.Awaiting peerID (webRtc.acceptTarget peerID)) :
    ¬webRtc.CompletesItsOffer (settle (webRtc.answerReceived library peerID sdp)) peerID := by
  intro completes
  obtain ⟨_, _, rest, added, _⟩ :=
    answerReceived_effect webRtc peerID parsed
  exact unawaited (completes.2.2 _ _ _ (by rw [added]; exact List.mem_cons_self))

/-- An offer that awaits its answer after a silent change awaited it before. -/
theorem Awaiting.before {added : List Observation} (sound : webRtc.Sound)
    (grown : next.log = webRtc.log ++ added)
    (silent : ∀ observation ∈ added, ¬observation.Describes)
    (offered : ∀ id < webRtc.created, (next.connections id).signaling = .haveLocalOffer →
      (webRtc.connections id).signaling = .haveLocalOffer)
    {peerId : String} {id : ConnectionId} (awaiting : next.Awaiting peerId id) :
    webRtc.Awaiting peerId id := by
  obtain ⟨⟨description, member, isOffer⟩, unanswered⟩ := awaiting
  rw [grown, List.mem_append] at member
  rcases member with old | new
  · exact ⟨⟨description, old, isOffer⟩, offered id (sound.logged _ old id rfl) unanswered⟩
  · exact absurd trivial (silent _ new)

namespace AnswersSettled

theorem record (settled : webRtc.AnswersSettled) (sound : webRtc.Sound)
    {observation : Observation} (silent : ¬observation.Describes) :
    (webRtc.record observation).AnswersSettled := by
  intro peerId id awaiting
  refine settled peerId id (awaiting.before sound (record_log _ _) ?_ fun _ _ offered => offered)
  intro other member
  rwa [List.mem_singleton.mp member]

theorem addPeer (settled : webRtc.AnswersSettled) (sound : webRtc.Sound) {peerId : String}
    (unawaited : ∀ id, ¬webRtc.Awaiting peerId id) : (webRtc.addPeer peerId).AnswersSettled := by
  intro query id awaiting
  have grown : (webRtc.addPeer peerId).log = webRtc.log ++ [] := by simp
  have before : webRtc.Awaiting query id := by
    refine awaiting.before sound grown (by simp) ?_
    intro other inside offered
    obtain ⟨closing, kept⟩ := addPeer_older inside.ne peerId
    rwa [kept] at offered
  obtain ⟨entry, offering⟩ := settled query id before
  refine ⟨?_, offering⟩
  rw [addPeer_peerConnections, Function.update_of_ne, entry]
  rintro rfl
  exact unawaited id before

theorem setConnection (settled : webRtc.AnswersSettled) (sound : webRtc.Sound)
    {target : ConnectionId} {connection : PeerConnection}
    (offered : connection.signaling = .haveLocalOffer →
      (webRtc.connections target).signaling = .haveLocalOffer) :
    (webRtc.setConnection target connection).AnswersSettled := by
  have grown : (webRtc.setConnection target connection).log = webRtc.log ++ [] := by simp
  intro peerId id awaiting
  refine settled peerId id (awaiting.before sound grown (by simp) ?_)
  intro other _ unanswered
  by_cases same : other = target
  · subst same
    rw [setConnection_connections, Function.update_self] at unanswered
    exact offered unanswered
  · rwa [setConnection_connections, Function.update_of_ne same] at unanswered

theorem undisturbed (settled : webRtc.AnswersSettled) (sound : webRtc.Sound)
    (undisturbed : webRtc.Undisturbed next) : next.AnswersSettled := by
  obtain ⟨added, grown, silent⟩ := undisturbed.log
  intro peerId id awaiting
  have before : webRtc.Awaiting peerId id := by
    refine awaiting.before sound grown silent ?_
    intro other _ offered
    rwa [(undisturbed.negotiation other).signaling] at offered
  rw [undisturbed.entries, undisturbed.role]
  exact settled peerId id before

/-- A client that awaits nothing may change its role. -/
theorem of_noneAwaiting (none : webRtc.NoneAwaiting) : webRtc.AnswersSettled :=
  fun peerId id awaiting => absurd awaiting (none peerId id)

theorem startCall (settled : webRtc.AnswersSettled) (sound : webRtc.Sound) {targetName : String}
    (unawaited : ∀ id, ¬webRtc.Awaiting targetName id) :
    (webRtc.startCall library targetName).AnswersSettled := by
  intro query id awaiting
  rw [startCall_eq] at awaiting ⊢
  have before : webRtc.Awaiting query id := by
    have grown : (webRtc.startCall library targetName).log =
        webRtc.log ++ [.startCall targetName] := by rw [startCall_eq]; simp
    rw [← startCall_eq] at awaiting
    refine awaiting.before sound grown ?_ ?_
    · simp [Observation.Describes]
    · intro other inside offered
      obtain ⟨closing, kept⟩ := startCall_older library inside.ne targetName
      rwa [kept] at offered
  have different : query ≠ targetName := by
    rintro rfl
    exact unawaited id before
  simpa [different] using (settled query id before).1

/-- An offering client keeps the connection of an awaited answer, and any other awaits nothing. -/
theorem acceptReady (settled : webRtc.AnswersSettled) (sound : webRtc.Sound) (peerId : String) :
    (webRtc.acceptReady peerId).AnswersSettled := by
  rcases webRtc.acceptReady_cases peerId with ⟨_, _, ready⟩ | ⟨replaced, _, ready⟩
  · rwa [ready]
  · rw [ready]
    refine settled.addPeer sound ?_
    intro id awaiting
    obtain ⟨entry, offering⟩ := settled peerId id awaiting
    rcases replaced with missing | answering
    · rw [missing] at entry
      cases entry
    · rw [answering] at offering
      cases offering

theorem acceptPeer (library : RtcLibrary) (settled : webRtc.AnswersSettled) (sound : webRtc.Sound)
    (description : Description) (peerId : String) :
    (settle (webRtc.acceptPeer library description peerId)).AnswersSettled := by
  have called : (webRtc.acceptCalled description peerId).AnswersSettled :=
    (settled.acceptReady sound peerId).record (sound.acceptReady peerId)
      (by simp [Observation.Describes])
  rcases webRtc.acceptPeer_cases library description peerId with
    ⟨connection, applied, outcome⟩ | ⟨_, outcome⟩
  · rw [outcome]
    refine called.setConnection (sound.acceptCalled description peerId) ?_
    intro offered
    rw [(PeerConnection.setRemoteDescription_keeps applied).1] at offered
    cases offered
  · rwa [outcome]

theorem answerReceived (settled : webRtc.AnswersSettled) (sound : webRtc.Sound)
    (peerID sdp : String) :
    (settle (webRtc.answerReceived library peerID sdp)).AnswersSettled := by
  have stored : (webRtc.storeSdp peerID sdp).AnswersSettled := settled
  have storedSound := sound.storeSdp peerID sdp
  have accepted := stored.acceptPeer library storedSound ⟨.answer, sdp⟩ peerID
  have acceptedSound := storedSound.acceptPeer library ⟨.answer, sdp⟩ peerID
  rcases webRtc.answerReceived_outcome library peerID sdp with
    ⟨_, outcome⟩ | ⟨_, outcome | outcome⟩
  · rwa [outcome]
  · rwa [outcome]
  · rw [outcome]
    exact accepted.record acceptedSound (by simp [Observation.Describes])

/-- A gathering callback announces the offer of the connection in the map, or nothing awaited. -/
theorem onGatheringComplete (settled : webRtc.AnswersSettled) {peerId : String}
    (ran : webRtc.onGatheringComplete peerId = some next) :
    next.AnswersSettled := by
  obtain ⟨source, entry, emitted⟩ := Option.map_eq_some_iff.mp ran
  subst emitted
  split
  · exact settled
  · next description _ =>
      split
      · next offering =>
          intro query id awaiting
          obtain ⟨⟨sent, member, isOffer⟩, unanswered⟩ := awaiting
          rw [record_log, List.mem_append, List.mem_singleton] at member
          rcases member with old | new
          · exact settled query id ⟨⟨sent, old, isOffer⟩, unanswered⟩
          · cases new
            exact ⟨entry, offering⟩
      · intro query id awaiting
        obtain ⟨⟨sent, member, isOffer⟩, unanswered⟩ := awaiting
        rw [record_log, List.mem_append, List.mem_singleton] at member
        rcases member with old | new
        · exact settled query id ⟨⟨sent, old, isOffer⟩, unanswered⟩
        · cases new

/-- Every guarded step keeps awaited answers with the connection in the map. -/
theorem step (settled : webRtc.AnswersSettled) (sound : webRtc.Sound) {event : Event}
    (allowed : AnswersAwaited library webRtc event)
    (taken : webRtc.step library event = some next) : next.AnswersSettled := by
  cases event with
  | startCall targetName =>
      cases taken
      exact settled.startCall sound allowed
  | registerName username =>
      cases taken
      have reset : (webRtc.setIsOfferer false).AnswersSettled := of_noneAwaiting allowed
      exact ((reset.addPeer (sound.setIsOfferer false) (allowed username)).record
        ((sound.setIsOfferer false).addPeer username)) (by simp [Observation.Describes])
  | acceptCall name =>
      cases taken
      rcases webRtc.acceptCall_cases library name with outcome | ⟨sdp, _, _, outcome⟩
      · rwa [outcome]
      · rw [outcome]
        exact settled.acceptPeer library sound _ name
  | offerReceived peerID sdp =>
      cases taken
      have reset : ((webRtc.storeSdp peerID sdp).setIsOfferer false).AnswersSettled :=
        of_noneAwaiting allowed
      exact reset.record ((sound.storeSdp peerID sdp).setIsOfferer false) (by simp
        [Observation.Describes])
  | answerReceived peerID sdp =>
      cases taken
      exact settled.answerReceived sound peerID sdp
  | setRemoteCandidate peerID =>
      cases taken
      unfold WebRTC.setRemoteCandidate
      split
      · exact settled
      · next missing =>
          refine settled.addPeer sound ?_
          intro id awaiting
          simp [(settled peerID id awaiting).1] at missing
  | gatheringComplete id =>
      obtain ⟨_, ran⟩ := Option.ite_none_right_eq_some.mp taken
      have gathered : (webRtc.gathered id).AnswersSettled :=
        settled.setConnection sound fun offered => offered
      exact gathered.onGatheringComplete ran
  | endCall _ | rejectCall _ | rejectedReceived _ | dataReady _ _ _ | stateChanged _ _
  | remoteTrack _ | message _ _ | runQueued _ _ =>
      exact settled.undisturbed sound (.of_quiet (by trivial) taken)

end AnswersSettled

/-- Every guarded run keeps awaited answers with the connection in the map. -/
theorem answersSettled_of_reachableUnder
    (reached : (machine library).ReachableUnder (AnswersAwaited library) webRtc) :
    webRtc.AnswersSettled := by
  induction reached with
  | initial start =>
      obtain ⟨_, rfl⟩ := start
      intro peerId id awaiting
      obtain ⟨⟨_, member, _⟩, _⟩ := awaiting
      cases member
  | step before allowed taken ih =>
      exact ih.step (sound_of_reachable before.reachable) allowed taken

/-- A client that answers replaces the connection of every answer. -/
theorem not_completes_answering (sound : webRtc.Sound) (answering : webRtc.isOfferer = false)
    {peerID sdp : String} (parsed : library.parses sdp .answer = true) :
    ¬webRtc.CompletesItsOffer (settle (webRtc.answerReceived library peerID sdp)) peerID := by
  intro completes
  obtain ⟨entries, _, _⟩ :=
    answerReceived_effect webRtc peerID parsed
  have replaced : (webRtc.acceptReady peerID).peerConnections peerID = some webRtc.created := by
    simp [acceptReady, answering]
  have old : webRtc.peerConnections peerID = some webRtc.created := by
    rw [← replaced, ← entries, completes.1]
  exact Nat.lt_irrefl _ (sound.entry peerID _ old).1

/-- A second call to a peer takes the place of the first before its own offer is out. -/
theorem not_completes_recalled (sound : webRtc.Sound) {targetName sdp : String}
    (parsed : library.parses sdp .answer = true) :
    ¬(webRtc.startCall library targetName).CompletesItsOffer
      (settle ((webRtc.startCall library targetName).answerReceived library targetName sdp))
      targetName := by
  refine not_completes_unawaited parsed ?_
  have target : (webRtc.startCall library targetName).acceptTarget targetName =
      webRtc.created := by
    rw [startCall_eq]
    simp [acceptTarget]
  rw [target, startCall_eq]
  intro awaiting
  obtain ⟨⟨description, member, _⟩, _⟩ := awaiting
  simp only [setConnection_log, setTrack_log, addPeer_log, setIsOfferer_log, record_log,
    List.mem_append, List.mem_singleton, reduceCtorEq, or_false] at member
  exact Nat.lt_irrefl _ (sound.logged _ member _ rfl)

/-- In a guarded run every answer completes the offer it answers.
A step against the guard breaks the rule at once, or makes an awaited answer break it. -/
theorem answers_complete_their_offer (library : RtcLibrary) :
    (∀ webRtc, (machine library).ReachableUnder (AnswersAwaited library) webRtc →
      ∀ peerID sdp, AnswersAwaited library webRtc (.answerReceived peerID sdp) →
        ∀ next, webRtc.step library (.answerReceived peerID sdp) = some next →
          webRtc.CompletesItsOffer next peerID) ∧
    ∀ webRtc, (machine library).Reachable webRtc → ∀ event next,
      ¬AnswersAwaited library webRtc event → webRtc.step library event = some next →
      (∃ peerID sdp, event = .answerReceived peerID sdp ∧ ¬webRtc.CompletesItsOffer next peerID) ∨
      ∃ peerID id, webRtc.Awaiting peerID id ∧ ∀ sdp, library.parses sdp .answer = true →
        ∃ last, next.step library (.answerReceived peerID sdp) = some last ∧
          ¬next.CompletesItsOffer last peerID := by
  constructor
  · intro webRtc reached peerID sdp awaited next taken
    cases taken
    exact (answersSettled_of_reachableUnder reached).completes awaited
  · intro webRtc reached event next refused taken
    have sound := sound_of_reachable reached
    have soundNext := sound.step taken
    cases event with
    | answerReceived peerID sdp =>
        left
        cases taken
        obtain ⟨parsed, unawaited⟩ := Classical.not_imp.mp refused
        refine ⟨peerID, sdp, rfl, not_completes_unawaited parsed ?_⟩
        exact fun awaiting => unawaited ⟨_, awaiting⟩
    | offerReceived peerID sdp =>
        right
        cases taken
        obtain ⟨query, id, awaiting⟩ := not_noneAwaiting.mp refused
        exact ⟨query, id, awaiting, fun text parsed =>
          ⟨_, rfl, not_completes_answering soundNext rfl parsed⟩⟩
    | registerName username =>
        right
        cases taken
        obtain ⟨query, id, awaiting⟩ := not_noneAwaiting.mp refused
        exact ⟨query, id, awaiting, fun text parsed =>
          ⟨_, rfl, not_completes_answering soundNext rfl parsed⟩⟩
    | startCall targetName =>
        right
        cases taken
        obtain ⟨id, awaiting⟩ := not_forall_not.mp refused
        exact ⟨targetName, id, awaiting, fun text parsed =>
          ⟨_, rfl, not_completes_recalled sound parsed⟩⟩
    | endCall _ | acceptCall _ | rejectCall _ | rejectedReceived _ | setRemoteCandidate _
    | dataReady _ _ _ | gatheringComplete _ | stateChanged _ _ | remoteTrack _ | message _ _
    | runQueued _ _ => exact absurd trivial refused

/-- One call is made and its offer is sent. -/
def callRun : List Event := [.startCall "alice", .gatheringComplete 0]

def sampleAnswer : String := "v=0 o=peer a=setup:active"

theorem answers_complete_their_offer_callRun :
    ∃ webRtc next : WebRTC, webRtc.Awaiting "alice" 0 ∧
      webRtc.step .sample (.answerReceived "alice" sampleAnswer) = some next ∧
      webRtc.CompletesItsOffer next "alice" := by
  have first : AnswersAwaited .sample (initial false) (.startCall "alice") := by
    intro id awaiting
    obtain ⟨⟨_, member, _⟩, _⟩ := awaiting
    cases member
  have called : (machine .sample).ReachableUnder (AnswersAwaited .sample)
      ((initial false).startCall .sample "alice") := .step (.initial ⟨false, rfl⟩) first rfl
  obtain ⟨webRtc, reached, offered⟩ := called.exec_any [.gatheringComplete 0]
    (by simp [AnswersAwaited])
    (fun webRtc =>
      .offerIsReady "alice" ⟨.offer, RtcLibrary.sample.describe 0 .offer⟩ 0 ∈ webRtc.log ∧
        (webRtc.connections 0).signaling = .haveLocalOffer)
    (by decide)
  obtain ⟨sent, unanswered⟩ := of_decide_eq_true offered
  have awaiting : webRtc.Awaiting "alice" 0 := ⟨⟨_, sent, rfl⟩, unanswered⟩
  exact ⟨webRtc, _, awaiting, rfl,
    (answers_complete_their_offer .sample).1 webRtc reached "alice" sampleAnswer
      (fun _ => ⟨0, awaiting⟩) _ rfl⟩

/-- The offer of a third party takes the role away while the answer is on its way. -/
theorem answers_complete_their_offer_fails :
    ¬∀ library webRtc, (machine library).Reachable webRtc → ∀ peerID sdp next,
      webRtc.step library (.answerReceived peerID sdp) = some next →
        webRtc.CompletesItsOffer next peerID := by
  intro claim
  obtain ⟨webRtc, reached, disturbed⟩ := Machine.reachable_of_exec (machine .sample)
    ⟨false, rfl⟩ (callRun ++ [.offerReceived "carol" "v=0 o=carol a=setup:actpass"])
    (fun webRtc => webRtc.peerConnections "alice" = some 0 ∧
      (settle (webRtc.answerReceived .sample "alice" sampleAnswer)).peerConnections "alice" =
        some 1)
    (by decide)
  obtain ⟨before, after⟩ := of_decide_eq_true disturbed
  have kept := (claim .sample webRtc reached "alice" sampleAnswer _ rfl).1
  rw [kept, before] at after
  exact absurd after (by decide)

end WebRTC
end VoiceCall.Client
