import VoiceCall.Client.Sound

namespace VoiceCall.Client

open Foundation

namespace WebRTC

variable {library : RtcLibrary} {webRtc next : WebRTC} {peerId sdp : String}

/-- A description is refused when its text does not parse, or when the connection that
`acceptPeer` uses throws. -/
def Refuses (library : RtcLibrary) (webRtc : WebRTC) (peerId : String)
    (description : Description) : Prop :=
  library.parses description.sdp description.type = false ∨
    (webRtc.acceptFound peerId).setRemoteDescription library (webRtc.acceptTarget peerId)
      description = none

/-- The state of the calls is intact when the map, its connections, the track and the role are. -/
def Intact (webRtc next : WebRTC) : Prop :=
  next.peerConnections = webRtc.peerConnections ∧
    (∀ id < webRtc.created, next.connections id = webRtc.connections id) ∧
    next.peerTrack = webRtc.peerTrack ∧ next.isOfferer = webRtc.isOfferer

/-- An offering client keeps the connection that it has for the peer. -/
def KeepsEntry (webRtc : WebRTC) (peerId : String) : Prop :=
  webRtc.isOfferer = true ∧ (webRtc.peerConnections peerId).isSome = true

/-- The state in which the library is called is intact exactly when the entry was kept. -/
theorem intact_acceptCalled_iff (sound : webRtc.Sound) (description : Description)
    (peerId : String) :
    webRtc.Intact (webRtc.acceptCalled description peerId) ↔ webRtc.KeepsEntry peerId := by
  rcases webRtc.acceptReady_cases peerId with ⟨offering, entry, ready⟩ | ⟨replaces, target, ready⟩
  · refine iff_of_true ?_ ⟨offering, by simp [entry]⟩
    rw [acceptCalled, ready]
    exact ⟨rfl, fun _ _ => rfl, rfl, rfl⟩
  · refine iff_of_false ?_ ?_
    · rintro ⟨entries, _⟩
      have entry := webRtc.acceptReady_entry peerId
      have same : webRtc.peerConnections peerId = some (webRtc.acceptTarget peerId) := by
        rw [← entries]
        exact entry
      exact absurd (sound.entry peerId _ same).1 (by rw [target]; exact lt_irrefl _)
    · rintro ⟨offering, held⟩
      rcases replaces with absent | answering
      · rw [absent] at held
        cases held
      · rw [answering] at offering
        cases offering

/-- A refused description that parses stops `acceptPeer` after the entry has been replaced. -/
theorem acceptPeer_refused {description : Description}
    (parsed : library.parses description.sdp description.type = true)
    (refused : Refuses library webRtc peerId description) :
    webRtc.acceptPeer library description peerId =
      .error (webRtc.acceptCalled description peerId) := by
  rcases webRtc.acceptPeer_cases library description peerId with
    ⟨connection, applied, _⟩ | ⟨_, outcome⟩
  · rcases refused with unparsed | threw
    · rw [parsed] at unparsed
      cases unparsed
    · rw [applied] at threw
      cases threw
  · exact outcome

/-- The stored text does not decide which connection is used. -/
theorem refuses_storeSdp (sdp : String) (description : Description) :
    Refuses library (webRtc.storeSdp peerId sdp) peerId description ↔
      Refuses library webRtc peerId description := by
  have sameFound : (webRtc.storeSdp peerId sdp).acceptFound peerId =
      webRtc.acceptFound peerId := by
    rw [acceptFound, acceptFound, acceptReady, acceptReady, storeSdp_peerConnections,
      storeSdp_isOfferer]
    split <;> rfl
  rw [Refuses, Refuses, sameFound]
  rfl

/-- A refused accept leaves the calls intact unless it has replaced the entry. -/
theorem acceptCall_refused (sound : webRtc.Sound) (stored : webRtc.peerSdps peerId = some sdp)
    (refused : Refuses library webRtc peerId ⟨.offer, sdp⟩) :
    (webRtc.Intact (settle (webRtc.acceptCall library peerId)) ↔
        library.parses sdp .offer = false ∨ webRtc.KeepsEntry peerId) ∧
      .acceptedReceived ∉ webRtc.since (settle (webRtc.acceptCall library peerId)) := by
  cases parsed : library.parses sdp .offer with
  | false =>
      have unchanged : settle (webRtc.acceptCall library peerId) = webRtc := by
        simp [acceptCall, stored, parsed, settle]
      rw [unchanged]
      exact ⟨iff_of_true ⟨rfl, fun _ _ => rfl, rfl, rfl⟩ (.inl rfl), by simp [since]⟩
  | true =>
      have called : settle (webRtc.acceptCall library peerId) =
          webRtc.acceptCalled ⟨.offer, sdp⟩ peerId := by
        simp [acceptCall, stored, parsed, acceptPeer_refused parsed refused, settle]
      rw [called, intact_acceptCalled_iff sound, since_of_log (webRtc.acceptCalled_log _ _)]
      simp

/-- A refused answer leaves the calls intact unless it has replaced the entry, and the texts
intact only when its text was stored already. -/
theorem answerReceived_refused (sound : webRtc.Sound)
    (refused : Refuses library webRtc peerId ⟨.answer, sdp⟩) :
    (webRtc.Intact (settle (webRtc.answerReceived library peerId sdp)) ↔
        library.parses sdp .answer = false ∨ webRtc.KeepsEntry peerId) ∧
      ((settle (webRtc.answerReceived library peerId sdp)).peerSdps = webRtc.peerSdps ↔
        webRtc.peerSdps peerId = some sdp) ∧
      .acceptedReceived ∉ webRtc.since (settle (webRtc.answerReceived library peerId sdp)) := by
  have texts : Function.update webRtc.peerSdps peerId (some sdp) = webRtc.peerSdps ↔
      webRtc.peerSdps peerId = some sdp := by
    rw [Function.update_eq_self_iff, eq_comm]
  cases parsed : library.parses sdp .answer with
  | false =>
      have stored : settle (webRtc.answerReceived library peerId sdp) =
          webRtc.storeSdp peerId sdp := by
        simp [answerReceived, parsed, settle]
      rw [stored]
      exact ⟨iff_of_true ⟨rfl, fun _ _ => rfl, rfl, rfl⟩ (.inl rfl), texts, by simp [since]⟩
  | true =>
      have threw := acceptPeer_refused parsed ((refuses_storeSdp sdp ⟨.answer, sdp⟩).mpr refused)
      have called : settle (webRtc.answerReceived library peerId sdp) =
          (webRtc.storeSdp peerId sdp).acceptCalled ⟨.answer, sdp⟩ peerId := by
        simp [answerReceived, parsed, threw, Except.map, settle]
      have kept := intact_acceptCalled_iff (sound.storeSdp peerId sdp) ⟨.answer, sdp⟩ peerId
      have added : ((webRtc.storeSdp peerId sdp).acceptCalled ⟨.answer, sdp⟩ peerId).log =
          webRtc.log ++ _ := (webRtc.storeSdp peerId sdp).acceptCalled_log _ _
      rw [called, acceptCalled_peerSdps, since_of_log added]
      refine ⟨?_, texts, by simp⟩
      rw [or_iff_right (by simp)]
      exact kept

/-- A refused description leaves the calls as they were exactly when its text does not parse
or an offering client has a connection for the peer. The texts stay as they were when the
refused answer is stored already. No refused description is announced. -/
theorem refusal_leaves_intact_iff (library : RtcLibrary) (webRtc : WebRTC)
    (reached : (machine library).Reachable webRtc) (peerId sdp : String) :
    (webRtc.peerSdps peerId = some sdp → Refuses library webRtc peerId ⟨.offer, sdp⟩ →
      ∀ next, webRtc.step library (.acceptCall peerId) = some next →
        (webRtc.Intact next ∧ .acceptedReceived ∉ webRtc.since next ↔
          library.parses sdp .offer = false ∨ webRtc.KeepsEntry peerId)) ∧
    (Refuses library webRtc peerId ⟨.answer, sdp⟩ →
      ∀ next, webRtc.step library (.answerReceived peerId sdp) = some next →
        (webRtc.Intact next ∧ next.peerSdps = webRtc.peerSdps ∧
            .acceptedReceived ∉ webRtc.since next ↔
          webRtc.peerSdps peerId = some sdp ∧
            (library.parses sdp .answer = false ∨ webRtc.KeepsEntry peerId))) := by
  have sound := sound_of_reachable reached
  constructor
  · intro stored refused next taken
    cases taken
    obtain ⟨intact, silent⟩ := acceptCall_refused sound stored refused
    rw [intact, and_iff_left silent]
  · intro refused next taken
    cases taken
    obtain ⟨intact, texts, silent⟩ := answerReceived_refused sound refused
    rw [intact, texts, and_iff_left silent, and_comm]

/-- An outgoing call receives an answer that leaves the transport role open. -/
def refusedAnswer : String := "v=0 o=bob a=setup:actpass"

theorem refusal_leaves_intact_iff_bob :
    ∃ webRtc next : WebRTC,
      webRtc.step .sample (.answerReceived "bob" refusedAnswer) = some next ∧
      (webRtc.Intact next ∧ next.peerSdps = webRtc.peerSdps ∧
          .acceptedReceived ∉ webRtc.since next ↔
        webRtc.peerSdps "bob" = some refusedAnswer ∧
          (RtcLibrary.sample.parses refusedAnswer .answer = false ∨ webRtc.KeepsEntry "bob")) := by
  obtain ⟨webRtc, reached, checked⟩ := Machine.reachable_of_exec (machine .sample)
    ⟨false, rfl⟩ [.startCall "bob"]
    (fun webRtc => (webRtc.acceptFound "bob").setRemoteDescription .sample
      (webRtc.acceptTarget "bob") ⟨.answer, refusedAnswer⟩ = none)
    (by decide)
  exact ⟨webRtc, _, rfl, (refusal_leaves_intact_iff .sample webRtc reached "bob"
    refusedAnswer).2 (.inr (of_decide_eq_true checked)) _ rfl⟩

/-- After a foreign offer a refused answer replaces the connection of the call. -/
theorem refusal_leaves_intact_fails :
    ¬∀ library webRtc, (machine library).Reachable webRtc → ∀ peerId sdp,
      Refuses library webRtc peerId ⟨.answer, sdp⟩ →
      ∀ next, webRtc.step library (.answerReceived peerId sdp) = some next →
        webRtc.Intact next := by
  intro claim
  obtain ⟨webRtc, reached, checked⟩ := Machine.reachable_of_exec (machine .sample)
    ⟨false, rfl⟩ [.startCall "bob", .offerReceived "carol" "v=0 o=carol a=setup:actpass"]
    (fun webRtc => (webRtc.acceptFound "bob").setRemoteDescription .sample
        (webRtc.acceptTarget "bob") ⟨.answer, refusedAnswer⟩ = none ∧
      webRtc.peerConnections "bob" = some 0 ∧
      (settle (webRtc.answerReceived .sample "bob" refusedAnswer)).peerConnections "bob" = some 1)
    (by decide)
  obtain ⟨threw, old, new⟩ := of_decide_eq_true checked
  have intact := claim .sample webRtc reached "bob" refusedAnswer (.inr threw) _ rfl
  rw [intact.1, old] at new
  cases new

end WebRTC
end VoiceCall.Client
