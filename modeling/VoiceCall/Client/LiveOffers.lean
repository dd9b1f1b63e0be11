import VoiceCall.Client.Reports

namespace VoiceCall.Client

open Foundation

/-- A run of a client with the steps it has taken. -/
abbrev ClientRun := Machine.Traced WebRTC Event

def freshRun : ClientRun := ⟨.initial false, []⟩

theorem freshRun_initial (library : RtcLibrary) :
    (WebRTC.machine library).traced.initial freshRun :=
  ⟨⟨false, rfl⟩, rfl⟩

/-- An accept takes an offer when its stored text parses and the library takes it. -/
def takesOffer (library : RtcLibrary) (webRtc : WebRTC) (name : String) : Bool :=
  (webRtc.peerSdps name).any fun sdp =>
    library.parses sdp .offer && library.accepts (webRtc.acceptFound name) ⟨.offer, sdp⟩

/-- An offer goes live when it comes. It is over when it is rejected or accepted, or when a call
with its peer ends. -/
def offersAfter (library : RtcLibrary) (live : String → Option String) (step : WebRTC × Event) :
    String → Option String :=
  match step.2 with
  | .offerReceived peerID sdp => Function.update live peerID (some sdp)
  | .rejectCall name => Function.update live name none
  | .acceptCall name =>
      if takesOffer library step.1 name then Function.update live name none else live
  | .runQueued _ _ =>
      match step.1.ending with
      | some id => Function.update live (step.1.connections id).peerId none
      | none => live
  | _ => live

/-- The live offer of each peer after the steps of a run. -/
def liveOffer (library : RtcLibrary) (steps : List (WebRTC × Event)) : String → Option String :=
  steps.foldl (offersAfter library) fun _ => none

/-- An offer and an answer both bring a text of their peer. -/
def textsAfter (last : String → Option String) (step : WebRTC × Event) : String → Option String :=
  match step.2 with
  | .offerReceived peerID sdp => Function.update last peerID (some sdp)
  | .answerReceived peerID sdp => Function.update last peerID (some sdp)
  | _ => last

/-- The last text that each peer has sent, as an offer or as an answer. -/
def lastText (steps : List (WebRTC × Event)) : String → Option String :=
  steps.foldl textsAfter fun _ => none

namespace WebRTC

variable {library : RtcLibrary} {webRtc next : WebRTC}

theorem acceptPeer_peerSdps (library : RtcLibrary) (webRtc : WebRTC) (description : Description)
    (peerId : String) :
    (settle (webRtc.acceptPeer library description peerId)).peerSdps = webRtc.peerSdps := by
  obtain ⟨connection, outcome⟩ := webRtc.acceptPeer_settle library description peerId
  rw [outcome]
  exact webRtc.acceptCalled_peerSdps description peerId

theorem answerReceived_peerSdps (library : RtcLibrary) (webRtc : WebRTC) (peerID sdp : String) :
    (settle (webRtc.answerReceived library peerID sdp)).peerSdps =
      Function.update webRtc.peerSdps peerID (some sdp) := by
  have kept := acceptPeer_peerSdps library (webRtc.storeSdp peerID sdp) ⟨.answer, sdp⟩ peerID
  rcases webRtc.answerReceived_outcome library peerID sdp with
    ⟨_, outcome⟩ | ⟨_, outcome | outcome⟩
  · rw [outcome]
    rfl
  · rw [outcome]
    exact kept
  · rw [outcome]
    exact kept

/-- A stored text is answered exactly when the call returns. -/
theorem acceptCall_stored {name sdp : String} (stored : webRtc.peerSdps name = some sdp) :
    (takesOffer library webRtc name = true ∧ ∃ after, webRtc.acceptCall library name = .ok after) ∨
      (takesOffer library webRtc name = false ∧
        ∃ after, webRtc.acceptCall library name = .error after) := by
  cases parsed : library.parses sdp .offer with
  | false => exact .inr ⟨by simp [takesOffer, stored, parsed], webRtc,
      by simp [acceptCall, stored, parsed]⟩
  | true =>
      have reaches : webRtc.acceptCall library name =
          webRtc.acceptPeer library ⟨.offer, sdp⟩ name := by
        simp [acceptCall, stored, parsed]
      have taken : takesOffer library webRtc name =
          library.accepts (webRtc.acceptFound name) ⟨.offer, sdp⟩ := by
        simp [takesOffer, stored, parsed]
      rcases webRtc.acceptPeer_cases library ⟨.offer, sdp⟩ name with
        ⟨connection, applied, outcome⟩ | ⟨refused, outcome⟩
      · left
        refine ⟨?_, _, reaches.trans outcome⟩
        rw [taken]
        exact (Option.ite_none_right_eq_some.mp applied).1
      · right
        refine ⟨?_, _, reaches.trans outcome⟩
        rw [taken]
        by_contra accepts
        simp [PeerConnection.setRemoteDescription, accepts] at refused

/-- The stored texts change when a text comes, and a queued end clears them. -/
def sdpsAfter (webRtc : WebRTC) : Event → String → Option String
  | .offerReceived peerID sdp => Function.update webRtc.peerSdps peerID (some sdp)
  | .answerReceived peerID sdp => Function.update webRtc.peerSdps peerID (some sdp)
  | .runQueued _ _ => if webRtc.ending.isSome then fun _ => none else webRtc.peerSdps
  | _ => webRtc.peerSdps

theorem step_peerSdps {event : Event} (taken : webRtc.step library event = some next) :
    next.peerSdps = webRtc.sdpsAfter event := by
  cases event with
  | startCall targetName =>
      cases taken
      rw [startCall_eq]
      rfl
  | registerName username =>
      cases taken
      rfl
  | endCall name =>
      obtain ⟨id, _, closed⟩ := Option.map_eq_some_iff.mp taken
      subst closed
      rfl
  | acceptCall name =>
      cases taken
      rcases webRtc.acceptCall_cases library name with outcome | ⟨sdp, _, _, outcome⟩
      · rw [outcome]
        rfl
      · rw [outcome, acceptPeer_peerSdps]
        rfl
  | rejectCall name =>
      cases taken
      rfl
  | offerReceived peerID sdp =>
      cases taken
      rfl
  | answerReceived peerID sdp =>
      cases taken
      exact answerReceived_peerSdps library webRtc peerID sdp
  | rejectedReceived peerID =>
      cases taken
      rfl
  | setRemoteCandidate peerID =>
      cases taken
      unfold setRemoteCandidate
      split <;> rfl
  | dataReady data now sendSucceeds =>
      cases taken
      obtain ⟨added, outcome, _⟩ := webRtc.dataReady_grows data now sendSucceeds
      rw [outcome]
      rfl
  | gatheringComplete id =>
      obtain ⟨_, rfl | ⟨observation, _, rfl⟩⟩ := gatheringComplete_cases taken
      · rfl
      · rfl
  | stateChanged id state =>
      obtain ⟨_, slots, rfl⟩ := stateChanged_cases taken
      rfl
  | remoteTrack id =>
      obtain ⟨_, set⟩ := Option.ite_none_right_eq_some.mp taken
      cases set
      rfl
  | message track data =>
      obtain ⟨_, output, _, rfl⟩ := message_cases taken
      rfl
  | runQueued deviceOpens sinkStarts =>
      rcases runQueued_cases taken with ⟨id, rest, waiting, rfl⟩ | ⟨id, rest, waiting, rfl⟩
      · have notEnding : webRtc.ending = none := by simp [ending, waiting]
        obtain ⟨input, output, outcome⟩ :=
          { webRtc with queue := rest }.connectionReady_devices deviceOpens sinkStarts
        rw [record_peerSdps, outcome, sdpsAfter, notEnding]
        rfl
      · simp [sdpsAfter, ending, waiting, endConnection]

/-- Every stored text is the last one that its peer has sent. -/
theorem lastText_of_stored {run : ClientRun} (reached : (machine library).traced.Reachable run)
    (peerId sdp : String) (stored : run.current.peerSdps peerId = some sdp) :
    lastText run.steps peerId = some sdp := by
  induction reached generalizing peerId sdp with
  | initial start =>
      obtain ⟨⟨_, isInitial⟩, _⟩ := start
      rw [isInitial] at stored
      cases stored
  | @step before after event _ _ taken ih =>
      obtain ⟨stepped, grown⟩ := Machine.traced_step_iff.mp taken
      rw [step_peerSdps stepped] at stored
      rw [grown, lastText, List.foldl_append, List.foldl_cons, List.foldl_nil]
      change textsAfter (lastText before.steps) (before.current, event) peerId = some sdp
      have came (peer text : String)
          (stored : Function.update before.current.peerSdps peer (some text) peerId = some sdp) :
          Function.update (lastText before.steps) peer (some text) peerId = some sdp := by
        by_cases here : peerId = peer
        · subst here
          rwa [Function.update_self] at stored ⊢
        · rw [Function.update_of_ne here] at stored ⊢
          exact ih peerId sdp stored
      cases event with
      | offerReceived peer text => exact came peer text stored
      | answerReceived peer text => exact came peer text stored
      | runQueued _ _ =>
          rw [sdpsAfter] at stored
          split at stored
          · cases stored
          · exact ih peerId sdp stored
      | _ => exact ih peerId sdp stored

/-- An accept applies the live offer when every offer it hands to the library is the live one,
and when it changes nothing where there is none. -/
def AppliesOnly (webRtc next : WebRTC) (live : Option String) : Prop :=
  (∀ peerId target sdp, .setRemoteDescription peerId target ⟨.offer, sdp⟩ ∈ webRtc.since next →
      live = some sdp) ∧
    (live = none → next = webRtc)

/-- A text that the accept can parse belongs to a live offer which no later answer has replaced. -/
def OfferStands (library : RtcLibrary) (run : ClientRun) (name : String) : Prop :=
  ∀ sdp, run.current.peerSdps name = some sdp → library.parses sdp .offer = true →
    ∃ text, liveOffer library run.steps name = some text ∧ lastText run.steps name = some text

/-- An accept applies the live offer and nothing else exactly when a live offer was the last
text of its peer, or when no stored text parses. -/
theorem accept_applies_live_offer_iff (library : RtcLibrary) (run : ClientRun)
    (reached : (machine library).traced.Reachable run) (name : String) (next : WebRTC)
    (taken : run.current.step library (.acceptCall name) = some next) :
    run.current.AppliesOnly next (liveOffer library run.steps name) ↔
      OfferStands library run name := by
  cases taken
  constructor
  · rintro ⟨applied, _⟩ sdp stored parsed
    refine ⟨sdp, ?_, lastText_of_stored reached name sdp stored⟩
    have called : run.current.acceptCall library name =
        run.current.acceptPeer library ⟨.offer, sdp⟩ name := by
      simp [acceptCall, stored, parsed]
    have grown := acceptPeer_logs library run.current ⟨.offer, sdp⟩ name
    rw [← called] at grown
    apply applied name (run.current.acceptTarget name)
    rw [since_of_log grown]
    exact List.mem_cons_self
  · intro stands
    rcases run.current.acceptCall_cases library name with outcome | ⟨sdp, stored, parsed, outcome⟩
    · rw [outcome]
      exact ⟨by simp [since], fun _ => rfl⟩
    · obtain ⟨text, isLive, isLast⟩ := stands sdp stored parsed
      have same : text = sdp :=
        Option.some.inj (isLast.symm.trans (lastText_of_stored reached name sdp stored))
      rw [AppliesOnly, outcome, isLive, same,
        since_of_log (acceptPeer_logs library run.current ⟨.offer, sdp⟩ name)]
      refine ⟨?_, fun none => by cases none⟩
      intro peerId target other member
      cases List.mem_singleton.mp member
      rfl

/-- An offer comes and is accepted. -/
theorem accept_applies_live_offer_iff_alice :
    ∃ (run : ClientRun) (next : WebRTC),
      run.current.step .sample (.acceptCall "alice") = some next ∧
      run.current.AppliesOnly next (liveOffer .sample run.steps "alice") := by
  obtain ⟨run, reached, checked⟩ := Machine.reachable_of_exec (machine .sample).traced
    (freshRun_initial .sample)
    [.offerReceived "alice" "v=0 o=alice a=setup:actpass"]
    (fun run => liveOffer .sample run.steps "alice" = lastText run.steps "alice" ∧
      lastText run.steps "alice" = some "v=0 o=alice a=setup:actpass")
    (by decide)
  obtain ⟨same, isLast⟩ := of_decide_eq_true checked
  exact ⟨run, _, rfl, (accept_applies_live_offer_iff .sample run reached "alice" _ rfl).mpr
    fun _ _ _ => ⟨_, same.trans isLast, isLast⟩⟩

/-- A rejected offer can still be accepted. -/
theorem accept_applies_live_offer_fails :
    ¬∀ library run, (machine library).traced.Reachable run → ∀ name next,
      run.current.step library (.acceptCall name) = some next →
        run.current.AppliesOnly next (liveOffer library run.steps name) := by
  intro claim
  obtain ⟨run, reached, checked⟩ := Machine.reachable_of_exec (machine .sample).traced
    (freshRun_initial .sample)
    [.offerReceived "alice" "v=0 o=alice a=setup:actpass", .rejectCall "alice"]
    (fun run => liveOffer .sample run.steps "alice" = none ∧ run.current.created = 0 ∧
      (settle (run.current.acceptCall .sample "alice")).created = 1)
    (by decide)
  obtain ⟨rejected, before, after⟩ := of_decide_eq_true checked
  have unchanged := (claim .sample run reached "alice" _ rfl).2 rejected
  rw [unchanged, before] at after
  cases after

end WebRTC
end VoiceCall.Client
