import VoiceCall.Client.Frame

namespace VoiceCall.Client

open Foundation

/-- The slot that has run last decides which connection carries audio. -/
def audioAfter (carrier : Option ConnectionId) (observation : Observation) :
    Option ConnectionId :=
  match observation.slot with
  | some (.connectionReady connection) => some connection
  | some (.endConnection _) => none
  | none => carrier

/-- The call that carries audio is the last to have become ready, until an end comes. -/
def audioConnection (log : List Observation) : Option ConnectionId := log.foldl audioAfter none

namespace WebRTC

variable {library : RtcLibrary} {webRtc next : WebRTC}

/-- The connection whose end is the next slot to run. -/
def ending (webRtc : WebRTC) : Option ConnectionId :=
  match webRtc.queue with
  | .endConnection id :: _ => some id
  | _ => none

/-- The end of a connection keeps the stored texts of other peers,
and of the audio it ends only its own. -/
def LeavesOthersAlone (webRtc next : WebRTC) (id : ConnectionId) : Prop :=
  (∀ peerId, peerId ≠ (webRtc.connections id).peerId →
      next.peerSdps peerId = webRtc.peerSdps peerId) ∧
    (audioConnection webRtc.log ≠ some id →
      next.audioInput = webRtc.audioInput ∧ next.audioOutput = webRtc.audioOutput ∧
        .endReceived ∉ webRtc.since next)

/-- A connection ends alone when no other peer has a text stored and it carries the audio. -/
def EndsAlone (webRtc : WebRTC) (id : ConnectionId) : Prop :=
  (∀ peerId, peerId ≠ (webRtc.connections id).peerId → webRtc.peerSdps peerId = none) ∧
    audioConnection webRtc.log = some id

/-- The guard lets the loop run an end only when its connection ends alone. -/
def OnlyEndsAlone (webRtc : WebRTC) : Event → Prop
  | .runQueued _ _ => ∀ id ∈ webRtc.ending, webRtc.EndsAlone id
  | _ => True

/-- A queued end clears every text, closes both devices and announces the end. -/
theorem runQueued_ending {deviceOpens sinkStarts : Bool} {id : ConnectionId}
    (head : webRtc.ending = some id)
    (ran : webRtc.runQueued deviceOpens sinkStarts = some next) :
    next.peerSdps = (fun _ => none) ∧ next.audioInput = webRtc.audioInput.close ∧
      next.audioOutput = webRtc.audioOutput.stop ∧
      webRtc.since next = [.endReceived, .endConnection id] := by
  unfold ending at head
  split at head
  · next other rest waiting =>
      cases head
      rw [runQueued, waiting] at ran
      cases ran
      exact ⟨rfl, rfl, rfl, since_of_log (by simp [endConnection])⟩
  · cases head

/-- The end of a connection leaves the others alone exactly when the connection ends alone. -/
theorem leavesOthersAlone_iff {deviceOpens sinkStarts : Bool} {id : ConnectionId}
    (head : webRtc.ending = some id)
    (ran : webRtc.runQueued deviceOpens sinkStarts = some next) :
    webRtc.LeavesOthersAlone next id ↔ webRtc.EndsAlone id := by
  obtain ⟨texts, _, _, added⟩ := runQueued_ending head ran
  constructor
  · rintro ⟨kept, quiet⟩
    constructor
    · intro peerId other
      rw [← kept peerId other, texts]
    · by_contra idle
      refine (quiet idle).2.2 ?_
      rw [added]
      exact List.mem_cons_self
  · rintro ⟨alone, carries⟩
    constructor
    · intro peerId other
      rw [alone peerId other, texts]
    · exact fun idle => absurd carries idle

/-- In a guarded run every end leaves the other calls alone.
In any run it does so exactly when its connection ends alone. -/
theorem ends_leave_others_alone (library : RtcLibrary) :
    (∀ webRtc, (machine library).ReachableUnder OnlyEndsAlone webRtc →
      ∀ deviceOpens sinkStarts next, OnlyEndsAlone webRtc (.runQueued deviceOpens sinkStarts) →
        webRtc.step library (.runQueued deviceOpens sinkStarts) = some next →
        ∀ id ∈ webRtc.ending, webRtc.LeavesOthersAlone next id) ∧
    ∀ webRtc, (machine library).Reachable webRtc → ∀ deviceOpens sinkStarts next,
      webRtc.step library (.runQueued deviceOpens sinkStarts) = some next →
      ∀ id ∈ webRtc.ending, (webRtc.LeavesOthersAlone next id ↔ webRtc.EndsAlone id) := by
  constructor
  · intro webRtc _ deviceOpens sinkStarts next allowed taken id head
    exact (leavesOthersAlone_iff head taken).mpr (allowed id head)
  · intro webRtc _ deviceOpens sinkStarts next taken id head
    exact leavesOthersAlone_iff head taken

/-- A call is made, answered, connected, made ready and closed. -/
def closedRun : List Event :=
  [.startCall "bob", .gatheringComplete 0, .answerReceived "bob" "v=0 o=bob a=setup:active",
    .stateChanged 0 .connected, .runQueued true true, .stateChanged 0 .closed]

theorem ends_leave_others_alone_bob :
    ∃ webRtc next : WebRTC, webRtc.ending = some 0 ∧
      webRtc.step .sample (.runQueued true true) = some next ∧
      (webRtc.LeavesOthersAlone next 0 ↔ webRtc.EndsAlone 0) := by
  obtain ⟨webRtc, reached, checked⟩ := Machine.reachable_of_exec (machine .sample)
    ⟨false, rfl⟩ closedRun
    (fun webRtc => webRtc.ending = some 0 ∧ (webRtc.runQueued true true).isSome = true)
    (by decide)
  obtain ⟨head, runs⟩ := of_decide_eq_true checked
  obtain ⟨next, ran⟩ := Option.isSome_iff_exists.mp runs
  exact ⟨webRtc, next, head, ran,
    (ends_leave_others_alone .sample).2 webRtc reached true true next ran 0 head⟩

/-- The end of one call drops the pending offer of another peer. -/
theorem ends_leave_others_alone_fails :
    ¬∀ library webRtc, (machine library).Reachable webRtc → ∀ deviceOpens sinkStarts next,
      webRtc.step library (.runQueued deviceOpens sinkStarts) = some next →
      ∀ id ∈ webRtc.ending, webRtc.LeavesOthersAlone next id := by
  intro claim
  obtain ⟨webRtc, reached, checked⟩ := Machine.reachable_of_exec (machine .sample)
    ⟨false, rfl⟩ (closedRun ++ [.offerReceived "carol" "v=0 o=carol a=setup:actpass"])
    (fun webRtc => webRtc.ending = some 0 ∧ (webRtc.connections 0).peerId = "bob" ∧
      (webRtc.peerSdps "carol").isSome = true ∧
      (webRtc.runQueued true true).any fun next => next.peerSdps "carol" = none)
    (by decide)
  obtain ⟨head, name, pending, cleared⟩ := of_decide_eq_true checked
  obtain ⟨next, ran, lost⟩ := (Option.any_eq_true _ _).mp cleared
  have kept := (claim .sample webRtc reached true true next ran 0 head).1 "carol"
    (by rw [name]; decide)
  rw [of_decide_eq_true lost] at kept
  rw [← kept] at pending
  cases pending

end WebRTC
end VoiceCall.Client
