import VoiceCall.Client.Interference

namespace VoiceCall.Client

open Foundation

/-- The library hands over a message as bytes or as a text. -/
inductive MessageVariant where
  | binary (bytes : List UInt8)
  | text (text : String)
deriving DecidableEq, Repr

/-- A text is not supported and reads as no bytes. -/
def readVariant : MessageVariant → List UInt8
  | .binary bytes => bytes
  | .text _ => []

/-- The transport hands each sent packet unchanged to the callee's track. -/
def arrival (track : TrackId) (sent : TrackId × List UInt8) : Event :=
  .message track (readVariant (.binary sent.2))

/-- The bytes that `writeData` is called with, chunk after chunk. -/
def captured (chunks : List Chunk) : List UInt8 := chunks.flatMap Chunk.data

/-- Each packet is longer than its chunk by a header. -/
theorem length_packets {chunks : List Chunk} {packets : List (TrackId × List UInt8)}
    (packed : List.Forall₂ Chunk.Packed chunks packets) :
    (packets.flatMap Prod.snd).length = (captured chunks).length + 12 * chunks.length := by
  induction packed with
  | nil => rfl
  | cons first _ ih =>
      obtain ⟨header, length, same⟩ := first
      rw [captured] at ih ⊢
      simp only [List.flatMap_cons, List.length_append, List.length_cons, same, length, ih]
      omega

namespace WebRTC

variable {library : RtcLibrary}

/-- The client after its playback device has taken the bytes. -/
def heard (webRtc : WebRTC) (bytes : List UInt8) : WebRTC :=
  { webRtc with audioOutput :=
      { webRtc.audioOutput with written := webRtc.audioOutput.written ++ bytes } }

/-- A playing client with an open track writes the packet that arrives, header and all. -/
theorem step_arrival {webRtc : WebRTC} {track : TrackId} (playing : webRtc.audioOutput.Playing)
    (inside : track < webRtc.tracks) (isOpen : webRtc.trackIsOpen track = true)
    (packet : TrackId × List UInt8) :
    (machine library).step webRtc (arrival track packet) = some (webRtc.heard packet.2) := by
  obtain ⟨index, running, isSession⟩ := playing
  have wrote : webRtc.audioOutput.receivedData packet.2 = some { webRtc.audioOutput with
      written := webRtc.audioOutput.written ++ packet.2 } := by
    simp [AudioOutput.receivedData, isSession, Option.mem_def.mp running]
  simp [machine, step, arrival, readVariant, inside, isOpen, onMessage, wrote, heard]

/-- A playing client with an open track writes all the packets that arrive, in their order. -/
theorem exec_arrivals (library : RtcLibrary) (webRtc : WebRTC) {track : TrackId}
    (playing : webRtc.audioOutput.Playing) (inside : track < webRtc.tracks)
    (isOpen : webRtc.trackIsOpen track = true) (packets : List (TrackId × List UInt8)) :
    ∃ last, (machine library).exec webRtc (packets.map (arrival track)) = some last ∧
      last.audioOutput.written = webRtc.audioOutput.written ++ packets.flatMap Prod.snd := by
  induction packets generalizing webRtc with
  | nil => exact ⟨webRtc, rfl, by simp⟩
  | cons packet rest ih =>
      obtain ⟨last, ran, written⟩ := ih (webRtc.heard packet.2) playing inside isOpen
      refine ⟨last, ?_, ?_⟩
      · rw [List.map_cons, Machine.exec_cons, step_arrival playing inside isOpen,
          Option.bind_some, ran]
      · rw [written, List.flatMap_cons, ← List.append_assoc]
        rfl

/-- What is played equals what is captured exactly when nothing is captured: the receiver
never takes off the header that the sender puts on. -/
theorem played_eq_captured_iff (callerLibrary calleeLibrary : RtcLibrary)
    (caller callee : WebRTC) (_callerReached : (machine callerLibrary).Reachable caller)
    (_calleeReached : (machine calleeLibrary).Reachable callee) (peerId : String)
    (established : caller.Established peerId) (playing : callee.audioOutput.Playing)
    (track : TrackId) (inside : track < callee.tracks)
    (isOpen : callee.trackIsOpen track = true) (chunks : List Chunk)
    (_succeeds : ∀ chunk ∈ chunks, chunk.sendSucceeds = true) :
    ∃ sender receiver,
      (machine callerLibrary).exec caller (chunks.map Chunk.event) = some sender ∧
      (machine calleeLibrary).exec callee ((caller.sent sender).map (arrival track)) =
        some receiver ∧
      (receiver.audioOutput.written = callee.audioOutput.written ++ captured chunks ↔
        chunks = []) := by
  obtain ⟨offering, _, current, isCurrent, currentOpen, _⟩ := established
  obtain ⟨sender, added, ranCaller, grown, packed⟩ :=
    exec_chunks_offering callerLibrary caller chunks offering isCurrent currentOpen
  obtain ⟨receiver, ranCallee, written⟩ :=
    exec_arrivals calleeLibrary callee playing inside isOpen (added.filterMap Observation.sent)
  rw [← sent_of_log grown] at packed ranCallee written
  refine ⟨sender, receiver, ranCaller, ranCallee, ?_⟩
  rw [written, List.append_cancel_left_eq]
  constructor
  · intro same
    have lengths := length_packets packed
    rw [same] at lengths
    exact List.length_eq_zero_iff.mp (by omega)
  · rintro rfl
    rw [List.forall₂_nil_left_iff.mp packed]
    rfl

/-- An offer is accepted, its track arrives, and the connection is made ready. -/
def answeredRun : List Event :=
  [.offerReceived "alice" "v=0 o=alice a=setup:actpass", .acceptCall "alice", .remoteTrack 0,
    .gatheringComplete 0, .stateChanged 0 .connected, .runQueued true true]

theorem played_eq_captured_iff_bob :
    ∃ caller callee sender receiver : WebRTC,
      (machine .sample).exec caller [.dataReady [1, 2] 40 true] = some sender ∧
      (machine .sample).exec callee ((caller.sent sender).map (arrival 0)) = some receiver ∧
      (receiver.audioOutput.written =
        callee.audioOutput.written ++ captured [⟨[1, 2], 40, true⟩] ↔
          [Chunk.mk [1, 2] 40 true] = []) := by
  obtain ⟨caller, callerReached, established⟩ := Machine.reachable_of_exec (machine .sample)
    ⟨false, rfl⟩ establishedRun (fun webRtc => webRtc.Established "bob") (by decide)
  obtain ⟨callee, calleeReached, checked⟩ := Machine.reachable_of_exec (machine .sample)
    ⟨false, rfl⟩ answeredRun
    (fun webRtc => webRtc.audioOutput.Playing ∧ 0 < webRtc.tracks ∧ webRtc.trackIsOpen 0 = true)
    (by decide)
  obtain ⟨playing, inside, isOpen⟩ := of_decide_eq_true checked
  obtain ⟨sender, receiver, both⟩ := played_eq_captured_iff .sample .sample caller callee
    callerReached calleeReached "bob" (of_decide_eq_true established) playing 0 inside isOpen
    [⟨[1, 2], 40, true⟩] (by simp)
  exact ⟨caller, callee, sender, receiver, both⟩

/-- One captured chunk is played behind its header. -/
theorem played_eq_captured_fails :
    ¬∀ callerLibrary calleeLibrary caller callee,
      (machine callerLibrary).Reachable caller → (machine calleeLibrary).Reachable callee →
      ∀ peerId, caller.Established peerId → callee.audioOutput.Playing →
      ∀ track < callee.tracks, callee.trackIsOpen track = true →
      ∀ (chunks : List Chunk) sender receiver,
        (∀ chunk ∈ chunks, chunk.sendSucceeds = true) →
        (machine callerLibrary).exec caller (chunks.map Chunk.event) = some sender →
        (machine calleeLibrary).exec callee ((caller.sent sender).map (arrival track)) =
          some receiver →
        receiver.audioOutput.written = callee.audioOutput.written ++ captured chunks := by
  intro claim
  obtain ⟨caller, callerReached, checkedCaller⟩ := Machine.reachable_of_exec (machine .sample)
    ⟨false, rfl⟩ establishedRun (fun webRtc => webRtc.Established "bob") (by decide)
  obtain ⟨callee, calleeReached, checked⟩ := Machine.reachable_of_exec (machine .sample)
    ⟨false, rfl⟩ answeredRun
    (fun webRtc => webRtc.audioOutput.Playing ∧ 0 < webRtc.tracks ∧ webRtc.trackIsOpen 0 = true)
    (by decide)
  have established := of_decide_eq_true checkedCaller
  obtain ⟨playing, inside, isOpen⟩ := of_decide_eq_true checked
  obtain ⟨offering, _, current, isCurrent, currentOpen, _⟩ := id established
  obtain ⟨sender, added, ranCaller, grown, packed⟩ := exec_chunks_offering .sample caller
    [⟨[1, 2], 40, true⟩] offering isCurrent currentOpen
  obtain ⟨receiver, ranCallee, written⟩ :=
    exec_arrivals .sample callee playing inside isOpen (added.filterMap Observation.sent)
  rw [← sent_of_log grown] at packed ranCallee written
  have same := claim .sample .sample caller callee callerReached calleeReached "bob" established
    playing 0 inside isOpen _ sender receiver (by simp) ranCaller ranCallee
  rw [written, List.append_cancel_left_eq] at same
  have lengths := length_packets packed
  rw [same] at lengths
  simp at lengths

end WebRTC
end VoiceCall.Client
