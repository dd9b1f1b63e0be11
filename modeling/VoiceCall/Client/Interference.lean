import VoiceCall.Client.Sound

namespace VoiceCall.Client

open Foundation

/-- The packet that an observation hands to a track. -/
def Observation.sent : Observation → Option (TrackId × List UInt8)
  | .send track packet _ => some (track, packet)
  | _ => none

/-- An offer of another peer, which the user may reject and does not accept. -/
structure ForeignOffer where
  peerID : String
  sdp : String
  rejected : Bool

def ForeignOffer.events (offer : ForeignOffer) : List Event :=
  if offer.rejected then [.offerReceived offer.peerID offer.sdp, .rejectCall offer.peerID]
  else [.offerReceived offer.peerID offer.sdp]

/-- A captured chunk comes with the clock that is read for it and the fate of its packet. -/
structure Chunk where
  data : List UInt8
  now : UInt32
  sendSucceeds : Bool

/-- The `writeData` method emits `dataReady` with its bytes as they are. -/
def Chunk.event (chunk : Chunk) : Event := .dataReady chunk.data chunk.now chunk.sendSucceeds

/-- The packet of a chunk is a header of twelve bytes and the captured bytes. -/
def Chunk.Packed (chunk : Chunk) (sent : TrackId × List UInt8) : Prop :=
  ∃ header, header.length = 12 ∧ sent.2 = header ++ chunk.data

namespace WebRTC

variable {library : RtcLibrary} {webRtc next : WebRTC}

/-- An established outgoing call captures and has its track open. -/
def Established (webRtc : WebRTC) (peerId : String) : Prop :=
  webRtc.isOfferer = true ∧ webRtc.audioInput.Capturing ∧
    ∃ track ∈ webRtc.peerTrack, webRtc.trackIsOpen track = true ∧
      webRtc.peerConnections peerId = some (webRtc.trackOwner track) ∧
      .connectionReady (webRtc.trackOwner track) ∈ webRtc.log

/-- The packets that a later state has handed to tracks. -/
def sent (webRtc next : WebRTC) : List (TrackId × List UInt8) :=
  (webRtc.since next).filterMap Observation.sent

theorem sent_of_log {added : List Observation} (grown : next.log = webRtc.log ++ added) :
    webRtc.sent next = added.filterMap Observation.sent := by
  rw [sent, since_of_log grown]

/-- An offering client with an open track sends one packet for each chunk, in their order. -/
theorem exec_chunks_offering (library : RtcLibrary) (webRtc : WebRTC) (chunks : List Chunk)
    {track : TrackId}
    (offering : webRtc.isOfferer = true) (current : webRtc.peerTrack = some track)
    (isOpen : webRtc.trackIsOpen track = true) :
    ∃ last added, (machine library).exec webRtc (chunks.map Chunk.event) = some last ∧
      last.log = webRtc.log ++ added ∧
      List.Forall₂ Chunk.Packed chunks (added.filterMap Observation.sent) := by
  induction chunks generalizing webRtc with
  | nil => exact ⟨webRtc, [], rfl, by simp, .nil⟩
  | cons chunk rest ih =>
      rcases webRtc.dataReady_cases chunk.data chunk.now chunk.sendSucceeds with
        ⟨used, _, found, _, sends⟩ | ⟨idle, _⟩
      · have sameTrack : (webRtc.dataReady chunk.data chunk.now chunk.sendSucceeds).peerTrack =
            some track := by rw [sends]; exact current
        obtain ⟨last, added, ran, grown, packed⟩ :=
          ih _ (by rw [sends]; exact offering) sameTrack (by rw [sends]; exact isOpen)
        refine ⟨last, .send used (webRtc.count.packet chunk.data chunk.now) chunk.sendSucceeds ::
          added, ran, ?_, ?_⟩
        · rw [grown, sends, record_log, count_log, List.append_assoc, List.singleton_append]
        · rw [List.filterMap_cons_some (by rfl)]
          exact .cons ⟨_, rfl, rfl⟩ packed
      · rw [idle offering track current] at isOpen
        cases isOpen

/-- A client that answers sends nothing. -/
theorem exec_chunks_answering (library : RtcLibrary) (webRtc : WebRTC) (chunks : List Chunk)
    (answering : webRtc.isOfferer = false) :
    ∃ last, (machine library).exec webRtc (chunks.map Chunk.event) = some last ∧
      last.log = webRtc.log := by
  induction chunks generalizing webRtc with
  | nil => exact ⟨webRtc, rfl, rfl⟩
  | cons chunk rest ih =>
      have counted : webRtc.dataReady chunk.data chunk.now chunk.sendSucceeds = webRtc.count := by
        simp [dataReady, answering]
      obtain ⟨last, ran, same⟩ := ih webRtc.count answering
      refine ⟨last, ?_, same⟩
      rw [List.map_cons, Machine.exec_cons]
      change (machine library).exec (webRtc.dataReady chunk.data chunk.now chunk.sendSucceeds) _ = _
      rw [counted, ran]

/-- One foreign offer leaves the client answering, rejected or not. -/
theorem exec_offer (library : RtcLibrary) (webRtc : WebRTC) (offer : ForeignOffer) :
    ∃ last added, (machine library).exec webRtc offer.events = some last ∧
      last.isOfferer = false ∧ last.log = webRtc.log ++ added ∧
      added.filterMap Observation.sent = [] := by
  unfold ForeignOffer.events
  cases offer.rejected with
  | false => exact ⟨_, [.incommigCall offer.peerID], rfl, rfl, rfl, rfl⟩
  | true =>
      exact ⟨_, [.incommigCall offer.peerID, .callRejected offer.peerID (some offer.sdp)], rfl,
        rfl, by simp [rejectCall, offerReceived], rfl⟩

/-- Foreign offers leave the client answering as soon as there is one. -/
theorem exec_offers (library : RtcLibrary) (webRtc : WebRTC) (offers : List ForeignOffer) :
    ∃ last added, (machine library).exec webRtc (offers.flatMap ForeignOffer.events) = some last ∧
      (offers ≠ [] → last.isOfferer = false) ∧ last.log = webRtc.log ++ added ∧
      added.filterMap Observation.sent = [] := by
  induction offers generalizing webRtc with
  | nil => exact ⟨webRtc, [], rfl, by simp, by simp, rfl⟩
  | cons offer rest ih =>
      obtain ⟨middle, first, ran, answering, grown, silent⟩ :=
        exec_offer library webRtc offer
      obtain ⟨last, second, ranRest, restAnswering, grownRest, silentRest⟩ := ih middle
      refine ⟨last, first ++ second, ?_, ?_, ?_, ?_⟩
      · rw [List.flatMap_cons, Machine.exec_append, ran, Option.bind_some, ranRest]
      · intro _
        cases rest with
        | nil =>
            cases ranRest
            exact answering
        | cons other more => exact restAnswering (by simp)
      · rw [grownRest, grown, List.append_assoc]
      · rw [List.filterMap_append, silent, silentRest, List.append_nil]

/-- Foreign offers leave the packets of an established call alone exactly when there are
no offers or no chunks: the first offer stops every packet. -/
theorem foreign_offers_undisturbing_iff (library : RtcLibrary) (webRtc : WebRTC)
    (_reached : (machine library).Reachable webRtc) (peerId : String)
    (established : webRtc.Established peerId) (offers : List ForeignOffer)
    (_foreign : ∀ offer ∈ offers, offer.peerID ≠ peerId) (chunks : List Chunk) :
    ∃ quiet disturbed,
      (machine library).exec webRtc (chunks.map Chunk.event) = some quiet ∧
      (machine library).exec webRtc
        (offers.flatMap ForeignOffer.events ++ chunks.map Chunk.event) = some disturbed ∧
      (webRtc.sent disturbed = webRtc.sent quiet ↔ offers = [] ∨ chunks = []) := by
  obtain ⟨offering, _, track, current, isOpen, _⟩ := established
  obtain ⟨quiet, added, ranQuiet, grownQuiet, packed⟩ :=
    exec_chunks_offering library webRtc chunks offering current isOpen
  have length := packed.length_eq.symm
  obtain ⟨middle, first, ranOffers, answering, grownOffers, silent⟩ :=
    exec_offers library webRtc offers
  cases offers with
  | nil => exact ⟨quiet, quiet, ranQuiet, ranQuiet, by simp⟩
  | cons offer rest =>
      obtain ⟨disturbed, ranChunks, same⟩ :=
        exec_chunks_answering library middle chunks (answering (by simp))
      refine ⟨quiet, disturbed, ranQuiet, ?_, ?_⟩
      · rw [Machine.exec_append, ranOffers, Option.bind_some, ranChunks]
      · rw [sent_of_log grownQuiet, sent_of_log (same.trans grownOffers), silent]
        constructor
        · intro equal
          right
          rw [← equal] at length
          exact List.length_eq_zero_iff.mp length.symm
        · intro none
          rcases none with noOffers | noChunks
          · cases noOffers
          · rw [noChunks] at length
            exact (List.length_eq_zero_iff.mp length).symm

/-- A call is made, answered, connected and made ready. -/
def establishedRun : List Event :=
  [.startCall "bob", .gatheringComplete 0, .answerReceived "bob" "v=0 o=bob a=setup:active",
    .stateChanged 0 .connected, .runQueued true true]

instance (webRtc : WebRTC) (peerId : String) : Decidable (webRtc.Established peerId) :=
  inferInstanceAs (Decidable (_ ∧ _ ∧ _))

theorem foreign_offers_undisturbing_iff_bob :
    ∃ webRtc : WebRTC, webRtc.Established "bob" ∧ ∃ quiet disturbed,
      (machine .sample).exec webRtc [.dataReady [1, 2] 40 true] = some quiet ∧
      (machine .sample).exec webRtc
        [.offerReceived "carol" "sdp", .rejectCall "carol", .dataReady [1, 2] 40 true] =
          some disturbed ∧
      (webRtc.sent disturbed = webRtc.sent quiet ↔
        [ForeignOffer.mk "carol" "sdp" true] = [] ∨ [Chunk.mk [1, 2] 40 true] = []) := by
  obtain ⟨webRtc, reached, checked⟩ := Machine.reachable_of_exec (machine .sample)
    ⟨false, rfl⟩ establishedRun (fun webRtc => webRtc.Established "bob") (by decide)
  have established := of_decide_eq_true checked
  exact ⟨webRtc, established,
    foreign_offers_undisturbing_iff .sample webRtc reached "bob" established
      [⟨"carol", "sdp", true⟩] (by decide) [⟨[1, 2], 40, true⟩]⟩

/-- One rejected offer silences an established call. -/
theorem foreign_offers_undisturbing_fails :
    ¬∀ library webRtc, (machine library).Reachable webRtc → ∀ peerId,
      webRtc.Established peerId → ∀ offers : List ForeignOffer,
        (∀ offer ∈ offers, offer.peerID ≠ peerId) → ∀ (chunks : List Chunk) quiet disturbed,
          (machine library).exec webRtc (chunks.map Chunk.event) = some quiet →
          (machine library).exec webRtc
            (offers.flatMap ForeignOffer.events ++ chunks.map Chunk.event) = some disturbed →
          webRtc.sent disturbed = webRtc.sent quiet := by
  intro claim
  obtain ⟨webRtc, reached, checked⟩ := Machine.reachable_of_exec (machine .sample)
    ⟨false, rfl⟩ establishedRun
    (fun webRtc => webRtc.Established "bob" ∧
      (webRtc.sent (webRtc.dataReady [1, 2] 40 true)).length = 1 ∧
      (webRtc.sent (((webRtc.offerReceived "carol" "sdp").rejectCall "carol").dataReady
        [1, 2] 40 true)).length = 0)
    (by decide)
  obtain ⟨established, one, zero⟩ := of_decide_eq_true checked
  have same := claim .sample webRtc reached "bob" established [⟨"carol", "sdp", true⟩]
    (by decide) [⟨[1, 2], 40, true⟩] _ _ rfl rfl
  have lengths := congrArg List.length same
  exact absurd (zero.symm.trans (lengths.trans one)) (by decide)

end WebRTC
end VoiceCall.Client
