import VoiceCall.Client.Audio
import VoiceCall.Client.PeerConnection
import VoiceCall.Client.Rtp

namespace VoiceCall.Client

/-- The library numbers its tracks in the order of their creation. -/
abbrev TrackId := Nat

/-- The queued calls have no argument, and the record keeps whose callback queued each. -/
inductive QueuedSlot where
  | connectionReady (connection : ConnectionId)
  | endConnection (connection : ConnectionId)
deriving DecidableEq, Repr

/-- The log records the calls of a run: the user's, the signals and those into the library.
A description is recorded with the connection it was read from, and a rejection with the
stored offer it refuses. -/
inductive Observation where
  | startCall (name : String)
  | endCall (name : String)
  | connectToSignalingServer (peerId : String)
  | offerIsReady (peerID : String) (description : Description) (source : ConnectionId)
  | answerIsReady (peerID : String) (description : Description) (source : ConnectionId)
  | callRejected (peerID : String) (refused : Option String)
  | incommigCall (username : String)
  | acceptedReceived
  | rejectReceived
  | endReceived
  | setRemoteDescription (peerId : String) (target : ConnectionId) (description : Description)
  | send (track : TrackId) (packet : List UInt8) (succeeded : Bool)
  | connectionReady (connection : ConnectionId)
  | endConnection (connection : ConnectionId)
deriving DecidableEq, Repr

/-- The members of the class come first, then the objects of the library and of the event loop. -/
structure WebRTC where
  sequenceNumber : UInt16
  payloadType : Int
  ssrc : UInt32
  isOfferer : Bool
  peerSdps : String → Option String
  peerConnections : String → Option ConnectionId
  peerTrack : Option TrackId
  audioInput : AudioInput
  audioOutput : AudioOutput
  connections : ConnectionId → PeerConnection
  created : Nat
  trackOwner : TrackId → ConnectionId
  tracks : Nat
  queue : List QueuedSlot
  log : List Observation

namespace WebRTC

/-- The constructor leaves the playback pointer as it finds it. -/
@[simps -fullyApplied] def initial (wild : Bool) : WebRTC where
  sequenceNumber := 0
  payloadType := 111
  ssrc := 2
  isOfferer := false
  peerSdps := fun _ => none
  peerConnections := fun _ => none
  peerTrack := none
  audioInput := .initial
  audioOutput := .initial wild
  connections := fun _ => .fresh ""
  created := 0
  trackOwner := fun _ => 0
  tracks := 0
  queue := []
  log := []

@[simps -fullyApplied] def record (webRtc : WebRTC) (observation : Observation) : WebRTC :=
  { webRtc with log := webRtc.log ++ [observation] }

/-- No slot listens to `isOffererChanged`. -/
@[simps -fullyApplied] def setIsOfferer (webRtc : WebRTC) (newIsOfferer : Bool) : WebRTC :=
  { webRtc with isOfferer := newIsOfferer }

@[simps -fullyApplied] def storeSdp (webRtc : WebRTC) (peerID sdp : String) : WebRTC :=
  { webRtc with peerSdps := Function.update webRtc.peerSdps peerID (some sdp) }

@[simps -fullyApplied] def setConnection (webRtc : WebRTC) (id : ConnectionId)
    (connection : PeerConnection) : WebRTC :=
  { webRtc with connections := Function.update webRtc.connections id connection }

/-- The map holds the only pointer to a connection that it owns.
A replaced connection is destroyed, and its destructor closes it. -/
def released (webRtc : WebRTC) (peerId : String) : ConnectionId → PeerConnection :=
  match webRtc.peerConnections peerId with
  | some id => Function.update webRtc.connections id (webRtc.connections id).close
  | none => webRtc.connections

/-- A new connection replaces the entry of its peer, which drops the old one. -/
@[simps -fullyApplied] def addPeer (webRtc : WebRTC) (peerId : String) : WebRTC :=
  { webRtc with
    connections := Function.update (webRtc.released peerId) webRtc.created (.fresh peerId)
    created := webRtc.created + 1
    peerConnections := Function.update webRtc.peerConnections peerId (some webRtc.created) }

/-- The track that `addTrack` or `onTrack` delivers becomes the one track of the client. -/
@[simps -fullyApplied] def setTrack (webRtc : WebRTC) (owner : ConnectionId) : WebRTC :=
  { webRtc with
    trackOwner := Function.update webRtc.trackOwner webRtc.tracks owner
    tracks := webRtc.tracks + 1
    peerTrack := some webRtc.tracks }

def addAudioTrack (webRtc : WebRTC) (peerId : String) : WebRTC :=
  match webRtc.peerConnections peerId with
  | some id => webRtc.setTrack id
  | none => webRtc

def generateOfferSDP (library : RtcLibrary) (webRtc : WebRTC) (peerId : String) : WebRTC :=
  match webRtc.peerConnections peerId with
  | some id => webRtc.setConnection id ((webRtc.connections id).setLocalOffer library id)
  | none => webRtc

def startCall (library : RtcLibrary) (webRtc : WebRTC) (targetName : String) : WebRTC :=
  let calling := (webRtc.record (.startCall targetName)).setIsOfferer true
  ((calling.addPeer targetName).addAudioTrack targetName).generateOfferSDP library targetName

/-- The call of `init` resets the role before the own name gets a connection. -/
def registerName (webRtc : WebRTC) (username : String) : WebRTC :=
  ((webRtc.setIsOfferer false).addPeer username).record (.connectToSignalingServer username)

/-- A name without a connection makes `operator[]` insert a null pointer, which is then used. -/
def endCall (webRtc : WebRTC) (name : String) : Option WebRTC :=
  (webRtc.peerConnections name).map fun id =>
    (webRtc.record (.endCall name)).setConnection id (webRtc.connections id).close

/-- A missing entry is created, and an answering client replaces the entry in any case. -/
def acceptReady (webRtc : WebRTC) (peerId : String) : WebRTC :=
  if (webRtc.peerConnections peerId).isSome = false ∨ webRtc.isOfferer = false then
    webRtc.addPeer peerId
  else webRtc

/-- The error carries the state in which the exception leaves the client. -/
def acceptPeer (library : RtcLibrary) (webRtc : WebRTC) (description : Description)
    (peerId : String) : Except WebRTC WebRTC :=
  let ready := webRtc.acceptReady peerId
  match ready.peerConnections peerId with
  | none => .error ready
  | some target =>
      let called := ready.record (.setRemoteDescription peerId target description)
      match (ready.connections target).setRemoteDescription library target description with
      | some connection => .ok (called.setConnection target connection)
      | none => .error called

def acceptCall (library : RtcLibrary) (webRtc : WebRTC) (name : String) : Except WebRTC WebRTC :=
  match webRtc.peerSdps name with
  | none => .ok webRtc
  | some sdp =>
      if library.parses sdp .offer then webRtc.acceptPeer library ⟨.offer, sdp⟩ name
      else .error webRtc

def rejectCall (webRtc : WebRTC) (name : String) : WebRTC :=
  webRtc.record (.callRejected name (webRtc.peerSdps name))

def offerReceived (webRtc : WebRTC) (peerID sdp : String) : WebRTC :=
  ((webRtc.storeSdp peerID sdp).setIsOfferer false).record (.incommigCall peerID)

def answerReceived (library : RtcLibrary) (webRtc : WebRTC) (peerID sdp : String) :
    Except WebRTC WebRTC :=
  let stored := webRtc.storeSdp peerID sdp
  if library.parses sdp .answer then
    (stored.acceptPeer library ⟨.answer, sdp⟩ peerID).map fun accepted =>
      accepted.record .acceptedReceived
  else .error stored

/-- The sender of a rejection is only printed. -/
def rejectedReceived (webRtc : WebRTC) (_peerID : String) : WebRTC :=
  webRtc.record .rejectReceived

/-- A candidate goes into the library and changes nothing that is modelled here. -/
def setRemoteCandidate (webRtc : WebRTC) (peerID : String) : WebRTC :=
  if (webRtc.peerConnections peerID).isSome then webRtc else webRtc.addPeer peerID

def connectionReady (webRtc : WebRTC) (deviceOpens sinkStarts : Bool) : WebRTC :=
  if webRtc.isOfferer then
    { webRtc with audioInput := webRtc.audioInput.openDevice deviceOpens }
  else { webRtc with audioOutput := webRtc.audioOutput.start sinkStarts }

def endConnection (webRtc : WebRTC) : WebRTC :=
  { webRtc with
    peerSdps := fun _ => none
    audioInput := webRtc.audioInput.close
    audioOutput := webRtc.audioOutput.stop }.record .endReceived

def trackIsOpen (webRtc : WebRTC) (track : TrackId) : Bool :=
  (webRtc.connections (webRtc.trackOwner track)).tracksOpen

@[simps -fullyApplied] def count (webRtc : WebRTC) : WebRTC :=
  { webRtc with sequenceNumber := webRtc.sequenceNumber + 1 }

def packet (webRtc : WebRTC) (data : List UInt8) (now : UInt32) : List UInt8 :=
  rtpPacket webRtc.payloadType webRtc.sequenceNumber now webRtc.ssrc data

/-- The counter advances before the role and the track are looked at.
An exception of `send` is caught and printed. -/
def dataReady (webRtc : WebRTC) (data : List UInt8) (now : UInt32) (sendSucceeds : Bool) :
    WebRTC :=
  if webRtc.isOfferer then
    match webRtc.peerTrack with
    | some track =>
        if webRtc.trackIsOpen track then
          webRtc.count.record (.send track (webRtc.count.packet data now) sendSucceeds)
        else webRtc.count
    | none => webRtc.count
  else webRtc.count

/-- The callback queues a slot for state 2 and for state 5. -/
def onStateChange (webRtc : WebRTC) (id : ConnectionId) (state : ConnectionState) : WebRTC :=
  match state with
  | .connected => { webRtc with queue := webRtc.queue ++ [.connectionReady id] }
  | .closed => { webRtc with queue := webRtc.queue ++ [.endConnection id] }
  | _ => webRtc

/-- The callback reads the description of whichever connection the map now holds for its peer.
A missing entry is a null pointer, and a missing description throws in the library's thread. -/
def onGatheringComplete (webRtc : WebRTC) (peerId : String) : Option WebRTC :=
  (webRtc.peerConnections peerId).map fun source =>
    match (webRtc.connections source).localDescription with
    | none => webRtc
    | some description =>
        if webRtc.isOfferer then webRtc.record (.offerIsReady peerId description source)
        else webRtc.record (.answerIsReady peerId description source)

/-- A message of a track goes to the playback slot. -/
def onMessage (webRtc : WebRTC) (data : List UInt8) : Option WebRTC :=
  (webRtc.audioOutput.receivedData data).map fun output => { webRtc with audioOutput := output }

/-- The event loop takes the first queued slot. -/
def runQueued (webRtc : WebRTC) (deviceOpens sinkStarts : Bool) : Option WebRTC :=
  match webRtc.queue with
  | [] => none
  | .connectionReady id :: rest =>
      some (({ webRtc with queue := rest }.connectionReady deviceOpens sinkStarts).record
        (.connectionReady id))
  | .endConnection id :: rest =>
      some ({ webRtc with queue := rest }.endConnection.record (.endConnection id))

end WebRTC
end VoiceCall.Client
