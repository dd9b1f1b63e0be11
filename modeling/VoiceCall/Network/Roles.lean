import VoiceCall.Client.Roles
import VoiceCall.Network.Network

namespace VoiceCall

open Foundation Signalling Client

/-- A live connection for the peer is connected and its slot `connectionReady` has run. -/
def Client.WebRTC.InCall (webRtc : WebRTC) (type : SdpType) (id : ConnectionId) (peer : String) :
    Prop :=
  webRtc.Live type id ∧ (webRtc.connections id).peerId = peer ∧
    (webRtc.connections id).state = .connected ∧ webRtc.Ready id

instance (webRtc : WebRTC) (type : SdpType) (id : ConnectionId) (peer : String) :
    Decidable (webRtc.InCall type id peer) :=
  inferInstanceAs (Decidable (_ ∧ _ ∧ _ ∧ _))

/-- The client hears its peer and is not heard. -/
def Client.WebRTC.OnlyListens (webRtc : WebRTC) : Prop :=
  webRtc.audioOutput.Playing ∧ ¬webRtc.audioInput.Capturing

instance (webRtc : WebRTC) : Decidable webRtc.OnlyListens :=
  inferInstanceAs (Decidable (_ ∧ _))

/-- The client is heard by its peer and does not hear. -/
def Client.WebRTC.OnlyCaptures (webRtc : WebRTC) : Prop :=
  webRtc.audioInput.Capturing ∧ ¬webRtc.audioOutput.Playing

namespace Network

variable {libraries : SocketId → RtcLibrary} {net next : Network}

/-- The connection of one side has taken the description that the other one gives of itself. -/
def Takes (taker giver : PeerConnection) : Prop :=
  taker.remoteDescription.map Description.sdp = giver.localDescription.map Description.sdp

instance (taker giver : PeerConnection) : Decidable (Takes taker giver) :=
  inferInstanceAs (Decidable (_ = _))

/-- The offering connection of the caller and the answering one of the callee are connected
to each other. -/
def Linked (net : Network) (caller callee : SocketId) (offering answering : ConnectionId) : Prop :=
  (net.clients caller).InCall .offer offering (net.localId callee) ∧
    (net.clients callee).InCall .answer answering (net.localId caller) ∧
    Takes ((net.clients caller).connections offering) ((net.clients callee).connections answering) ∧
    Takes ((net.clients callee).connections answering) ((net.clients caller).connections offering)

instance (net : Network) (caller callee : SocketId) (offering answering : ConnectionId) :
    Decidable (net.Linked caller callee offering answering) :=
  inferInstanceAs (Decidable (_ ∧ _ ∧ _ ∧ _))

/-- The caller captures and sends on the connection, and the callee plays. -/
def Complementary (net : Network) (caller callee : SocketId) (offering : ConnectionId) : Prop :=
  ((net.clients caller).audioInput.Capturing ∧ (net.clients caller).SendsOn offering ∧
      (net.clients callee).audioOutput.Playing) ∧
    ¬((net.clients caller).OnlyListens ∧ (net.clients callee).OnlyListens) ∧
    ¬((net.clients caller).OnlyCaptures ∧ (net.clients callee).OnlyCaptures)

/-- The guard holds of every client by its own library. -/
def AllRolesKept (libraries : SocketId → RtcLibrary) : Network → NetworkEvent → Prop :=
  Lifted fun socketId => WebRTC.RolesKept (libraries socketId)

instance (net : Network) (event : NetworkEvent) : Decidable (AllRolesKept libraries net event) :=
  inferInstanceAs (Decidable (∀ _ ∈ net.clientEvent event, _))

/-- Every client of a guarded run keeps the roles of its live calls. -/
theorem rolesRight_of_reachableUnder
    (reached : (machine libraries).ReachableUnder (AllRolesKept libraries) net)
    {socketId : SocketId} (inside : socketId ∈ net.hub.connected) :
    (net.clients socketId).RolesRight := by
  refine WebRTC.rolesRight_of_reachableUnder (client_reachableUnder ?_ reached socketId inside)
  intro other wild name id below
  exact absurd below (Nat.not_lt_zero id)

/-- In a guarded run the two ends of a connected call take complementary roles. -/
theorem connected_ends_complementary (libraries : SocketId → RtcLibrary) (net : Network)
    (reached : (machine libraries).ReachableUnder (AllRolesKept libraries) net)
    (caller callee : SocketId) (callerInside : caller ∈ net.hub.connected)
    (calleeInside : callee ∈ net.hub.connected) (offering answering : ConnectionId)
    (linked : net.Linked caller callee offering answering) :
    net.Complementary caller callee offering := by
  obtain ⟨⟨outgoing, _, connected, callerReady⟩, ⟨incoming, _, _, calleeReady⟩, _⟩ := linked
  have callerRight := rolesRight_of_reachableUnder reached callerInside
  have calleeRight := rolesRight_of_reachableUnder reached calleeInside
  have captures := callerRight.capturing offering outgoing callerReady
  have plays := calleeRight.playing answering incoming calleeReady
  refine ⟨⟨captures, callerRight.sendsOn outgoing connected, plays⟩, ?_, ?_⟩
  · exact fun both => both.1.2 captures
  · exact fun both => both.2.2 plays

/-- Two clients join and register. -/
def joinedRun : List NetworkEvent :=
  [.join Hub.firstSocket "alice" false, .serve Hub.firstSocket,
    .join Hub.secondSocket "bob" false, .serve Hub.secondSocket]

/-- Alice calls Bob, who accepts, and the answer reaches Alice. -/
def answeredRun : List NetworkEvent :=
  joinedRun ++ [.act Hub.firstSocket (.startCall "bob"),
    .act Hub.firstSocket (.gatheringComplete 1), .serve Hub.firstSocket,
    .deliver Hub.secondSocket, .act Hub.secondSocket (.acceptCall "alice"),
    .act Hub.secondSocket (.gatheringComplete 1), .serve Hub.secondSocket,
    .deliver Hub.firstSocket]

/-- Both ends connect and run their slots. -/
def connectedRun : List NetworkEvent :=
  [.act Hub.firstSocket (.stateChanged 1 .connected),
    .act Hub.secondSocket (.stateChanged 1 .connected),
    .act Hub.firstSocket (.runQueued true true), .act Hub.secondSocket (.runQueued true true)]

theorem connected_ends_complementary_bob :
    ∃ net : Network, net.Linked Hub.firstSocket Hub.secondSocket 1 1 ∧
      net.Complementary Hub.firstSocket Hub.secondSocket 1 := by
  obtain ⟨net, reached, checked⟩ := Machine.reachableUnder_of_exec
    (machine fun _ => .sample) (AllRolesKept fun _ => .sample) rfl (answeredRun ++ connectedRun)
    (fun net => Hub.firstSocket ∈ net.hub.connected ∧ Hub.secondSocket ∈ net.hub.connected ∧
      net.Linked Hub.firstSocket Hub.secondSocket 1 1)
    (by decide +kernel)
  obtain ⟨first, second, linked⟩ := of_decide_eq_true checked
  exact ⟨net, linked, connected_ends_complementary _ net reached _ _ first second 1 1 linked⟩

def carolSocket : SocketId := ⟨"s3", by decide⟩

/-- The offer of a third client reaches Alice between the answer and her slot. -/
def thirdPartyRun : List NetworkEvent :=
  answeredRun ++ [.join carolSocket "carol" false, .serve carolSocket,
    .act carolSocket (.startCall "alice"), .act carolSocket (.gatheringComplete 1),
    .serve carolSocket, .deliver Hub.firstSocket] ++ connectedRun

/-- An offer of a third client makes both ends of a connected call listen. -/
theorem connected_ends_complementary_fails :
    ¬∀ libraries net, (machine libraries).Reachable net → ∀ caller ∈ net.hub.connected,
      ∀ callee ∈ net.hub.connected, ∀ offering answering,
        net.Linked caller callee offering answering → net.Complementary caller callee offering := by
  intro claim
  obtain ⟨net, reached, checked⟩ := Machine.reachable_of_exec (machine fun _ => .sample) rfl
    thirdPartyRun
    (fun net => (Hub.firstSocket ∈ net.hub.connected ∧ Hub.secondSocket ∈ net.hub.connected ∧
      net.Linked Hub.firstSocket Hub.secondSocket 1 1) ∧
      (net.clients Hub.firstSocket).OnlyListens ∧ (net.clients Hub.secondSocket).OnlyListens)
    (by decide +kernel)
  obtain ⟨⟨first, second, linked⟩, listening⟩ := of_decide_eq_true checked
  exact (claim _ net reached _ first _ second 1 1 linked).2.1 listening

end Network
end VoiceCall
