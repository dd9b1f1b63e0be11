import Mathlib.Tactic

namespace VoiceCall.Client

/-- The library numbers its connections in the order of their creation. -/
abbrev ConnectionId := Nat

/-- The application uses two of the description types. -/
inductive SdpType where
  | offer
  | answer
deriving DecidableEq, Repr

structure Description where
  type : SdpType
  sdp : String
deriving DecidableEq, Repr

inductive SignalingState where
  | stable
  | haveLocalOffer
deriving DecidableEq, Repr

inductive GatheringState where
  | new
  | inProgress
  | complete
deriving DecidableEq, Repr

/-- The states keep the order that `static_cast<int>` numbers from 0 to 5. -/
inductive ConnectionState where
  | new
  | connecting
  | connected
  | disconnected
  | failed
  | closed
deriving DecidableEq, Repr

/-- A connection keeps the name that its callbacks captured. -/
structure PeerConnection where
  peerId : String
  signaling : SignalingState
  gathering : GatheringState
  state : ConnectionState
  localDescription : Option Description
  remoteDescription : Option Description
  closing : Bool
  tracksOpen : Bool
deriving DecidableEq, Repr

/-- The parts of the library that its documentation leaves open are parameters.
They say which texts parse, which descriptions a connection takes, and what it says of itself. -/
structure RtcLibrary where
  parses : String → SdpType → Bool
  accepts : PeerConnection → Description → Bool
  describe : ConnectionId → SdpType → String

/-- This library writes short session texts. Only an offer may leave the transport role open. -/
def RtcLibrary.sample : RtcLibrary where
  parses sdp _ := "v=0".toList.isPrefixOf sdp.toList
  accepts connection description :=
    connection.state ≠ .closed &&
      !(description.type = .answer && "a=setup:actpass".toList.isSuffixOf description.sdp.toList)
  describe id type :=
    "v=0 o=" ++ String.ofList (List.replicate id '+') ++
      match type with
      | .offer => " a=setup:actpass"
      | .answer => " a=setup:active"

namespace PeerConnection

/-- A fresh connection is stable and has no description. -/
def fresh (peerId : String) : PeerConnection :=
  ⟨peerId, .stable, .new, .new, none, none, false, false⟩

/-- Gathering starts once. -/
def gather (connection : PeerConnection) : GatheringState :=
  match connection.gathering with
  | .new => .inProgress
  | started => started

/-- The call `setLocalDescription(Offer)` makes an offer and starts gathering. -/
def setLocalOffer (library : RtcLibrary) (id : ConnectionId) (connection : PeerConnection) :
    PeerConnection :=
  { connection with
    signaling := .haveLocalOffer
    gathering := connection.gather
    localDescription := some ⟨.offer, library.describe id .offer⟩ }

/-- An answer needs an unanswered local offer, and an offer is answered by the library itself.
A refused description throws and changes nothing. -/
def setRemoteDescription (library : RtcLibrary) (id : ConnectionId) (connection : PeerConnection)
    (description : Description) : Option PeerConnection :=
  if library.accepts connection description then
    match description.type with
    | .answer =>
        if connection.signaling = .haveLocalOffer then
          some { connection with signaling := .stable, remoteDescription := some description }
        else none
    | .offer =>
        some { connection with
          signaling := .stable
          gathering := connection.gather
          localDescription := some ⟨.answer, library.describe id .answer⟩
          remoteDescription := some description }
  else none

/-- The call `close` asks for the state `Closed`, which is reported later. -/
def close (connection : PeerConnection) : PeerConnection := { connection with closing := true }

/-- The tracks open with the transport and stay open until the connection is closed. -/
def changeState (connection : PeerConnection) (state : ConnectionState) : PeerConnection :=
  { connection with
    state := state
    tracksOpen := match state with
      | .connected => true
      | .closed => false
      | _ => connection.tracksOpen }

/-- A closed connection changes no more, and one without both descriptions never connects. -/
def MayChange (connection : PeerConnection) (state : ConnectionState) : Prop :=
  connection.state ≠ .closed ∧
    (state = .connected →
      connection.localDescription.isSome = true ∧ connection.remoteDescription.isSome = true)

instance (connection : PeerConnection) (state : ConnectionState) :
    Decidable (connection.MayChange state) := inferInstanceAs (Decidable (_ ∧ _))

variable {library : RtcLibrary} {id : ConnectionId} {connection next : PeerConnection}
  {description : Description}

/-- An accepted answer settles the offer and keeps the local description. -/
theorem setRemoteDescription_answer (isAnswer : description.type = .answer)
    (applied : connection.setRemoteDescription library id description = some next) :
    connection.signaling = .haveLocalOffer ∧
      next = { connection with signaling := .stable, remoteDescription := some description } := by
  simp only [setRemoteDescription, isAnswer, Option.ite_none_right_eq_some] at applied
  obtain ⟨_, offered, made⟩ := applied
  exact ⟨offered, (Option.some.inj made).symm⟩

/-- An accepted offer is answered and starts gathering. -/
theorem setRemoteDescription_offer (isOffer : description.type = .offer)
    (applied : connection.setRemoteDescription library id description = some next) :
    next = { connection with
      signaling := .stable
      gathering := connection.gather
      localDescription := some ⟨.answer, library.describe id .answer⟩
      remoteDescription := some description } := by
  simp only [setRemoteDescription, isOffer, Option.ite_none_right_eq_some] at applied
  exact (Option.some.inj applied.2).symm

/-- Every accepted description leaves the connection stable, under its name and in its state. -/
theorem setRemoteDescription_keeps
    (applied : connection.setRemoteDescription library id description = some next) :
    next.signaling = .stable ∧ next.peerId = connection.peerId ∧ next.state = connection.state ∧
      next.remoteDescription = some description := by
  cases kind : description.type with
  | offer =>
      rw [setRemoteDescription_offer kind applied]
      exact ⟨rfl, rfl, rfl, rfl⟩
  | answer =>
      rw [(setRemoteDescription_answer kind applied).2]
      exact ⟨rfl, rfl, rfl, rfl⟩

end PeerConnection
end VoiceCall.Client
