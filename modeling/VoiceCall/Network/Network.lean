import VoiceCall.Client.Step
import VoiceCall.Signalling.Relay

namespace VoiceCall

open Foundation Signalling Client

/-- A `SignalManager` emits one event for each of its send methods and one to register. -/
inductive Emission where
  | register (peerId : String)
  | relay (message : SignalManager.Message) (target : String)
deriving DecidableEq, Repr

def Emission.packet : Emission → Packet
  | .register peerId => SignalManager.sendRegister peerId
  | .relay message target => message.send target

/-- The constructor of `SignalManager` connects three signals of the client to its send methods,
and `registerName` calls it directly. -/
def Client.Observation.emission : Observation → Option Emission
  | .connectToSignalingServer peerId => some (.register peerId)
  | .offerIsReady peerID description _ => some (.relay (.offer description.sdp) peerID)
  | .answerIsReady peerID description _ => some (.relay (.answer description.sdp) peerID)
  | .callRejected peerID _ => some (.relay .reject peerID)
  | _ => none

/-- The emissions that the signals of a step make. -/
def Client.WebRTC.emits (webRtc next : WebRTC) : List Emission :=
  (webRtc.since next).filterMap Observation.emission

/-- Two signals run a slot each. The third is connected to the signal that its slot emits. -/
def Signalling.SignalManager.Signal.event : SignalManager.Signal → Event
  | .onOfferReceived peerID sdp => .offerReceived peerID sdp
  | .onAnswerReceived peerID sdp => .answerReceived peerID sdp
  | .onRejectReceived peerID => .rejectedReceived peerID

/-- The other events are the registration and the slots that wait for the server. -/
def Client.Event.isLocal : Event → Bool
  | .registerName _ | .offerReceived _ _ | .answerReceived _ _ | .rejectedReceived _
  | .setRemoteCandidate _ => false
  | _ => true

/-- The network joins clients and server by two queues for each connection. -/
structure Network where
  hub : Hub
  clients : SocketId → WebRTC
  localId : SocketId → String
  toServer : SocketId → List Emission
  toClient : SocketId → List Packet

/-- A client joins under its name and registers, acts by itself, or takes a packet.
The server takes a packet of one connection. -/
inductive NetworkEvent where
  | join (socketId : SocketId) (name : String) (wild : Bool)
  | act (socketId : SocketId) (event : Event)
  | serve (socketId : SocketId)
  | deliver (socketId : SocketId)

namespace Network

def empty : Network where
  hub := .empty
  clients _ := .initial false
  localId _ := ""
  toServer _ := []
  toClient _ := []

/-- A client that has taken a step sends what it has emitted. -/
def advance (net : Network) (socketId : SocketId) (next : WebRTC) : Network :=
  { net with
    clients := Function.update net.clients socketId next
    toServer := Function.update net.toServer socketId
      (net.toServer socketId ++ (net.clients socketId).emits next) }

def clientStep (libraries : SocketId → RtcLibrary) (net : Network) (socketId : SocketId)
    (event : Event) : Option Network :=
  ((net.clients socketId).step (libraries socketId) event).map (net.advance socketId)

def enter (net : Network) (hub : Hub) (socketId : SocketId) (name : String) (wild : Bool) :
    Network :=
  { net with
    hub := hub
    clients := Function.update net.clients socketId (.initial wild)
    localId := Function.update net.localId socketId name }

/-- The popup refuses a blank name, and no two clients choose the same. -/
def MayJoin (net : Network) (name : String) : Prop :=
  JsValue.trimmed name ≠ "" ∧ ∀ other ∈ net.hub.connected, net.localId other ≠ name

instance (net : Network) (name : String) : Decidable (net.MayJoin name) :=
  inferInstanceAs (Decidable (_ ∧ _))

/-- The server has taken the first packet of a connection and emits to the rooms. -/
def served (net : Network) (socketId : SocketId) (rest : List Emission)
    (result : Hub × List (SocketId × Packet)) : Network :=
  { net with
    hub := result.1
    toServer := Function.update net.toServer socketId rest
    toClient := fun receiver => net.toClient receiver ++
      (result.2.filter fun delivery => delivery.1 = receiver).map Prod.snd }

def popped (net : Network) (socketId : SocketId) (rest : List Packet) : Network :=
  { net with toClient := Function.update net.toClient socketId rest }

/-- The result `none` is a refused event or the end of a process. -/
def step (libraries : SocketId → RtcLibrary) (net : Network) : NetworkEvent → Option Network
  | .join socketId name wild =>
      if net.MayJoin name then
        (net.hub.process (.connect socketId)).bind fun result =>
          (net.enter result.1 socketId name wild).clientStep libraries socketId
            (.registerName name)
      else none
  | .act socketId event =>
      if socketId ∈ net.hub.connected ∧ event.isLocal = true then
        net.clientStep libraries socketId event
      else none
  | .serve socketId =>
      match net.toServer socketId with
      | [] => none
      | emission :: rest =>
          (net.hub.process (.packet socketId emission.packet)).map (net.served socketId rest)
  | .deliver socketId =>
      match net.toClient socketId with
      | [] => none
      | packet :: rest =>
          match SignalManager.receive packet with
          | .emits signal => (net.popped socketId rest).clientStep libraries socketId signal.event
          | .silent => some (net.popped socketId rest)
          | .faults => none

def machine (libraries : SocketId → RtcLibrary) : Machine Network NetworkEvent where
  initial net := net = empty
  step := step libraries

/-- The signal that the first packet for a client makes its `SignalManager` emit. -/
def arriving (net : Network) (socketId : SocketId) : Option SignalManager.Signal :=
  (net.toClient socketId).head?.bind fun packet =>
    match SignalManager.receive packet with
    | .emits signal => some signal
    | _ => none

/-- The event that one client sees in a step of the network, after it has joined. -/
def clientEvent (net : Network) : NetworkEvent → Option (SocketId × Event)
  | .join _ _ _ => none
  | .act socketId event => some (socketId, event)
  | .serve _ => none
  | .deliver socketId => (net.arriving socketId).map fun signal => (socketId, signal.event)

variable {libraries : SocketId → RtcLibrary} {net next : Network}

/-- A client joins as a fresh connection with a registration to send. -/
theorem join_cases {socketId : SocketId} {name : String} {wild : Bool}
    (ran : net.step libraries (.join socketId name wild) = some next) :
    net.MayJoin name ∧ socketId ∉ net.hub.issued ∧
      next = (net.enter { net.hub with
          connected := socketId :: net.hub.connected
          history := net.hub.history ++ [.connect socketId] } socketId name wild).advance socketId
        ((WebRTC.initial wild).registerName name) := by
  obtain ⟨allowed, joined⟩ := Option.ite_none_right_eq_some.mp ran
  obtain ⟨result, connected, registered⟩ := Option.bind_eq_some_iff.mp joined
  simp only [Hub.process, Option.ite_none_left_eq_some, Option.some.injEq] at connected
  obtain ⟨fresh, rfl⟩ := connected
  refine ⟨allowed, fresh, ?_⟩
  simp only [clientStep, enter, Function.update_self, WebRTC.step, Option.map_some,
    Option.some.injEq] at registered
  rw [← registered]
  rfl

theorem act_cases {socketId : SocketId} {event : Event}
    (ran : net.step libraries (.act socketId event) = some next) :
    socketId ∈ net.hub.connected ∧ event.isLocal = true ∧
      ∃ after, (net.clients socketId).step (libraries socketId) event = some after ∧
        next = net.advance socketId after := by
  obtain ⟨⟨inside, isLocal⟩, acted⟩ := Option.ite_none_right_eq_some.mp ran
  obtain ⟨after, stepped, made⟩ := Option.map_eq_some_iff.mp acted
  exact ⟨inside, isLocal, after, stepped, made.symm⟩

theorem serve_cases {socketId : SocketId}
    (ran : net.step libraries (.serve socketId) = some next) :
    ∃ emission rest result, net.toServer socketId = emission :: rest ∧
      net.hub.process (.packet socketId emission.packet) = some result ∧
      next = net.served socketId rest result := by
  simp only [step] at ran
  split at ran
  · cases ran
  · next emission rest waiting =>
      obtain ⟨result, processed, made⟩ := Option.map_eq_some_iff.mp ran
      exact ⟨emission, rest, result, waiting, processed, made.symm⟩

/-- A delivered packet runs a slot or is ignored. -/
theorem deliver_cases {socketId : SocketId}
    (ran : net.step libraries (.deliver socketId) = some next) :
    ∃ packet rest, net.toClient socketId = packet :: rest ∧
      ((∃ signal after, SignalManager.receive packet = .emits signal ∧
          net.arriving socketId = some signal ∧
          (net.clients socketId).step (libraries socketId) signal.event = some after ∧
          next = (net.popped socketId rest).advance socketId after) ∨
        (SignalManager.receive packet = .silent ∧ next = net.popped socketId rest)) := by
  simp only [step] at ran
  split at ran
  · cases ran
  · next packet rest waiting =>
      refine ⟨packet, rest, waiting, ?_⟩
      split at ran
      · next signal received =>
          obtain ⟨after, stepped, made⟩ := Option.map_eq_some_iff.mp ran
          exact .inl ⟨signal, after, received, by simp [arriving, waiting, received], stepped,
            made.symm⟩
      · next received => exact .inr ⟨received, (Option.some.inj ran).symm⟩
      · cases ran

theorem advance_toServer (net : Network) (socketId : SocketId) (next : WebRTC) :
    (net.advance socketId next).toServer = Function.update net.toServer socketId
      (net.toServer socketId ++ (net.clients socketId).emits next) := rfl

theorem popped_toClient (net : Network) (socketId : SocketId) (rest : List Packet) :
    (net.popped socketId rest).toClient = Function.update net.toClient socketId rest := rfl

theorem served_toServer (net : Network) (socketId : SocketId) (rest : List Emission)
    (result : Hub × List (SocketId × Packet)) :
    (net.served socketId rest result).toServer = Function.update net.toServer socketId rest := rfl

/-- The server only shortens a queue. -/
theorem served_queue {net : Network} {socketId : SocketId} {emission : Emission}
    {rest : List Emission} (waiting : net.toServer socketId = emission :: rest)
    (result : Hub × List (SocketId × Packet)) (other : SocketId) :
    ((net.served socketId rest result).toServer other).Sublist (net.toServer other) := by
  rw [served_toServer]
  by_cases same : other = socketId
  · subst same
    rw [Function.update_self, waiting]
    exact List.sublist_cons_self _ _
  · rw [Function.update_of_ne same]

theorem enter_toServer (net : Network) (hub : Hub) (socketId : SocketId) (name : String)
    (wild : Bool) : (net.enter hub socketId name wild).toServer = net.toServer := rfl

theorem enter_clients_self (net : Network) (hub : Hub) (socketId : SocketId) (name : String)
    (wild : Bool) : (net.enter hub socketId name wild).clients socketId = .initial wild :=
  Function.update_self _ _ _

@[simp] theorem advance_clients_self (net : Network) (socketId : SocketId) (next : WebRTC) :
    (net.advance socketId next).clients socketId = next := Function.update_self _ _ _

theorem advance_clients_other {socketId other : SocketId} (different : other ≠ socketId)
    (next : WebRTC) : (net.advance socketId next).clients other = net.clients other :=
  Function.update_of_ne different _ _

/-- A step of the network is a step of one client, or a client joins, or no client moves. -/
theorem step_clients {event : NetworkEvent} (ran : net.step libraries event = some next) :
    (∃ socketId own after, net.clientEvent event = some (socketId, own) ∧
        (net.clients socketId).step (libraries socketId) own = some after ∧
        next.hub.connected = net.hub.connected ∧
        next.clients = Function.update net.clients socketId after) ∨
      (∃ socketId name wild, event = .join socketId name wild ∧
        next.hub.connected = socketId :: net.hub.connected ∧
        next.clients =
          Function.update net.clients socketId ((WebRTC.initial wild).registerName name)) ∨
      (next.hub.connected = net.hub.connected ∧ next.clients = net.clients) := by
  cases event with
  | join socketId name wild =>
      obtain ⟨_, _, made⟩ := join_cases ran
      refine .inr (.inl ⟨socketId, name, wild, rfl, ?_, ?_⟩)
      · rw [made]
        rfl
      · rw [made, advance, enter]
        exact Function.update_idem _ _ _
  | act socketId own =>
      obtain ⟨_, _, after, stepped, made⟩ := act_cases ran
      exact .inl ⟨socketId, own, after, rfl, stepped, by rw [made]; rfl, by rw [made]; rfl⟩
  | serve socketId =>
      obtain ⟨emission, rest, result, _, processed, made⟩ := serve_cases ran
      obtain ⟨_, _, sameSockets, _⟩ := Hub.step_cases (Hub.step_of_process processed)
      exact .inr (.inr ⟨by rw [made]; exact sameSockets, by rw [made]; rfl⟩)
  | deliver socketId =>
      obtain ⟨packet, rest, _, ⟨signal, after, _, arrives, stepped, made⟩ | ⟨_, made⟩⟩ :=
        deliver_cases ran
      · refine .inl ⟨socketId, signal.event, after, ?_, stepped, by rw [made]; rfl,
          by rw [made]; rfl⟩
        rw [clientEvent, arrives, Option.map_some]
      · exact .inr (.inr ⟨by rw [made]; rfl, by rw [made]; rfl⟩)

/-- A guard of the clients is a guard of the network. -/
def Lifted (allowed : SocketId → WebRTC → Event → Prop) (net : Network) (event : NetworkEvent) :
    Prop :=
  ∀ moved ∈ net.clientEvent event, allowed moved.1 (net.clients moved.1) moved.2

/-- Every client of a guarded run of the network is on a guarded run of its own. -/
theorem client_reachableUnder {allowed : SocketId → WebRTC → Event → Prop}
    (registers : ∀ socketId wild name, allowed socketId (.initial wild) (.registerName name))
    (reached : (machine libraries).ReachableUnder (Lifted allowed) net) :
    ∀ socketId ∈ net.hub.connected,
      (WebRTC.machine (libraries socketId)).ReachableUnder (allowed socketId)
        (net.clients socketId) := by
  induction reached with
  | initial start =>
      subst start
      intro socketId inside
      cases inside
  | @step before after event _ meets ran ih =>
      intro socketId inside
      rcases step_clients ran with ⟨mover, own, moved, seen, stepped, sockets, clients⟩ |
        ⟨newcomer, name, wild, _, sockets, clients⟩ | ⟨sockets, clients⟩
      · rw [sockets] at inside
        rw [clients]
        by_cases own : socketId = mover
        · subst own
          rw [Function.update_self]
          exact .step (ih socketId inside) (meets _ seen) stepped
        · rw [Function.update_of_ne own]
          exact ih socketId inside
      · rw [sockets, List.mem_cons] at inside
        rw [clients]
        by_cases new : socketId = newcomer
        · subst new
          rw [Function.update_self]
          exact .step (.initial ⟨wild, rfl⟩) (registers socketId wild name) rfl
        · rw [Function.update_of_ne new]
          exact ih socketId (inside.resolve_left new)
      · rw [sockets] at inside
        rw [clients]
        exact ih socketId inside

end Network
end VoiceCall
