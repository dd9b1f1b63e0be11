import VoiceCall.Signalling.Relay
import VoiceCall.Signalling.SioClient

namespace VoiceCall.Signalling

open Foundation

/-- A link joins one client to the hub over a transport that drops and returns.
The carrier is the connection over which the `register` packet was sent. -/
structure Link where
  sio : SioClient Packet
  hub : Hub
  socketId : Option SocketId
  toServer : List Packet
  called : Bool
  carrier : Option SocketId

/-- The events of a link are those of the application, of the transport and of other sockets. -/
inductive LinkEvent where
  | call
  | send (message : SignalManager.Message) (target : String)
  | opened
  | accepted (socketId : SocketId)
  | acknowledged
  | processed
  | dropped
  | reconnecting
  | other (event : HubEvent)

namespace Link

def initial : Link := ⟨SioClient.connecting, Hub.empty, none, [], false, none⟩

def isRegister (packet : Packet) : Bool := packet.event == "register"

/-- The written packets travel on the present connection. -/
def transmit (link : Link) (written : SioClient Packet × List Packet) : Link where
  sio := written.1
  hub := link.hub
  socketId := link.socketId
  toServer := link.toServer ++ written.2
  called := link.called
  carrier := if written.2.any isRegister then link.socketId else link.carrier

/-- The other sockets connect, send and leave; the server may also notice that this one has left. -/
def foreign (link : Link) : HubEvent → Bool
  | .packet socketId _ => link.socketId ≠ some socketId
  | _ => true

def step (peerId : String) (link : Link) : LinkEvent → Option Link
  | .call =>
      if link.called then none
      else some { link.transmit (link.sio.emit (SignalManager.sendRegister peerId)) with
        called := true }
  | .send message target => some (link.transmit (link.sio.emit (message.send target)))
  | .opened =>
      if link.sio.conState = .opening then some { link with sio := link.sio.onOpen } else none
  | .accepted socketId =>
      if link.sio.conState = .opened ∧ link.socketId = none then
        (link.hub.process (.connect socketId)).map fun result =>
          { link with hub := result.1, socketId := some socketId }
      else none
  | .acknowledged =>
      if link.sio.conState = .opened ∧ link.socketId.isSome then
        some (link.transmit link.sio.onConnected)
      else none
  | .processed =>
      match link.socketId, link.toServer with
      | some socketId, packet :: rest =>
          (link.hub.process (.packet socketId packet)).map fun result =>
            { link with hub := result.1, toServer := rest }
      | _, _ => none
  | .dropped => some { link with sio := link.sio.onClose, socketId := none, toServer := [] }
  | .reconnecting => some { link with sio := link.sio.timeoutReconnect }
  | .other event =>
      if link.foreign event then
        (link.hub.process event).map fun result => { link with hub := result.1 }
      else none

/-- The machine of a client that registers under one name. -/
def machine (peerId : String) : Machine Link LinkEvent where
  initial link := link = initial
  step := step peerId

/-- The invariant follows the `register` packet from the queue to the tables. -/
structure Tracked (peerId : String) (link : Link) : Prop where
  consistent : link.hub.Consistent
  connectedOpen : link.sio.connected = true →
    link.sio.conState = .opened ∧ link.socketId.isSome ∧ link.sio.packetQueue = []
  queued : ∀ packet ∈ link.sio.packetQueue, isRegister packet = true →
    packet = SignalManager.sendRegister peerId
  flying : ∀ packet ∈ link.toServer, isRegister packet = true →
    packet = SignalManager.sendRegister peerId ∧ link.carrier = link.socketId
  grounded : link.socketId = none → link.toServer = []
  carrierIssued : ∀ socketId, link.carrier = some socketId → socketId ∈ link.hub.issued
  currentIssued : ∀ socketId, link.socketId = some socketId → socketId ∈ link.hub.issued
  carried : ∀ socketId, link.socketId = some socketId → link.carrier = some socketId →
    SignalManager.sendRegister peerId ∈ link.toServer ∨
      link.hub.registeredName socketId = some peerId
  uncarried : ∀ socketId, link.socketId = some socketId → link.carrier ≠ some socketId →
    link.hub.registeredName socketId = none

variable {peerId : String} {link : Link}

theorem tracked_initial : Tracked peerId initial := by
  constructor <;> simp [initial, SioClient.connecting, Hub.consistent_empty]

theorem isRegister_send (message : SignalManager.Message) (target : String) :
    isRegister (message.send target) = false := by
  cases message <;> rfl

/-- A `register` packet in flight is the one packet of the call. -/
theorem sendRegister_mem_of_any {packets : List Packet}
    (only : ∀ packet ∈ packets, isRegister packet = true →
      packet = SignalManager.sendRegister peerId)
    (some : packets.any isRegister = true) : SignalManager.sendRegister peerId ∈ packets := by
  obtain ⟨packet, member, register⟩ := List.any_eq_true.mp some
  rwa [← only packet member register]

/-- Written packets keep the invariant when the client wrote no foreign `register`. -/
theorem Tracked.transmit (tracked : Tracked peerId link) {written : SioClient Packet × List Packet}
    (connectedOpen : written.1.connected = true →
      written.1.conState = .opened ∧ link.socketId.isSome ∧ written.1.packetQueue = [])
    (queued : ∀ packet ∈ written.1.packetQueue, isRegister packet = true →
      packet = SignalManager.sendRegister peerId)
    (sent : ∀ packet ∈ written.2, isRegister packet = true →
      packet = SignalManager.sendRegister peerId)
    (grounded : link.socketId = none → written.2 = []) :
    Tracked peerId (link.transmit written) := by
  refine ⟨tracked.consistent, connectedOpen, queued, ?_, ?_, ?_, tracked.currentIssued, ?_, ?_⟩
  · intro packet member register
    simp only [Link.transmit, List.mem_append] at member ⊢
    rcases member with old | new
    · obtain ⟨same, carried⟩ := tracked.flying packet old register
      refine ⟨same, ?_⟩
      split
      · rfl
      · exact carried
    · exact ⟨sent packet new register,
        if_pos (List.any_eq_true.mpr ⟨packet, new, register⟩)⟩
  · intro closed
    simp only [Link.transmit, tracked.grounded closed, grounded closed, List.append_nil]
  · intro socketId carrier
    simp only [Link.transmit] at carrier
    split at carrier
    · exact tracked.currentIssued socketId carrier
    · exact tracked.carrierIssued socketId carrier
  · intro socketId current carrier
    simp only [Link.transmit, List.mem_append] at carrier ⊢
    split at carrier
    · next wrote => exact .inl (.inr (sendRegister_mem_of_any sent wrote))
    · exact (tracked.carried socketId current carrier).imp_left .inl
  · intro socketId current carrier
    simp only [Link.transmit] at carrier
    split at carrier
    · exact absurd current carrier
    · exact tracked.uncarried socketId current carrier

/-- An emission keeps the invariant, queued or written. -/
theorem Tracked.emit (tracked : Tracked peerId link) {packet : Packet}
    (only : isRegister packet = true → packet = SignalManager.sendRegister peerId) :
    Tracked peerId (link.transmit (link.sio.emit packet)) := by
  by_cases connected : link.sio.connected = true
  · obtain ⟨isOpen, hasSocket, idle⟩ := tracked.connectedOpen connected
    have emitted : link.sio.emit packet = ({ link.sio with packetQueue := [] }, [packet]) := by
      simp [SioClient.emit, connected, SioClient.sendImpl, isOpen, idle]
    rw [emitted]
    refine tracked.transmit (fun _ => ⟨isOpen, hasSocket, rfl⟩) (by simp) ?_ ?_
    · intro other member
      rw [List.mem_singleton.mp member]
      exact only
    · intro closed
      simp [closed] at hasSocket
  · have emitted : link.sio.emit packet =
        ({ link.sio with packetQueue := link.sio.packetQueue ++ [packet] }, []) := by
      simp [SioClient.emit, connected]
    rw [emitted]
    refine tracked.transmit (fun wasConnected => absurd wasConnected connected) ?_ (by simp)
      fun _ => rfl
    intro other member
    rcases List.mem_append.mp member with old | new
    · exact tracked.queued other old
    · rw [List.mem_singleton.mp new]
      exact only

/-- The acknowledgement writes the queue on the present connection. -/
theorem Tracked.acknowledge (tracked : Tracked peerId link)
    (isOpen : link.sio.conState = .opened) (hasSocket : link.socketId.isSome) :
    Tracked peerId (link.transmit link.sio.onConnected) := by
  by_cases connected : link.sio.connected = true
  · have acknowledged : link.sio.onConnected = (link.sio, []) := by
      simp [SioClient.onConnected, connected]
    rw [acknowledged]
    exact tracked.transmit tracked.connectedOpen tracked.queued (by simp) fun _ => rfl
  · have acknowledged : link.sio.onConnected =
        ({ link.sio with connected := true, packetQueue := [] }, link.sio.packetQueue) := by
      simp [SioClient.onConnected, connected, SioClient.sendImpl, isOpen]
    rw [acknowledged]
    refine tracked.transmit (fun _ => ⟨isOpen, hasSocket, rfl⟩) (by simp) tracked.queued ?_
    intro closed
    simp [closed] at hasSocket

/-- An event of another socket leaves the registered name of this one. -/
theorem registeredName_foreign {hub next : Hub} {event : HubEvent} {socketId : SocketId}
    (taken : Hub.machine.step hub event = some next)
    (other : ∀ packet, event ≠ .packet socketId packet) :
    next.registeredName socketId = hub.registeredName socketId := by
  rw [Hub.registeredName_append (Hub.step_cases taken).1]
  cases event with
  | connect _ => rfl
  | disconnect _ => rfl
  | packet sender packet =>
      have different : sender ≠ socketId := fun same => other packet (by rw [same])
      cases accepted : registrationName packet <;> simp [registration, accepted, different]

theorem issued_mono {hub next : Hub} {event : HubEvent}
    (taken : Hub.machine.step hub event = some next) {socketId : SocketId}
    (old : socketId ∈ hub.issued) : socketId ∈ next.issued := by
  rw [Hub.issued_append (Hub.step_cases taken).1]
  exact List.mem_append_left _ old

/-- A hub event that is not a packet of this client keeps the invariant. -/
theorem Tracked.foreign (tracked : Tracked peerId link) {event : HubEvent} {next : Hub}
    (taken : Hub.machine.step link.hub event = some next)
    (other : ∀ socketId, link.socketId = some socketId →
      ∀ packet, event ≠ .packet socketId packet) :
    Tracked peerId { link with hub := next } := by
  refine ⟨tracked.consistent.step taken, tracked.connectedOpen, tracked.queued, tracked.flying,
    tracked.grounded,
    fun socketId carrier => issued_mono taken (tracked.carrierIssued socketId carrier),
    fun socketId current => issued_mono taken (tracked.currentIssued socketId current), ?_, ?_⟩
  · intro socketId current carrier
    exact (tracked.carried socketId current carrier).imp_right fun named =>
      (registeredName_foreign taken (other socketId current)).trans named
  · intro socketId current carrier
    exact (registeredName_foreign taken (other socketId current)).trans
      (tracked.uncarried socketId current carrier)

/-- A new connection starts without a name and without the `register` packet. -/
theorem Tracked.accept (tracked : Tracked peerId link) {socketId : SocketId} {next : Hub}
    (closed : link.socketId = none)
    (taken : Hub.machine.step link.hub (.connect socketId) = some next) :
    Tracked peerId { link with hub := next, socketId := some socketId } := by
  obtain ⟨grown, fresh, _, _⟩ := Hub.step_cases taken
  have uncarriedFresh : link.carrier ≠ some socketId := fun carrier =>
    fresh (tracked.carrierIssued socketId carrier)
  refine ⟨tracked.consistent.step taken, ?_, tracked.queued, ?_, by simp,
    fun other carrier => issued_mono taken (tracked.carrierIssued other carrier), ?_, ?_, ?_⟩
  · intro connected
    have hasSocket := (tracked.connectedOpen connected).2.1
    rw [closed] at hasSocket
    cases hasSocket
  · intro packet member register
    rw [tracked.grounded closed] at member
    exact absurd member List.not_mem_nil
  · intro other current
    cases current
    rw [Hub.issued_append grown]
    exact List.mem_append_right _ (by simp [HubEvent.issue])
  · intro other current carrier
    cases current
    exact absurd carrier uncarriedFresh
  · intro other current _
    cases current
    rw [registeredName_foreign taken (by simp)]
    exact tracked.consistent.registeredName_fresh fresh

/-- The server registers the one `register` packet and ignores the names in any other. -/
theorem Tracked.process (tracked : Tracked peerId link)
    (notBlank : JsValue.trimmed peerId ≠ "") {socketId : SocketId} {packet : Packet}
    {rest : List Packet} {next : Hub} (current : link.socketId = some socketId)
    (head : link.toServer = packet :: rest)
    (taken : Hub.machine.step link.hub (.packet socketId packet) = some next) :
    Tracked peerId { link with hub := next, toServer := rest } := by
  have inFlight : packet ∈ link.toServer := by simp [head]
  have grown := (Hub.step_cases taken).1
  have named : next.registeredName socketId =
      if isRegister packet = true then some peerId else link.hub.registeredName socketId := by
    rw [Hub.registeredName_append grown]
    by_cases register : isRegister packet = true
    · rw [(tracked.flying packet inFlight register).1]
      simp [registration, registrationName, SignalManager.sendRegister, Packet.arg, notBlank,
        isRegister]
    · have noName : registrationName packet = none := by
        rw [registrationName, if_neg]
        simpa [isRegister] using register
      simp [registration, noName, register]
  refine ⟨tracked.consistent.step taken, tracked.connectedOpen, tracked.queued, ?_, ?_,
    fun other carrier => issued_mono taken (tracked.carrierIssued other carrier),
    fun other now => issued_mono taken (tracked.currentIssued other now), ?_, ?_⟩
  · intro other member
    exact tracked.flying other (by simp [head, member])
  · intro closed
    rw [current] at closed
    cases closed
  · intro other now carrier
    cases current.symm.trans now
    rw [named]
    by_cases register : isRegister packet = true
    · exact .inr (if_pos register)
    · rw [if_neg register]
      refine (tracked.carried socketId current carrier).imp_left fun member => ?_
      rcases List.mem_cons.mp (head ▸ member) with same | inRest
      · exact absurd (by rw [← same]; rfl) register
      · exact inRest
  · intro other now carrier
    cases current.symm.trans now
    have notRegister : ¬isRegister packet = true := fun register =>
      carrier ((tracked.flying packet inFlight register).2.trans current)
    rw [named, if_neg notRegister]
    exact tracked.uncarried socketId current carrier

/-- A drop loses what is in flight and keeps what was never sent. -/
theorem Tracked.drop (tracked : Tracked peerId link) :
    Tracked peerId { link with sio := link.sio.onClose, socketId := none, toServer := [] } := by
  refine ⟨tracked.consistent, ?_, ?_, by simp, by simp, tracked.carrierIssued, by simp, by simp,
    by simp⟩
  · intro connected
    simp at connected
  · intro packet member
    exact tracked.queued packet (SioClient.mem_onClose_queue member)

/-- Every step of the link keeps the invariant. -/
theorem Tracked.step (tracked : Tracked peerId link) (notBlank : JsValue.trimmed peerId ≠ "")
    {event : LinkEvent} {next : Link} (taken : Link.step peerId link event = some next) :
    Tracked peerId next := by
  cases event with
  | call =>
      simp only [Link.step] at taken
      split at taken
      · cases taken
      · cases taken
        have emitted : Tracked peerId
            (link.transmit (link.sio.emit (SignalManager.sendRegister peerId))) :=
          tracked.emit fun _ => rfl
        exact ⟨emitted.consistent, emitted.connectedOpen, emitted.queued, emitted.flying,
          emitted.grounded, emitted.carrierIssued, emitted.currentIssued, emitted.carried,
          emitted.uncarried⟩
  | send message target =>
      cases taken
      refine tracked.emit fun register => ?_
      rw [isRegister_send] at register
      cases register
  | opened =>
      simp only [Link.step] at taken
      split at taken
      · cases taken
        refine { tracked with connectedOpen := fun connected => ?_, queued := tracked.queued }
        exact ⟨rfl, (tracked.connectedOpen connected).2⟩
      · cases taken
  | accepted socketId =>
      simp only [Link.step] at taken
      split at taken
      · next ready =>
          obtain ⟨result, processed, rfl⟩ := Option.map_eq_some_iff.mp taken
          exact tracked.accept ready.2 (Hub.step_of_process processed)
      · cases taken
  | acknowledged =>
      simp only [Link.step] at taken
      split at taken
      · next ready =>
          cases taken
          exact tracked.acknowledge ready.1 ready.2
      · cases taken
  | processed =>
      simp only [Link.step] at taken
      split at taken
      · next current head =>
          obtain ⟨result, processed, rfl⟩ := Option.map_eq_some_iff.mp taken
          exact tracked.process notBlank current head (Hub.step_of_process processed)
      · cases taken
  | dropped =>
      cases taken
      exact tracked.drop
  | reconnecting =>
      cases taken
      by_cases closed : link.sio.conState = .closed
      · refine { tracked with connectedOpen := fun connected => ?_, queued := fun packet => ?_ }
        · have same : link.sio.timeoutReconnect.connected = link.sio.connected := by
            simp [SioClient.timeoutReconnect, closed]
          have isOpen := (tracked.connectedOpen (same ▸ connected)).1
          rw [closed] at isOpen
          cases isOpen
        · simpa [SioClient.timeoutReconnect, closed] using tracked.queued packet
      · simpa [SioClient.timeoutReconnect, closed] using tracked
  | other event =>
      simp only [Link.step] at taken
      split at taken
      · next isForeign =>
          obtain ⟨result, processed, rfl⟩ := Option.map_eq_some_iff.mp taken
          refine tracked.foreign (Hub.step_of_process processed) ?_
          rintro socketId current packet rfl
          simp [Link.foreign, current] at isForeign
      · cases taken

/-- The invariant holds in every reachable link. -/
theorem tracked_of_reachable (notBlank : JsValue.trimmed peerId ≠ "")
    (reached : (machine peerId).Reachable link) : Tracked peerId link :=
  reached.invariant (fun _ start => start ▸ tracked_initial)
    fun _ _ _ tracked _ taken => tracked.step notBlank taken

/-- The client is connected on both ends under one identifier and has nothing in flight. -/
def Settled (link : Link) (socketId : SocketId) : Prop :=
  link.called = true ∧ link.sio.connected = true ∧ link.socketId = some socketId ∧
    socketId ∈ link.hub.connected ∧ link.toServer = []

/-- The tables of the server name the client's present socket. -/
def Registered (peerId : String) (link : Link) (socketId : SocketId) : Prop :=
  link.hub.server.peerIds.get peerId = some socketId ∧
    link.hub.server.peerNames.get socketId.val = some peerId

/-- The registration lasts exactly as long as the connection that carried it.
While it lasts, messages to the name arrive; after a reconnection the client has no name. -/
theorem registered_while_carrier_lasts (peerId : String)
    (notBlank : JsValue.trimmed peerId ≠ "") (link : Link)
    (reached : (machine peerId).Reachable link) (socketId : SocketId)
    (settled : link.Settled socketId) :
    (link.carrier = some socketId → link.hub.lastRegistrant peerId = link.carrier →
      Registered peerId link socketId ∧
      link.hub.server.fromPeerName socketId = .string peerId ∧
      ∀ sender ∈ link.hub.connected, ∀ message : SignalManager.Message, ∃ next,
        link.hub.process (.packet sender (message.send peerId)) =
          some (next, [(socketId, link.hub.server.forwarded sender (message.send peerId))])) ∧
    (link.carrier ≠ some socketId →
      link.hub.server.peerIds.get peerId ≠ some socketId ∧
      link.hub.server.fromPeerName socketId = .undefined) := by
  obtain ⟨_, _, current, inside, idle⟩ := settled
  have tracked := tracked_of_reachable notBlank reached
  have named := tracked.consistent.named socketId inside
  refine ⟨?_, ?_⟩
  · intro carried last
    have registered : link.hub.registeredName socketId = some peerId := by
      rcases tracked.carried socketId current carried with flying | registered
      · rw [idle] at flying
        exact absurd flying List.not_mem_nil
      · exact registered
    have stored := named.trans registered
    have routed := tracked.consistent.kept peerId socketId (last.trans carried) inside
    refine ⟨⟨routed, stored⟩, by rw [Server.fromPeerName, stored], ?_⟩
    intro sender senderInside message
    have processed := Hub.process_addressed senderInside (message.send_addressed peerId)
    rw [routed, Option.map_some, tracked.consistent.emit_connected inside] at processed
    exact ⟨_, processed⟩
  · intro uncarried
    have unnamed := tracked.uncarried socketId current uncarried
    refine ⟨?_, by rw [Server.fromPeerName, named.trans unnamed]⟩
    intro routed
    exact Hub.not_mem_registrations_of_registeredName unnamed peerId
      (tracked.consistent.claimed _ _ (tracked.consistent.routed _ _ routed))

/-- A client calls, connects and registers. -/
def registerRun : List LinkEvent :=
  [.call, .opened, .accepted Hub.firstSocket, .acknowledged, .processed]

theorem registered_while_carrier_lasts_registerRun :
    ∃ link, (machine "alice").Reachable link ∧ Registered "alice" link Hub.firstSocket := by
  obtain ⟨link, reached, checked⟩ := Machine.reachable_of_exec (machine "alice") rfl
    registerRun
    (fun link => (link.called = true ∧ link.sio.connected = true ∧
        link.socketId = some Hub.firstSocket ∧ Hub.firstSocket ∈ link.hub.connected ∧
        link.toServer.isEmpty = true) ∧ link.carrier = some Hub.firstSocket ∧
      link.hub.lastRegistrant "alice" = link.carrier)
    (by decide)
  obtain ⟨⟨called, connected, current, inside, idle⟩, carried, last⟩ := of_decide_eq_true checked
  exact ⟨link, reached, ((registered_while_carrier_lasts "alice" (by decide) link reached
    Hub.firstSocket ⟨called, connected, current, inside, List.isEmpty_iff.mp idle⟩).1
      carried last).1⟩

/-- The transport drops once and returns under a new identifier. -/
def reconnectRun : List LinkEvent :=
  registerRun ++ [.dropped, .other (.disconnect Hub.firstSocket), .reconnecting, .opened,
    .accepted Hub.secondSocket, .acknowledged]

/-- A reconnected client has no name, though no other socket ever registered. -/
theorem registration_lost_on_reconnect :
    ¬ ∀ link, (machine "alice").Reachable link → ∀ socketId, link.Settled socketId →
      link.hub.lastRegistrant "alice" = link.carrier → Registered "alice" link socketId := by
  intro claim
  obtain ⟨link, reached, checked⟩ := Machine.reachable_of_exec (machine "alice") rfl
    reconnectRun
    (fun link => (link.called = true ∧ link.sio.connected = true ∧
        link.socketId = some Hub.secondSocket ∧ Hub.secondSocket ∈ link.hub.connected ∧
        link.toServer.isEmpty = true) ∧ link.hub.lastRegistrant "alice" = link.carrier ∧
      link.hub.server.peerIds.get "alice" = none)
    (by decide)
  obtain ⟨⟨called, connected, current, inside, idle⟩, last, unrouted⟩ := of_decide_eq_true checked
  have registered := claim link reached Hub.secondSocket
    ⟨called, connected, current, inside, List.isEmpty_iff.mp idle⟩ last
  have routed := registered.1
  rw [unrouted] at routed
  cases routed

end Link
end VoiceCall.Signalling
