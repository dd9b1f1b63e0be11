import VoiceCall.Client.Reports
import VoiceCall.Network.Network

namespace VoiceCall

open Foundation Signalling Client

theorem Client.Observation.Silent.emission {observation : Observation}
    (silent : observation.Silent) : observation.emission = none := by
  cases observation with
  | offerIsReady _ _ _ | answerIsReady _ _ _ | callRejected _ _ | connectToSignalingServer _ =>
      cases silent
  | _ => rfl

namespace Client.WebRTC

variable {library : RtcLibrary} {webRtc next : WebRTC}

theorem emits_self (webRtc : WebRTC) : webRtc.emits webRtc = [] := by
  simp [emits, since]

theorem emits_of_log {added : List Observation} (grown : next.log = webRtc.log ++ added) :
    webRtc.emits next = added.filterMap Observation.emission := by
  rw [emits, since_of_log grown]

/-- A description and a rejection are the messages that a step may emit. -/
theorem emits_cases {event : Event} (taken : webRtc.step library event = some next) :
    webRtc.emits next = [] ∨
      (∃ id, ∃ description : Description, event = .gatheringComplete id ∧
        webRtc.Announces id description.type ∧ webRtc.emits next = [.relay
          (if webRtc.isOfferer then .offer description.sdp else .answer description.sdp)
          (webRtc.connections id).peerId]) ∨
      (∃ name, event = .rejectCall name ∧ webRtc.emits next = [.relay .reject name]) ∨
      ∃ name, event = .registerName name ∧ webRtc.emits next = [.register name] := by
  obtain ⟨added, grown, logs⟩ := step_logs taken
  rw [emits_of_log grown]
  have quiet (silent : ∀ observation ∈ added, observation.Silent) :
      added.filterMap Observation.emission = [] :=
    List.filterMap_eq_nil_iff.mpr fun observation member => (silent observation member).emission
  cases event with
  | startCall _ | endCall _ | rejectedReceived _ =>
      cases logs
      exact .inl rfl
  | registerName name =>
      cases logs
      exact .inr (.inr (.inr ⟨name, rfl, rfl⟩))
  | acceptCall _ => exact .inl (quiet logs.1)
  | rejectCall name =>
      cases logs
      exact .inr (.inr (.inl ⟨name, rfl, rfl⟩))
  | offerReceived _ _ | setRemoteCandidate _ | dataReady _ _ _ | stateChanged _ _ | remoteTrack _
  | message _ _ => exact .inl (quiet logs)
  | answerReceived _ _ =>
      refine .inl (List.filterMap_eq_nil_iff.mpr fun observation member => ?_)
      rcases logs observation member with silent | accepted
      · exact silent.emission
      · rw [accepted]
        rfl
  | gatheringComplete id =>
      rcases logs with none | ⟨description, source, announces, sent⟩
      · exact .inl (by rw [none]; rfl)
      · refine .inr (.inl ⟨id, description, rfl, announces, ?_⟩)
        rw [sent]
        cases webRtc.isOfferer with
        | true => rfl
        | false => rfl
  | runQueued _ _ =>
      rcases logs with silent | ⟨id, _, ended⟩
      · exact .inl (quiet silent)
      · rw [ended]
        exact .inl rfl

end Client.WebRTC

/-- An accepted registration of a connected socket emits nothing. -/
theorem Signalling.Hub.process_register {hub : Hub} {socketId : SocketId} {name : String}
    (inside : socketId ∈ hub.connected) (nonblank : JsValue.trimmed name ≠ "") :
    hub.process (.packet socketId (SignalManager.sendRegister name)) =
      some ({ hub with
        server := hub.server.registered socketId name
        history := hub.history ++ [.packet socketId (SignalManager.sendRegister name)] }, []) := by
  have nonempty : name ≠ "" := by
    rintro rfl
    exact nonblank (by decide)
  have handled : hub.server.handle socketId (SignalManager.sendRegister name) =
      .ok (hub.server.registered socketId name, none) := by
    simp [SignalManager.sendRegister, Server.handle, Server.register, Packet.arg, JsValue.truthy,
      JsValue.trim, Except.bind, Except.map, nonempty, nonblank, Server.registered]
  simp only [process, inside, if_true, handled, emit]

namespace Network

variable {libraries : SocketId → RtcLibrary} {net next : Network}

/-- Routes and names lead to the clients that chose them, every client registers before it sends,
and every packet for a client brings a message under the name of its sender. -/
structure Wired (net : Network) : Prop where
  hub : Hub.machine.Reachable net.hub
  outside : ∀ socketId, socketId ∉ net.hub.connected →
    net.toServer socketId = [] ∧ net.toClient socketId = []
  distinct : ∀ first ∈ net.hub.connected, ∀ second ∈ net.hub.connected,
    net.localId first = net.localId second → first = second
  nonblank : ∀ socketId ∈ net.hub.connected, JsValue.trimmed (net.localId socketId) ≠ ""
  routed : ∀ name socketId, net.hub.server.peerIds.get name = some socketId →
    socketId ∈ net.hub.connected ∧ net.localId socketId = name
  registers : ∀ socketId name, .register name ∈ net.toServer socketId →
    name = net.localId socketId
  named : ∀ socketId ∈ net.hub.connected,
    net.hub.server.peerNames.get socketId.val = some (net.localId socketId) ∨
      (net.toServer socketId).head? = some (.register (net.localId socketId))
  relayed : ∀ socketId, ∀ packet ∈ net.toClient socketId, ∃ sender ∈ net.hub.connected,
    ∃ message : SignalManager.Message,
      SignalManager.receive packet = .emits (message.signal (net.localId sender))

/-- A new client has its registration to send, and everything else stays. -/
structure Joins (net next : Network) (newcomer : SocketId) (name : String) (wild : Bool) :
    Prop where
  out : newcomer ∉ net.hub.connected
  unused : ∀ other ∈ net.hub.connected, net.localId other ≠ name
  hub : Hub.machine.step net.hub (.connect newcomer) = some next.hub
  sockets : ∀ other, other ∈ next.hub.connected ↔ other = newcomer ∨ other ∈ net.hub.connected
  ownName : next.localId newcomer = name
  names : ∀ other, other ≠ newcomer → next.localId other = net.localId other
  ownClient : next.clients newcomer = (WebRTC.initial wild).registerName name
  clients : ∀ other, other ≠ newcomer → next.clients other = net.clients other
  ownQueue : next.toServer newcomer = [.register name]
  queues : ∀ other, other ≠ newcomer → next.toServer other = net.toServer other
  noPackets : net.toClient newcomer = []
  toClient : next.toClient = net.toClient

theorem Joins.older {newcomer : SocketId} {name : String} {wild : Bool}
    (joins : net.Joins next newcomer name wild) {other : SocketId}
    (inside : other ∈ net.hub.connected) : other ≠ newcomer := by
  rintro rfl
  exact joins.out inside

namespace Wired

theorem empty : Network.empty.Wired where
  hub := .initial rfl
  outside _ _ := ⟨rfl, rfl⟩
  distinct _ inside := by cases inside
  nonblank _ inside := by cases inside
  routed _ _ routed := by cases routed
  registers _ _ queued := by cases queued
  named _ inside := by cases inside
  relayed _ _ queued := by cases queued

/-- A client may send messages after its registration. -/
theorem advance (wired : net.Wired) {socketId : SocketId} {after : WebRTC}
    (inside : socketId ∈ net.hub.connected)
    (relays : ∀ name, .register name ∉ (net.clients socketId).emits after) :
    (net.advance socketId after).Wired := by
  refine ⟨wired.hub, ?_, wired.distinct, wired.nonblank, wired.routed, ?_, ?_, wired.relayed⟩
  · intro other out
    have different : other ≠ socketId := by
      rintro rfl
      exact out inside
    rw [advance_toServer, Function.update_of_ne different]
    exact wired.outside other out
  · intro other name queued
    by_cases same : other = socketId
    · subst same
      rw [advance_toServer, Function.update_self, List.mem_append] at queued
      exact wired.registers other name (queued.resolve_right (relays name))
    · rw [advance_toServer, Function.update_of_ne same] at queued
      exact wired.registers other name queued
  · intro other otherInside
    refine (wired.named other otherInside).imp_right fun pending => ?_
    by_cases same : other = socketId
    · subst same
      rw [advance_toServer, Function.update_self, List.head?_append, pending]
      rfl
    · rw [advance_toServer, Function.update_of_ne same]
      exact pending

theorem popped (wired : net.Wired) {socketId : SocketId} {packet : Packet} {rest : List Packet}
    (waiting : net.toClient socketId = packet :: rest) : (net.popped socketId rest).Wired := by
  refine ⟨wired.hub, ?_, wired.distinct, wired.nonblank, wired.routed, wired.registers,
    wired.named, ?_⟩
  · intro other out
    have empty := wired.outside other out
    have different : other ≠ socketId := by
      rintro rfl
      rw [waiting] at empty
      cases empty.2
    rw [popped_toClient, Function.update_of_ne different]
    exact empty
  · intro other queuedPacket queued
    refine wired.relayed other queuedPacket ?_
    by_cases same : other = socketId
    · subst same
      rw [popped_toClient, Function.update_self] at queued
      rw [waiting]
      exact List.mem_cons_of_mem _ queued
    · rwa [popped_toClient, Function.update_of_ne same] at queued

/-- A served registration writes the tables and emits nothing. -/
theorem serve_register (wired : net.Wired) {socketId : SocketId} {name : String}
    {rest : List Emission} {result : Hub × List (SocketId × Packet)}
    (waiting : net.toServer socketId = .register name :: rest)
    (inside : socketId ∈ net.hub.connected)
    (processed : net.hub.process (.packet socketId (SignalManager.sendRegister name)) =
      some result) :
    name = net.localId socketId ∧
      result.1.server = net.hub.server.registered socketId name ∧ result.2 = [] := by
  have own : name = net.localId socketId :=
    wired.registers socketId name (by rw [waiting]; exact List.mem_cons_self)
  have nonblank : JsValue.trimmed name ≠ "" := by
    rw [own]
    exact wired.nonblank socketId inside
  rw [Hub.process_register inside nonblank] at processed
  cases processed
  exact ⟨own, rfl, rfl⟩

/-- A served message reaches the holder of the addressed name under the name of its sender,
or nobody. -/
theorem serve_relay (wired : net.Wired) {socketId : SocketId} {message : SignalManager.Message}
    {target : String} {rest : List Emission} {result : Hub × List (SocketId × Packet)}
    (waiting : net.toServer socketId = .relay message target :: rest)
    (inside : socketId ∈ net.hub.connected)
    (processed : net.hub.process (.packet socketId (message.send target)) = some result) :
    result.1.server = net.hub.server ∧
      (result.2 = [] ∨ ∃ holder ∈ net.hub.connected, ∃ packet, net.localId holder = target ∧
        SignalManager.receive packet = .emits (message.signal (net.localId socketId)) ∧
        result.2 = [(holder, packet)]) := by
  have named : net.hub.server.peerNames.get socketId.val = some (net.localId socketId) := by
    refine (wired.named socketId inside).resolve_right fun pending => ?_
    rw [waiting] at pending
    cases pending
  rw [Hub.process_addressed inside (message.send_addressed target)] at processed
  cases processed
  refine ⟨rfl, ?_⟩
  cases found : net.hub.server.peerIds.get target with
  | none => exact .inl rfl
  | some holder =>
      obtain ⟨present, own⟩ := wired.routed target holder found
      refine .inr ⟨holder, present, _, own, message.receive_forwarded target _ named, ?_⟩
      exact (Hub.consistent_of_reachable wired.hub).emit_connected present _

/-- The packets that a served emission adds for a client come from the connection it served. -/
theorem served_toClient (wired : net.Wired) {socketId : SocketId} {emission : Emission}
    {rest : List Emission} {result : Hub × List (SocketId × Packet)}
    (waiting : net.toServer socketId = emission :: rest) (inside : socketId ∈ net.hub.connected)
    (processed : net.hub.process (.packet socketId emission.packet) = some result)
    {receiver : SocketId} {packet : Packet}
    (queued : packet ∈ (net.served socketId rest result).toClient receiver) :
    packet ∈ net.toClient receiver ∨ receiver ∈ net.hub.connected ∧
      ∃ message : SignalManager.Message,
        SignalManager.receive packet = .emits (message.signal (net.localId socketId)) := by
  refine (List.mem_append.mp queued).imp_right fun new => ?_
  obtain ⟨delivery, member, rfl⟩ := List.mem_map.mp new
  obtain ⟨sent, isReceiver⟩ := List.mem_filter.mp member
  cases emission with
  | register name =>
      rw [(wired.serve_register waiting inside processed).2.2] at sent
      cases sent
  | relay message target =>
      obtain ⟨_, silent | ⟨holder, present, packet, _, received, out⟩⟩ :=
        wired.serve_relay waiting inside processed
      · rw [silent] at sent
        cases sent
      · rw [out, List.mem_singleton] at sent
        subst sent
        rw [← of_decide_eq_true isReceiver]
        exact ⟨present, message, received⟩

/-- After a served emission the tables still lead to the clients that chose the names. -/
theorem served_tables (wired : net.Wired) {socketId : SocketId} {emission : Emission}
    {rest : List Emission} {result : Hub × List (SocketId × Packet)}
    (waiting : net.toServer socketId = emission :: rest) (inside : socketId ∈ net.hub.connected)
    (processed : net.hub.process (.packet socketId emission.packet) = some result) :
    (∀ name holder, result.1.server.peerIds.get name = some holder →
        holder ∈ net.hub.connected ∧ net.localId holder = name) ∧
      result.1.server.peerNames.get socketId.val = some (net.localId socketId) ∧
      ∀ other, other ≠ socketId → result.1.server.peerNames.get other.val =
        net.hub.server.peerNames.get other.val := by
  cases emission with
  | register name =>
      obtain ⟨own, server, _⟩ := wired.serve_register waiting inside processed
      rw [server, Server.registered]
      refine ⟨?_, by rw [JsObject.get_set, if_pos rfl, own], ?_⟩
      · intro query holder routed
        rw [JsObject.get_set] at routed
        split at routed
        · next asked =>
            cases routed
            exact ⟨inside, by rw [asked, own]⟩
        · exact wired.routed query holder routed
      · intro other different
        rw [JsObject.get_set, if_neg fun equal => different (Subtype.ext equal)]
  | relay message target =>
      rw [(wired.serve_relay waiting inside processed).1]
      refine ⟨wired.routed, ?_, fun _ _ => rfl⟩
      refine (wired.named socketId inside).resolve_right fun pending => ?_
      rw [waiting] at pending
      cases pending

/-- The server keeps the wiring: a registration leads to its sender, a message names its sender. -/
theorem serve (wired : net.Wired) {socketId : SocketId}
    (ran : net.step libraries (.serve socketId) = some next) : next.Wired := by
  obtain ⟨emission, rest, result, waiting, processed, made⟩ := serve_cases ran
  have moved := Hub.step_of_process processed
  obtain ⟨_, inside, sockets, _⟩ := Hub.step_cases moved
  have sameSockets : (net.served socketId rest result).hub.connected = net.hub.connected := sockets
  obtain ⟨routes, own, others⟩ := wired.served_tables waiting inside processed
  subst made
  constructor
  · exact .step wired.hub trivial moved
  · rw [sameSockets]
    intro other out
    constructor
    · rw [served_toServer, Function.update_of_ne (by rintro rfl; exact out inside)]
      exact (wired.outside other out).1
    · refine List.eq_nil_iff_forall_not_mem.mpr fun packet queued => ?_
      rcases wired.served_toClient waiting inside processed queued with old | ⟨present, _⟩
      · rw [(wired.outside other out).2] at old
        cases old
      · exact out present
  · rw [sameSockets]
    exact wired.distinct
  · rw [sameSockets]
    exact wired.nonblank
  · rw [sameSockets]
    exact routes
  · intro other name queued
    exact wired.registers other name ((served_queue waiting result other).subset queued)
  · rw [sameSockets]
    intro other otherInside
    by_cases same : other = socketId
    · subst same
      exact .inl own
    · rw [served_toServer, Function.update_of_ne same]
      exact (wired.named other otherInside).imp_left (others other same).trans
  · rw [sameSockets]
    intro other packet queued
    rcases wired.served_toClient waiting inside processed queued with old | ⟨_, message, received⟩
    · exact wired.relayed other packet old
    · exact ⟨socketId, inside, message, received⟩

theorem joins (wired : net.Wired) {newcomer : SocketId} {name : String} {wild : Bool}
    (ran : net.step libraries (.join newcomer name wild) = some next) :
    net.Joins next newcomer name wild := by
  obtain ⟨⟨_, unused⟩, fresh, made⟩ := join_cases ran
  have out : newcomer ∉ net.hub.connected := fun inside =>
    fresh ((Hub.consistent_of_reachable wired.hub).connectedIssued newcomer inside)
  have registers : (WebRTC.initial wild).emits ((WebRTC.initial wild).registerName name) =
      [.register name] := rfl
  subst made
  refine ⟨out, unused, ?_, fun _ => List.mem_cons, Function.update_self _ _ _,
    fun _ different => Function.update_of_ne different _ _, advance_clients_self _ _ _,
    fun _ different => ?_, ?_, fun _ different => ?_, (wired.outside newcomer out).2, rfl⟩
  · simp only [Hub.machine, Hub.process, if_neg fresh, Option.map_some]
    rfl
  · rw [advance_clients_other different]
    exact Function.update_of_ne different _ _
  · rw [advance_toServer, Function.update_self, enter_toServer, enter_clients_self, registers,
      (wired.outside newcomer out).1, List.nil_append]
  · rw [advance_toServer, Function.update_of_ne different, enter_toServer]

/-- A client that joins keeps the wiring. -/
theorem join (wired : net.Wired) {newcomer : SocketId} {name : String} {wild : Bool}
    (ran : net.step libraries (.join newcomer name wild) = some next) : next.Wired := by
  have nonblank := (join_cases ran).1.1
  have joins := wired.joins ran
  have server : next.hub.server = net.hub.server := (Hub.step_cases joins.hub).2.2.1
  constructor
  · exact .step wired.hub trivial joins.hub
  · intro other outside
    rw [joins.sockets, not_or] at outside
    rw [joins.queues other outside.1, joins.toClient]
    exact wired.outside other outside.2
  · intro first firstInside second secondInside same
    rcases (joins.sockets first).mp firstInside with rfl | firstOld
    · rcases (joins.sockets second).mp secondInside with rfl | secondOld
      · rfl
      · rw [joins.ownName, joins.names second (joins.older secondOld)] at same
        exact absurd same.symm (joins.unused second secondOld)
    · rcases (joins.sockets second).mp secondInside with rfl | secondOld
      · rw [joins.ownName, joins.names first (joins.older firstOld)] at same
        exact absurd same (joins.unused first firstOld)
      · rw [joins.names first (joins.older firstOld),
          joins.names second (joins.older secondOld)] at same
        exact wired.distinct first firstOld second secondOld same
  · intro other inside
    rcases (joins.sockets other).mp inside with rfl | old
    · rwa [joins.ownName]
    · rw [joins.names other (joins.older old)]
      exact wired.nonblank other old
  · intro query holder routed
    rw [server] at routed
    obtain ⟨old, leads⟩ := wired.routed query holder routed
    exact ⟨(joins.sockets holder).mpr (.inr old), by rw [joins.names _ (joins.older old), leads]⟩
  · intro other query queued
    by_cases same : other = newcomer
    · subst same
      rw [joins.ownQueue, List.mem_singleton] at queued
      cases queued
      exact joins.ownName.symm
    · rw [joins.queues other same] at queued
      rw [joins.names other same]
      exact wired.registers other query queued
  · intro other inside
    rcases (joins.sockets other).mp inside with rfl | old
    · exact .inr (by rw [joins.ownQueue, joins.ownName]; rfl)
    · rw [server, joins.queues other (joins.older old), joins.names other (joins.older old)]
      exact wired.named other old
  · intro other packet queued
    rw [joins.toClient] at queued
    obtain ⟨sender, old, message, received⟩ := wired.relayed other packet queued
    refine ⟨sender, (joins.sockets sender).mpr (.inr old), message, ?_⟩
    rw [joins.names sender (joins.older old), received]

/-- A client that is in the network does not register again. -/
theorem not_register {event : NetworkEvent} {socketId : SocketId} {own : Event} {after : WebRTC}
    (seen : net.clientEvent event = some (socketId, own))
    (ran : net.step libraries event = some next)
    (stepped : (net.clients socketId).step (libraries socketId) own = some after) (name : String) :
    .register name ∉ (net.clients socketId).emits after := by
  have notRegister : ∀ username, own ≠ .registerName username := by
    rintro username rfl
    cases event with
    | join _ _ _ => cases seen
    | act actor _ =>
        cases seen
        obtain ⟨_, isLocal, _⟩ := act_cases ran
        cases isLocal
    | serve _ => cases seen
    | deliver receiver =>
        obtain ⟨signal, _, same⟩ := Option.map_eq_some_iff.mp seen
        cases signal <;> cases same
  intro member
  rcases WebRTC.emits_cases stepped with none | ⟨id, description, _, _, sent⟩ |
    ⟨target, _, sent⟩ | ⟨username, same, _⟩
  · rw [none] at member
    cases member
  · rw [sent] at member
    cases List.mem_singleton.mp member
  · rw [sent] at member
    cases List.mem_singleton.mp member
  · exact notRegister username same

/-- Every step keeps the wiring. -/
theorem step (wired : net.Wired) {event : NetworkEvent}
    (ran : net.step libraries event = some next) : next.Wired := by
  cases event with
  | join socketId name wild => exact wired.join ran
  | act socketId own =>
      obtain ⟨inside, _, after, stepped, made⟩ := act_cases ran
      rw [made]
      exact wired.advance inside (not_register rfl ran stepped)
  | serve socketId => exact wired.serve ran
  | deliver socketId =>
      obtain ⟨packet, rest, waiting, ⟨signal, after, _, arrives, stepped, made⟩ | ⟨_, made⟩⟩ :=
        deliver_cases ran
      · have inside : socketId ∈ net.hub.connected := by
          by_contra out
          rw [(wired.outside socketId out).2] at waiting
          cases waiting
        have seen : net.clientEvent (.deliver socketId) = some (socketId, signal.event) := by
          rw [clientEvent, arrives, Option.map_some]
        have relays := not_register seen ran stepped
        rw [made]
        exact (wired.popped waiting).advance inside relays
      · rw [made]
        exact wired.popped waiting

end Wired

/-- Every reachable network is wired. -/
theorem wired_of_reachable (reached : (machine libraries).Reachable net) : net.Wired := by
  refine reached.invariant ?_ fun _ _ _ wired _ ran => wired.step ran
  intro state start
  subst start
  exact .empty

/-- Every client of a reachable network is sound. -/
theorem sound_of_reachable (reached : (machine libraries).Reachable net) {socketId : SocketId}
    (inside : socketId ∈ net.hub.connected) : (net.clients socketId).Sound := by
  have lifted : (machine libraries).ReachableUnder (Lifted fun _ _ _ => True) net :=
    reached.mono fun _ _ _ _ _ => trivial
  exact WebRTC.sound_of_reachable (client_reachableUnder (by simp) lifted socketId inside)

/-- The message that a packet brings from the named sender. -/
def brought (sender : String) (packet : Packet) : Option SignalManager.Message :=
  match SignalManager.receive packet with
  | .emits (.onOfferReceived peerID sdp) => if peerID = sender then some (.offer sdp) else none
  | .emits (.onAnswerReceived peerID sdp) => if peerID = sender then some (.answer sdp) else none
  | .emits (.onRejectReceived peerID) => if peerID = sender then some .reject else none
  | _ => none

/-- The message that an emission takes to the named target. -/
def addressed (target : String) : Emission → Option SignalManager.Message
  | .relay message name => if name = target then some message else none
  | .register _ => none

/-- The channel from a sender to a receiver holds the messages on their way in order. -/
def channel (net : Network) (sender receiver : SocketId) : List SignalManager.Message :=
  (net.toClient receiver).filterMap (brought (net.localId sender)) ++
    (net.toServer sender).filterMap (addressed (net.localId receiver))

theorem brought_eq {packet : Packet} {message : SignalManager.Message} {name : String}
    (received : SignalManager.receive packet = .emits (message.signal name)) (sender : String) :
    brought sender packet = if name = sender then some message else none := by
  cases message <;> simp [brought, received, SignalManager.Message.signal]

theorem channel_advance (net : Network) (mover : SocketId) (after : WebRTC)
    (sender receiver : SocketId) :
    (net.advance mover after).channel sender receiver = net.channel sender receiver ++
      ((net.clients sender).emits ((net.advance mover after).clients sender)).filterMap
        (addressed (net.localId receiver)) := by
  by_cases same : sender = mover
  · subst same
    rw [advance_clients_self, channel, channel, advance_toServer, Function.update_self,
      List.filterMap_append, ← List.append_assoc]
    rfl
  · rw [advance_clients_other same, WebRTC.emits_self, channel, channel, advance_toServer,
      Function.update_of_ne same, List.filterMap_nil, List.append_nil]
    rfl

/-- A delivery takes the first message of the channel from its sender. -/
theorem channel_popped {receiver : SocketId} {packet : Packet} {rest : List Packet}
    (waiting : net.toClient receiver = packet :: rest) (sender : SocketId) :
    net.channel sender receiver = (brought (net.localId sender) packet).toList ++
      (net.popped receiver rest).channel sender receiver := by
  rw [channel, channel, popped_toClient, Function.update_self, waiting, List.filterMap_cons]
  cases brought (net.localId sender) packet with
  | none => rfl
  | some message => rfl

theorem channel_popped_other {mover receiver : SocketId} (different : receiver ≠ mover)
    (rest : List Packet) (sender : SocketId) :
    (net.popped mover rest).channel sender receiver = net.channel sender receiver := by
  rw [channel, channel, popped_toClient, Function.update_of_ne different]
  rfl

/-- The server moves a message along its channel, or drops it. -/
theorem channel_serve (wired : net.Wired) {mover : SocketId}
    (ran : net.step libraries (.serve mover) = some next) {sender receiver : SocketId}
    (senderInside : sender ∈ net.hub.connected) (receiverInside : receiver ∈ net.hub.connected) :
    (next.channel sender receiver).Sublist (net.channel sender receiver) := by
  obtain ⟨emission, rest, result, waiting, processed, made⟩ := serve_cases ran
  obtain ⟨_, inside, _, _⟩ := Hub.step_cases (Hub.step_of_process processed)
  have toClient (other : SocketId) : next.toClient other = net.toClient other ++
      (result.2.filter fun delivery => delivery.1 = other).map Prod.snd := by rw [made]; rfl
  have shorter : ((next.toServer sender).filterMap (addressed (net.localId receiver))).Sublist
      ((net.toServer sender).filterMap (addressed (net.localId receiver))) := by
    rw [made]
    exact (served_queue waiting result sender).filterMap _
  have dropped (silent : (result.2.filter fun delivery => delivery.1 = receiver).map Prod.snd =
      []) : (next.channel sender receiver).Sublist (net.channel sender receiver) := by
    have names : next.localId = net.localId := by rw [made]; rfl
    rw [channel, channel, names, toClient, silent, List.append_nil]
    exact List.Sublist.append_left shorter _
  cases emission with
  | register name =>
      refine dropped ?_
      rw [(wired.serve_register waiting inside processed).2.2]
      rfl
  | relay message target =>
      obtain ⟨_, silent | ⟨holder, present, packet, leads, received, out⟩⟩ :=
        wired.serve_relay waiting inside processed
      · refine dropped ?_
        rw [silent]
        rfl
      · by_cases here : holder = receiver
        · subst here
          have names : next.localId = net.localId := by rw [made]; rfl
          rw [channel, channel, names, toClient, out]
          simp only [decide_true, List.filter_cons_of_pos, List.filter_nil, List.map_cons,
            List.map_nil, List.filterMap_append, List.append_assoc]
          refine List.Sublist.append_left ?_ _
          by_cases own : sender = mover
          · subst own
            rw [made, served_toServer, Function.update_self, waiting]
            simp [brought_eq received, addressed, leads]
          · have different : net.localId mover ≠ net.localId sender :=
              fun same => own (wired.distinct _ inside _ senderInside same).symm
            simp only [List.filterMap_cons, brought_eq received, if_neg different,
              List.filterMap_nil, List.nil_append]
            exact shorter
        · refine dropped ?_
          rw [out]
          simp [here]

namespace Joins

variable {newcomer : SocketId} {name : String} {wild : Bool}

theorem channel_old (joins : net.Joins next newcomer name wild) {sender receiver : SocketId}
    (senderOld : sender ≠ newcomer) (receiverOld : receiver ≠ newcomer) :
    next.channel sender receiver = net.channel sender receiver := by
  rw [channel, channel, joins.toClient, joins.queues sender senderOld,
    joins.names sender senderOld, joins.names receiver receiverOld]

/-- Nothing comes from a new client yet. -/
theorem channel_from (joins : net.Joins next newcomer name wild) (wired : net.Wired)
    (receiver : SocketId) : next.channel newcomer receiver = [] := by
  rw [channel, joins.ownQueue, joins.toClient, joins.ownName, List.append_eq_nil_iff]
  refine ⟨List.filterMap_eq_nil_iff.mpr fun packet queued => ?_, rfl⟩
  obtain ⟨sender, inside, message, received⟩ := wired.relayed receiver packet queued
  rw [brought_eq received, if_neg (joins.unused sender inside)]

/-- Only what the server has not taken yet can reach a new client. -/
theorem channel_to (joins : net.Joins next newcomer name wild) {sender : SocketId}
    (senderOld : sender ≠ newcomer) {message : SignalManager.Message}
    (member : message ∈ next.channel sender newcomer) :
    .relay message name ∈ net.toServer sender := by
  rw [channel, joins.toClient, joins.noPackets, joins.queues sender senderOld, joins.ownName,
    List.filterMap_nil, List.nil_append] at member
  obtain ⟨emission, queued, leads⟩ := List.mem_filterMap.mp member
  cases emission with
  | register other => cases leads
  | relay other target =>
      obtain ⟨named, same⟩ := Option.ite_none_right_eq_some.mp leads
      cases same
      rwa [← named]

end Joins

end Network
end VoiceCall
