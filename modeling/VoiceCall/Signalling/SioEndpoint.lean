import VoiceCall.Signalling.SioClient
import VoiceCall.Transport.EndpointParts
import VoiceCall.Transport.SocketLife
import VoiceCall.Transport.SocketOrder

namespace VoiceCall.Signalling

open Foundation Transport

variable {Double Callback : Type}

namespace SioClient

/-- What a socket shows of its client. A connected socket owes what is left in its queue. -/
def ofSocket (conState : ConState) (socket : Socket Double Callback) :
    SioClient (Transport.Packet Double) where
  conState := conState
  connected := socket.connected
  packetQueue := if socket.connected then [] else socket.packetQueue

/-- The client that the socket shows goes from one state to the next by acts of its own, and
writes the packets that the socket was asked for and does not keep. -/
def Shows (conState : ConState) (socket next : Socket Double Callback) : Prop :=
  ∃ acts written added,
    (ofSocket conState socket).exec acts = some (ofSocket conState next, written) ∧
      next.asked = socket.asked ++ added ∧
      (ofSocket conState socket).packetQueue ++ added =
        written ++ (ofSocket conState next).packetQueue

variable {conState : ConState} {socket middle next : Socket Double Callback}

namespace Shows

theorem trans (first : Shows conState socket middle) (second : Shows conState middle next) :
    Shows conState socket next := by
  obtain ⟨acts, written, added, ran, asked, kept⟩ := first
  obtain ⟨actsOn, writtenOn, addedOn, ranOn, askedOn, keptOn⟩ := second
  refine ⟨acts ++ actsOn, written ++ writtenOn, added ++ addedOn, exec_append ran ranOn, ?_, ?_⟩
  · rw [askedOn, asked, List.append_assoc]
  · rw [← List.append_assoc, kept, List.append_assoc, keptOn, List.append_assoc]

/-- What changes neither the queue nor what was asked for is not seen. -/
theorem same (connected : next.connected = socket.connected)
    (packetQueue : next.packetQueue = socket.packetQueue) (asked : next.asked = socket.asked) :
    Shows conState socket next := by
  have seen : ofSocket conState next = ofSocket conState socket := by
    rw [ofSocket, ofSocket, connected, packetQueue]
  refine ⟨[], [], [], ?_, ?_, ?_⟩
  · rw [seen]
    rfl
  · rw [asked, List.append_nil]
  · rw [seen, List.append_nil]
    rfl

theorem refl (socket : Socket Double Callback) : Shows conState socket socket := same rfl rfl rfl

theorem note (socket : Socket Double Callback) (entry : Socket.Note Double Callback)
    (silent : entry.asking = none) : Shows conState socket (socket.note entry) :=
  same rfl rfl (by simp [silent])

/-- A packet that a socket sends is emitted by the client. -/
theorem sendPacket (open' : socket.hasClient = true)
    (isOpen : socket.connected = true → conState = .opened) (packet : Transport.Packet Double) :
    Shows conState socket (socket.sendPacket packet) := by
  by_cases connected : socket.connected = true
  · have sent : socket.sendPacket packet =
        (socket.note (.asked packet)).drain.note (.sent packet) := by
      rw [Socket.sendPacket, if_neg (by simp [open']), if_pos connected]
    refine ⟨[.emit packet], [packet], [packet], exec_single ?_, ?_, ?_⟩
    · simp [take, emit, sendImpl, ofSocket, sent, Socket.note, Socket.drain, connected,
        isOpen connected]
    · rw [sent, Socket.asked_note, Socket.asked_drain, Socket.asked_note]
      exact List.append_nil _
    · simp [ofSocket, sent, Socket.note, Socket.drain, connected]
  · have kept : socket.sendPacket packet =
        { socket.note (.asked packet) with packetQueue := socket.packetQueue ++ [packet] } := by
      rw [Socket.sendPacket, if_neg (by simp [open']), if_neg connected]
    refine ⟨[.emit packet], [], [packet], exec_single ?_, ?_, ?_⟩
    · simp [take, emit, ofSocket, kept, Socket.note, connected]
    · rw [kept]
      exact Socket.asked_note _
    · simp [ofSocket, kept, Socket.note, connected]

theorem callMoves (open' : socket.hasClient = true)
    (isOpen : socket.connected = true → conState = .opened)
    (chain : Socket.CallMoves socket next) : Shows conState socket next := by
  induction chain with
  | refl => exact refl socket
  | tail before moved inductionHypothesis =>
      apply inductionHypothesis.trans
      obtain ⟨hasClient, connected⟩ := Socket.CallMoves.keeps before
      cases moved with
      | armed | ended | listeners => exact same rfl rfl rfl
      | asked packet =>
          exact sendPacket (hasClient.trans open') (fun now => isOpen (connected ▸ now)) packet
      | registered callback => exact note _ _ rfl

end Shows

/-- A socket has its client, and is connected only under an open one. -/
structure Able (conState : ConState) (socket : Socket Double Callback) : Prop where
  open' : socket.hasClient = true
  isOpen : socket.connected = true → conState = .opened

/-- An able socket shows what it does, and stays able. -/
def ShowsAble (conState : ConState) (socket next : Socket Double Callback) : Prop :=
  Able conState socket → Able conState next ∧ Shows conState socket next

namespace ShowsAble

theorem trans (first : ShowsAble conState socket middle)
    (second : ShowsAble conState middle next) : ShowsAble conState socket next := by
  intro able
  obtain ⟨between, shows⟩ := first able
  exact (second between).imp_right shows.trans

theorem refl (socket : Socket Double Callback) : ShowsAble conState socket socket :=
  fun able => ⟨able, .refl socket⟩

theorem same (hasClient : next.hasClient = socket.hasClient)
    (connected : next.connected = socket.connected)
    (packetQueue : next.packetQueue = socket.packetQueue) (log : next.log = socket.log) :
    ShowsAble conState socket next := by
  intro able
  refine ⟨⟨hasClient.trans able.open', fun now => able.isOpen (connected ▸ now)⟩, ?_⟩
  exact .same connected packetQueue (congrArg (List.filterMap Socket.Note.asking) log)

theorem note (socket : Socket Double Callback) (entry : Socket.Note Double Callback)
    (silent : entry.asking = none) : ShowsAble conState socket (socket.note entry) :=
  fun able => ⟨⟨able.open', able.isOpen⟩, .note socket entry silent⟩

theorem callMoves (chain : Socket.CallMoves socket next) : ShowsAble conState socket next := by
  intro able
  obtain ⟨hasClient, connected⟩ := chain.keeps
  exact ⟨⟨hasClient.trans able.open', fun now => able.isOpen (connected ▸ now)⟩,
    .callMoves able.open' able.isOpen chain⟩

theorem perform (socket : Socket Double Callback) (calls : List (Socket.Call Double Callback)) :
    ShowsAble conState socket (socket.perform calls) :=
  callMoves (Socket.callMoves_perform socket calls)

theorem sendPacket (socket : Socket Double Callback) (packet : Transport.Packet Double) :
    ShowsAble conState socket (socket.sendPacket packet) := by
  intro able
  have keeps : (socket.sendPacket packet).hasClient = socket.hasClient ∧
      (socket.sendPacket packet).connected = socket.connected := Socket.sendPacket_keeps packet
  obtain ⟨hasClient, connected⟩ := keeps
  exact ⟨⟨hasClient.trans able.open', fun now => able.isOpen (connected ▸ now)⟩,
    .sendPacket able.open' able.isOpen packet⟩

/-- What a connected socket still owes was written when it was connected. -/
theorem drain (connected : socket.connected = true) :
    ShowsAble conState socket socket.drain := by
  intro able
  have seen : ofSocket conState socket.drain = ofSocket conState socket := by
    simp [ofSocket, Socket.drain, connected]
  refine ⟨⟨able.open', able.isOpen⟩, [], [], [], ?_, ?_, ?_⟩
  · rw [seen]
    rfl
  · rw [Socket.asked_drain, List.append_nil]
  · rw [seen, List.append_nil]
    rfl

/-- The answer to a connect is shown at once, and what its listener sends comes behind the
queue. -/
theorem onConnected (isOpen : conState = .opened) (socket : Socket Double Callback)
    (calls : List (Socket.Call Double Callback)) :
    ShowsAble conState socket (socket.onConnected calls) := by
  have stopped : ShowsAble conState socket (socket.resetTimer none) := same rfl rfl rfl rfl
  unfold Socket.onConnected
  dsimp only
  split_ifs with connected
  · exact stopped
  · generalize socket.resetTimer none = waiting at stopped connected
    have acknowledged : ShowsAble conState waiting
        ({ waiting with connected := true }.note .opened) := by
      intro able
      refine ⟨⟨able.open', fun _ => isOpen⟩, [.onConnected], waiting.packetQueue, [],
        exec_single ?_, ?_, ?_⟩
      · simp [take, SioClient.onConnected, sendImpl, ofSocket, Socket.note, connected, isOpen]
      · rw [Socket.asked_note]
        rfl
      · simp [ofSocket, Socket.note, connected]
    have called : ShowsAble conState ({ waiting with connected := true }.note .opened)
        (({ waiting with connected := true }.note .opened).perform calls) := perform _ calls
    have still : ((({ waiting with connected := true }.note .opened).perform calls).connected) =
        true := Socket.perform_connected calls
    exact ((stopped.trans acknowledged).trans called).trans (drain still)

theorem listen (socket : Socket Double Callback) (listener : Option Callback)
    (event : Transport.Event Double) (reaction : Socket.Reaction Double Callback)
    (ackMessage : List (Message Double)) :
    ShowsAble conState socket (socket.listen listener event reaction ackMessage).1 := by
  cases listener with
  | none => exact refl socket
  | some callback =>
      exact (note socket (.listened callback event) rfl).trans (perform _ reaction.calls)

theorem onSocketioEvent (socket : Socket Double Callback) (packId : Int) (name : List UInt8)
    (messages : List (Message Double)) (bound any : Socket.Reaction Double Callback) :
    ShowsAble conState socket (socket.onSocketioEvent packId name messages bound any) := by
  have called (event : Transport.Event Double) : ShowsAble conState socket
      ((socket.note (.heard event packId)).callListeners event bound any).1 :=
    ((note socket (.heard event packId) rfl).trans (listen _ _ event bound [])).trans
      (listen _ _ event any _)
  unfold Socket.onSocketioEvent
  dsimp only
  split_ifs
  · exact (called _).trans (sendPacket _ _)
  · exact called _

theorem onSocketioAck (socket : Socket Double Callback) (packId : Int)
    (messages : List (Message Double)) (calls : List (Socket.Call Double Callback)) :
    ShowsAble conState socket (socket.onSocketioAck packId messages calls) := by
  unfold Socket.onSocketioAck
  dsimp only
  split
  · exact refl socket
  · next callback _ =>
      have taken (acks : Members UInt32 Callback) :
          ShowsAble conState socket { socket with acks } := same rfl rfl rfl rfl
      exact ((taken _).trans (note _ (.acked _ callback messages) rfl)).trans
        (perform _ calls)

theorem onSocketioError (socket : Socket Double Callback) (message : Message Double)
    (calls : List (Socket.Call Double Callback)) :
    ShowsAble conState socket (socket.onSocketioError message calls) := by
  unfold Socket.onSocketioError
  split
  · exact refl socket
  · next listener _ =>
      exact (note socket (.failed listener message) rfl).trans (perform _ calls)

/-- A packet that leaves the socket its client is shown, an answer only by an open client. -/
theorem onMessagePacket {packet : Transport.Packet Double}
    {reactions : Socket.Reactions Double Callback}
    (answers : packet.type = typeConnect → conState = .opened)
    (taken : socket.onMessagePacket packet reactions = some next)
    (kept : next.hasClient = true) : ShowsAble conState socket next := by
  unfold Socket.onMessagePacket at taken
  split_ifs at taken with gone connects
  · cases taken
    exact refl socket
  · cases taken
    exact onConnected (answers connects) socket _
  · cases taken
    exact absurd kept (by simp [Socket.onClose_hasClient])
  · split at taken <;> cases taken
    · exact onSocketioEvent socket _ _ _ _ _
    · exact refl socket
  · split at taken <;> cases taken
    · exact onSocketioAck socket _ _ _
    · exact onSocketioAck socket _ _ _
  · cases taken
    exact onSocketioError socket _ _
  · cases taken
    exact refl socket

/-- A handler that leaves the socket its client was cancelled, or came too late. -/
theorem handle {handler : Handler} {calls : List (Socket.Call Double Callback)}
    (kept : (socket.handle handler calls).hasClient = true) :
    ShowsAble conState socket (socket.handle handler calls) := by
  unfold Socket.handle at kept ⊢
  cases waits : handler.wait with
  | timeoutConnection =>
      simp only [waits, Socket.timeoutConnection] at kept ⊢
      split_ifs at kept ⊢
      · exact refl socket
      · simp [Socket.onClose_hasClient] at kept
  | onClose =>
      simp only [waits] at kept
      simp [Socket.onClose_hasClient] at kept

end ShowsAble

/-- What a socket shows of each act that is no loss and no close. -/
theorem showsAble_step (act : Socket.Act Double Callback) (shown : act ≠ .disconnected)
    (answers : ¬act.NoAnswer → conState = .opened) (taken : socket.step act = some next)
    (kept : next.hasClient = true) : ShowsAble conState socket next := by
  cases act with
  | call call =>
      cases taken
      exact .callMoves (Socket.callMoves_call socket call)
  | opened =>
      cases taken
      unfold Socket.onOpen Socket.sendConnect
      split_ifs
      · exact .refl socket
      · exact (ShowsAble.note socket (.sent (.ofType typeConnect socket.nsp socket.auth))
          rfl).trans (.same rfl rfl rfl rfl)
  | disconnected => exact absurd rfl shown
  | packet packet reactions =>
      exact .onMessagePacket (fun connects => answers (absurd connects)) taken kept
  | expired =>
      cases taken
      exact .same rfl rfl rfl rfl
  | handled calls =>
      rw [Socket.step] at taken
      split at taken <;> cases taken
      · exact .refl socket
      · have begun (ready : List Handler) : ShowsAble conState socket { socket with ready } :=
          .same rfl rfl rfl rfl
        exact (begun _).trans (.handle kept)
  | abandoned calls =>
      cases taken
      exact absurd kept (by simp [Socket.onClose_hasClient])
  | counted =>
      cases taken
      exact .same rfl rfl rfl rfl

/-- What an endpoint shows of its client and of the socket that it is used through, if it has one
by then. -/
def ofRoot (conState : ConState) (root : Option (Socket Double Callback)) :
    SioClient (Transport.Packet Double) where
  conState := conState
  connected := root.any (·.connected)
  packetQueue := root.elim [] (·.packetQueue)

/-- The packets that the socket has handed to its client, but for connects. -/
def carried (root : Option (Socket Double Callback)) : List (Transport.Packet Double) :=
  root.elim [] (·.carried)

/-- From one state to another the client runs by acts of its own, and writes what the socket
hands over. -/
def Refines (conState later : ConState) (root after : Option (Socket Double Callback)) : Prop :=
  ∃ acts written, (ofRoot conState root).exec acts = some (ofRoot later after, written) ∧
    carried after = carried root ++ written

namespace Refines

variable {later last : ConState} {root after final : Option (Socket Double Callback)}

theorem refl (conState : ConState) (root : Option (Socket Double Callback)) :
    Refines conState conState root root :=
  ⟨[], [], rfl, (List.append_nil _).symm⟩

theorem trans (first : Refines conState later root after)
    (second : Refines later last after final) : Refines conState last root final := by
  obtain ⟨acts, written, ran, grown⟩ := first
  obtain ⟨actsOn, writtenOn, ranOn, grownOn⟩ := second
  refine ⟨acts ++ actsOn, written ++ writtenOn, exec_append ran ranOn, ?_⟩
  rw [grownOn, grown, List.append_assoc]

/-- An act of the client alone writes nothing. -/
theorem alone (act : Act (Transport.Packet Double))
    (taken : (ofRoot conState root).take act = some (ofRoot later root, [])) :
    Refines conState later root root :=
  ⟨[act], [], exec_single taken, (List.append_nil _).symm⟩

/-- At the end of an act a connected socket owes nothing. -/
theorem ofRoot_some (reached : Socket.machine.Reachable socket) :
    ofRoot conState (some socket) = ofSocket conState socket := by
  have settled := Socket.settled_of_reachable reached
  unfold ofRoot ofSocket
  split_ifs with connected
  · rw [Option.elim_some, settled.empty connected]
    rfl
  · rfl

/-- What an able socket shows is what the client does. -/
theorem shown (reached : Socket.machine.Reachable socket)
    (reachedNext : Socket.machine.Reachable next) (able : Able conState socket)
    (shows : ShowsAble conState socket next) :
    Refines conState conState (some socket) (some next) := by
  obtain ⟨ableNext, acts, written, added, ran, asked, kept⟩ := shows able
  rw [← ofRoot_some reached, ← ofRoot_some reachedNext] at ran kept
  refine ⟨acts, written, ran, ?_⟩
  have before := (Socket.orderly_of_reachable reached).asked_eq able.open'
  have now := (Socket.orderly_of_reachable reachedNext).asked_eq ableNext.open'
  change next.carried = socket.carried ++ written
  change socket.packetQueue ++ added = written ++ next.packetQueue at kept
  rw [before, now, List.append_assoc, kept, ← List.append_assoc] at asked
  exact List.append_cancel_right asked

/-- A new socket has sent at most its connect. -/
theorem created (globalEventId : UInt32) (clientOpened : Bool) (nsp : List UInt8)
    (auth : Message Double) : Refines conState conState none
      (some (.create globalEventId clientOpened nsp auth : Socket Double Callback)) := by
  cases clientOpened with
  | true => exact ⟨[], [], rfl, rfl⟩
  | false => exact ⟨[], [], rfl, rfl⟩

/-- A session that is lost disconnects the socket, and a closed client has none. -/
theorem lost (open' : socket.hasClient = true) :
    Refines conState .closed (some socket) (some socket.onDisconnect) := by
  refine ⟨[.onClose], [], exec_single ?_, ?_⟩
  · unfold Socket.onDisconnect
    by_cases connected : socket.connected = true
    · simp [take, onClose, onDisconnect, ofRoot, connected, open']
    · simp [take, onClose, onDisconnect, ofRoot, connected]
  · unfold Socket.onDisconnect carried
    split_ifs <;> exact (List.append_nil _).symm

end Refines

/-- The namespace of a socket that is asked for without a name. -/
def defaultNsp : List UInt8 := Connection.namespaceOf []

/-- The socket that an endpoint is used through. -/
def root (endpoint : Endpoint Double Callback) : Option (Socket Double Callback) :=
  Members.find defaultNsp endpoint.sockets

/-- What an endpoint shows of itself. -/
def ofEndpoint (endpoint : Endpoint Double Callback) : SioClient (Transport.Packet Double) :=
  ofRoot endpoint.connection.conState (root endpoint)

variable {endpoint after : Endpoint Double Callback} [DoubleText Double] {platform : Platform}

/-- An endpoint that is not closing has connected sockets only under an open client. -/
theorem able_of_found (composed : endpoint.Composed platform)
    (goesOn : endpoint.connection.conState ≠ .closing) {nsp : List UInt8}
    (found : Members.find nsp endpoint.sockets = some socket) :
    Able endpoint.connection.conState socket := by
  have held := composed.sockets nsp socket found
  exact ⟨held.hasClient, fun connected =>
    Connection.inSession_opened composed.connection (held.connected connected) goesOn⟩

/-- An act of any socket is shown through the default one, unless it loses its client. -/
theorem refines_act (composed : endpoint.Composed platform)
    (goesOn : endpoint.connection.conState ≠ .closing) {nsp : List UInt8}
    {act : Socket.Act Double Callback} {sends : List (Transport.Packet Double)}
    (acted : endpoint.act nsp act = some (after, sends)) (shown : act ≠ .disconnected)
    (answers : ¬act.NoAnswer → endpoint.connection.conState = .opened)
    (kept : (root endpoint).isSome = true → (root after).isSome = true) :
    Refines endpoint.connection.conState endpoint.connection.conState (root endpoint)
      (root after) := by
  unfold Endpoint.act at acted
  split at acted
  · cases acted
    exact .refl _ _
  · next socket found =>
      obtain ⟨next, taken, same⟩ := Option.map_eq_some_iff.mp acted
      cases same
      unfold root at kept ⊢
      dsimp only at kept ⊢
      by_cases own : nsp = defaultNsp
      · subst own
        rw [found] at kept ⊢
        split_ifs at kept ⊢ with keeps
        · rw [Members.find_insert, if_pos rfl]
          have held := composed.sockets defaultNsp socket found
          have reached := (held.counted endpoint.globalEventId).reachable
          have counted : ShowsAble endpoint.connection.conState socket
              { socket with globalEventId := endpoint.globalEventId } := .same rfl rfl rfl rfl
          exact .shown held.reachable (.step reached trivial taken)
            (able_of_found composed goesOn found)
            (counted.trans (showsAble_step act shown answers taken keeps))
        · simp [Members.find_erase] at kept
      · split_ifs
        · rw [Members.find_insert, if_neg own]
          exact .refl _ _
        · rw [Members.find_erase, if_neg own]
          exact .refl _ _

omit [DoubleText Double] in
/-- A socket that is made shows nothing. -/
theorem refines_made (endpoint : Endpoint Double Callback) (conState : ConState)
    (clientOpened : Bool) (nsp : List UInt8) :
    Refines conState conState (root endpoint) (root (endpoint.socket clientOpened nsp).1) := by
  unfold Endpoint.socket
  split
  · exact .refl _ _
  · next missing =>
      by_cases own : nsp = defaultNsp
      · subst own
        unfold root
        rw [missing, Members.find_insert, if_pos rfl]
        exact .created _ _ _ _
      · unfold root
        rw [Members.find_insert, if_neg own]
        exact .refl _ _

omit [DoubleText Double] in
theorem forget_keeps (endpoint : Endpoint Double Callback) (nsp : List UInt8) :
    root (endpoint.forget nsp) = root endpoint ∧
      (endpoint.forget nsp).connection.conState = endpoint.connection.conState := by
  unfold Endpoint.forget
  split_ifs <;> exact ⟨rfl, rfl⟩

/-- The client sends on what its sockets hand it, and keeps its state. -/
theorem client_sent {onNetwork : Bool} {packets : List (Transport.Packet Double)}
    (sent : endpoint.client platform (.send onNetwork packets) = some after) :
    root after = root endpoint ∧
      after.connection.conState = endpoint.connection.conState := by
  obtain ⟨moved, sockets⟩ := Endpoint.client_cases sent
  obtain ⟨_, taken⟩ := Option.ite_none_right_eq_some.mp moved
  exact ⟨congrArg (Members.find defaultNsp) sockets, (Connection.Continues.sendAll taken).conState⟩

omit [DoubleText Double] in
/-- What keeps the state of the client and its sockets is not seen. -/
theorem refines_unseen (conState : after.connection.conState = endpoint.connection.conState)
    (sockets : after.sockets = endpoint.sockets) :
    Refines endpoint.connection.conState after.connection.conState (root endpoint)
      (root after) := by
  rw [conState, root, root, sockets]
  exact .refl _ _

/-- A task of a closed client may try again, and no other task is seen. -/
theorem refines_ran (taken : endpoint.client platform .ran = some after) :
    Refines endpoint.connection.conState after.connection.conState (root endpoint)
      (root after) := by
  obtain ⟨moved, sockets⟩ := Endpoint.client_cases taken
  obtain ⟨possible, ran⟩ := Option.ite_none_right_eq_some.mp moved
  unfold Connection.take at ran
  cases tasks : endpoint.connection.tasks with
  | nil => exact absurd tasks possible.2
  | cons task rest =>
      rw [tasks] at ran
      have keeps := Connection.ran_conState platform
        { endpoint.connection with tasks := rest } task
      rw [Option.some.inj ran] at keeps
      rcases keeps with same | ⟨closed, again⟩
      · exact refines_unseen same sockets
      · have same : root after = root endpoint := congrArg (Members.find defaultNsp) sockets
        have retried : (ofRoot endpoint.connection.conState (root endpoint)).take
            .timeoutReconnect = some (ofRoot .opening (root endpoint), []) := by
          rw [take, timeoutReconnect, ofRoot, if_pos closed]
          rfl
        rw [same, again]
        exact .alone .timeoutReconnect retried

/-- A session opens behind an attempt, whose sockets are told and send their connects. -/
theorem refines_opened (composed : endpoint.Composed platform)
    (goesOn : endpoint.connection.conState ≠ .closing)
    (taken : Endpoint.step platform endpoint .opened = some after) :
    Refines endpoint.connection.conState after.connection.conState (root endpoint)
      (root after) := by
  rw [Endpoint.step, if_neg goesOn] at taken
  obtain ⟨moved, sockets⟩ := Endpoint.client_cases taken
  obtain ⟨possible, opened⟩ := Option.ite_none_right_eq_some.mp moved
  rw [Endpoint.socket_connection] at possible opened
  have opening := (Connection.settled_of_reachable composed.connection).opening possible.2 goesOn
  have told : Refines endpoint.connection.conState endpoint.connection.conState (root endpoint)
      (root { endpoint with
        sockets := (Endpoint.socketsInvoke endpoint.sockets Socket.onOpen).1 }) := by
    unfold root Endpoint.socketsInvoke
    rw [Members.find_map]
    cases found : Members.find defaultNsp endpoint.sockets with
    | none => exact .refl _ _
    | some socket =>
        have held := composed.sockets defaultNsp socket found
        exact .shown held.reachable held.onOpen.reachable (able_of_found composed goesOn found)
          (showsAble_step .opened nofun (fun answers => absurd trivial answers) rfl
            held.onOpen.hasClient)
  have made := told.trans (refines_made _ _ true (Connection.namespaceOf []))
  have same : root after = _ := congrArg (Members.find defaultNsp) sockets
  rw [same, Connection.onOpen_conState goesOn opened]
  exact made.trans (.alone .onOpen (if_pos opening))

/-- A session that ends, or an attempt that fails, closes the client. -/
theorem refines_closed {conState : ConState} (composed : endpoint.Composed platform)
    (sockets : after.sockets = (Endpoint.socketsInvoke endpoint.sockets Socket.onDisconnect).1)
    (closed : after.connection.conState = .closed) :
    Refines conState after.connection.conState (root endpoint) (root after) := by
  rw [closed]
  unfold root
  rw [sockets, Endpoint.socketsInvoke, Members.find_map]
  cases found : Members.find defaultNsp endpoint.sockets with
  | none => exact .alone .onClose rfl
  | some socket => exact .lost (composed.sockets defaultNsp socket found).hasClient

/-- The application neither closes the client nor starts it again. -/
def Plain : Endpoint.Act Double Callback → Prop
  | .alone (.connect _ _ _) | .alone .joined | .close | .syncClose => False
  | _ => True

/-- Every step of an endpoint is a run of the bundled client as its user sees it, until the default
socket is closed: it emits what it is asked for, opens, is acknowledged, closes and tries again,
and writes exactly what the socket hands over. -/
theorem refines_step (reached : (Endpoint.machine platform).Reachable endpoint)
    {act : Endpoint.Act Double Callback} (plain : Plain act)
    (taken : Endpoint.step platform endpoint act = some after)
    (goesOn : endpoint.connection.conState ≠ .closing)
    (kept : (root endpoint).isSome = true → (root after).isSome = true) :
    Refines endpoint.connection.conState after.connection.conState (root endpoint)
      (root after) := by
  have composed := Endpoint.composed_of_reachable reached
  cases act with
  | alone act =>
      obtain ⟨alone, client⟩ := Option.ite_none_right_eq_some.mp taken
      obtain ⟨moved, sockets⟩ := Endpoint.client_cases client
      obtain ⟨_, taken⟩ := Option.ite_none_right_eq_some.mp moved
      cases act with
      | setReconnectAttempts | setReconnectDelay | setReconnectDelayMax | reconnExpired
      | pingExpired =>
          exact refines_unseen (congrArg Connection.conState (Option.some.inj taken)).symm sockets
      | ran => exact refines_ran client
      | connect | joined => exact plain.elim
      | socket | removeSocket | send | close | syncClose | opened | failed | closed | message
      | ended => cases alone
  | ended =>
      obtain ⟨_, taken⟩ := Option.ite_none_right_eq_some.mp taken
      obtain ⟨moved, sockets⟩ := Endpoint.client_cases taken
      obtain ⟨_, taken⟩ := Option.ite_none_right_eq_some.mp moved
      exact refines_unseen (congrArg Connection.conState (Option.some.inj taken)).symm sockets
  | socket nsp =>
      obtain ⟨made, making, sent⟩ := Option.bind_eq_some_iff.mp taken
      obtain ⟨moved, sockets⟩ := Endpoint.client_cases making
      obtain ⟨_, knows⟩ := Option.ite_none_right_eq_some.mp moved
      have conState : made.connection.conState = endpoint.connection.conState := by
        rw [← Option.some.inj knows, Connection.socket_conState, Endpoint.socket_connection]
      have same : root made = _ := congrArg (Members.find defaultNsp) sockets
      obtain ⟨kept, still⟩ := client_sent sent
      rw [kept, still, conState, same]
      exact refines_made _ _ _ _
  | call onNetwork nsp call =>
      obtain ⟨⟨acted, sends⟩, acting, sent⟩ := Option.bind_eq_some_iff.mp taken
      obtain ⟨same, still⟩ := client_sent sent
      rw [same] at kept ⊢
      rw [still, Endpoint.act_connection acting]
      exact refines_act composed goesOn acting nofun (fun answers => absurd trivial answers) kept
  | close | syncClose => exact plain.elim
  | opened => exact refines_opened composed goesOn taken
  | failed =>
      rw [Endpoint.step, if_neg goesOn] at taken
      obtain ⟨moved, sockets⟩ := Endpoint.client_cases taken
      obtain ⟨_, failed⟩ := Option.ite_none_right_eq_some.mp moved
      exact refines_closed composed sockets (Connection.onFail_conState goesOn failed)
  | closed code =>
      obtain ⟨moved, sockets⟩ := Endpoint.client_cases taken
      obtain ⟨_, closed⟩ := Option.ite_none_right_eq_some.mp moved
      refine refines_closed composed sockets ?_
      rw [← Option.some.inj closed]
      exact Connection.onClose_conState _ code
  | message payload reactions =>
      rw [Endpoint.step] at taken
      split at taken
      · obtain ⟨moved, sockets⟩ := Endpoint.client_cases taken
        obtain ⟨_, received⟩ := Option.ite_none_right_eq_some.mp moved
        exact refines_unseen (Connection.Continues.onMessage received).conState sockets
      · next packet _ =>
          obtain ⟨⟨acted, sends⟩, acting, handled⟩ := Option.bind_eq_some_iff.mp taken
          obtain ⟨last, receiving, rfl⟩ := Option.map_eq_some_iff.mp handled
          obtain ⟨moved, sockets⟩ := Endpoint.client_cases receiving
          obtain ⟨possible, received⟩ := Option.ite_none_right_eq_some.mp moved
          have connection := Endpoint.act_connection acting
          obtain ⟨same, still⟩ := forget_keeps last packet.nsp
          have acts : root last = root acted := congrArg (Members.find defaultNsp) sockets
          rw [same, acts] at kept ⊢
          rw [still, (Connection.Continues.onMessage received).conState, connection]
          rw [connection] at possible
          exact refines_act composed goesOn acting nofun (fun _ => Connection.inSession_opened
            composed.connection (.inl possible.2) goesOn) kept
  | expired nsp =>
      obtain ⟨_, taken⟩ := Option.ite_none_right_eq_some.mp taken
      obtain ⟨⟨acted, sends⟩, acting, rfl⟩ := Option.map_eq_some_iff.mp taken
      rw [Endpoint.act_connection acting]
      exact refines_act composed goesOn acting nofun (fun answers => absurd trivial answers) kept
  | handled nsp calls =>
      obtain ⟨⟨acted, sends⟩, acting, handled⟩ := Option.bind_eq_some_iff.mp taken
      obtain ⟨last, sent, rfl⟩ := Option.map_eq_some_iff.mp handled
      obtain ⟨same, still⟩ := forget_keeps last nsp
      obtain ⟨acts, conState⟩ := client_sent sent
      rw [same, acts] at kept ⊢
      rw [still, conState, Endpoint.act_connection acting]
      exact refines_act composed goesOn acting nofun (fun answers => absurd trivial answers) kept

/-- An endpoint begins as the one call of `connect` leaves it. -/
def begun (platform : Platform) :
    Machine (Endpoint Double Callback) (Endpoint.Act Double Callback) where
  initial endpoint := ∃ start uri query auth, (Endpoint.machine platform).initial start ∧
    Endpoint.step platform start (.alone (.connect uri query auth)) = some endpoint
  step := Endpoint.step platform

/-- The application goes on, and so does its socket. -/
def Lasts (platform : Platform) (endpoint : Endpoint Double Callback)
    (act : Endpoint.Act Double Callback) : Prop :=
  Plain act ∧ ∀ after, Endpoint.step platform endpoint act = some after →
    (root endpoint).isSome = true → (root after).isSome = true

/-- Every run of an endpoint whose application and socket go on is a run of the bundled client as
its user sees it, from the state that `connect` leaves, and writes what the socket has handed
over. -/
theorem refines_run (reached : (begun platform).ReachableUnder (Lasts platform) endpoint) :
    ∃ acts, connecting.exec acts = some (ofEndpoint endpoint, carried (root endpoint)) := by
  suffices both : (Endpoint.machine platform).Reachable endpoint ∧
      ∃ acts, connecting.exec acts = some (ofEndpoint endpoint, carried (root endpoint)) from both.2
  induction reached with
  | initial start =>
      obtain ⟨first, uri, query, auth, isInitial, taken⟩ := start
      have reached : (Endpoint.machine platform).Reachable first := .initial isInitial
      have begins : (Endpoint.machine platform).step first (.alone (.connect uri query auth)) =
        some _ := taken
      refine ⟨.step reached trivial begins, [], ?_⟩
      obtain ⟨connection, sockets⟩ := isInitial
      obtain ⟨moved, same⟩ := Endpoint.client_cases taken
      rw [connection] at moved
      unfold ofEndpoint root
      rw [same, sockets, ← Option.some.inj moved]
      rfl
  | step _ lasts taken ih =>
      obtain ⟨reached, acts, ran⟩ := ih
      refine ⟨.step reached trivial taken, ?_⟩
      have goesOn := exec_goesOn (by exact (by decide : ConState.opening ≠ .closing)) ran
      obtain ⟨actsOn, written, ranOn, grown⟩ :=
        refines_step reached lasts.1 taken goesOn (lasts.2 _ taken)
      rw [grown]
      exact ⟨acts ++ actsOn, exec_append ran ranOn⟩

end SioClient
end VoiceCall.Signalling
