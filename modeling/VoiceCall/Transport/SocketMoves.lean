import VoiceCall.Transport.Socket

namespace VoiceCall.Transport.Socket
open Foundation

variable {Double Callback : Type}

/-- The smallest changes that the calls of the application are made of. -/
inductive CallMove : Socket Double Callback → Socket Double Callback → Prop
  | armed (socket : Socket Double Callback) (connectionTimer : Option (List Wait)) :
      CallMove socket { socket with connectionTimer }
  | ended (socket : Socket Double Callback) (connectionTimer : Option (List Wait))
      (added : List Handler) :
      CallMove socket { socket with connectionTimer, ready := socket.ready ++ added }
  | listeners (socket : Socket Double Callback)
      (eventBinding : Members (List UInt8) (Option Callback))
      (eventListener errorListener : Option Callback) :
      CallMove socket { socket with eventBinding, eventListener, errorListener }
  | asked (socket : Socket Double Callback) (packet : Packet Double)
      (data : packet.type = typeEvent + typeUndetermined ∨ packet.type = typeDisconnect)
      (open' : socket.hasClient = true) (named : packet.nsp = socket.nsp) :
      CallMove socket (socket.sendPacket packet)
  | registered (socket : Socket Double Callback) (callback : Callback)
      (open' : socket.hasClient = true) :
      CallMove socket ({ socket with
        globalEventId := socket.globalEventId + 1
        acks := Members.insert socket.globalEventId callback socket.acks }.note
          (.registered socket.globalEventId callback))

/-- The calls of the application are chains of their moves. -/
abbrev CallMoves : Socket Double Callback → Socket Double Callback → Prop :=
  Relation.ReflTransGen CallMove

/-- The smallest changes that the methods of a socket are made of. -/
inductive Move : Socket Double Callback → Socket Double Callback → Prop
  | call {socket next : Socket Double Callback} (moved : CallMove socket next) : Move socket next
  | counted (socket : Socket Double Callback) :
      Move socket { socket with globalEventId := socket.globalEventId + 1 }
  | answered (socket : Socket Double Callback) (packet : Packet Double)
      (data : packet.type = typeAck + typeUndetermined) (open' : socket.hasClient = true)
      (named : packet.nsp = socket.nsp) : Move socket (socket.sendPacket packet)
  | connecting (socket : Socket Double Callback) (open' : socket.hasClient = true) :
      Move socket (socket.note (.sent (.ofType typeConnect socket.nsp socket.auth)))
  | opened (socket : Socket Double Callback) (open' : socket.hasClient = true)
      (unanswered : socket.connected = false) :
      Move socket ({ socket with connected := true }.note .opened)
  | drained (socket : Socket Double Callback) : Move socket socket.drain
  | dropped (socket : Socket Double Callback) (empty : socket.packetQueue = []) :
      Move socket { socket with connected := false }
  | closed (socket : Socket Double Callback) (open' : socket.hasClient = true) :
      Move socket ({ socket with
        hasClient := false
        connected := false
        packetQueue := [] }.note .closed)
  | removed (socket : Socket Double Callback) (gone : socket.hasClient = false) :
      Move socket (socket.note .removed)
  | heard (socket : Socket Double Callback) (event : Event Double) (packId : Int)
      (open' : socket.hasClient = true) : Move socket (socket.note (.heard event packId))
  | listened (socket : Socket Double Callback) (listener : Callback) (event : Event Double)
      (open' : socket.hasClient = true) : Move socket (socket.note (.listened listener event))
  | failed (socket : Socket Double Callback) (listener : Callback) (message : Message Double)
      (open' : socket.hasClient = true) : Move socket (socket.note (.failed listener message))
  | acked (socket : Socket Double Callback) (id : UInt32) (callback : Callback)
      (messages : List (Message Double)) (open' : socket.hasClient = true)
      (found : Members.find id socket.acks = some callback) :
      Move socket ({ socket with acks := Members.erase id socket.acks }.note
        (.acked id callback messages))

/-- The moves of a method follow each other. -/
abbrev Moves : Socket Double Callback → Socket Double Callback → Prop :=
  Relation.ReflTransGen Move

/-- A settled socket that is connected has a client and keeps no packet. -/
structure Settled (socket : Socket Double Callback) : Prop where
  open' : socket.connected = true → socket.hasClient = true
  empty : socket.connected = true → socket.packetQueue = []

variable {socket next : Socket Double Callback}

theorem CallMoves.moves (chain : CallMoves socket next) : Moves socket next :=
  Relation.ReflTransGen.mono (fun _ _ moved => Move.call moved) _ _ chain

/-! ### Calls of the application -/

theorem callMoves_sendPacket (socket : Socket Double Callback) (packet : Packet Double)
    (data : packet.type = typeEvent + typeUndetermined ∨ packet.type = typeDisconnect)
    (named : packet.nsp = socket.nsp) : CallMoves socket (socket.sendPacket packet) := by
  by_cases gone : socket.hasClient = false
  · rw [sendPacket, if_pos gone]
  · exact .single (.asked socket packet data (Bool.not_eq_false _ ▸ gone) named)

theorem callMoves_emit (socket : Socket Double Callback) (name : List UInt8)
    (messages : List (Message Double)) (ack : Option Callback) :
    CallMoves socket (socket.emit name messages ack) := by
  unfold emit
  split_ifs with gone
  · exact .refl
  · cases ack with
    | none => exact callMoves_sendPacket socket _ (.inl rfl) rfl
    | some callback =>
        have open' : socket.hasClient = true := Bool.not_eq_false _ ▸ gone
        exact .head (.registered socket callback open') (callMoves_sendPacket _ _ (.inl rfl) rfl)

theorem callMoves_resetTimer (socket : Socket Double Callback) (timer : Option (List Wait)) :
    CallMoves socket (socket.resetTimer timer) :=
  .single (.ended socket timer _)

theorem callMoves_cancelTimer (socket : Socket Double Callback) :
    CallMoves socket socket.cancelTimer :=
  .single (.ended socket _ _)

theorem callMoves_asyncWait (socket : Socket Double Callback) (wait : Wait) :
    CallMoves socket (socket.asyncWait wait) :=
  .single (.armed socket _)

theorem callMoves_close (socket : Socket Double Callback) : CallMoves socket socket.close := by
  have sent :=
    callMoves_sendPacket socket (.ofType typeDisconnect socket.nsp .nullptr) (.inr rfl) rfl
  unfold close
  dsimp only
  generalize socket.sendPacket (.ofType typeDisconnect socket.nsp .nullptr) = asking at sent ⊢
  split_ifs
  · exact .refl
  · exact sent.trans ((callMoves_resetTimer _ _).trans
      ((callMoves_cancelTimer _).trans (callMoves_asyncWait _ _)))
  · exact sent.trans ((callMoves_cancelTimer _).trans (callMoves_asyncWait _ _))
  · exact .refl

theorem callMoves_call (socket : Socket Double Callback) (call : Call Double Callback) :
    CallMoves socket (socket.call call) := by
  cases call with
  | emit name messages ack => exact callMoves_emit socket name messages ack
  | close => exact callMoves_close socket
  | on | onAny | onError | off | offAll | offError => exact .single (.listeners socket _ _ _)

theorem callMoves_perform (socket : Socket Double Callback)
    (calls : List (Call Double Callback)) : CallMoves socket (socket.perform calls) := by
  induction calls generalizing socket with
  | nil => exact .refl
  | cons call calls ih => exact (callMoves_call socket call).trans (ih (socket.call call))

theorem sendPacket_keeps (packet : Packet Double) :
    (socket.sendPacket packet).hasClient = socket.hasClient ∧
      (socket.sendPacket packet).connected = socket.connected := by
  unfold sendPacket
  split_ifs <;> exact ⟨rfl, rfl⟩

/-- The application's calls neither open nor close a socket. -/
theorem CallMove.keeps (moved : CallMove socket next) :
    next.hasClient = socket.hasClient ∧ next.connected = socket.connected := by
  cases moved with
  | armed | ended | listeners | registered => exact ⟨rfl, rfl⟩
  | asked packet => exact sendPacket_keeps packet

theorem CallMoves.keeps (chain : CallMoves socket next) :
    next.hasClient = socket.hasClient ∧ next.connected = socket.connected := by
  induction chain with
  | refl => exact ⟨rfl, rfl⟩
  | tail _ moved ih => exact ⟨moved.keeps.1.trans ih.1, moved.keeps.2.trans ih.2⟩

theorem perform_hasClient (calls : List (Call Double Callback)) :
    (socket.perform calls).hasClient = socket.hasClient :=
  (callMoves_perform socket calls).keeps.1

theorem perform_connected (calls : List (Call Double Callback)) :
    (socket.perform calls).connected = socket.connected :=
  (callMoves_perform socket calls).keeps.2

theorem listen_hasClient (listener : Option Callback) (event : Event Double)
    (reaction : Reaction Double Callback) (ackMessage : List (Message Double)) :
    (socket.listen listener event reaction ackMessage).1.hasClient = socket.hasClient := by
  cases listener with
  | none => rfl
  | some callback => exact perform_hasClient reaction.calls

theorem callListeners_hasClient (event : Event Double) (bound any : Reaction Double Callback) :
    (socket.callListeners event bound any).1.hasClient = socket.hasClient :=
  (listen_hasClient _ event any _).trans (listen_hasClient _ event bound [])

/-! ### Methods that the client and the timer call -/

theorem moves_resetTimer (socket : Socket Double Callback) (timer : Option (List Wait)) :
    Moves socket (socket.resetTimer timer) :=
  (callMoves_resetTimer socket timer).moves

theorem moves_perform (socket : Socket Double Callback) (calls : List (Call Double Callback)) :
    Moves socket (socket.perform calls) :=
  (callMoves_perform socket calls).moves

theorem moves_sendConnect (socket : Socket Double Callback) : Moves socket socket.sendConnect := by
  unfold sendConnect
  split_ifs with gone
  · exact .refl
  · exact .head (.connecting socket (Bool.not_eq_false _ ▸ gone))
      ((moves_resetTimer _ _).trans (callMoves_asyncWait _ _).moves)

theorem onConnected_unanswered (unanswered : socket.connected = false)
    (calls : List (Call Double Callback)) :
    socket.onConnected calls =
      (({ socket.resetTimer none with connected := true }.note .opened).perform calls).drain := by
  have still : (socket.resetTimer none).connected = false := unanswered
  rw [onConnected, if_neg (still ▸ Bool.false_ne_true)]

theorem moves_onConnected (socket : Socket Double Callback) (calls : List (Call Double Callback))
    (open' : socket.hasClient = true) : Moves socket (socket.onConnected calls) := by
  unfold onConnected
  dsimp only
  split_ifs with connected
  · exact moves_resetTimer socket none
  · have unanswered : (socket.resetTimer none).connected = false := Bool.not_eq_true _ ▸ connected
    refine (moves_resetTimer socket none).trans ?_
    refine .head (.opened (socket.resetTimer none) open' unanswered) ?_
    exact (moves_perform _ calls).tail (.drained _)

theorem moves_onClose (socket : Socket Double Callback) (calls : List (Call Double Callback)) :
    Moves socket (socket.onClose calls) := by
  unfold onClose
  split_ifs with gone
  · exact .refl
  · have open' : (socket.resetTimer none).hasClient = true := Bool.not_eq_false _ ▸ gone
    refine (moves_resetTimer socket none).trans (.head (.closed _ open') ?_)
    exact (moves_perform _ calls).tail (.removed _ (perform_hasClient calls))

theorem moves_onDisconnect (settled : Settled socket) : Moves socket socket.onDisconnect := by
  unfold onDisconnect
  split_ifs with connected
  · have empty := settled.empty connected.2
    have same : { socket with connected := false, packetQueue := [] } =
        { socket with connected := false } := by
      rw [← empty]
    rw [same]
    exact .single (.dropped socket empty)
  · exact .refl

theorem moves_listen (socket : Socket Double Callback) (listener : Option Callback)
    (event : Event Double) (reaction : Reaction Double Callback)
    (ackMessage : List (Message Double)) (open' : socket.hasClient = true) :
    Moves socket (socket.listen listener event reaction ackMessage).1 := by
  cases listener with
  | none => exact .refl
  | some callback =>
      exact .head (.listened socket callback event open') (moves_perform _ reaction.calls)

theorem moves_callListeners (socket : Socket Double Callback) (event : Event Double)
    (bound any : Reaction Double Callback) (open' : socket.hasClient = true) :
    Moves socket (socket.callListeners event bound any).1 :=
  (moves_listen socket _ event bound [] open').trans
    (moves_listen _ _ event any _ ((listen_hasClient _ event bound []).trans open'))

theorem moves_onSocketioEvent (socket : Socket Double Callback) (packId : Int) (name : List UInt8)
    (messages : List (Message Double)) (bound any : Reaction Double Callback)
    (open' : socket.hasClient = true) :
    Moves socket (socket.onSocketioEvent packId name messages bound any) := by
  have called (event : Event Double) : Moves socket
      ((socket.note (.heard event packId)).callListeners event bound any).1 :=
    .head (.heard socket event packId open') (moves_callListeners _ event bound any open')
  unfold onSocketioEvent
  dsimp only
  split_ifs
  · exact (called _).tail
      (.answered _ _ rfl ((callListeners_hasClient _ bound any).trans open') rfl)
  · exact called _

theorem moves_onSocketioAck (socket : Socket Double Callback) (packId : Int)
    (messages : List (Message Double)) (calls : List (Call Double Callback))
    (open' : socket.hasClient = true) :
    Moves socket (socket.onSocketioAck packId messages calls) := by
  unfold onSocketioAck
  dsimp only
  cases found : Members.find (UInt32.ofInt packId) socket.acks with
  | none => exact .refl
  | some callback =>
      exact .head (.acked socket _ callback messages open' found) (moves_perform _ calls)

theorem moves_onSocketioError (socket : Socket Double Callback) (message : Message Double)
    (calls : List (Call Double Callback)) (open' : socket.hasClient = true) :
    Moves socket (socket.onSocketioError message calls) := by
  unfold onSocketioError
  cases socket.errorListener with
  | none => exact .refl
  | some listener => exact .head (.failed socket listener message open') (moves_perform _ calls)

theorem moves_onMessagePacket {packet : Packet Double} {reactions : Reactions Double Callback}
    (taken : socket.onMessagePacket packet reactions = some next) : Moves socket next := by
  unfold onMessagePacket at taken
  split at taken
  · cases taken
    exact .refl
  · next other =>
    have open' : socket.hasClient = true := by
      cases has : socket.hasClient with
      | false => exact absurd (.inl has) other
      | true => rfl
    split_ifs at taken
    · cases taken
      exact moves_onConnected socket _ open'
    · cases taken
      exact moves_onClose socket _
    · split at taken <;> cases taken
      · exact moves_onSocketioEvent socket _ _ _ _ _ open'
      · exact .refl
    · split at taken <;> cases taken
      · exact moves_onSocketioAck socket _ _ _ open'
      · exact moves_onSocketioAck socket _ _ _ open'
    · cases taken
      exact moves_onSocketioError socket _ _ open'
    · cases taken
      exact .refl

theorem moves_timeoutConnection (socket : Socket Double Callback) (aborted : Bool)
    (calls : List (Call Double Callback)) :
    Moves socket (socket.timeoutConnection aborted calls) := by
  unfold timeoutConnection
  split_ifs
  · exact .refl
  · exact (moves_resetTimer socket none).trans (moves_onClose _ calls)

theorem moves_handle (socket : Socket Double Callback) (handler : Handler)
    (calls : List (Call Double Callback)) : Moves socket (socket.handle handler calls) := by
  unfold handle
  cases handler.wait with
  | timeoutConnection => exact moves_timeoutConnection socket _ calls
  | onClose => exact moves_onClose socket calls

/-- A handler that runs is no longer ready. -/
def begin (socket : Socket Double Callback) : Act Double Callback → Socket Double Callback
  | .handled _ => { socket with ready := socket.ready.tail }
  | _ => socket

/-- Each act of a settled socket is a chain of moves once it has begun. -/
theorem moves_step {act : Act Double Callback} (settled : Settled socket)
    (taken : socket.step act = some next) : Moves (socket.begin act) next := by
  cases act with
  | call call => cases taken; exact (callMoves_call socket call).moves
  | opened => cases taken; exact moves_sendConnect socket
  | disconnected => cases taken; exact moves_onDisconnect settled
  | packet packet reactions => exact moves_onMessagePacket taken
  | expired => cases taken; exact .single (.call (.ended socket _ _))
  | handled calls =>
      rw [begin]
      rw [step] at taken
      cases ready : socket.ready with
      | nil =>
          rw [ready] at taken
          cases taken
          rw [List.tail_nil, ← ready]
      | cons handler rest =>
          rw [ready] at taken
          cases taken
          exact moves_handle _ handler calls
  | abandoned calls => cases taken; exact moves_onClose socket calls
  | counted => cases taken; exact .single (.counted socket)

/-! ### Settled sockets -/


namespace Settled

theorem of_same (settled : Settled socket) (hasClient : next.hasClient = socket.hasClient)
    (connected : next.connected = socket.connected)
    (queue : next.packetQueue = socket.packetQueue) : Settled next where
  open' isConnected := hasClient.trans (settled.open' (connected ▸ isConnected))
  empty isConnected := queue.trans (settled.empty (connected ▸ isConnected))

theorem note (settled : Settled socket) (entry : Note Double Callback) :
    Settled (socket.note entry) :=
  settled.of_same rfl rfl rfl

theorem of_unconnected (unconnected : next.connected = false) : Settled next where
  open' isConnected := absurd isConnected (by simp [unconnected])
  empty isConnected := absurd isConnected (by simp [unconnected])

theorem sendPacket (settled : Settled socket) (packet : Packet Double) :
    Settled (socket.sendPacket packet) := by
  cases open' : socket.hasClient with
  | false =>
      rw [Socket.sendPacket, if_pos open']
      exact settled
  | true =>
      cases connected : socket.connected with
      | false =>
          rw [Socket.sendPacket, if_neg (by simp [open']), if_neg (by simp [connected])]
          exact of_unconnected connected
      | true =>
          rw [Socket.sendPacket, if_neg (by simp [open']), if_pos connected]
          exact ⟨fun _ => open', fun _ => rfl⟩

theorem callMoves (settled : Settled socket) (chain : CallMoves socket next) : Settled next := by
  induction chain with
  | refl => exact settled
  | tail _ moved ih =>
      cases moved with
      | armed | ended | listeners | registered => exact ih.of_same rfl rfl rfl
      | asked packet => exact ih.sendPacket packet

theorem perform (settled : Settled socket) (calls : List (Call Double Callback)) :
    Settled (socket.perform calls) :=
  settled.callMoves (callMoves_perform socket calls)

theorem sendConnect (settled : Settled socket) : Settled socket.sendConnect := by
  unfold Socket.sendConnect
  split_ifs
  · exact settled
  · exact settled.of_same rfl rfl rfl

theorem onConnected (settled : Settled socket) (calls : List (Call Double Callback))
    (open' : socket.hasClient = true) : Settled (socket.onConnected calls) := by
  unfold Socket.onConnected
  dsimp only
  split_ifs
  · exact settled.of_same rfl rfl rfl
  · exact ⟨fun _ => (perform_hasClient calls).trans open', fun _ => rfl⟩

theorem onClose (settled : Settled socket) (calls : List (Call Double Callback)) :
    Settled (socket.onClose calls) := by
  unfold Socket.onClose
  split_ifs
  · exact settled
  · exact of_unconnected (perform_connected calls)

theorem onDisconnect (settled : Settled socket) : Settled socket.onDisconnect := by
  unfold Socket.onDisconnect
  split_ifs
  · exact of_unconnected rfl
  · exact settled

theorem listen (settled : Settled socket) (listener : Option Callback) (event : Event Double)
    (reaction : Reaction Double Callback) (ackMessage : List (Message Double)) :
    Settled (socket.listen listener event reaction ackMessage).1 := by
  cases listener with
  | none => exact settled
  | some callback => exact (settled.note (.listened callback event)).perform reaction.calls

theorem onSocketioEvent (settled : Settled socket) (packId : Int) (name : List UInt8)
    (messages : List (Message Double)) (bound any : Reaction Double Callback) :
    Settled (socket.onSocketioEvent packId name messages bound any) := by
  have called (event : Event Double) :
      Settled ((socket.note (.heard event packId)).callListeners event bound any).1 :=
    ((settled.note (.heard event packId)).listen _ event bound []).listen _ event any _
  unfold Socket.onSocketioEvent
  dsimp only
  split_ifs
  · exact (called _).sendPacket _
  · exact called _

theorem onSocketioAck (settled : Settled socket) (packId : Int)
    (messages : List (Message Double)) (calls : List (Call Double Callback)) :
    Settled (socket.onSocketioAck packId messages calls) := by
  unfold Socket.onSocketioAck
  dsimp only
  split
  · exact settled
  · apply perform
    exact settled.of_same rfl rfl rfl

theorem onSocketioError (settled : Settled socket) (message : Message Double)
    (calls : List (Call Double Callback)) :
    Settled (socket.onSocketioError message calls) := by
  unfold Socket.onSocketioError
  split
  · exact settled
  · apply perform
    exact settled.of_same rfl rfl rfl

theorem onMessagePacket (settled : Settled socket) {packet : Packet Double}
    {reactions : Reactions Double Callback}
    (taken : socket.onMessagePacket packet reactions = some next) : Settled next := by
  unfold Socket.onMessagePacket at taken
  split at taken
  · cases taken
    exact settled
  · next other =>
    have open' : socket.hasClient = true := by
      cases has : socket.hasClient with
      | false => exact absurd (.inl has) other
      | true => rfl
    split_ifs at taken
    · cases taken
      exact settled.onConnected _ open'
    · cases taken
      exact settled.onClose _
    · split at taken <;> cases taken
      · exact settled.onSocketioEvent _ _ _ _ _
      · exact settled
    · split at taken <;> cases taken
      · exact settled.onSocketioAck _ _ _
      · exact settled.onSocketioAck _ _ _
    · cases taken
      exact settled.onSocketioError _ _
    · cases taken
      exact settled

theorem handle (settled : Settled socket) (handler : Handler)
    (calls : List (Call Double Callback)) : Settled (socket.handle handler calls) := by
  unfold Socket.handle
  cases handler.wait with
  | timeoutConnection =>
      unfold timeoutConnection
      dsimp only
      split_ifs
      · exact settled
      · apply Settled.onClose
        exact settled.of_same rfl rfl rfl
  | onClose => exact settled.onClose calls

theorem step (settled : Settled socket) {act : Act Double Callback}
    (taken : socket.step act = some next) : Settled next := by
  cases act with
  | call call => cases taken; exact settled.callMoves (callMoves_call socket call)
  | opened => cases taken; exact settled.sendConnect
  | disconnected => cases taken; exact settled.onDisconnect
  | packet packet reactions => exact settled.onMessagePacket taken
  | expired => cases taken; exact settled.of_same rfl rfl rfl
  | handled calls =>
      rw [Socket.step] at taken
      split at taken <;> cases taken
      · exact settled
      · apply handle
        exact settled.of_same rfl rfl rfl
  | abandoned calls => cases taken; exact settled.onClose calls
  | counted => cases taken; exact settled.of_same rfl rfl rfl

end Settled

theorem settled_create (globalEventId : UInt32) (clientOpened : Bool) (nsp : List UInt8)
    (auth : Message Double) :
    Settled (create globalEventId clientOpened nsp auth : Socket Double Callback) := by
  unfold create
  dsimp only
  split_ifs
  · exact (Settled.of_unconnected rfl).sendConnect
  · exact Settled.of_unconnected rfl

theorem settled_of_reachable (reached : machine.Reachable socket) : Settled socket :=
  reached.invariant
    (fun _ ⟨globalEventId, clientOpened, nsp, auth, created⟩ =>
      created ▸ settled_create globalEventId clientOpened nsp auth)
    (fun _ _ _ settled _ taken => settled.step taken)

/-- What a new socket has, and each move and each handler that begins keeps, every reachable
socket has. -/
theorem moves_induction {property : Socket Double Callback → Prop}
    (created : ∀ globalEventId clientOpened nsp auth,
      property (create globalEventId clientOpened nsp auth))
    (begun : ∀ socket ready, property socket → property { socket with ready })
    (moved : ∀ socket next, property socket → Move socket next → property next)
    (reached : machine.Reachable socket) : property socket := by
  induction reached with
  | initial start =>
      obtain ⟨globalEventId, clientOpened, nsp, auth, rfl⟩ := start
      exact created globalEventId clientOpened nsp auth
  | @step before _ act reachedBefore _ taken holds =>
      have chain := moves_step (settled_of_reachable reachedBefore) taken
      have start : property (before.begin act) := by
        cases act with
        | handled => exact begun before _ holds
        | _ => exact holds
      clear taken
      induction chain with
      | refl => exact start
      | tail _ move ih => exact moved _ _ ih move

/-! ### A sample run -/

/-- The application's functions do nothing. -/
def idle : Reactions Double Callback := ⟨[], [], ⟨[], none⟩, ⟨[], none⟩, [], []⟩

def fresh : Socket Empty Nat := create 1 false (ascii "/") .nullptr

/-- A counted registration waits for the server's answer to the connect. -/
def registering : List (Act Empty Nat) :=
  [.call (.emit (ascii "register") [.string (ascii "bob")] (some 7)), .opened,
    .packet (.ofType typeConnect (ascii "/") .nullptr) idle]

/-- The server acknowledges the registration and asks for an answer of its own. -/
def acknowledged : List (Act Empty Nat) :=
  [.packet { (.ofType typeAck (ascii "/") (.array []) : Packet Empty) with packId := 1 } idle,
    .packet { (.ofType typeEvent (ascii "/") (.array [.string (ascii "offer")]) : Packet Empty) with
      packId := 3 } idle]

theorem fresh_initial : machine.initial fresh := ⟨1, false, ascii "/", .nullptr, rfl⟩

def registered : Socket Empty Nat := (machine.exec fresh registering).get rfl

theorem registered_reachable : machine.Reachable registered :=
  Machine.Reachable.exec (.initial fresh_initial) (Option.some_get _).symm

def answered : Socket Empty Nat := (machine.exec registered acknowledged).get rfl

theorem answered_reachable : machine.Reachable answered :=
  Machine.Reachable.exec registered_reachable (Option.some_get _).symm

end VoiceCall.Transport.Socket
