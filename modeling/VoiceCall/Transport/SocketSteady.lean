import VoiceCall.Transport.Endpoint
import VoiceCall.Transport.SocketLife

namespace VoiceCall.Transport.Socket
open Foundation

variable {Double Callback : Type}

/-- A packet that a socket may send while it waits for the answer to its connect. -/
def Note.Early : Note Double Callback → Prop
  | .sent packet => packet.type = typeConnect
  | _ => True

/-- A socket in a steady state is not answered, and sends what is not early only if it was
connected before. -/
structure Steady (socket next : Socket Double Callback) : Prop where
  nsp : next.nsp = socket.nsp
  connected : next.connected = true → socket.connected = true
  log : ∃ added, next.log = socket.log ++ added ∧
    (socket.connected = false → ∀ entry ∈ added, entry.Early)

variable {socket middle next : Socket Double Callback}

namespace Steady

theorem refl (socket : Socket Double Callback) : Steady socket socket :=
  ⟨rfl, id, [], (List.append_nil _).symm, fun _ _ member => absurd member List.not_mem_nil⟩

theorem trans (first : Steady socket middle) (second : Steady middle next) :
    Steady socket next := by
  obtain ⟨added, grown, early⟩ := first.log
  obtain ⟨later, grownLater, earlyLater⟩ := second.log
  refine ⟨second.nsp.trans first.nsp, first.connected ∘ second.connected, added ++ later, ?_, ?_⟩
  · rw [grownLater, grown, List.append_assoc]
  · intro unconnected entry member
    have still : middle.connected = false := by
      by_contra connected
      exact absurd (first.connected (Bool.not_eq_false _ ▸ connected)) (by simp [unconnected])
    rcases List.mem_append.mp member with before | after
    · exact early unconnected entry before
    · exact earlyLater still entry after

/-- A socket that notes nothing and is not connected meanwhile is steady. -/
theorem same (nsp : next.nsp = socket.nsp)
    (connected : next.connected = true → socket.connected = true)
    (log : next.log = socket.log) : Steady socket next :=
  ⟨nsp, connected, [], log.trans (List.append_nil _).symm,
    fun _ _ member => absurd member List.not_mem_nil⟩

theorem note (socket : Socket Double Callback) (entry : Note Double Callback)
    (early : entry.Early) : Steady socket (socket.note entry) :=
  ⟨rfl, id, [entry], rfl, fun _ => List.forall_mem_singleton.mpr early⟩

theorem resetTimer (socket : Socket Double Callback) (timer : Option (List Wait)) :
    Steady socket (socket.resetTimer timer) :=
  same rfl id rfl

/-- A socket that is not connected keeps what it is to send. -/
theorem sendPacket (socket : Socket Double Callback) (packet : Packet Double) :
    Steady socket (socket.sendPacket packet) := by
  by_cases gone : socket.hasClient = false
  · rw [Socket.sendPacket, if_pos gone]
    exact refl socket
  · by_cases connected : socket.connected = true
    · rw [Socket.sendPacket, if_neg gone, if_pos connected]
      refine ⟨rfl, id, [.asked packet] ++ socket.packetQueue.map .sent ++ [.sent packet], ?_, ?_⟩
      · simp [Socket.note, drain]
      · exact fun unconnected => absurd connected (by simp [unconnected])
    · rw [Socket.sendPacket, if_neg gone, if_neg connected]
      exact (note socket (.asked packet) trivial).trans (same rfl id rfl)

theorem callMoves (chain : CallMoves socket next) : Steady socket next := by
  induction chain with
  | refl => exact refl socket
  | tail _ moved inductionHypothesis =>
      apply inductionHypothesis.trans
      cases moved with
      | armed | ended | listeners => exact same rfl id rfl
      | asked packet => exact sendPacket _ packet
      | registered callback =>
          have counted (socket : Socket Double Callback) (globalEventId : UInt32)
              (acks : Members UInt32 Callback) :
              Steady socket { socket with globalEventId, acks } := same rfl id rfl
          exact (counted _ _ _).trans (note _ (.registered _ callback) trivial)

theorem call (socket : Socket Double Callback) (call : Call Double Callback) :
    Steady socket (socket.call call) :=
  callMoves (callMoves_call socket call)

theorem perform (socket : Socket Double Callback) (calls : List (Call Double Callback)) :
    Steady socket (socket.perform calls) :=
  callMoves (callMoves_perform socket calls)

theorem onOpen (socket : Socket Double Callback) : Steady socket socket.onOpen := by
  unfold Socket.onOpen sendConnect
  split_ifs
  · exact refl socket
  · exact ((note socket (.sent (.ofType typeConnect socket.nsp socket.auth)) rfl).trans
      (resetTimer _ _)).trans (same rfl id rfl)

theorem onDisconnect (socket : Socket Double Callback) : Steady socket socket.onDisconnect := by
  unfold Socket.onDisconnect
  split_ifs
  · exact same rfl nofun rfl
  · exact refl socket

theorem onClose (socket : Socket Double Callback) (calls : List (Call Double Callback)) :
    Steady socket (socket.onClose calls) := by
  unfold Socket.onClose
  split_ifs
  · exact refl socket
  · have closed : Steady socket { socket.resetTimer none with
        hasClient := false
        connected := false
        packetQueue := [] } := same rfl nofun rfl
    exact ((closed.trans (note _ .closed trivial)).trans (perform _ calls)).trans
      (note _ .removed trivial)

theorem listen (socket : Socket Double Callback) (listener : Option Callback)
    (event : Event Double) (reaction : Reaction Double Callback)
    (ackMessage : List (Message Double)) :
    Steady socket (socket.listen listener event reaction ackMessage).1 := by
  cases listener with
  | none => exact refl socket
  | some callback =>
      exact (note socket (.listened callback event) trivial).trans (perform _ reaction.calls)

theorem onSocketioEvent (socket : Socket Double Callback) (packId : Int) (name : List UInt8)
    (messages : List (Message Double)) (bound any : Reaction Double Callback) :
    Steady socket (socket.onSocketioEvent packId name messages bound any) := by
  have called (event : Event Double) : Steady socket
      ((socket.note (.heard event packId)).callListeners event bound any).1 :=
    ((note socket (.heard event packId) trivial).trans (listen _ _ event bound [])).trans
      (listen _ _ event any _)
  unfold Socket.onSocketioEvent
  dsimp only
  split_ifs
  · exact (called _).trans (sendPacket _ _)
  · exact called _

theorem onSocketioAck (socket : Socket Double Callback) (packId : Int)
    (messages : List (Message Double)) (calls : List (Call Double Callback)) :
    Steady socket (socket.onSocketioAck packId messages calls) := by
  unfold Socket.onSocketioAck
  dsimp only
  split
  · exact refl socket
  · have taken (acks : Members UInt32 Callback) : Steady socket { socket with acks } :=
      same rfl id rfl
    exact ((taken _).trans (note _ (.acked _ _ messages) trivial)).trans (perform _ calls)

theorem onSocketioError (socket : Socket Double Callback) (message : Message Double)
    (calls : List (Call Double Callback)) :
    Steady socket (socket.onSocketioError message calls) := by
  unfold Socket.onSocketioError
  split
  · exact refl socket
  · exact (note socket (.failed _ message) trivial).trans (perform _ calls)

/-- Of the packets, only the answer to a connect connects a socket. -/
theorem onMessagePacket {packet : Packet Double} {reactions : Reactions Double Callback}
    (noAnswer : packet.type ≠ typeConnect)
    (taken : socket.onMessagePacket packet reactions = some next) : Steady socket next := by
  unfold Socket.onMessagePacket at taken
  rw [if_neg noAnswer] at taken
  split_ifs at taken
  · cases taken
    exact refl socket
  · cases taken
    exact onClose socket _
  · split at taken <;> cases taken
    · exact onSocketioEvent socket _ _ _ _ _
    · exact refl socket
  · split at taken <;> cases taken
    · exact onSocketioAck socket _ _ _
    · exact onSocketioAck socket _ _ _
  · cases taken
    exact onSocketioError socket _ _
  · cases taken
    exact refl socket

theorem handle (socket : Socket Double Callback) (handler : Handler)
    (calls : List (Call Double Callback)) : Steady socket (socket.handle handler calls) := by
  unfold Socket.handle
  cases handler.wait with
  | timeoutConnection =>
      unfold timeoutConnection
      dsimp only
      split_ifs
      · exact refl socket
      · exact (resetTimer socket none).trans (onClose _ calls)
  | onClose => exact onClose socket calls

end Steady

/-- The acts that do not answer the connect of a socket. -/
def Act.NoAnswer : Act Double Callback → Prop
  | .packet other _ => other.type ≠ typeConnect
  | _ => True

theorem steady_step {act : Act Double Callback} (noAnswer : act.NoAnswer)
    (taken : socket.step act = some next) : Steady socket next := by
  cases act with
  | call call =>
      cases taken
      exact .call socket call
  | opened =>
      cases taken
      exact .onOpen socket
  | disconnected =>
      cases taken
      exact .onDisconnect socket
  | packet packet reactions => exact .onMessagePacket noAnswer taken
  | expired =>
      cases taken
      exact .same rfl id rfl
  | handled calls =>
      rw [step] at taken
      split at taken <;> cases taken
      · exact .refl socket
      · have begun (ready : List Handler) : Steady socket { socket with ready } := .same rfl id rfl
        exact (begun _).trans (.handle _ _ calls)
  | abandoned calls =>
      cases taken
      exact .onClose socket calls
  | counted =>
      cases taken
      exact .same rfl id rfl

theorem log_drain (socket : Socket Double Callback) :
    ∃ added, socket.drain.log = socket.log ++ added := ⟨_, rfl⟩

theorem onConnected_keeps (socket : Socket Double Callback)
    (calls : List (Call Double Callback)) :
    (socket.onConnected calls).nsp = socket.nsp ∧
      ∃ added, (socket.onConnected calls).log = socket.log ++ added := by
  unfold onConnected
  dsimp only
  split_ifs
  · exact ⟨rfl, [], (List.append_nil _).symm⟩
  · have called := Steady.perform
      ({ socket.resetTimer none with connected := true }.note .opened) calls
    obtain ⟨added, grown, _⟩ := called.log
    obtain ⟨later, drained⟩ := log_drain
      (({ socket.resetTimer none with connected := true }.note .opened).perform calls)
    refine ⟨called.nsp, .opened :: (added ++ later), ?_⟩
    rw [drained, grown, note, List.append_assoc, List.append_assoc]
    rfl

/-- Whatever happens to a socket, it keeps its namespace and its notes. -/
theorem step_keeps {act : Act Double Callback} (taken : socket.step act = some next) :
    next.nsp = socket.nsp ∧ ∃ added, next.log = socket.log ++ added := by
  by_cases noAnswer : act.NoAnswer
  · have steady := steady_step noAnswer taken
    exact ⟨steady.nsp, steady.log.imp fun _ grown => grown.1⟩
  · cases act with
    | packet packet reactions =>
        have answer : packet.type = typeConnect := not_not.mp noAnswer
        rw [step, onMessagePacket, if_pos answer] at taken
        split_ifs at taken
        · cases taken
          exact ⟨rfl, [], (List.append_nil _).symm⟩
        · cases taken
          exact onConnected_keeps socket reactions.opened
    | _ => exact absurd trivial noAnswer

end VoiceCall.Transport.Socket
