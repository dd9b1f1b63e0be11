import VoiceCall.Transport.Connection
import VoiceCall.Transport.Socket

namespace VoiceCall.Transport
open Foundation

variable {Double Callback : Type}

namespace Socket

def Note.packet : Note Double Callback → Option (Packet Double)
  | .sent packet => some packet
  | _ => none

/-- The packets that a socket hands to its client in an act. -/
def sentSince (before after : Socket Double Callback) : List (Packet Double) :=
  (after.log.drop before.log.length).filterMap Note.packet

end Socket

/-- A client with its sockets, and the counter of identifiers that they share. -/
structure Endpoint (Double Callback : Type) where
  connection : Connection Double
  sockets : Members (List UInt8) (Socket Double Callback)
  globalEventId : UInt32

namespace Endpoint

/-- This function is `sockets_invoke_void`. -/
def socketsInvoke (sockets : Members (List UInt8) (Socket Double Callback))
    (call : Socket Double Callback → Socket Double Callback) :
    Members (List UInt8) (Socket Double Callback) × List (Packet Double) :=
  (sockets.map fun member => (member.1, call member.2),
    sockets.flatMap fun member => member.2.sentSince (call member.2))

/-- A namespace without a socket gets one, which connects at once under an open client. -/
def socket (endpoint : Endpoint Double Callback) (clientOpened : Bool) (nsp : List UInt8) :
    Endpoint Double Callback × List (Packet Double) :=
  match Members.find nsp endpoint.sockets with
  | some _ => (endpoint, [])
  | none =>
      let socket : Socket Double Callback :=
        .create endpoint.globalEventId clientOpened nsp endpoint.connection.auth
      ({ endpoint with sockets := Members.insert nsp socket endpoint.sockets },
        socket.log.filterMap Socket.Note.packet)

/-- One socket acts and counts its events on. A socket that has lost its client goes. -/
def act (endpoint : Endpoint Double Callback) (nsp : List UInt8)
    (act : Socket.Act Double Callback) :
    Option (Endpoint Double Callback × List (Packet Double)) :=
  match Members.find nsp endpoint.sockets with
  | none => some (endpoint, [])
  | some socket =>
      let socket := { socket with globalEventId := endpoint.globalEventId }
      (socket.step act).map fun next =>
        ({ endpoint with
          sockets := if next.hasClient then Members.insert nsp next endpoint.sockets
            else Members.erase nsp endpoint.sockets
          globalEventId := next.globalEventId }, socket.sentSince next)

/-- A client forgets a namespace that has no socket. -/
def forget (endpoint : Endpoint Double Callback) (nsp : List UInt8) : Endpoint Double Callback :=
  if (Members.find nsp endpoint.sockets).isSome then endpoint
  else { endpoint with connection := endpoint.connection.removeSocket nsp }

/-- No socket waits for its timer. -/
def Idle (endpoint : Endpoint Double Callback) : Prop :=
  ∀ member ∈ endpoint.sockets, member.2.connectionTimer.getD [] = [] ∧ member.2.ready = []

instance (endpoint : Endpoint Double Callback) : Decidable endpoint.Idle :=
  inferInstanceAs (Decidable (∀ member ∈ endpoint.sockets, _))

/-- What happens to a client and its sockets. A socket is called on either thread. -/
inductive Act (Double Callback : Type) where
  | alone (act : Connection.Act Double)
  | ended
  | socket (nsp : List UInt8)
  | call (onNetwork : Bool) (nsp : List UInt8) (call : Socket.Call Double Callback)
  | close
  | syncClose
  | opened
  | failed
  | closed (code : Nat)
  | message (payload : List UInt8) (reactions : Socket.Reactions Double Callback)
  | expired (nsp : List UInt8)
  | handled (nsp : List UInt8) (calls : List (Socket.Call Double Callback))

/-- The acts of a client that do not concern its sockets. -/
def isAlone : Connection.Act Double → Bool
  | .connect _ _ _ | .setReconnectAttempts _ | .setReconnectDelay _ | .setReconnectDelayMax _
  | .joined | .ran | .reconnExpired | .pingExpired => true
  | _ => false

variable [DoubleText Double]

/-- The packet for a socket that a payload completes. -/
def incoming (connection : Connection Double) (payload : List UInt8) : Option (Packet Double) :=
  (connection.packetMgr.putPayload payload).bind fun manager =>
    (manager.decoded.drop connection.packetMgr.decoded.length).find? fun packet =>
      packet.frame = frameMessage

def client (platform : Platform) (endpoint : Endpoint Double Callback)
    (act : Connection.Act Double) : Option (Endpoint Double Callback) :=
  ((Connection.machine platform).step endpoint.connection act).map fun connection =>
    { endpoint with connection }

/-- The sockets do their part of an act, and the client sends what they send. -/
def step (platform : Platform) (endpoint : Endpoint Double Callback) :
    Act Double Callback → Option (Endpoint Double Callback)
  | .alone act => if isAlone act then endpoint.client platform act else none
  | .ended => if endpoint.Idle then endpoint.client platform .ended else none
  | .socket nsp =>
      let made := endpoint.socket (endpoint.connection.conState = .opened)
        (Connection.namespaceOf nsp)
      (made.1.client platform (.socket nsp)).bind fun next =>
        next.client platform (.send false made.2)
  | .call onNetwork nsp call =>
      (endpoint.act nsp (.call call)).bind fun acted =>
        acted.1.client platform (.send onNetwork acted.2)
  | .close =>
      let asked := socketsInvoke endpoint.sockets Socket.close
      { endpoint with sockets := asked.1 }.client platform (.close asked.2)
  | .syncClose =>
      let asked := socketsInvoke endpoint.sockets Socket.close
      { endpoint with sockets := asked.1 }.client platform (.syncClose asked.2)
  | .opened =>
      if endpoint.connection.conState = .closing then
        let asked := socketsInvoke endpoint.sockets Socket.close
        { endpoint with sockets := asked.1 }.client platform (.opened asked.2)
      else
        let told := socketsInvoke endpoint.sockets Socket.onOpen
        let made := { endpoint with sockets := told.1 }.socket true (Connection.namespaceOf [])
        made.1.client platform (.opened (told.2 ++ made.2))
  | .failed =>
      if endpoint.connection.conState = .closing then
        let asked := socketsInvoke endpoint.sockets Socket.close
        { endpoint with sockets := asked.1 }.client platform (.failed asked.2)
      else
        let told := socketsInvoke endpoint.sockets Socket.onDisconnect
        { endpoint with sockets := told.1 }.client platform (.failed told.2)
  | .closed code =>
      let told := socketsInvoke endpoint.sockets Socket.onDisconnect
      { endpoint with sockets := told.1 }.client platform (.closed code)
  | .message payload reactions =>
      match incoming endpoint.connection payload with
      | none => endpoint.client platform (.message payload [])
      | some packet =>
          (endpoint.act packet.nsp (.packet packet reactions)).bind fun acted =>
            (acted.1.client platform (.message payload acted.2)).map (·.forget packet.nsp)
  | .expired nsp =>
      if endpoint.connection.running = true then (endpoint.act nsp .expired).map Prod.fst else none
  | .handled nsp calls =>
      (endpoint.act nsp (.handled calls)).bind fun acted =>
        (acted.1.client platform (.send true acted.2)).map (·.forget nsp)

/-- A client begins without sockets. -/
def machine (platform : Platform) : Machine (Endpoint Double Callback) (Act Double Callback) where
  initial endpoint := endpoint.connection = .initial ∧ endpoint.sockets = []
  step := step platform

end Endpoint
end VoiceCall.Transport
