import VoiceCall.Transport.Packet

namespace VoiceCall.Transport
open Foundation

variable {Double Callback : Type}

namespace Message

def isNullptr : Message Double → Bool
  | .nullptr => true
  | _ => false

/-- The arguments of an event form an array, behind its name if it has one. -/
def toArrayMessage (messages : List (Message Double)) : Message Double := .array messages

def toNamedArrayMessage (name : List UInt8) (messages : List (Message Double)) : Message Double :=
  .array (.string name :: messages)

end Message

/-- A socket waits for its timer to give up a connect or to end a close. -/
inductive Wait where
  | timeoutConnection
  | onClose
deriving DecidableEq, Repr

/-- A wait that is over is handled later, and keeps whether it was cancelled. -/
structure Handler where
  wait : Wait
  aborted : Bool
deriving DecidableEq, Repr

/-- An `event` as its listeners get it. -/
structure Event (Double : Type) where
  nsp : List UInt8
  name : List UInt8
  messages : List (Message Double)
  needAck : Bool

namespace Socket

/-- The calls of the application. An empty function is `none`. -/
inductive Call (Double Callback : Type) where
  | emit (name : List UInt8) (messages : List (Message Double)) (ack : Option Callback)
  | close
  | on (name : List UInt8) (listener : Option Callback)
  | onAny (listener : Option Callback)
  | onError (listener : Option Callback)
  | off (name : List UInt8)
  | offAll
  | offError

/-- What a listener does with an event: its calls, and the acknowledgement it puts if any. -/
structure Reaction (Double Callback : Type) where
  calls : List (Call Double Callback)
  ackMessage : Option (List (Message Double))

/-- What the application's functions do when a packet makes the socket call them. -/
structure Reactions (Double Callback : Type) where
  opened : List (Call Double Callback)
  closed : List (Call Double Callback)
  bound : Reaction Double Callback
  any : Reaction Double Callback
  acked : List (Call Double Callback)
  failed : List (Call Double Callback)

/-- What a socket does is noted in order. An open socket also notes what it is asked to send. -/
inductive Note (Double Callback : Type) where
  | asked (packet : Packet Double)
  | sent (packet : Packet Double)
  | registered (id : UInt32) (callback : Callback)
  | acked (id : UInt32) (callback : Callback) (messages : List (Message Double))
  | heard (event : Event Double) (packId : Int)
  | listened (listener : Callback) (event : Event Double)
  | failed (listener : Callback) (message : Message Double)
  | opened
  | closed
  | removed

end Socket

/-- The fields of `socket::impl`. The counter of identifiers belongs to the whole process. -/
structure Socket (Double Callback : Type) where
  globalEventId : UInt32
  hasClient : Bool
  connected : Bool
  nsp : List UInt8
  auth : Message Double
  acks : Members UInt32 Callback
  eventBinding : Members (List UInt8) (Option Callback)
  eventListener : Option Callback
  errorListener : Option Callback
  connectionTimer : Option (List Wait)
  packetQueue : List (Packet Double)
  ready : List Handler
  log : List (Socket.Note Double Callback)

namespace Socket

def note (socket : Socket Double Callback) (entry : Note Double Callback) :
    Socket Double Callback :=
  { socket with log := socket.log ++ [entry] }

/-- A cancelled timer makes its waits ready, each with an error. -/
def cancelTimer (socket : Socket Double Callback) : Socket Double Callback :=
  { socket with
    connectionTimer := socket.connectionTimer.map fun _ => []
    ready := socket.ready ++ (socket.connectionTimer.getD []).map (⟨·, true⟩) }

/-- A timer that is replaced or destroyed is cancelled. -/
def resetTimer (socket : Socket Double Callback) (timer : Option (List Wait)) :
    Socket Double Callback :=
  { socket.cancelTimer with connectionTimer := timer }

def asyncWait (socket : Socket Double Callback) (wait : Wait) : Socket Double Callback :=
  { socket with connectionTimer := socket.connectionTimer.map (· ++ [wait]) }

/-- An expired timer makes its waits ready without an error. -/
def expire (socket : Socket Double Callback) : Socket Double Callback :=
  { socket with
    connectionTimer := socket.connectionTimer.map fun _ => []
    ready := socket.ready ++ (socket.connectionTimer.getD []).map (⟨·, false⟩) }

/-- The waiting packets are sent first in, first out. -/
def drain (socket : Socket Double Callback) : Socket Double Callback :=
  { socket with
    packetQueue := []
    log := socket.log ++ socket.packetQueue.map .sent }

/-- A connected socket sends a packet behind those that wait, and any other keeps it. -/
def sendPacket (socket : Socket Double Callback) (packet : Packet Double) :
    Socket Double Callback :=
  if socket.hasClient = false then socket
  else if socket.connected then (socket.note (.asked packet)).drain.note (.sent packet)
  else { socket.note (.asked packet) with packetQueue := socket.packetQueue ++ [packet] }

/-- The packet of a counted event carries its identifier as an `int`. -/
def emit (socket : Socket Double Callback) (name : List UInt8)
    (messages : List (Message Double)) (ack : Option Callback) : Socket Double Callback :=
  if socket.hasClient = false then socket
  else
    match ack with
    | none =>
        socket.sendPacket
          (.ofMessage socket.nsp (.toNamedArrayMessage name messages) (-1) false)
    | some callback =>
        let id := socket.globalEventId
        let socket := { socket with
          globalEventId := id + 1
          acks := Members.insert id callback socket.acks }
        (socket.note (.registered id callback)).sendPacket
          (.ofMessage socket.nsp (.toNamedArrayMessage name messages) id.toInt32.toInt false)

/-- The connect packet passes by the queue, and gives the server 20 seconds. -/
def sendConnect (socket : Socket Double Callback) : Socket Double Callback :=
  if socket.hasClient = false then socket
  else
    ((socket.note (.sent (.ofType typeConnect socket.nsp socket.auth))).resetTimer
      (some [])).asyncWait .timeoutConnection

/-- The constructor connects at once under an open client. -/
def create (globalEventId : UInt32) (clientOpened : Bool) (nsp : List UInt8)
    (auth : Message Double) : Socket Double Callback :=
  let socket : Socket Double Callback :=
    { globalEventId, hasClient := true, connected := false, nsp, auth, acks := [],
      eventBinding := [], eventListener := none, errorListener := none, connectionTimer := none,
      packetQueue := [], ready := [], log := [] }
  if clientOpened then socket.sendConnect else socket

/-- A close asks the server, and gives it 3 seconds. The new expiry cancels an older wait. -/
def close (socket : Socket Double Callback) : Socket Double Callback :=
  if socket.hasClient = false then socket
  else if socket.connected then
    let socket := socket.sendPacket (.ofType typeDisconnect socket.nsp .nullptr)
    let socket := if socket.connectionTimer.isNone then socket.resetTimer (some []) else socket
    socket.cancelTimer.asyncWait .onClose
  else socket

def call (socket : Socket Double Callback) : Call Double Callback → Socket Double Callback
  | .emit name messages ack => socket.emit name messages ack
  | .close => socket.close
  | .on name listener =>
      { socket with eventBinding := Members.insert name listener socket.eventBinding }
  | .onAny listener => { socket with eventListener := listener }
  | .onError listener => { socket with errorListener := listener }
  | .off name => { socket with eventBinding := Members.erase name socket.eventBinding }
  | .offAll => { socket with eventBinding := [] }
  | .offError => { socket with errorListener := none }

/-- A function of the application calls the socket while the socket waits for it. -/
def perform (socket : Socket Double Callback) (calls : List (Call Double Callback)) :
    Socket Double Callback :=
  calls.foldl call socket

/-- The answer to a connect stops the timer and sends what waited.
The listener is called before that. -/
def onConnected (socket : Socket Double Callback) (calls : List (Call Double Callback)) :
    Socket Double Callback :=
  let socket := socket.resetTimer none
  if socket.connected then socket
  else (({ socket with connected := true }.note .opened).perform calls).drain

/-- A closed socket forgets its client, and its client forgets it. -/
def onClose (socket : Socket Double Callback) (calls : List (Call Double Callback)) :
    Socket Double Callback :=
  if socket.hasClient = false then socket
  else
    let socket := { socket.resetTimer none with
      hasClient := false
      connected := false
      packetQueue := [] }
    ((socket.note .closed).perform calls).note .removed

def onOpen (socket : Socket Double Callback) : Socket Double Callback := socket.sendConnect

def onDisconnect (socket : Socket Double Callback) : Socket Double Callback :=
  if socket.hasClient = true ∧ socket.connected = true then
    { socket with connected := false, packetQueue := [] }
  else socket

def getBindListener (socket : Socket Double Callback) (name : List UInt8) : Option Callback :=
  (Members.find name socket.eventBinding).join

/-- A listener that is called notes the event, and leaves its acknowledgement in it. -/
def listen (socket : Socket Double Callback) (listener : Option Callback) (event : Event Double)
    (reaction : Reaction Double Callback) (ackMessage : List (Message Double)) :
    Socket Double Callback × List (Message Double) :=
  match listener with
  | none => (socket, ackMessage)
  | some callback =>
      ((socket.note (.listened callback event)).perform reaction.calls,
        reaction.ackMessage.getD ackMessage)

def ack (socket : Socket Double Callback) (packId : Int) (ackMessage : List (Message Double)) :
    Socket Double Callback :=
  socket.sendPacket (.ofMessage socket.nsp (.toArrayMessage ackMessage) packId true)

/-- The listener of the name comes first, then the one of every event. -/
def callListeners (socket : Socket Double Callback) (event : Event Double)
    (bound any : Reaction Double Callback) : Socket Double Callback × List (Message Double) :=
  let first := socket.listen (socket.getBindListener event.name) event bound []
  first.1.listen first.1.eventListener event any first.2

/-- An event with an identifier is answered once its listeners have returned. -/
def onSocketioEvent (socket : Socket Double Callback) (packId : Int) (name : List UInt8)
    (messages : List (Message Double)) (bound any : Reaction Double Callback) :
    Socket Double Callback :=
  let event : Event Double := ⟨socket.nsp, name, messages, decide (0 ≤ packId)⟩
  let called := (socket.note (.heard event packId)).callListeners event bound any
  if event.needAck then called.1.ack packId called.2 else called.1

/-- An acknowledgement is looked up under its identifier as an `unsigned int`. -/
def onSocketioAck (socket : Socket Double Callback) (packId : Int)
    (messages : List (Message Double)) (calls : List (Call Double Callback)) :
    Socket Double Callback :=
  let id := UInt32.ofInt packId
  match Members.find id socket.acks with
  | none => socket
  | some callback =>
      ({ socket with acks := Members.erase id socket.acks }.note
        (.acked id callback messages)).perform calls

def onSocketioError (socket : Socket Double Callback) (message : Message Double)
    (calls : List (Call Double Callback)) : Socket Double Callback :=
  match socket.errorListener with
  | none => socket
  | some listener => (socket.note (.failed listener message)).perform calls

/-- A packet that has no message, or an array that begins with a null pointer, is dereferenced,
and a type that is not determined is asserted against, which have no outcome.
The null pointers behind the name of an event are left out. -/
def onMessagePacket (socket : Socket Double Callback) (packet : Packet Double)
    (reactions : Reactions Double Callback) : Option (Socket Double Callback) :=
  if socket.hasClient = false ∨ packet.nsp ≠ socket.nsp then some socket
  else if packet.type = typeConnect then some (socket.onConnected reactions.opened)
  else if packet.type = typeDisconnect then some (socket.onClose reactions.closed)
  else if packet.type = typeEvent ∨ packet.type = typeBinaryEvent then
    match packet.message with
    | .nullptr => none
    | .array (.nullptr :: _) => none
    | .array (.string name :: messages) =>
        some (socket.onSocketioEvent packet.packId name (messages.filter (! ·.isNullptr))
          reactions.bound reactions.any)
    | _ => some socket
  else if packet.type = typeAck ∨ packet.type = typeBinaryAck then
    match packet.message with
    | .nullptr => none
    | .array messages => some (socket.onSocketioAck packet.packId messages reactions.acked)
    | message => some (socket.onSocketioAck packet.packId [message] reactions.acked)
  else if packet.type = typeError then
    some (socket.onSocketioError packet.message reactions.failed)
  else if packet.isUndetermined then none
  else some socket

/-- A cancelled wait for the server is ignored. -/
def timeoutConnection (socket : Socket Double Callback) (aborted : Bool)
    (calls : List (Call Double Callback)) : Socket Double Callback :=
  if socket.hasClient = false ∨ aborted = true then socket
  else (socket.resetTimer none).onClose calls

/-- The handler that closes a socket runs for a cancelled wait as well. -/
def handle (socket : Socket Double Callback) (handler : Handler)
    (calls : List (Call Double Callback)) : Socket Double Callback :=
  match handler.wait with
  | .timeoutConnection => socket.timeoutConnection handler.aborted calls
  | .onClose => socket.onClose calls

/-- What happens to a socket, with what the application's functions do meanwhile. -/
inductive Act (Double Callback : Type) where
  | call (call : Call Double Callback)
  | opened
  | disconnected
  | packet (packet : Packet Double) (reactions : Reactions Double Callback)
  | expired
  | handled (calls : List (Call Double Callback))
  | abandoned (calls : List (Call Double Callback))
  | counted

/-- The acts of one socket take place one after the other.
Another socket of the process counts an event, and a client that goes closes its sockets. -/
def step (socket : Socket Double Callback) :
    Act Double Callback → Option (Socket Double Callback)
  | .call call => some (socket.call call)
  | .opened => some socket.onOpen
  | .disconnected => some socket.onDisconnect
  | .packet packet reactions => socket.onMessagePacket packet reactions
  | .expired => some socket.expire
  | .handled calls =>
      match socket.ready with
      | [] => some socket
      | handler :: ready => some ({ socket with ready }.handle handler calls)
  | .abandoned calls => some (socket.onClose calls)
  | .counted => some { socket with globalEventId := socket.globalEventId + 1 }

/-- A socket begins as its client creates it. -/
def machine : Machine (Socket Double Callback) (Act Double Callback) where
  initial socket := ∃ globalEventId clientOpened nsp auth,
    socket = create globalEventId clientOpened nsp auth
  step := step

end Socket
end VoiceCall.Transport
