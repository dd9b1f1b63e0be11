import VoiceCall.Transport.Packet
import VoiceCall.Transport.Query

namespace VoiceCall.Transport
open Foundation

variable {Double : Type}

/-- The states of `client_impl`. -/
inductive ConState where
  | opening
  | opened
  | closing
  | closed
deriving DecidableEq, Repr

/-- The session that the WebSocket library keeps for the client. -/
inductive Link where
  | absent
  | handshaking
  | established
  | leaving
deriving DecidableEq, Repr

/-- What the client takes from its platform: which addresses the library connects to, and how a
product of two `double` values is rounded. -/
structure Platform where
  accepts : List UInt8 → List UInt8 → Bool
  round : ℚ → ℚ
  round_mono : Monotone round
  round_natural : ∀ number : Nat, number ≤ 2 ^ 53 → round number = number

inductive CloseReason where
  | normal
  | drop
deriving DecidableEq, Repr

/-- The methods that the client calls on each of its sockets. -/
inductive SocketCall where
  | onOpen
  | onDisconnect
  | close
deriving DecidableEq, Repr

/-- A handler that the event loop runs later. That of a timer knows whether it was cancelled. -/
inductive Task where
  | connectImpl (uri queryString : List UInt8)
  | closeImpl (code : Nat)
  | sendImpl (isBinary : Bool) (payload : List UInt8)
  | timeoutReconnect (aborted : Bool)
  | timeoutPing (aborted : Bool)
deriving DecidableEq, Repr

namespace Connection

/-- A call of the application that waits for the network thread to end. -/
inductive Request (Double : Type) where
  | connect (uri : List UInt8) (query : List (List UInt8 × List UInt8)) (auth : Message Double)
  | syncClose

/-- What a client does, what it tells its listeners and what becomes of its session is noted, as
are its settings. -/
inductive Note (Double : Type) where
  | started
  | attempted (uri queryString sid : List UInt8)
  | unlinked
  | received (payload : List UInt8)
  | delivered (packet : Packet Double)
  | encoded (packet : Packet Double)
  | wrote (isBinary : Bool) (payload : List UInt8)
  | answered (payload : List UInt8)
  | invoked (call : SocketCall)
  | created (nsp : List UInt8) (auth : Message Double)
  | opened
  | failed
  | closed (reason : CloseReason)
  | reconnect (made delay : UInt32)
  | reconnecting
  | tuned (reconnDelay reconnDelayMax reconnAttempts : UInt32)

end Connection

/-- The fields of `client_impl`, its network thread, its session and the tasks of its event loop.
A timer that waits keeps its time in milliseconds. -/
structure Connection (Double : Type) where
  pingInterval : UInt32
  pingTimeout : UInt32
  networkThread : Bool
  running : Bool
  joining : Option (Connection.Request Double)
  conState : ConState
  con : Bool
  link : Link
  sid : List UInt8
  baseUrl : List UInt8
  queryString : List UInt8
  auth : Message Double
  packetMgr : PacketManager Double
  pingTimer : Option UInt32
  reconnTimer : Option UInt32
  sockets : List (List UInt8)
  reconnDelay : UInt32
  reconnDelayMax : UInt32
  reconnAttempts : UInt32
  reconnMade : UInt32
  abortRetries : Bool
  tasks : List Task
  log : List (Connection.Note Double)

namespace Connection

/-- The constructor of `client_impl`. -/
def initial : Connection Double where
  pingInterval := 0
  pingTimeout := 0
  networkThread := false
  running := false
  joining := none
  conState := .closed
  con := false
  link := .absent
  sid := []
  baseUrl := []
  queryString := []
  auth := .nullptr
  packetMgr := .fresh
  pingTimer := none
  reconnTimer := none
  sockets := []
  reconnDelay := 5000
  reconnDelayMax := 25000
  reconnAttempts := 0xFFFFFFFF
  reconnMade := 0
  abortRetries := false
  tasks := []
  log := []

def note (connection : Connection Double) (entry : Note Double) : Connection Double :=
  { connection with log := connection.log ++ [entry] }

def post (connection : Connection Double) (task : Task) : Connection Double :=
  { connection with tasks := connection.tasks ++ [task] }

/-- The handler of a cancelled timer still runs, with an error. -/
def cancelReconn (connection : Connection Double) : Connection Double :=
  { connection with
    reconnTimer := none
    tasks := connection.tasks ++ connection.reconnTimer.toList.map fun _ => .timeoutReconnect true }

/-- This function is `clear_timers`. -/
def clearTimers (connection : Connection Double) : Connection Double :=
  { connection with
    pingTimer := none
    tasks := connection.tasks ++ connection.pingTimer.toList.map fun _ => .timeoutPing true }

/-- A new expiry cancels the wait that the timer had. -/
def updatePingTimeoutTimer (connection : Connection Double) : Connection Double :=
  { connection.clearTimers with
    pingTimer := some (connection.pingInterval + connection.pingTimeout) }

def resetStates (connection : Connection Double) : Connection Double :=
  { connection with sid := [], packetMgr := connection.packetMgr.reset }

/-- The codes that the library does not put on the wire with a reason. -/
def refusesCode (code : Nat) : Bool :=
  (1016 ≤ code && code ≤ 2999) || code = 1004 || code ≤ 999 || 5000 ≤ code || code = 1005 ||
    code = 1006 || code = 1015

/-- A close needs the session that the client has seen open. -/
def closeImpl (connection : Connection Double) (code : Nat) : Connection Double :=
  let connection := connection.cancelReconn
  if connection.con = true ∧ connection.link = .established ∧ refusesCode code = false then
    { connection with link := .leaving }
  else connection

/-- The library writes while its session is open. -/
def write (connection : Connection Double) (isBinary : Bool) (payload : List UInt8) :
    Connection Double :=
  if connection.con = true ∧ connection.link = .established then
    connection.note (.wrote isBinary payload)
  else connection

def sendImpl (connection : Connection Double) (isBinary : Bool) (payload : List UInt8) :
    Connection Double :=
  if connection.conState = .opened then connection.write isBinary payload else connection

/-- A handler that the network thread dispatches runs at once, and any other thread posts it. -/
def onEncode (onNetwork : Bool) (connection : Connection Double)
    (frame : Bool × List UInt8) : Connection Double :=
  if onNetwork then connection.sendImpl frame.1 frame.2
  else connection.post (.sendImpl frame.1 frame.2)

/-- A namespace begins with a slash. -/
def namespaceOf (nsp : List UInt8) : List UInt8 :=
  if nsp = [] then ascii "/"
  else if nsp.head? ≠ some '/'.toUInt8 then '/'.toUInt8 :: nsp
  else nsp

/-- A new socket keeps what the client knows of its user by then. -/
def socket (connection : Connection Double) (nsp : List UInt8) : Connection Double :=
  if namespaceOf nsp ∈ connection.sockets then connection
  else
    { connection with sockets := connection.sockets ++ [namespaceOf nsp] }.note
      (.created (namespaceOf nsp) connection.auth)

def removeSocket (connection : Connection Double) (nsp : List UInt8) : Connection Double :=
  { connection with sockets := connection.sockets.filter (· ≠ nsp) }

/-- The delay grows by half with each attempt. -/
def nextDelay (platform : Platform) (connection : Connection Double) : UInt32 :=
  let made := min connection.reconnMade 32
  UInt32.ofNat ⌊min (platform.round (connection.reconnDelay.toNat * (3 / 2) ^ made.toNat))
    connection.reconnDelayMax.toNat⌋₊

/-- The settings of later attempts. -/
def tune (connection : Connection Double) (reconnDelay reconnDelayMax reconnAttempts : UInt32) :
    Connection Double :=
  { connection with reconnDelay, reconnDelayMax, reconnAttempts }.note
    (.tuned reconnDelay reconnDelayMax reconnAttempts)

def setReconnectAttempts (connection : Connection Double) (attempts : UInt32) :
    Connection Double :=
  connection.tune connection.reconnDelay connection.reconnDelayMax attempts

/-- A delay above the maximum raises the maximum. -/
def setReconnectDelay (connection : Connection Double) (millis : UInt32) : Connection Double :=
  connection.tune millis
    (if connection.reconnDelayMax < millis then millis else connection.reconnDelayMax)
    connection.reconnAttempts

/-- A maximum below the delay lowers the delay. -/
def setReconnectDelayMax (connection : Connection Double) (millis : UInt32) :
    Connection Double :=
  connection.tune (if millis < connection.reconnDelay then millis else connection.reconnDelay)
    millis connection.reconnAttempts

/-- An address that the library does not take is reported, and the state stays. -/
def connectImpl (platform : Platform) (connection : Connection Double)
    (uri queryString : List UInt8) : Connection Double :=
  if platform.accepts uri queryString then
    { connection.note (.attempted uri queryString connection.sid) with link := .handshaking }
  else connection.note .failed

/-- The client connects again to the address and with the query of its last `connect`. -/
def timeoutReconnect (platform : Platform) (connection : Connection Double) (aborted : Bool) :
    Connection Double :=
  if aborted = false ∧ connection.conState = .closed then
    let connection := { connection with
      conState := .opening
      reconnMade := connection.reconnMade + 1 }
    (connection.resetStates.note .reconnecting).connectImpl platform connection.baseUrl
      connection.queryString
  else connection

def timeoutPing (connection : Connection Double) (aborted : Bool) : Connection Double :=
  if aborted then connection else connection.closeImpl 1008

def runTask (platform : Platform) (connection : Connection Double) : Task → Connection Double
  | .connectImpl uri queryString => connection.connectImpl platform uri queryString
  | .closeImpl code => connection.closeImpl code
  | .sendImpl isBinary payload => connection.sendImpl isBinary payload
  | .timeoutReconnect aborted => connection.timeoutReconnect platform aborted
  | .timeoutPing aborted => connection.timeoutPing aborted

/-- What `connect` does once no network thread is left. -/
def start (connection : Connection Double) (uri : List UInt8)
    (query : List (List UInt8 × List UInt8)) (auth : Message Double) : Connection Double :=
  { connection.resetStates.note .started with
    conState := .opening
    baseUrl := uri
    reconnMade := 0
    queryString := Transport.queryString query
    auth := auth
    abortRetries := false
    networkThread := true
    running := true
    joining := none }.post (.connectImpl uri (Transport.queryString query))

/-- A client that is closing or closed first waits for its network thread. -/
def connect (connection : Connection Double) (uri : List UInt8)
    (query : List (List UInt8 × List UInt8)) (auth : Message Double) : Connection Double :=
  let connection := connection.cancelReconn
  if connection.networkThread then
    if connection.conState = .closing ∨ connection.conState = .closed then
      { connection with joining := some (.connect uri query auth) }
    else connection
  else connection.start uri query auth

/-- The network thread has ended, and the call that waited for it goes on. -/
def joined (connection : Connection Double) : Connection Double :=
  match connection.joining with
  | none => connection
  | some (.connect uri query auth) =>
      { connection with networkThread := false }.start uri query auth
  | some .syncClose => { connection with networkThread := false, joining := none }

/-- A lost session is tried again later, unless that is over. -/
def retry (platform : Platform) (connection : Connection Double) (otherwise : Note Double) :
    Connection Double :=
  if connection.reconnMade < connection.reconnAttempts ∧ connection.abortRetries = false then
    let delay := connection.nextDelay platform
    { (connection.note (.reconnect connection.reconnMade delay)).cancelReconn with
      reconnTimer := some delay }
  else connection.note otherwise

/-- A session that the client closes, or that ends with the normal code, is not tried again. -/
def onClose (platform : Platform) (connection : Connection Double) (code : Nat) :
    Connection Double :=
  let was := connection.conState
  let connection := { connection with
    link := .absent
    conState := .closed
    con := false }.note .unlinked
  let connection := connection.clearTimers.note (.invoked .onDisconnect)
  if code = 1000 ∨ was = .closing then connection.note (.closed .normal)
  else connection.retry platform (.closed .drop)

/-- A time that the server does not give as an integer has a default.
The kind of a null pointer cannot be asked for. -/
def millisOr (fallback : UInt32) (name : List UInt8)
    (members : Members (List UInt8) (Message Double)) : Option UInt32 :=
  match Members.find name members with
  | some .nullptr => none
  | some (.integer value) => some (UInt32.ofInt value.toInt)
  | _ => some fallback

/-- The identifier of a session must be a string, which the code asserts. -/
def onHandshake (connection : Connection Double) : Message Double → Option (Connection Double)
  | .object members =>
      match Members.find (ascii "sid") members with
      | none => some (connection.closeImpl 1008)
      | some (.string sid) =>
          (millisOr 25000 (ascii "pingInterval") members).bind fun pingInterval =>
            (millisOr 60000 (ascii "pingTimeout") members).map fun pingTimeout =>
              { connection with sid, pingInterval, pingTimeout }.updatePingTimeoutTimer
      | some _ => none
  | _ => some (connection.closeImpl 1008)

/-- The encoded packet of a pong. -/
def pong : List UInt8 := ascii "3"

/-- A pong is written without asking for an error, so a session that the client does not know
throws. -/
def onPing (connection : Connection Double) : Option (Connection Double) :=
  if connection.con = true ∧ connection.link = .established then
    some (connection.note (.answered pong)).updatePingTimeoutTimer
  else none

/-- The answer to a connect renames the session. -/
def syncSid (connection : Connection Double) (packet : Packet Double) :
    Option (Connection Double) :=
  if packet.type = typeConnect then
    match packet.message with
    | .object members =>
        match Members.find (ascii "sid") members with
        | none => some connection
        | some (.string sid) => some { connection with sid }
        | some _ => none
    | _ => some connection
  else some connection

variable [DoubleText Double]

example : encode (Packet.ofFrame framePong : Packet Double) = some [(false, pong)] := rfl

def send (onNetwork : Bool) (connection : Connection Double) (packet : Packet Double) :
    Option (Connection Double) :=
  (encode packet).map fun frames =>
    frames.foldl (onEncode onNetwork) (connection.note (.encoded packet))

/-- The packets that the sockets and the listeners send while the client calls them. -/
def sendAll (onNetwork : Bool) (connection : Connection Double) (packets : List (Packet Double)) :
    Option (Connection Double) :=
  packets.foldlM (send onNetwork) connection

/-- The session is closed by a task, which the network thread dispatches at once. -/
def close (onNetwork : Bool) (connection : Connection Double) (sends : List (Packet Double)) :
    Option (Connection Double) :=
  let connection :=
    { connection with conState := .closing, abortRetries := true }.note (.invoked .close)
  (connection.sendAll onNetwork sends).map fun connection =>
    if onNetwork then connection.closeImpl 1000 else connection.post (.closeImpl 1000)

def syncClose (connection : Connection Double) (sends : List (Packet Double)) :
    Option (Connection Double) :=
  (connection.close false sends).map fun connection =>
    if connection.networkThread then { connection with joining := some .syncClose } else connection

/-- A failed attempt of a client that is closing is not told to anyone. -/
def onFail (platform : Platform) (connection : Connection Double) (sends : List (Packet Double)) :
    Option (Connection Double) :=
  let connection := { connection with link := .absent }.note .unlinked
  if connection.conState = .closing then connection.close true sends
  else
    let connection := { connection with con := false, conState := .closed }.note
      (.invoked .onDisconnect)
    some (connection.retry platform .failed)

/-- A session that opens while the client is closing stays unknown to the client. -/
def onOpen (connection : Connection Double) (sends : List (Packet Double)) :
    Option (Connection Double) :=
  let connection := { connection with link := .established }
  if connection.conState = .closing then connection.close true sends
  else
    let connection := { connection with conState := .opened, con := true, reconnMade := 0 }
    (((connection.note (.invoked .onOpen)).socket []).note .opened).sendAll true sends

/-- The type of a message is asked for before its socket is.
A close of the engine is answered with a code that the library refuses. -/
def onDecode (connection : Connection Double) (packet : Packet Double)
    (sends : List (Packet Double)) : Option (Connection Double) :=
  if packet.frame = frameMessage then
    if packet.isUndetermined then none
    else
      (connection.syncSid packet).bind fun connection =>
        if packet.nsp ∈ connection.sockets then
          (connection.note (.delivered packet)).sendAll true sends
        else some connection
  else if packet.frame = frameOpen then connection.onHandshake packet.message
  else if packet.frame = frameClose then some (connection.closeImpl 1006)
  else if packet.frame = framePing then connection.onPing
  else some connection

/-- The packets that a payload completes are handled one by one. -/
def onMessage (connection : Connection Double) (payload : List UInt8)
    (sends : List (Packet Double)) : Option (Connection Double) :=
  (connection.packetMgr.putPayload payload).bind fun packetMgr =>
    (packetMgr.decoded.drop connection.packetMgr.decoded.length).foldlM
      (fun connection packet => connection.onDecode packet sends)
      ({ connection with packetMgr }.note (.received payload))

/-- The calls of the application, and below them what happens on the network thread.
A socket sends on either. -/
inductive Act (Double : Type) where
  | connect (uri : List UInt8) (query : List (List UInt8 × List UInt8)) (auth : Message Double)
  | socket (nsp : List UInt8)
  | removeSocket (nsp : List UInt8)
  | send (onNetwork : Bool) (packets : List (Packet Double))
  | close (sends : List (Packet Double))
  | syncClose (sends : List (Packet Double))
  | setReconnectAttempts (attempts : UInt32)
  | setReconnectDelay (millis : UInt32)
  | setReconnectDelayMax (millis : UInt32)
  | joined
  | opened (sends : List (Packet Double))
  | failed (sends : List (Packet Double))
  | closed (code : Nat)
  | message (payload : List UInt8) (sends : List (Packet Double))
  | ran
  | reconnExpired
  | pingExpired
  | ended

omit [DoubleText Double] in
/-- The application calls from one thread, and the network thread ends when no work is left. -/
def Possible (connection : Connection Double) : Act Double → Prop
  | .joined => connection.joining.isSome = true ∧ connection.running = false
  | .opened _ | .failed _ => connection.running = true ∧ connection.link = .handshaking
  | .closed _ =>
      connection.running = true ∧
        (connection.link = .established ∨ connection.link = .leaving)
  | .message _ _ => connection.running = true ∧ connection.link = .established
  | .ran => connection.running = true ∧ connection.tasks ≠ []
  | .reconnExpired => connection.running = true ∧ connection.reconnTimer.isSome = true
  | .pingExpired => connection.running = true ∧ connection.pingTimer.isSome = true
  | .ended =>
      connection.running = true ∧ connection.tasks = [] ∧ connection.link = .absent ∧
        connection.reconnTimer = none ∧ connection.pingTimer = none
  | .send true _ => connection.running = true
  | .removeSocket _ => True
  | _ => connection.joining.isNone = true

/-- What an act does, unless an exception or an assertion ends the process. -/
def take (platform : Platform) (connection : Connection Double) :
    Act Double → Option (Connection Double)
  | .connect uri query auth => some (connection.connect uri query auth)
  | .socket nsp => some (connection.socket nsp)
  | .removeSocket nsp => some (connection.removeSocket nsp)
  | .send onNetwork packets => connection.sendAll onNetwork packets
  | .close sends => connection.close false sends
  | .syncClose sends => connection.syncClose sends
  | .setReconnectAttempts attempts => some (connection.setReconnectAttempts attempts)
  | .setReconnectDelay millis => some (connection.setReconnectDelay millis)
  | .setReconnectDelayMax millis => some (connection.setReconnectDelayMax millis)
  | .joined => some connection.joined
  | .opened sends => connection.onOpen sends
  | .failed sends => connection.onFail platform sends
  | .closed code => some (connection.onClose platform code)
  | .message payload sends => connection.onMessage payload sends
  | .ran =>
      match connection.tasks with
      | [] => some connection
      | task :: tasks => some ({ connection with tasks }.runTask platform task)
  | .reconnExpired =>
      some ({ connection with reconnTimer := none }.post (.timeoutReconnect false))
  | .pingExpired => some ({ connection with pingTimer := none }.post (.timeoutPing false))
  | .ended => some { connection with running := false }

omit [DoubleText Double] in
instance decidablePossible (connection : Connection Double) :
    ∀ act : Act Double, Decidable (connection.Possible act)
  | .joined | .opened _ | .failed _ | .closed _ | .message _ _ | .reconnExpired | .pingExpired =>
      inferInstanceAs (Decidable (_ ∧ _))
  | .ran | .ended => inferInstanceAs (Decidable (_ ∧ _))
  | .removeSocket _ => inferInstanceAs (Decidable True)
  | .connect _ _ _ | .socket _ | .send true _ | .send false _ | .close _ | .syncClose _
  | .setReconnectAttempts _ | .setReconnectDelay _ | .setReconnectDelayMax _ => inferInstanceAs (Decidable (_ = true))

/-- A client takes the acts that are possible. -/
def machine (platform : Platform) : Machine (Connection Double) (Act Double) where
  initial connection := connection = initial
  step connection act := if connection.Possible act then connection.take platform act else none

end Connection
end VoiceCall.Transport
