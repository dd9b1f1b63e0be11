import VoiceCall.Foundation.Directory
import VoiceCall.Foundation.JsObject
import VoiceCall.Foundation.JsValue
import VoiceCall.Foundation.Machine

namespace VoiceCall.Signalling

open Foundation

/-- The socket library gives every connection a non-empty identifier. -/
abbrev SocketId := {id : String // id ≠ ""}

instance : LawfulBEq SocketId := inferInstance

/-- A packet carries an event name and its arguments. -/
structure Packet where
  event : String
  args : List JsValue
deriving Repr

/-- A handler sees `undefined` for an argument that was not sent. -/
def Packet.arg (packet : Packet) (index : Nat) : JsValue := packet.args.getD index .undefined

/-- The JSON text of an object omits the properties that are `undefined`. -/
def jsonObject (properties : List (String × JsValue)) : JsValue :=
  .object (properties.filter fun property => match property.2 with
    | .undefined => false
    | _ => true)

/-- The two objects of `server.js` are finite string maps. -/
structure Server where
  peerIds : JsObject SocketId
  peerNames : JsObject String

namespace Server

def empty : Server := ⟨JsObject.empty, JsObject.empty⟩

/-- The `register` handler refuses a falsy or blank name and overwrites both objects. -/
def register (server : Server) (socketId : SocketId) (peerName : JsValue) :
    Except JsError Server :=
  if !peerName.truthy then .ok server
  else peerName.trim.bind fun trimmed =>
    if trimmed = "" then .ok server
    else peerName.toText.map fun key =>
      { peerIds := server.peerIds.set key socketId
        peerNames := server.peerNames.set socketId.val key }

/-- The name of a socket that has none is `undefined`. -/
def fromPeerName (server : Server) (socketId : SocketId) : JsValue :=
  match server.peerNames.get socketId.val with
  | some name => .string name
  | none => .undefined

/-- The relay handlers look the target up and emit to the room of its socket. -/
def relay (server : Server) (socketId : SocketId) (event : String) (peerId : JsValue)
    (payload : List (String × JsValue)) : Except JsError (Option (SocketId × Packet)) :=
  peerId.toText.map fun key =>
    (server.peerIds.get key).map fun targetSocketId =>
      (targetSocketId,
        ⟨event, [jsonObject (payload ++ [("from", server.fromPeerName socketId)])]⟩)

def offer (server : Server) (socketId : SocketId) (peerId sdpOffer : JsValue) :
    Except JsError (Option (SocketId × Packet)) :=
  server.relay socketId "offer" peerId [("sdpOffer", sdpOffer)]

def answer (server : Server) (socketId : SocketId) (peerId sdpAnswer : JsValue) :
    Except JsError (Option (SocketId × Packet)) :=
  server.relay socketId "answer" peerId [("sdpAnswer", sdpAnswer)]

def reject (server : Server) (socketId : SocketId) (peerId : JsValue) :
    Except JsError (Option (SocketId × Packet)) :=
  server.relay socketId "reject" peerId []

def iceCandidate (server : Server) (socketId : SocketId) (peerId candidate : JsValue) :
    Except JsError (Option (SocketId × Packet)) :=
  server.relay socketId "ice-candidate" peerId [("candidate", candidate)]

/-- The loop deletes the first route to the socket and leaves with `break`. -/
def removeRoute (peerIds : JsObject SocketId) (socketId : SocketId) :
    List String → JsObject SocketId
  | [] => peerIds
  | peerId :: rest =>
      if peerIds.get peerId = some socketId then peerIds.delete peerId
      else removeRoute peerIds socketId rest

/-- The `disconnect` handler forgets the name and one route of the socket. -/
def disconnect (server : Server) (socketId : SocketId) : Server where
  peerIds := removeRoute server.peerIds socketId server.peerIds.keys
  peerNames := server.peerNames.delete socketId.val

/-- An event without a handler is ignored. -/
def handle (server : Server) (socketId : SocketId) (packet : Packet) :
    Except JsError (Server × Option (SocketId × Packet)) :=
  match packet.event with
  | "register" => (server.register socketId (packet.arg 0)).map fun next => (next, none)
  | "offer" => (server.offer socketId (packet.arg 0) (packet.arg 1)).map fun out => (server, out)
  | "answer" => (server.answer socketId (packet.arg 0) (packet.arg 1)).map fun out => (server, out)
  | "reject" => (server.reject socketId (packet.arg 0)).map fun out => (server, out)
  | "ice-candidate" =>
      (server.iceCandidate socketId (packet.arg 0) (packet.arg 1)).map fun out => (server, out)
  | _ => .ok (server, none)

end Server

/-- The hub sees connections, packets and disconnections in the order it processes them. -/
inductive HubEvent where
  | connect (socketId : SocketId)
  | packet (socketId : SocketId) (packet : Packet)
  | disconnect (socketId : SocketId)

/-- A connection is the one event that issues an identifier. -/
def HubEvent.issue : HubEvent → Option SocketId
  | .connect socketId => some socketId
  | _ => none

/-- The hub is the server with its open connections and the events it has processed. -/
structure Hub where
  server : Server
  connected : List SocketId
  history : List HubEvent

namespace Hub

def empty : Hub := ⟨Server.empty, [], []⟩

/-- An identifier is issued to one connection and never again. -/
def issued (hub : Hub) : List SocketId := hub.history.filterMap HubEvent.issue

/-- The room of a socket holds that socket while it is connected. -/
def emit (hub : Hub) : Option (SocketId × Packet) → List (SocketId × Packet)
  | none => []
  | some (room, packet) =>
      (hub.connected.filter fun socketId => socketId = room).map fun socketId => (socketId, packet)

/-- An uncaught exception ends the process, so no next hub exists. -/
def process (hub : Hub) (event : HubEvent) : Option (Hub × List (SocketId × Packet)) :=
  match event with
  | .connect socketId =>
      if socketId ∈ hub.issued then none
      else some ({ hub with
        connected := socketId :: hub.connected
        history := hub.history ++ [event] }, [])
  | .packet socketId packet =>
      if socketId ∈ hub.connected then
        match hub.server.handle socketId packet with
        | .ok (server, out) =>
            some ({ hub with server := server, history := hub.history ++ [event] }, hub.emit out)
        | .error _ => none
      else none
  | .disconnect socketId =>
      if socketId ∈ hub.connected then
        some ({ server := hub.server.disconnect socketId
                connected := hub.connected.filter fun other => other ≠ socketId
                history := hub.history ++ [event] }, [])
      else none

/-- The signalling machine keeps the hub and drops the emissions. -/
def machine : Machine Hub HubEvent where
  initial hub := hub = empty
  step hub event := (hub.process event).map Prod.fst

end Hub
end VoiceCall.Signalling
