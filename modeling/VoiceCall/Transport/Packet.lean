import VoiceCall.Foundation.Machine
import VoiceCall.Transport.Message

namespace VoiceCall.Transport
open Foundation

variable {Double : Type}

/-- The frame and the type of a parsed packet are whatever number its bytes give. -/
structure Packet (Double : Type) where
  frame : Int
  type : Int
  nsp : List UInt8
  packId : Int
  message : Message Double
  pendingBuffers : Nat
  buffers : List (List UInt8)

def frameOpen : Int := 0
def frameClose : Int := 1
def framePing : Int := 2
def framePong : Int := 3
def frameMessage : Int := 4

def typeConnect : Int := 0
def typeDisconnect : Int := 1
def typeEvent : Int := 2
def typeAck : Int := 3
def typeError : Int := 4
def typeBinaryEvent : Int := 5
def typeBinaryAck : Int := 6

/-- The bit of `type_undetermined` marks a type that `accept` completes. -/
def typeUndetermined : Int := 0x10

namespace Packet

/-- The constructor for events and acknowledgements. -/
def ofMessage (nsp : List UInt8) (message : Message Double) (packId : Int) (isAck : Bool) :
    Packet Double where
  frame := frameMessage
  type := (if isAck then typeAck else typeEvent) + typeUndetermined
  nsp := nsp
  packId := packId
  message := message
  pendingBuffers := 0
  buffers := []

/-- The constructor for the other types of message. -/
def ofType (type : Int) (nsp : List UInt8) (message : Message Double) : Packet Double where
  frame := frameMessage
  type := type
  nsp := nsp
  packId := -1
  message := message
  pendingBuffers := 0
  buffers := []

def ofFrame (frame : Int) : Packet Double where
  frame := frame
  type := typeUndetermined
  nsp := []
  packId := -1
  message := .nullptr
  pendingBuffers := 0
  buffers := []

/-- A binary message begins with the byte 4 itself, and a text message with its character. -/
def isBinaryMessage (payload : List UInt8) : Bool := payload.head? = some 4

def isTextMessage (payload : List UInt8) : Bool := payload.head? = some '4'.toUInt8

/-- A `char` is signed, and the place behind the last one of a string holds zero. -/
def charAt (payload : List UInt8) (position : Nat) : Int := (payload.getD position 0).toInt8.toInt

def find (byte : UInt8) (payload : List UInt8) : Option Nat :=
  payload.findIdx? (· = byte)

def findFirstOf (bytes payload : List UInt8) (position : Nat) : Option Nat :=
  ((payload.drop position).findIdx? (· ∈ bytes)).map (position + ·)

/-- A range that ends before its start is cut at the end of the string alone. -/
def substr (payload : List UInt8) (start stop : Nat) : List UInt8 :=
  if stop < start then payload.drop start else (payload.drop start).take (stop - start)

def isBinaryType (type : Int) : Bool := type = typeBinaryEvent || type = typeBinaryAck

/-- The type of a packet that has the bit of `type_undetermined` is not to be asked for, which
`get_type` asserts. -/
def isUndetermined (packet : Packet Double) : Bool := packet.type / typeUndetermined % 2 = 1

variable [DoubleText Double]

/-- The identifier stands before the text of the message, which waits for the buffers.
An identifier that is no `int` throws, and a document may fail an assertion. -/
def parseMessage (packet : Packet Double) (payload : List UInt8) (position jsonPos : Nat) :
    Option (Packet Double × Bool) :=
  (if position < jsonPos then stoi (substr payload position jsonPos) else some packet.packId).bind
    fun packId =>
      if packet.frame = frameMessage ∧ isBinaryType packet.type = true then
        some ({ packet with packId := packId, buffers := packet.buffers ++ [payload.drop jsonPos] },
          true)
      else
        ((Reader.parse (payload.drop jsonPos)).bind (fromJson [])).map fun message =>
          ({ packet with packId := packId, message := message }, false)

/-- The namespace ends at the first comma of the whole payload. -/
def parseNsp (packet : Packet Double) (payload : List UInt8) (position : Nat) :
    Option (Packet Double × Bool) :=
  match findFirstOf (ascii "\x7b[\"/") payload position with
  | none => some ({ packet with nsp := ascii "/" }, false)
  | some nspJsonPos =>
      if payload[nspJsonPos]? = some '/'.toUInt8 then
        match findFirstOf (ascii ",") payload 0 with
        | none => some ({ packet with nsp := payload.drop nspJsonPos }, false)
        | some commaPos =>
            let packet := { packet with nsp := substr payload nspJsonPos commaPos }
            match findFirstOf (ascii "\"[\x7b") payload (commaPos + 1) with
            | none => some (packet, false)
            | some jsonPos => parseMessage packet payload (commaPos + 1) jsonPos
      else parseMessage { packet with nsp := ascii "/" } payload position nspJsonPos

/-- The parser answers whether buffers are to follow, and throws on a count without digits. -/
def parse (payload : List UInt8) : Option (Packet Double × Bool) :=
  let packet : Packet Double := ofFrame (charAt payload 0 - 48)
  if packet.frame = frameMessage then
    let packet := { packet with type := charAt payload 1 - 48 }
    if packet.type < typeConnect ∨ typeBinaryAck < packet.type then some (packet, false)
    else if isBinaryType packet.type then
      let scorePos := find '-'.toUInt8 payload
      (stoul (substr payload 2 (scorePos.getD payload.length))).bind fun count =>
        -- A missing score is the largest position, and the one behind it is zero.
        parseNsp { packet with pendingBuffers := count % 2 ^ 32 } payload
          (match scorePos with
          | some position => position + 1
          | none => 0)
    else parseNsp packet payload 2
  else parseNsp packet payload 1

/-- The last buffer completes the message, whose text waits in front of the buffers. -/
def parseBuffer (packet : Packet Double) (payload : List UInt8) : Option (Packet Double × Bool) :=
  match packet.pendingBuffers with
  | 0 => some (packet, false)
  | 1 =>
      let buffers := packet.buffers ++ [payload]
      ((Reader.parse (buffers.headD [])).bind (fromJson buffers.tail)).map fun message =>
        ({ packet with message := message, pendingBuffers := 0, buffers := [] }, false)
  | pending + 2 =>
      some ({ packet with buffers := packet.buffers ++ [payload], pendingBuffers := pending + 1 },
        true)

/-- The type of a packet that is about to be written tells whether binaries follow. -/
def completedType (packet : Packet Double) (hasBinary : Bool) : Int :=
  let type := if typeUndetermined ≤ packet.type then packet.type - typeUndetermined else packet.type
  if type = typeEvent then (if hasBinary then typeBinaryEvent else typeEvent)
  else if type = typeAck then (if hasBinary then typeBinaryAck else typeAck)
  else type

/-- The message of a packet becomes its document unless the packet has none. -/
def acceptDocument (packet : Packet Double) :
    Option (Option (Value Double) × List (List UInt8)) :=
  match packet.message with
  | .nullptr => some (none, [])
  | message => (acceptMessage [] message).map fun (document, buffers) => (some document, buffers)

/-- The text before the document of a packet. -/
def header (packet : Packet Double) (hasMessage : Bool) (buffers : Nat) : List UInt8 :=
  decimal (packet.completedType (0 < buffers)).toNat ++
    (if 0 < buffers then decimal buffers ++ ['-'.toUInt8] else []) ++
    (if packet.nsp ≠ [] ∧ packet.nsp ≠ ascii "/" then
      packet.nsp ++ (if hasMessage ∨ 0 ≤ packet.packId then [','.toUInt8] else []) else []) ++
    (if 0 ≤ packet.packId then decimal packet.packId.toNat else [])

/-- A packet is written as one text and the buffers of its binaries. -/
def accept (packet : Packet Double) : Option (List UInt8 × List (List UInt8)) :=
  let frameChar := UInt8.ofNat (packet.frame + 48).toNat
  if packet.frame ≠ frameMessage then some ([frameChar], [])
  else (acceptDocument packet).map fun (document, buffers) =>
    (frameChar :: packet.header document.isSome buffers.length ++
      (match document with
      | some value => Writer.write value
      | none => []), buffers)

end Packet

/-- The frames that an encoded packet is sent in, with a flag for the binary ones. -/
def encode [DoubleText Double] (packet : Packet Double) : Option (List (Bool × List UInt8)) :=
  packet.accept.map fun (payload, buffers) => (false, payload) :: buffers.map (true, ·)

/-- A packet manager keeps the packet whose buffers it waits for.
The decoded packets are those its callback was given so far. -/
structure PacketManager (Double : Type) where
  partialPacket : Option (Packet Double)
  decoded : List (Packet Double)

namespace PacketManager

def fresh : PacketManager Double := ⟨none, []⟩

def decode (manager : PacketManager Double) (packet : Packet Double) : PacketManager Double :=
  { manager with decoded := manager.decoded ++ [packet] }

def reset (manager : PacketManager Double) : PacketManager Double :=
  { manager with partialPacket := none }

variable [DoubleText Double]

/-- A payload is told apart by its first byte alone, whether it came as text or as binary. -/
def putPayload (manager : PacketManager Double) (payload : List UInt8) :
    Option (PacketManager Double) :=
  if Packet.isTextMessage payload then
    (Packet.parse payload).map fun (packet, needsBuffers) =>
      if needsBuffers then { manager with partialPacket := some packet } else manager.decode packet
  else if Packet.isBinaryMessage payload then
    match manager.partialPacket with
    | none => some manager
    | some packet =>
        (packet.parseBuffer payload).map fun (packet, needsBuffers) =>
          if needsBuffers then { manager with partialPacket := some packet }
          else manager.reset.decode packet
  else (Packet.parse payload).map fun (packet, _) => manager.decode packet

/-- The calls that a connection makes are payloads, and a reset before each attempt. -/
inductive Call where
  | payload (bytes : List UInt8)
  | reset
deriving DecidableEq, Repr

def call (manager : PacketManager Double) : Call → Option (PacketManager Double)
  | .payload bytes => manager.putPayload bytes
  | .reset => some manager.reset

/-- The receiving side of a connection. -/
def machine : Machine (PacketManager Double) Call where
  initial manager := manager = fresh
  step := call

end PacketManager
end VoiceCall.Transport
