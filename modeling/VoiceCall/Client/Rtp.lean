import Mathlib.Tactic

namespace VoiceCall.Client

/-- The packed header has two bit-fields in its second byte. -/
structure RtpHeader where
  first : UInt8
  marker : BitVec 1
  payloadType : BitVec 7
  sequenceNumber : UInt16
  timestamp : UInt32
  ssrc : UInt32

/-- The host is little-endian, so both conversions reverse the bytes. -/
def htons (value : UInt16) : UInt16 := (value <<< 8) ||| (value >>> 8)

def htonl (value : UInt32) : UInt32 :=
  (value <<< 24) ||| ((value &&& (0xFF00 : UInt32)) <<< 8) |||
    ((value >>> 8) &&& (0xFF00 : UInt32)) ||| (value >>> 24)

/-- The memory image of an integer starts with its least significant byte. -/
def memory16 (value : UInt16) : List UInt8 := [value.toUInt8, (value >>> 8).toUInt8]

def memory32 (value : UInt32) : List UInt8 :=
  [value.toUInt8, (value >>> 8).toUInt8, (value >>> 16).toUInt8, (value >>> 24).toUInt8]

/-- The first declared bit-field takes the least significant bit of its byte. -/
def RtpHeader.memory (header : RtpHeader) : List UInt8 :=
  header.first :: UInt8.ofBitVec (header.payloadType ++ header.marker) ::
    (memory16 header.sequenceNumber ++ memory32 header.timestamp ++ memory32 header.ssrc)

/-- The packet of `dataReady` is the header image followed by the captured bytes. -/
def rtpPacket (payloadType : Int) (sequenceNumber : UInt16) (timestamp ssrc : UInt32)
    (data : List UInt8) : List UInt8 :=
  RtpHeader.memory
    { first := 0b10000000
      marker := 0
      payloadType := (BitVec.ofInt 8 payloadType).setWidth 7
      sequenceNumber := htons sequenceNumber
      timestamp := htonl timestamp
      ssrc := htonl ssrc } ++ data

end VoiceCall.Client
