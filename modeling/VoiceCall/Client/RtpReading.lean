import VoiceCall.Client.WebRTC
import VoiceCall.Foundation.Bytes

namespace VoiceCall.Client

open Foundation

/-- The fields of an RTP packet as a standard receiver reads them. -/
structure RtpFields where
  version : BitVec 2
  padding : Bool
  extension : Bool
  csrcCount : BitVec 4
  marker : Bool
  payloadType : BitVec 7
  sequenceNumber : UInt16
  timestamp : UInt32
  ssrc : UInt32
  payload : List UInt8
deriving DecidableEq

/-- The wire layout takes the fields of the first two bytes from the most significant bit. -/
def readRtp : List UInt8 → Option RtpFields
  | first :: second :: s0 :: s1 :: t0 :: t1 :: t2 :: t3 :: i0 :: i1 :: i2 :: i3 :: payload =>
      some {
        version := first.toBitVec.extractLsb' 6 2
        padding := first.toBitVec.getLsbD 5
        extension := first.toBitVec.getLsbD 4
        csrcCount := first.toBitVec.extractLsb' 0 4
        marker := second.toBitVec.getLsbD 7
        payloadType := second.toBitVec.extractLsb' 0 7
        sequenceNumber := UInt16.ofNat (bigEndian [s0, s1])
        timestamp := UInt32.ofNat (bigEndian [t0, t1, t2, t3])
        ssrc := UInt32.ofNat (bigEndian [i0, i1, i2, i3])
        payload := payload }
  | _ => none

/-- The conversion to network order puts the most significant byte first in memory. -/
theorem memory16_htons (value : UInt16) :
    memory16 (htons value) = [(value >>> 8).toUInt8, value.toUInt8] := by
  have low : (htons value).toUInt8 = (value >>> 8).toUInt8 := by
    apply UInt8.eq_of_toBitVec_eq
    ext index _
    simp [htons]
  have high : (htons value >>> 8).toUInt8 = value.toUInt8 := by
    apply UInt8.eq_of_toBitVec_eq
    ext index _
    have above : value.toBitVec.getLsbD (8 + (8 + index)) = false :=
      BitVec.getLsbD_of_ge _ _ (by omega)
    simp [htons, above]
    omega
  rw [memory16, low, high]

theorem memory32_htonl (value : UInt32) :
    memory32 (htonl value) = [(value >>> 24).toUInt8, (value >>> 16).toUInt8,
      (value >>> 8).toUInt8, value.toUInt8] := by
  have lowest : (htonl value).toUInt8 = (value >>> 24).toUInt8 := by
    apply UInt8.eq_of_toBitVec_eq
    ext index inByte
    interval_cases index <;> simp [htonl]
  have lower : (htonl value >>> 8).toUInt8 = (value >>> 16).toUInt8 := by
    apply UInt8.eq_of_toBitVec_eq
    ext index inByte
    interval_cases index <;> simp [htonl]
  have higher : (htonl value >>> 16).toUInt8 = (value >>> 8).toUInt8 := by
    apply UInt8.eq_of_toBitVec_eq
    ext index inByte
    interval_cases index <;> simp [htonl]
  have highest : (htonl value >>> 24).toUInt8 = value.toUInt8 := by
    apply UInt8.eq_of_toBitVec_eq
    ext index inByte
    interval_cases index <;> simp [htonl]
  rw [memory32, lowest, lower, higher, highest]

/-- A receiver reads every field but two as it was put in. The first declared bit-field lies
under the second one, so the type is read doubled and its top bit is read as the marker. -/
theorem readRtp_rtpPacket (payloadType : Int) (sequenceNumber : UInt16) (timestamp ssrc : UInt32)
    (data : List UInt8) :
    readRtp (rtpPacket payloadType sequenceNumber timestamp ssrc data) = some {
      version := 2
      padding := false
      extension := false
      csrcCount := 0
      marker := (BitVec.ofInt 7 payloadType).msb
      payloadType := BitVec.ofInt 7 payloadType <<< 1
      sequenceNumber := sequenceNumber
      timestamp := timestamp
      ssrc := ssrc
      payload := data } := by
  rw [rtpPacket, RtpHeader.memory]
  simp only [memory16_htons, memory32_htonl, List.cons_append, List.nil_append, readRtp,
    bigEndian_word16, bigEndian_word32, UInt16.ofNat_toNat, UInt32.ofNat_toNat]
  have narrowed : (BitVec.ofInt 8 payloadType).setWidth 7 = BitVec.ofInt 7 payloadType := by
    apply BitVec.eq_of_toNat_eq
    simp [BitVec.toNat_ofInt]
    omega
  rw [narrowed]
  congr 2
  · generalize BitVec.ofInt 7 payloadType = doubled
    revert doubled
    decide
  · generalize BitVec.ofInt 7 payloadType = doubled
    revert doubled
    decide

namespace WebRTC

/-- The fields that the members of the client ask for, without a marker. -/
def rtpFields (webRtc : WebRTC) (data : List UInt8) (now : UInt32) : RtpFields where
  version := 2
  padding := false
  extension := false
  csrcCount := 0
  marker := false
  payloadType := BitVec.ofInt 7 webRtc.payloadType
  sequenceNumber := webRtc.sequenceNumber
  timestamp := now
  ssrc := webRtc.ssrc
  payload := data

/-- A client's packet is read as its fields, up to the marker and the payload type. -/
theorem readRtp_packet (webRtc : WebRTC) (data : List UInt8) (now : UInt32) :
    readRtp (webRtc.packet data now) = some { webRtc.rtpFields data now with
      marker := (BitVec.ofInt 7 webRtc.payloadType).msb
      payloadType := BitVec.ofInt 7 webRtc.payloadType <<< 1 } :=
  readRtp_rtpPacket _ _ _ _ _

/-- The packet of a chunk decodes to what was put in exactly when the payload type is zero.
Every field but the marker and the payload type is read as it was put in for every type. -/
theorem packet_decodes_iff (webRtc : WebRTC) (data : List UInt8) (now : UInt32)
    (isSevenBit : 0 ≤ webRtc.payloadType ∧ webRtc.payloadType < 128) :
    (∃ marker payloadType, readRtp (webRtc.count.packet data now) =
      some { webRtc.count.rtpFields data now with
        marker := marker
        payloadType := payloadType }) ∧
    (readRtp (webRtc.count.packet data now) = some (webRtc.count.rtpFields data now) ↔
      webRtc.payloadType = 0) := by
  have read := webRtc.count.readRtp_packet data now
  refine ⟨⟨_, _, read⟩, ?_⟩
  have doubled : ∀ value : BitVec 7, value.msb = false ∧ value <<< 1 = value ↔ value = 0 := by
    decide
  have isZero : BitVec.ofInt 7 webRtc.payloadType = 0 ↔ webRtc.payloadType = 0 := by
    rw [← BitVec.toNat_inj, BitVec.toNat_ofInt]
    simp
    omega
  rw [read, ← isZero, ← doubled]
  simp [rtpFields]

/-- A packet with the type 0 decodes to what was put in. -/
theorem packet_decodes_iff_zero :
    readRtp ({ initial false with payloadType := 0 }.count.packet [1, 2, 3] 40) =
      some ({ initial false with payloadType := 0 }.count.rtpFields [1, 2, 3] 40) :=
  (packet_decodes_iff { initial false with payloadType := 0 } [1, 2, 3] 40 (by decide)).2.mpr rfl

/-- The default type 111 is read as 94 with the marker set. -/
theorem packet_decodes_fails :
    ¬∀ webRtc : WebRTC, 0 ≤ webRtc.payloadType ∧ webRtc.payloadType < 128 → ∀ data now,
      readRtp (webRtc.count.packet data now) = some (webRtc.count.rtpFields data now) := by
  intro claim
  have read := claim (initial false) (by decide) [] 0
  rw [readRtp_packet] at read
  have marked := congrArg RtpFields.marker (Option.some.inj read)
  revert marked
  decide

end WebRTC
end VoiceCall.Client
