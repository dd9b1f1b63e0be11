import Mathlib.Data.List.DropRight
import VoiceCall.Foundation.Bracket
import VoiceCall.Transport.ConnectionMoves
import VoiceCall.Transport.Reception

namespace VoiceCall.Transport
open Foundation

variable {Double : Type}

namespace PacketManager
variable [DoubleText Double]

/-- What a payload does to a receiver does not depend on what was decoded before. -/
theorem putPayload_forgetful {manager after : PacketManager Double} {payload : List UInt8}
    (taken : manager.putPayload payload = some after) :
    PacketManager.putPayload { manager with decoded := [] } payload =
      some { after with decoded := after.decoded.drop manager.decoded.length } := by
  unfold putPayload at taken ⊢
  split_ifs at taken ⊢ with isText isBinary
  · obtain ⟨⟨packet, needsBuffers⟩, parsed, same⟩ := Option.map_eq_some_iff.mp taken
    rw [parsed]
    cases needsBuffers with
    | true =>
        cases same
        simp
    | false =>
        cases same
        simp [decode]
  · cases partialPacket : manager.partialPacket with
    | none =>
        rw [partialPacket] at taken
        cases taken
        simp [partialPacket]
    | some waiting =>
        rw [partialPacket] at taken
        obtain ⟨⟨packet, needsBuffers⟩, parsed, same⟩ := Option.map_eq_some_iff.mp taken
        simp only [parsed]
        cases needsBuffers with
        | true =>
            cases same
            simp
        | false =>
            cases same
            simp [decode, reset]
  · obtain ⟨⟨packet, _⟩, parsed, same⟩ := Option.map_eq_some_iff.mp taken
    rw [parsed]
    cases same
    simp [decode]

end PacketManager

namespace Connection

def Note.isAttempt : Note Double → Bool
  | .attempted _ _ _ => true
  | _ => false

def Note.payload : Note Double → Option (List UInt8)
  | .received payload => some payload
  | _ => none

/-- The notes since the last attempt of a log. -/
def recent (log : List (Note Double)) : List (Note Double) := log.rtakeWhile (! ·.isAttempt)

/-- The payloads that were received since the last attempt of a log. -/
def payloadsIn (log : List (Note Double)) : List (List UInt8) :=
  (recent log).filterMap Note.payload

/-- The binaries that a note brings to a socket. -/
def Note.binaries : Note Double → List (List UInt8)
  | .delivered packet => packet.message.binaries
  | _ => []

/-- The binaries of a packet that is delivered were received since the last attempt. -/
def Delivers (before : List (Note Double)) (entry : Note Double) : Prop :=
  ∀ bytes ∈ entry.binaries, Packet.isBinaryMessage bytes = true ∧ bytes ∈ payloadsIn before

theorem delivers_nothing {before : List (Note Double)} {entry : Note Double}
    (quiet : entry.binaries = []) : Delivers before entry := by
  intro bytes member
  rw [quiet] at member
  exact absurd member List.not_mem_nil

/-- What a receiver keeps was received since the last attempt, as was what the client delivered. -/
structure Unmixed (connection : Connection Double) : Prop where
  kept : PacketManager.Faithful ((payloadsIn connection.log).map .payload)
    { connection.packetMgr with decoded := [] }
  delivered : AtEach Delivers connection.log

variable {connection next : Connection Double}

/-- Any other note is the most recent one. -/
theorem recent_append_singleton (log : List (Note Double)) {entry : Note Double}
    (noAttempt : entry.isAttempt = false) : recent (log ++ [entry]) = recent log ++ [entry] :=
  List.rtakeWhile_concat_pos _ _ _ (by simp [noAttempt])

theorem payloadsIn_append_singleton (log : List (Note Double)) {entry : Note Double}
    (noAttempt : entry.isAttempt = false) :
    payloadsIn (log ++ [entry]) = payloadsIn log ++ entry.payload.toList := by
  rw [payloadsIn, recent_append_singleton log noAttempt, filterMap_append_singleton]
  rfl

theorem Unmixed.same (unmixed : Unmixed connection) (log : next.log = connection.log)
    (packetMgr : next.packetMgr = connection.packetMgr) : Unmixed next := by
  constructor
  · rw [log, packetMgr]
    exact unmixed.kept
  · rw [log]
    exact unmixed.delivered

/-- A note that is no attempt and brings nothing leaves the receiver as it is. -/
theorem Unmixed.note (unmixed : Unmixed connection) {entry : Note Double}
    (log : next.log = connection.log ++ [entry])
    (packetMgr : next.packetMgr = connection.packetMgr)
    (noAttempt : entry.isAttempt = false) (noPayload : entry.payload = none)
    (delivers : Delivers connection.log entry) : Unmixed next := by
  constructor
  · rw [log, payloadsIn_append_singleton _ noAttempt, noPayload, packetMgr, Option.toList_none,
      List.append_nil]
    exact unmixed.kept
  · rw [log]
    exact unmixed.delivered.append_singleton delivers

/-- A receiver that waits for nothing may begin anew. -/
theorem Unmixed.anew (unmixed : Unmixed connection) {entry : Note Double}
    (log : next.log = connection.log ++ [entry])
    (noPartial : next.packetMgr.partialPacket = none)
    (delivers : Delivers connection.log entry) : Unmixed next := by
  constructor
  · exact ⟨fun _ isPartial => absurd (noPartial.symm.trans isPartial) nofun, nofun⟩
  · rw [log]
    exact unmixed.delivered.append_singleton delivers

variable [DoubleText Double] {platform : Platform}

/-- A payload that is received keeps the receiver faithful, and so is what it completes. -/
theorem Unmixed.receive (unmixed : Unmixed connection) {payload : List UInt8}
    {packetMgr : PacketManager Double}
    (taken : connection.packetMgr.putPayload payload = some packetMgr) :
    PacketManager.Faithful ((payloadsIn (connection.log ++ [.received payload])).map .payload)
      { packetMgr with
        decoded := packetMgr.decoded.drop connection.packetMgr.decoded.length } := by
  have faithful := unmixed.kept.putPayload (PacketManager.putPayload_forgetful taken)
  rw [payloadsIn_append_singleton _ rfl]
  change PacketManager.Faithful ((payloadsIn connection.log ++ [payload]).map .payload) _
  rw [List.map_append]
  exact faithful

theorem Unmixed.received (unmixed : Unmixed connection) {payload : List UInt8}
    {packetMgr : PacketManager Double}
    (taken : connection.packetMgr.putPayload payload = some packetMgr) :
    Unmixed ({ connection with packetMgr }.note (.received payload)) := by
  constructor
  · exact ⟨(unmixed.receive taken).kept, nofun⟩
  · exact unmixed.delivered.append_singleton (delivers_nothing rfl)

theorem Unmixed.move (unmixed : Unmixed connection)
    (moved : Move platform connection next) : Unmixed next := by
  cases moved with
  | posted | took | stopped | expired | unarmed | armed | waited | gaveUp | kept | named | ended
  | left | linked => exact unmixed.same rfl rfl
  | noted entry plain =>
      cases entry with
      | created | encoded | failed | closed | opened | wrote | answered =>
          exact unmixed.note rfl rfl rfl rfl (delivers_nothing rfl)
      | _ => exact plain.elim
  | asked | missed | opened | scheduled | tuned =>
      exact unmixed.note rfl rfl rfl rfl (delivers_nothing rfl)
  | lost =>
      have first : Unmixed (connection.note .unlinked) :=
        unmixed.note rfl rfl rfl rfl (delivers_nothing rfl)
      exact first.note rfl rfl rfl rfl (delivers_nothing rfl)
  | started | retried => exact unmixed.anew rfl rfl (delivers_nothing rfl)
  | attempted uri queryString single free awake running noSid noPartial =>
      exact unmixed.anew rfl noPartial (delivers_nothing rfl)
  | received payload packetMgr established taken => exact unmixed.received taken
  | handed payload packetMgr packet established taken decoded =>
      have faithful := unmixed.receive taken
      refine (unmixed.received taken).note rfl rfl rfl rfl ?_
      intro bytes member
      have new : packet ∈ packetMgr.decoded.drop connection.packetMgr.decoded.length := by
        rw [decoded, List.drop_left]
        exact List.mem_singleton_self packet
      obtain ⟨isBinary, brought⟩ := faithful.decoded packet new bytes member
      obtain ⟨_, received, same⟩ := List.mem_map.mp brought
      cases same
      exact ⟨isBinary, received⟩

/-- No packet mixes two sessions: each binary in a packet that a client hands to a socket was
received, byte for byte, since the attempt that began the session. -/
theorem delivered_within_session (reached : (machine platform).Reachable connection)
    {before after : List (Note Double)} {packet : Packet Double}
    (split : connection.log = before ++ .delivered packet :: after) :
    ∀ bytes ∈ packet.message.binaries,
      Packet.isBinaryMessage bytes = true ∧ bytes ∈ payloadsIn before := by
  have unmixed : Unmixed connection := by
    apply moves_induction _ _ reached
    · exact ⟨⟨nofun, nofun⟩, atEach_nil⟩
    · exact fun _ _ _ unmixed moved => unmixed.move moved
  exact unmixed.delivered before _ after split

/-- A packet that waits for its binary when its session is lost, and is sent again in the next. -/
def resending : List (Act Empty) :=
  let text := ascii "451-[\"file\",\x7b\"_placeholder\":true,\"num\":0\x7d]"
  [.connect [] [] .nullptr, .ran, .opened [], .message text [], .closed 1006, .reconnExpired, .ran,
    .opened [], .message text [], .message [4, 9] []]

def resent : Connection Empty := ((machine plainPlatform).exec initial resending).get (by decide +kernel)

theorem resent_reachable : (machine plainPlatform).Reachable resent :=
  Machine.Reachable.exec (.initial rfl) (Option.some_get _).symm

theorem resent_last : resent.log.getLast?.map Note.binaries = some [[4, 9]] := by decide +kernel

theorem delivered_within_session_resent : ∃ before packet,
    resent.log = before ++ [.delivered packet] ∧ packet.message.binaries = [[4, 9]] ∧
      ∀ bytes ∈ packet.message.binaries,
        Packet.isBinaryMessage bytes = true ∧ bytes ∈ payloadsIn before := by
  obtain ⟨entry, last, binaries⟩ := Option.map_eq_some_iff.mp resent_last
  obtain ⟨before, split⟩ := List.getLast?_eq_some_iff.mp last
  cases entry with
  | delivered packet =>
      exact ⟨before, packet, split, binaries, delivered_within_session resent_reachable split⟩
  | _ => cases binaries

end Connection
end VoiceCall.Transport
