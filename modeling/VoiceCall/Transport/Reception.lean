import VoiceCall.Transport.Delivery

namespace VoiceCall.Transport
open Foundation

variable {Double : Type}

namespace PacketManager

/-- Some call brought a binary payload. -/
def Brought (calls : List Call) (bytes : List UInt8) : Prop :=
  Packet.isBinaryMessage bytes = true ∧ Call.payload bytes ∈ calls

theorem Brought.later {calls : List Call} {bytes : List UInt8} (brought : Brought calls bytes)
    (call : Call) : Brought (calls ++ [call]) bytes :=
  ⟨brought.1, List.mem_append_left _ brought.2⟩

/-- A packet that waits has no binary in its message, and calls brought its buffers. -/
structure Waits (calls : List Call) (packet : Packet Double) : Prop where
  message : packet.message.binaries = []
  buffers : ∀ bytes ∈ packet.buffers.tail, Brought calls bytes

/-- What a receiver keeps and what it has decoded was brought by calls. -/
structure Faithful (calls : List Call) (manager : PacketManager Double) : Prop where
  kept : ∀ packet, manager.partialPacket = some packet → Waits calls packet
  decoded : ∀ packet ∈ manager.decoded, ∀ bytes ∈ packet.message.binaries, Brought calls bytes

namespace Faithful

theorem later {calls : List Call} {manager : PacketManager Double}
    (faithful : Faithful calls manager) (call : Call) : Faithful (calls ++ [call]) manager := by
  refine ⟨fun packet isPartial => ?_, fun packet isDecoded bytes member =>
    (faithful.decoded packet isDecoded bytes member).later call⟩
  have waits := faithful.kept packet isPartial
  exact ⟨waits.message, fun bytes member => (waits.buffers bytes member).later call⟩

theorem reset {calls : List Call} {manager : PacketManager Double}
    (faithful : Faithful calls manager) : Faithful calls manager.reset :=
  ⟨fun _ isPartial => absurd isPartial nofun, faithful.decoded⟩

/-- A packet may be decoded when its binaries were brought. -/
theorem decode {calls : List Call} {manager : PacketManager Double} {packet : Packet Double}
    (faithful : Faithful calls manager)
    (brought : ∀ bytes ∈ packet.message.binaries, Brought calls bytes) :
    Faithful calls (manager.decode packet) := by
  refine ⟨faithful.kept, fun other isDecoded => ?_⟩
  rcases List.mem_append.mp isDecoded with before | last
  · exact faithful.decoded other before
  · rw [List.mem_singleton.mp last]
    exact brought

theorem keep {calls : List Call} {manager : PacketManager Double} {packet : Packet Double}
    (faithful : Faithful calls manager) (waits : Waits calls packet) :
    Faithful calls { manager with partialPacket := some packet } := by
  refine ⟨fun other isPartial => ?_, faithful.decoded⟩
  cases isPartial
  exact waits

end Faithful
end PacketManager

namespace Packet

theorem binaries_of_no_buffers {value : Value Double} {message : Message Double}
    (read : fromJson [] value = some message) : message.binaries = [] :=
  List.eq_nil_iff_forall_not_mem.mpr fun bytes member =>
    List.not_mem_nil (decoded_binaries value read bytes member)

end Packet

variable [DoubleText Double]

namespace Packet

/-- A packet without its buffers has no binary yet. -/
structure WithoutBinaries (packet : Packet Double) : Prop where
  buffers : packet.buffers.tail = []
  message : packet.message.binaries = []

theorem parseMessage_withoutBinaries {packet result : Packet Double} {payload : List UInt8}
    {position jsonPos : Nat} {needsBuffers : Bool}
    (parsed : parseMessage packet payload position jsonPos = some (result, needsBuffers))
    (buffers : packet.buffers = []) (message : packet.message.binaries = []) :
    result.WithoutBinaries := by
  obtain ⟨packId, _, rest⟩ := Option.bind_eq_some_iff.mp parsed
  split at rest
  · cases rest
    exact ⟨by rw [buffers]; rfl, message⟩
  · obtain ⟨decoded, outcome, same⟩ := Option.map_eq_some_iff.mp rest
    obtain ⟨value, _, read⟩ := Option.bind_eq_some_iff.mp outcome
    cases same
    exact ⟨by rw [buffers]; rfl, binaries_of_no_buffers read⟩

theorem parseNsp_withoutBinaries {packet result : Packet Double} {payload : List UInt8}
    {position : Nat} {needsBuffers : Bool}
    (parsed : parseNsp packet payload position = some (result, needsBuffers))
    (buffers : packet.buffers = []) (message : packet.message.binaries = []) :
    result.WithoutBinaries := by
  have kept (nsp : List UInt8) : ({ packet with nsp := nsp } : Packet Double).WithoutBinaries :=
    ⟨by rw [buffers]; rfl, message⟩
  unfold parseNsp at parsed
  split at parsed
  · cases parsed
    exact kept _
  · split at parsed
    · split at parsed
      · cases parsed
        exact kept _
      · split at parsed
        · cases parsed
          exact kept _
        · exact parseMessage_withoutBinaries parsed buffers message
    · exact parseMessage_withoutBinaries parsed buffers message

/-- Whatever a text says, no binary is in what is parsed from it. -/
theorem parse_withoutBinaries {payload : List UInt8} {result : Packet Double}
    {needsBuffers : Bool} (parsed : parse payload = some (result, needsBuffers)) :
    result.WithoutBinaries := by
  simp only [parse] at parsed
  split at parsed
  · split at parsed
    · cases parsed
      exact ⟨rfl, rfl⟩
    · split at parsed
      · obtain ⟨count, _, rest⟩ := Option.bind_eq_some_iff.mp parsed
        exact parseNsp_withoutBinaries rest rfl rfl
      · exact parseNsp_withoutBinaries parsed rfl rfl
  · exact parseNsp_withoutBinaries parsed rfl rfl

end Packet

namespace PacketManager

/-- A packet that waits takes a binary payload as its next buffer. -/
theorem Waits.parseBuffer {calls : List Call} {packet result : Packet Double}
    {payload : List UInt8} {needsBuffers : Bool} (waits : Waits calls packet)
    (binary : Packet.isBinaryMessage payload = true)
    (parsed : packet.parseBuffer payload = some (result, needsBuffers)) :
    (needsBuffers = true → Waits (calls ++ [.payload payload]) result) ∧
      ∀ bytes ∈ result.message.binaries, Brought (calls ++ [.payload payload]) bytes := by
  have brought : ∀ bytes ∈ (packet.buffers ++ [payload]).tail,
      Brought (calls ++ [.payload payload]) bytes := by
    intro bytes member
    have parts : bytes ∈ packet.buffers.tail ∨ bytes = payload := by
      cases shape : packet.buffers with
      | nil => rw [shape] at member; exact absurd member List.not_mem_nil
      | cons first rest =>
          rw [shape, List.cons_append, List.tail_cons] at member
          simpa using member
    rcases parts with early | rfl
    · exact (waits.buffers bytes early).later _
    · exact ⟨binary, List.mem_append_right _ List.mem_cons_self⟩
  rcases pending : packet.pendingBuffers with _ | _ | pending
  · simp only [Packet.parseBuffer, pending, Option.some.injEq, Prod.mk.injEq] at parsed
    obtain ⟨rfl, rfl⟩ := parsed
    refine ⟨fun more => absurd more Bool.false_ne_true, fun bytes member => ?_⟩
    rw [waits.message] at member
    exact absurd member List.not_mem_nil
  · simp only [Packet.parseBuffer, pending] at parsed
    obtain ⟨message, outcome, same⟩ := Option.map_eq_some_iff.mp parsed
    obtain ⟨value, _, read⟩ := Option.bind_eq_some_iff.mp outcome
    cases same
    exact ⟨fun more => absurd more Bool.false_ne_true,
      fun bytes member => brought bytes (decoded_binaries value read bytes member)⟩
  · simp only [Packet.parseBuffer, pending, Option.some.injEq, Prod.mk.injEq] at parsed
    obtain ⟨rfl, rfl⟩ := parsed
    refine ⟨fun _ => ⟨waits.message, brought⟩, fun bytes member => ?_⟩
    rw [waits.message] at member
    exact absurd member List.not_mem_nil

/-- A payload leaves a faithful receiver faithful. -/
theorem Faithful.putPayload {calls : List Call} {manager next : PacketManager Double}
    {payload : List UInt8} (faithful : Faithful calls manager)
    (taken : manager.putPayload payload = some next) :
    Faithful (calls ++ [.payload payload]) next := by
  have before := faithful.later (.payload payload)
  have nothing {packet : Packet Double} (bare : packet.WithoutBinaries) :
      ∀ bytes ∈ packet.message.binaries, Brought (calls ++ [.payload payload]) bytes := by
    intro bytes member
    rw [bare.message] at member
    exact absurd member List.not_mem_nil
  unfold PacketManager.putPayload at taken
  split at taken
  · obtain ⟨⟨packet, needsBuffers⟩, parsed, same⟩ := Option.map_eq_some_iff.mp taken
    have bare := Packet.parse_withoutBinaries parsed
    cases needsBuffers with
    | true =>
        cases same
        refine before.keep ⟨bare.message, fun bytes member => ?_⟩
        rw [bare.buffers] at member
        exact absurd member List.not_mem_nil
    | false =>
        cases same
        exact before.decode (nothing bare)
  · split at taken
    · next binary =>
        split at taken
        · cases taken
          exact before
        · next packet isPartial =>
            obtain ⟨⟨result, needsBuffers⟩, parsed, same⟩ := Option.map_eq_some_iff.mp taken
            obtain ⟨waits, brought⟩ :=
              (faithful.kept packet isPartial).parseBuffer binary parsed
            cases needsBuffers with
            | true =>
                cases same
                exact before.keep (waits rfl)
            | false =>
                cases same
                exact before.reset.decode brought
    · obtain ⟨⟨packet, needsBuffers⟩, parsed, same⟩ := Option.map_eq_some_iff.mp taken
      cases same
      exact before.decode (nothing (Packet.parse_withoutBinaries parsed))

/-- Every run of a receiver is faithful to its calls. -/
theorem faithful_of_exec {calls : List Call} {last : PacketManager Double}
    (ran : machine.exec fresh calls = some last) : Faithful calls last := by
  refine Machine.exec_induction ?_ ?_ ran
  · exact ⟨fun _ isPartial => absurd isPartial nofun, fun _ isDecoded => absurd isDecoded nofun⟩
  · intro calls manager call next faithful taken
    cases call with
    | payload bytes => exact faithful.putPayload taken
    | reset =>
        cases taken
        exact (faithful.later .reset).reset

/-- Whatever payloads arrive, each binary inside a decoded message is one of them, byte for byte,
and begins with the byte 4. -/
theorem decoded_binary_brought {calls : List Call} {last : PacketManager Double}
    (ran : machine.exec fresh calls = some last) {packet : Packet Double}
    (isDecoded : packet ∈ last.decoded) {bytes : List UInt8}
    (isIn : bytes ∈ packet.message.binaries) :
    bytes.head? = some 4 ∧ Call.payload bytes ∈ calls := by
  have brought := (faithful_of_exec ran).decoded packet isDecoded bytes isIn
  exact ⟨of_decide_eq_true brought.1, brought.2⟩

/-- Sound packets that are sent in a row are decoded, all and in order, exactly when each of
their binaries begins with the byte 4. -/
theorem stream_decoded_iff {packets : List (Packet Double)}
    (sound : ∀ packet ∈ packets, packet.Sound) :
    (∃ last, machine.exec fresh (stream packets) = some last ∧
        last.decoded = packets.map Packet.delivered) ↔
      ∀ packet ∈ packets, ∀ bytes ∈ packet.message.binaries, bytes.head? = some 4 := by
  constructor
  · rintro ⟨last, ran, all⟩ packet member bytes isIn
    have isDecoded : packet.delivered ∈ last.decoded := all ▸ List.mem_map_of_mem member
    exact of_decide_eq_true ((faithful_of_exec ran).decoded _ isDecoded bytes isIn).1
  · intro begins
    have ran := exec_stream sound
      (fun packet member bytes isIn => decide_eq_true (begins packet member bytes isIn)) []
    exact ⟨_, ran, rfl⟩

/-- Complete payloads between the text of a packet and its buffers, such as a ping, are decoded
as they come and do not disturb the packet. -/
theorem interleaved_packet_decoded {packet : Packet Double} (sound : packet.Sound)
    {payload last : List UInt8} {mixed : List (List UInt8)}
    (accepted : packet.accept =
      some (payload, mixed.filter Packet.isBinaryMessage ++ [last]))
    (isLast : Packet.isBinaryMessage last = true)
    (quiet : ∀ other ∈ mixed, Packet.isBinaryMessage other = true ∨
      (complete other : Option (Packet Double)).isSome = true)
    (decoded : List (Packet Double)) :
    machine.exec ⟨none, decoded⟩ ((payload :: (mixed ++ [last])).map .payload) =
      some ⟨none, decoded ++ mixed.filterMap complete ++ [packet.delivered]⟩ := by
  by_cases empty : packet.message.binaries = []
  · obtain ⟨other, known, _⟩ := sound.parsed_at_once empty
    rw [known] at accepted
    have length := congrArg (fun pair => pair.2.length) (Option.some.inj accepted)
    simp at length
  · obtain ⟨other, json, known, text, parsed, read⟩ := sound.parsed_waiting empty
    rw [known] at accepted
    obtain ⟨rfl, buffers⟩ := Prod.mk.inj (Option.some.inj accepted)
    rw [buffers] at read
    have count : packet.message.binaries.length =
        (mixed.filter Packet.isBinaryMessage).length + 1 := by
      rw [buffers, List.length_append, List.length_singleton]
    have mix := exec_mixed [] isLast read quiet (packet.waiting json) decoded
    rw [← count] at mix
    rw [List.map_cons, Machine.exec_cons]
    change Option.bind (putPayload _ other) _ = _
    rw [putPayload_text _ text, parsed]
    exact mix

end PacketManager

/-- An event with an attachment asks for the acknowledgement 7. -/
def fileEvent : Packet Empty :=
  Packet.ofMessage (ascii "/chat") (.array [.string (ascii "file"), .binary [4, 9],
    .object [(ascii "size", .integer (-5))]]) 7 false

theorem fileEvent_sound : fileEvent.Sound where
  frame := rfl
  writable := rfl
  nsp := ⟨.inr rfl, by decide +kernel⟩
  packId := ⟨by decide, by decide⟩
  message := .inl (by decide +kernel)

namespace PacketManager

example : fileEvent.accept = some (ascii
    "451-/chat,7[\"file\",\x7b\"_placeholder\":true,\"num\":0\x7d,\x7b\"size\":-5\x7d]", [[4, 9]]) := by
  decide +kernel

theorem stream_decoded_fileEvent :
    ∃ last, machine.exec fresh (stream [fileEvent]) = some last ∧
      last.decoded = [fileEvent].map Packet.delivered :=
  (stream_decoded_iff (by
    intro packet member
    rw [List.mem_singleton.mp member]
    exact fileEvent_sound)).mpr (by
    intro packet member bytes isIn
    rw [List.mem_singleton.mp member] at isIn
    have known : ∀ bytes ∈ fileEvent.message.binaries, bytes.head? = some 4 := by decide +kernel
    exact known bytes isIn)

theorem decoded_binary_fileEvent :
    ([4, 9] : List UInt8).head? = some 4 ∧ Call.payload [4, 9] ∈ stream [fileEvent] :=
  decoded_binary_brought (exec_payloads fileEvent_sound (by decide +kernel) [])
    List.mem_cons_self (by decide +kernel)

theorem interleaved_ping_fileEvent :
    machine.exec ⟨none, []⟩ ((ascii
        "451-/chat,7[\"file\",\x7b\"_placeholder\":true,\"num\":0\x7d,\x7b\"size\":-5\x7d]" ::
        ([ascii "2"] ++ [[4, 9]])).map .payload) =
      some ⟨none, [] ++ [ascii "2"].filterMap complete ++ [fileEvent.delivered]⟩ :=
  interleaved_packet_decoded fileEvent_sound
    (by decide +kernel) (by decide +kernel) (by decide +kernel) []

end PacketManager
end VoiceCall.Transport
