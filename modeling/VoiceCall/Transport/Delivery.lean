import VoiceCall.Transport.PacketText

namespace VoiceCall.Transport
open Foundation

variable {Double : Type}

namespace Message

/-- The text of these messages can be found behind a namespace and an identifier. -/
def opens : Message Double → Bool
  | .string _ => true
  | .binary _ => true
  | .array _ => true
  | .object _ => true
  | _ => false

/-- A portable message survives the way through its text and its buffers. -/
structure Portable (message : Message Double) : Prop where
  opens : message.opens = true
  complete : message.complete = true
  ordered : message.ordered = true
  honest : message.honest = true
  exact : message.exact = true
  few : message.binaries.length < 2 ^ 31

instance (message : Message Double) : Decidable message.Portable :=
  decidable_of_iff (message.opens = true ∧ message.complete = true ∧ message.ordered = true ∧
      message.honest = true ∧ message.exact = true ∧ message.binaries.length < 2 ^ 31)
    ⟨fun ⟨opens, complete, ordered, honest, exact, few⟩ =>
        ⟨opens, complete, ordered, honest, exact, few⟩,
      fun ⟨opens, complete, ordered, honest, exact, few⟩ =>
        ⟨opens, complete, ordered, honest, exact, few⟩⟩

end Message

namespace Packet

/-- The types of a packet that is to be written, before it is known whether binaries follow. -/
def isWritable (packet : Packet Double) : Bool :=
  packet.type = typeEvent + typeUndetermined || packet.type = typeAck + typeUndetermined ||
    ((packet.type = typeConnect || packet.type = typeDisconnect || packet.type = typeError) &&
      packet.message.binaries.isEmpty)

/-- A sound packet has a type of the protocol, a namespace and an identifier that can be read,
and a portable message or neither message nor identifier. -/
structure Sound (packet : Packet Double) : Prop where
  frame : packet.frame = frameMessage
  writable : packet.isWritable = true
  nsp : ReadableNsp packet.nsp
  packId : ReadableId packet.packId
  message : packet.message.Portable ∨
    (packet.message.isNotNull = false ∧ packet.packId = -1)

/-- The packet that the callback of a receiver should be given. -/
def delivered (packet : Packet Double) : Packet Double :=
  { packet with
    type := packet.completedType !packet.message.binaries.isEmpty
    nsp := shownNsp packet.nsp
    pendingBuffers := 0
    buffers := [] }

/-- The number of a written type has one digit. -/
theorem decimal_digit {number : Nat} (small : number ≤ 6) :
    decimal number = [digitByte number] := by
  interval_cases number <;> rfl

/-- The text before a document is a prefix, the number of its buffers, and what is left. -/
theorem frame_header (packet : Packet Double) (hasMessage : Bool) {type : Nat} (buffers : Nat)
    (small : type ≤ 6) (written : packet.completedType (decide (0 < buffers)) = type)
    (json : List UInt8) :
    '4'.toUInt8 :: packet.header hasMessage buffers ++ json =
      prefixed type ((if 0 < buffers then decimal buffers ++ ['-'.toUInt8] else []) ++
        (nspText packet.nsp ++ ((if nspText packet.nsp = [] ∨ (¬hasMessage ∧ packet.packId < 0)
          then [] else [','.toUInt8]) ++ (idText packet.packId ++ json)))) := by
  have separator : (if packet.nsp ≠ [] ∧ packet.nsp ≠ ascii "/" then
      packet.nsp ++ (if hasMessage ∨ 0 ≤ packet.packId then [','.toUInt8] else []) else []) =
      nspText packet.nsp ++ (if nspText packet.nsp = [] ∨ (¬hasMessage ∧ packet.packId < 0)
        then [] else [','.toUInt8]) := by
    unfold nspText
    by_cases shown : packet.nsp ≠ [] ∧ packet.nsp ≠ ascii "/"
    · rw [if_pos shown, if_pos shown]
      by_cases follows : hasMessage = true ∨ 0 ≤ packet.packId
      · rw [if_pos follows, if_neg]
        rintro (empty | ⟨noMessage, noId⟩)
        · exact shown.1 empty
        · rcases follows with message | identified
          · exact noMessage message
          · omega
      · rw [if_neg follows, if_pos]
        exact .inr ⟨fun message => follows (.inl message), by
          have none : ¬0 ≤ packet.packId := fun identified => follows (.inr identified)
          omega⟩
    · rw [if_neg shown, if_neg shown, if_pos (.inl rfl)]
      rfl
  rw [header, separator, written, Int.toNat_natCast, decimal_digit small, prefixed, idText]
  simp only [List.append_assoc, List.cons_append, List.nil_append]

/-- A sound packet without binaries has a type without buffers, and any other has one with. -/
theorem Sound.type_cases {packet : Packet Double} (sound : packet.Sound) :
    (packet.message.binaries = [] ∧
      ∃ type : Nat, type ≤ 4 ∧ packet.completedType false = (type : Int)) ∨
    (packet.message.binaries ≠ [] ∧
      ∃ type : Nat, (type = 5 ∨ type = 6) ∧ packet.completedType true = (type : Int)) := by
  have writable := sound.writable
  simp only [isWritable, Bool.or_eq_true, Bool.and_eq_true, decide_eq_true_eq,
    List.isEmpty_iff] at writable
  by_cases none : packet.message.binaries = []
  · refine .inl ⟨none, ?_⟩
    rcases writable with (event | ack) | ⟨(connect | disconnect) | error, _⟩
    · exact ⟨2, by decide, by rw [completedType, event]; rfl⟩
    · exact ⟨3, by decide, by rw [completedType, ack]; rfl⟩
    · exact ⟨0, by decide, by rw [completedType, connect]; rfl⟩
    · exact ⟨1, by decide, by rw [completedType, disconnect]; rfl⟩
    · exact ⟨4, by decide, by rw [completedType, error]; rfl⟩
  · refine .inr ⟨none, ?_⟩
    rcases writable with (event | ack) | ⟨_, empty⟩
    · exact ⟨5, .inl rfl, by rw [completedType, event]; rfl⟩
    · exact ⟨6, .inr rfl, by rw [completedType, ack]; rfl⟩
    · exact absurd empty none

theorem delivered_eq {packet : Packet Double} (frame : packet.frame = frameMessage) :
    packet.delivered = ⟨frameMessage, packet.completedType !packet.message.binaries.isEmpty,
      shownNsp packet.nsp, packet.packId, packet.message, 0, []⟩ := by
  rw [delivered, frame]

theorem noComma_prefixed {type : Nat} (small : type ≤ 6) :
    ','.toUInt8 ∉ prefixed type [] := by
  interval_cases type <;> decide

end Packet

variable [DoubleText Double]

namespace Message

/-- A portable message has a document, whose text is read back and gives the message again. -/
theorem Portable.travels {message : Message Double} (portable : message.Portable) :
    ∃ value, acceptMessage [] message = some (value, message.binaries) ∧
      Packet.Opens (Writer.write value) ∧ Reader.parse (Writer.write value) = .some value ∧
      fromJson message.binaries value = some message := by
  obtain ⟨value, accepted⟩ := acceptMessage_complete message [] portable.complete
  rw [List.nil_append] at accepted
  have exact := exact_accepted message portable.exact accepted
  have few := portable.few
  rw [← List.append_nil message.binaries] at few
  have read := (fromJson_iff_honest message portable.ordered accepted few).mpr portable.honest
  rw [List.append_nil] at read
  refine ⟨value, accepted, ?_, by rw [Reader.parse, parseRoot_written exact], read⟩
  have opens := portable.opens
  cases message with
  | string text =>
      cases accepted
      exact ⟨_, _, rfl, by decide⟩
  | binary bytes =>
      cases accepted
      exact ⟨_, _, rfl, by decide⟩
  | array elements =>
      obtain ⟨⟨values, buffers⟩, _, same⟩ := Option.map_eq_some_iff.mp accepted
      rw [← (Prod.mk.inj same).1]
      exact ⟨_, _, rfl, by decide⟩
  | object members =>
      obtain ⟨⟨values, buffers⟩, _, same⟩ := Option.map_eq_some_iff.mp accepted
      rw [← (Prod.mk.inj same).1]
      exact ⟨_, _, rfl, by decide⟩
  | _ => cases opens

end Message

namespace Packet

/-- A packet with a portable message is written as its header and the text of the document. -/
theorem accept_portable {packet : Packet Double} (frame : packet.frame = frameMessage)
    (portable : packet.message.Portable) :
    ∃ value, packet.accept = some ('4'.toUInt8 ::
        packet.header true packet.message.binaries.length ++ Writer.write value,
        packet.message.binaries) ∧
      Opens (Writer.write value) ∧ Reader.parse (Writer.write value) = .some value ∧
      fromJson packet.message.binaries value = some packet.message := by
  obtain ⟨value, accepted, opens, parsed, read⟩ := portable.travels
  refine ⟨value, ?_, opens, parsed, read⟩
  have document : packet.acceptDocument = some (some value, packet.message.binaries) := by
    have isOpen := portable.opens
    unfold acceptDocument
    split
    · next silent =>
        rw [silent] at isOpen
        cases isOpen
    · rw [accepted]
      rfl
  rw [accept, frame, if_neg (fun differs => differs rfl), document]
  rfl

theorem accept_silent {packet : Packet Double} (frame : packet.frame = frameMessage)
    (silent : packet.message.isNotNull = false) :
    packet.accept = some ('4'.toUInt8 :: packet.header false 0, []) := by
  have document : packet.acceptDocument = some (none, []) := by
    unfold acceptDocument
    split
    · rfl
    · next spoken =>
        cases shape : packet.message with
        | nullptr => exact absurd shape spoken
        | _ => rw [shape] at silent; cases silent
  rw [accept, frame, if_neg (fun differs => differs rfl), document]
  simp only [Option.map_some, Option.isSome_none, List.length_nil, List.append_nil]
  rfl

/-- The receiver of a sound packet without binaries decodes it from its text at once. -/
theorem Sound.parsed_at_once {packet : Packet Double} (sound : packet.Sound)
    (none : packet.message.binaries = []) :
    ∃ payload, packet.accept = some (payload, []) ∧ isTextMessage payload = true ∧
      parse payload = some (packet.delivered, false) := by
  obtain ⟨_, type, small, written⟩ | ⟨some, _⟩ := sound.type_cases
  swap
  · exact absurd none some
  have result : packet.delivered = ⟨frameMessage, type, shownNsp packet.nsp, packet.packId,
      packet.message, 0, []⟩ := by
    rw [delivered_eq sound.frame, none]
    exact congrArg (fun kind => (⟨frameMessage, kind, _, _, _, 0, []⟩ : Packet Double)) written
  rcases sound.message with portable | ⟨silent, noId⟩
  · obtain ⟨value, accepted, opens, parsed, read⟩ := accept_portable sound.frame portable
    rw [none, List.length_nil, frame_header packet true 0 (by omega) written, if_neg (by decide),
      List.nil_append] at accepted
    rw [none] at read
    rw [if_congr (by simp : nspText packet.nsp = [] ∨ (¬true = true ∧ packet.packId < 0) ↔
      nspText packet.nsp = []) rfl rfl] at accepted
    refine ⟨_, accepted, rfl, ?_⟩
    have named := parseNsp_written (typed type 0 : Packet Double) rfl (prefixed type [])
      (noComma_prefixed (by omega)) sound.nsp sound.packId opens
    rw [parse_plain small, result]
    refine named.trans ((finish_plain small _ _ _).trans ?_)
    rw [parsed, Option.bind_some, read]
    rfl
  · have accepted := accept_silent sound.frame silent
    have noText : idText packet.packId = [] := by rw [noId]; rfl
    have whole := frame_header packet false 0 (by omega) written []
    rw [if_neg (by decide), noText, if_pos (.inr ⟨by decide, by rw [noId]; decide⟩)] at whole
    simp only [List.append_nil, List.nil_append] at whole
    rw [whole] at accepted
    refine ⟨_, accepted, rfl, ?_⟩
    have named := parseNsp_empty (typed type 0 : Packet Double) (prefixed type [])
      (noComma_prefixed (by omega)) sound.nsp
    have isNull : packet.message = .nullptr := by
      cases shape : packet.message with
      | nullptr => rfl
      | _ => rw [shape] at silent; cases silent
    rw [parse_plain small, result, isNull, noId]
    exact named

/-- A packet that waits for all its buffers. -/
def waiting (packet : Packet Double) (json : List UInt8) : Packet Double :=
  { packet.delivered with
    message := .nullptr
    pendingBuffers := packet.message.binaries.length
    buffers := [json] }

theorem noComma_counted {type : Nat} (small : type ≤ 6) (count : Nat) :
    ','.toUInt8 ∉ prefixed type (decimal count ++ ['-'.toUInt8]) := by
  intro isIn
  simp only [prefixed, List.mem_cons, List.mem_append, List.not_mem_nil, or_false] at isIn
  rcases isIn with four | isType | inCount | score
  · exact absurd four (by decide)
  · exact noComma_prefixed small (isType ▸ List.mem_cons_of_mem _ List.mem_cons_self)
  · exact (digit_not_mem _ (isDigit_of_mem_decimal inCount)).2.2.1 rfl
  · exact absurd score (by decide)

/-- The receiver of a sound packet with binaries waits for them behind its text. -/
theorem Sound.parsed_waiting {packet : Packet Double} (sound : packet.Sound)
    (some : packet.message.binaries ≠ []) :
    ∃ payload json, packet.accept = .some (payload, packet.message.binaries) ∧
      isTextMessage payload = true ∧ parse payload = .some (packet.waiting json, true) ∧
      (Reader.parse json).bind (fromJson packet.message.binaries) = .some packet.message := by
  obtain ⟨none, _⟩ | ⟨_, type, binary, written⟩ := sound.type_cases
  · exact absurd none some
  have small : type ≤ 6 := by omega
  have portable : packet.message.Portable := by
    rcases sound.message with portable | ⟨silent, _⟩
    · exact portable
    · cases shape : packet.message with
      | nullptr => rw [shape] at some; exact absurd rfl some
      | _ => rw [shape] at silent; cases silent
  have positive : 0 < packet.message.binaries.length := List.length_pos_of_ne_nil some
  obtain ⟨value, accepted, opens, parsed, read⟩ := accept_portable sound.frame portable
  have few := portable.few
  rw [frame_header packet true _ small ((congrArg _ (decide_eq_true positive)).trans written),
    if_pos positive, if_congr (by simp : nspText packet.nsp = [] ∨
      (¬true = true ∧ packet.packId < 0) ↔ nspText packet.nsp = []) rfl rfl, List.append_assoc,
    List.singleton_append] at accepted
  refine ⟨_, Writer.write value, accepted, rfl, ?_, by rw [parsed]; exact read⟩
  have result : packet.waiting (Writer.write value) = ⟨frameMessage, type, shownNsp packet.nsp,
      packet.packId, .nullptr, packet.message.binaries.length, [Writer.write value]⟩ := by
    rw [waiting, delivered_eq sound.frame]
    have filled : (!packet.message.binaries.isEmpty) = true := by simpa using some
    rw [filled, written]
  have named := parseNsp_written (typed type packet.message.binaries.length : Packet Double) rfl
    (prefixed type (decimal packet.message.binaries.length ++ ['-'.toUInt8]))
    (noComma_counted small _) sound.nsp sound.packId opens
  rw [parse_counted binary (by omega), result]
  refine Eq.trans ?_ (named.trans (finish_counted binary _ _ _ _))
  rw [prefixed, prefixed, List.cons_append, List.cons_append, List.append_assoc,
    List.singleton_append]

/-- A buffer before the last one is kept. -/
theorem parseBuffer_more {packet : Packet Double} {pending : Nat}
    (waits : packet.pendingBuffers = pending + 2) (payload : List UInt8) :
    packet.parseBuffer payload = some ({ packet with
      buffers := packet.buffers ++ [payload], pendingBuffers := pending + 1 }, true) := by
  rw [parseBuffer, waits]

/-- The last buffer completes the message. -/
theorem parseBuffer_last {packet : Packet Double} (waits : packet.pendingBuffers = 1)
    (payload : List UInt8) :
    packet.parseBuffer payload =
      ((Reader.parse ((packet.buffers ++ [payload]).headD [])).bind
        (fromJson (packet.buffers ++ [payload]).tail)).map fun message =>
          ({ packet with message := message, pendingBuffers := 0, buffers := [] }, false) := by
  rw [parseBuffer, waits]

end Packet

namespace PacketManager

/-- A binary payload is a buffer of the partial packet. -/
theorem putPayload_binary {manager : PacketManager Double} {packet : Packet Double}
    (isPartial : manager.partialPacket = some packet) {payload : List UInt8}
    (binary : Packet.isBinaryMessage payload = true) :
    manager.putPayload payload = (packet.parseBuffer payload).map fun (packet, needsBuffers) =>
      if needsBuffers then { manager with partialPacket := some packet }
      else manager.reset.decode packet := by
  have notText : Packet.isTextMessage payload = false := by
    have four : payload.head? = some 4 := of_decide_eq_true binary
    rw [Packet.isTextMessage, four]
    rfl
  rw [putPayload, if_neg (by rw [notText]; decide), if_pos binary, isPartial]

/-- A payload is complete when it is decoded whatever the receiver waits for. -/
def complete (payload : List UInt8) : Option (Packet Double) :=
  if Packet.isBinaryMessage payload then none
  else (Packet.parse payload).bind fun (packet, needsBuffers) =>
    if needsBuffers then none else some packet

/-- A complete payload is decoded and leaves the partial packet as it is. -/
theorem putPayload_complete (manager : PacketManager Double) {payload : List UInt8}
    {packet : Packet Double} (isComplete : complete payload = some packet) :
    manager.putPayload payload = some (manager.decode packet) := by
  unfold complete at isComplete
  split at isComplete
  · cases isComplete
  · next notBinary =>
      obtain ⟨⟨parsed, needsBuffers⟩, read, known⟩ := Option.bind_eq_some_iff.mp isComplete
      cases needsBuffers with
      | true => cases known
      | false =>
          cases known
          rw [putPayload, if_neg notBinary, read]
          split <;> rfl

/-- The buffers of a waiting packet complete it, whatever complete payloads come between them. -/
theorem exec_mixed (got : List (List UInt8)) {mixed : List (List UInt8)} {last : List UInt8}
    (isLast : Packet.isBinaryMessage last = true) {json : List UInt8} {message : Message Double}
    (read : (Reader.parse json).bind
      (fromJson (got ++ (mixed.filter Packet.isBinaryMessage ++ [last]))) =
      some message)
    (quiet : ∀ payload ∈ mixed, Packet.isBinaryMessage payload = true ∨
      (complete payload : Option (Packet Double)).isSome = true)
    (packet : Packet Double) (decoded : List (Packet Double)) :
    machine.exec ⟨some { packet with
        pendingBuffers := (mixed.filter Packet.isBinaryMessage).length + 1,
        buffers := json :: got }, decoded⟩ ((mixed ++ [last]).map .payload) =
      some ⟨none, decoded ++ mixed.filterMap complete ++ [{ packet with
        message := message, pendingBuffers := 0, buffers := [] }]⟩ := by
  induction mixed generalizing got decoded with
  | nil =>
      change Option.bind (putPayload _ last) _ = _
      rw [putPayload_binary rfl isLast, Packet.parseBuffer_last rfl]
      simp only [List.filter_nil, List.nil_append] at read
      simp only [List.cons_append, List.tail_cons, List.headD_cons, read, Option.map_some,
        Option.bind_some, Bool.false_eq_true, if_false]
      rw [List.filterMap_nil, List.append_nil]
      rfl
  | cons payload mixed ih =>
      have quietRest := fun other (member : other ∈ mixed) =>
        quiet other (List.mem_cons_of_mem payload member)
      rw [List.cons_append, List.map_cons, Machine.exec_cons]
      change Option.bind (putPayload _ payload) _ = _
      by_cases binary : Packet.isBinaryMessage payload = true
      · rw [List.filter_cons_of_pos binary, List.cons_append, List.append_cons] at read
        have hidden : (complete payload : Option (Packet Double)) = none := if_pos binary
        rw [List.filter_cons_of_pos binary, List.length_cons, putPayload_binary rfl binary,
          Packet.parseBuffer_more rfl, List.filterMap_cons, hidden]
        exact ih (got ++ [payload]) read quietRest decoded
      · rw [List.filter_cons_of_neg binary] at read
        obtain ⟨known, isComplete⟩ := Option.isSome_iff_exists.mp
          ((quiet payload List.mem_cons_self).resolve_left binary)
        rw [List.filter_cons_of_neg binary, putPayload_complete _ isComplete,
          List.filterMap_cons, isComplete]
        rw [List.append_cons decoded known]
        exact ih got read quietRest (decoded ++ [known])

/-- The buffers of a waiting packet complete it, one after the other. -/
theorem exec_buffers {left : List (List UInt8)} (some : left ≠ [])
    {json : List UInt8} {message : Message Double}
    (read : (Reader.parse json).bind (fromJson left) = .some message)
    (binary : ∀ payload ∈ left, Packet.isBinaryMessage payload = true)
    (packet : Packet Double) (decoded : List (Packet Double)) :
    machine.exec ⟨.some { packet with pendingBuffers := left.length, buffers := [json] },
        decoded⟩ (left.map .payload) =
      .some ⟨none, decoded ++ [{ packet with
        message := message, pendingBuffers := 0, buffers := [] }]⟩ := by
  obtain ⟨first, last, rfl⟩ := (List.eq_nil_or_concat' left).resolve_left some
  have early : ∀ payload ∈ first, Packet.isBinaryMessage payload = true := fun payload member =>
    binary payload (List.mem_append_left _ member)
  have all : first.filter Packet.isBinaryMessage = first := List.filter_eq_self.mpr early
  have none : first.filterMap (complete : List UInt8 → Option (Packet Double)) = [] :=
    List.filterMap_eq_nil_iff.mpr fun payload member => if_pos (early payload member)
  have mixed := exec_mixed [] (binary last (List.mem_append_right _ List.mem_cons_self))
    (by rw [all]; exact read) (fun payload member => .inl (early payload member)) packet decoded
  rw [all, none, List.append_nil] at mixed
  rw [List.length_append]
  exact mixed

/-- The payloads of a packet in the order in which they are sent. -/
def payloads (packet : Packet Double) : List (List UInt8) :=
  ((encode packet).getD []).map Prod.snd

theorem payloads_eq {packet : Packet Double} {payload : List UInt8} {buffers : List (List UInt8)}
    (accepted : packet.accept = some (payload, buffers)) :
    payloads packet = payload :: buffers := by
  rw [payloads, encode, accepted, Option.map_some, Option.getD_some, List.map_cons, List.map_map]
  exact congrArg _ (List.map_id buffers)

/-- A text that is complete is decoded, and one that needs buffers replaces the partial packet. -/
theorem putPayload_text (manager : PacketManager Double) {payload : List UInt8}
    (text : Packet.isTextMessage payload = true) :
    manager.putPayload payload = (Packet.parse payload).map fun (packet, needsBuffers) =>
      if needsBuffers then { manager with partialPacket := some packet }
      else manager.decode packet := by
  rw [putPayload, if_pos text]

/-- A receiver that waits for nothing decodes a sound packet whose binaries it can tell apart. -/
theorem exec_payloads {packet : Packet Double} (sound : packet.Sound)
    (binary : ∀ bytes ∈ packet.message.binaries, Packet.isBinaryMessage bytes = true)
    (decoded : List (Packet Double)) :
    machine.exec ⟨none, decoded⟩ ((payloads packet).map .payload) =
      some ⟨none, decoded ++ [packet.delivered]⟩ := by
  by_cases empty : packet.message.binaries = []
  · obtain ⟨payload, accepted, text, parsed⟩ := sound.parsed_at_once empty
    rw [payloads_eq accepted, List.map_cons, Machine.exec_cons]
    change Option.bind (putPayload _ payload) _ = _
    rw [putPayload_text _ text, parsed]
    rfl
  · obtain ⟨payload, json, accepted, text, parsed, read⟩ := sound.parsed_waiting empty
    rw [payloads_eq accepted, List.map_cons, Machine.exec_cons]
    change Option.bind (putPayload _ payload) _ = _
    rw [putPayload_text _ text, parsed]
    exact exec_buffers empty read binary (packet.waiting json) decoded

/-- The payloads of packets that are sent one after the other. -/
def stream (packets : List (Packet Double)) : List Call :=
  packets.flatMap fun packet => (payloads packet).map .payload

theorem exec_stream {packets : List (Packet Double)} (sound : ∀ packet ∈ packets, packet.Sound)
    (binary : ∀ packet ∈ packets, ∀ bytes ∈ packet.message.binaries,
      Packet.isBinaryMessage bytes = true) (decoded : List (Packet Double)) :
    machine.exec ⟨none, decoded⟩ (stream packets) =
      some ⟨none, decoded ++ packets.map Packet.delivered⟩ := by
  induction packets generalizing decoded with
  | nil => rw [List.map_nil, List.append_nil]; rfl
  | cons packet packets ih =>
      have first := exec_payloads (sound packet List.mem_cons_self)
        (binary packet List.mem_cons_self) decoded
      have rest := ih (fun other member => sound other (List.mem_cons_of_mem packet member))
        (fun other member => binary other (List.mem_cons_of_mem packet member))
        (decoded ++ [packet.delivered])
      rw [stream, List.flatMap_cons, Machine.exec_append, first, Option.bind_some, ← stream, rest,
        List.map_cons, List.append_assoc, List.singleton_append]

end PacketManager
end VoiceCall.Transport
