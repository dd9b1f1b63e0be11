import VoiceCall.Transport.SocketMoves

namespace VoiceCall.Transport.Socket
open Foundation

variable {Double Callback : Type}

def Note.asking : Note Double Callback → Option (Packet Double)
  | .asked packet => some packet
  | _ => none

/-- A packet that is sent came through the queue unless it connects. -/
def Note.carrying : Note Double Callback → Option (Packet Double)
  | .sent packet => if packet.type = typeConnect then none else some packet
  | _ => none

/-- The packets that an open socket was asked to send, in order. -/
def asked (socket : Socket Double Callback) : List (Packet Double) :=
  socket.log.filterMap Note.asking

/-- The packets other than connects that were sent, in order. -/
def carried (socket : Socket Double Callback) : List (Packet Double) :=
  socket.log.filterMap Note.carrying

variable {socket next : Socket Double Callback}

@[simp] theorem asked_note (entry : Note Double Callback) :
    (socket.note entry).asked = socket.asked ++ entry.asking.toList :=
  filterMap_append_singleton _ _ _

@[simp] theorem carried_note (entry : Note Double Callback) :
    (socket.note entry).carried = socket.carried ++ entry.carrying.toList :=
  filterMap_append_singleton _ _ _

theorem asking_sent (packets : List (Packet Double)) :
    (packets.map (.sent : Packet Double → Note Double Callback)).filterMap Note.asking = [] := by
  rw [List.filterMap_map, List.filterMap_eq_nil_iff]
  exact fun _ _ => rfl

theorem carrying_sent {packets : List (Packet Double)}
    (data : ∀ packet ∈ packets, packet.type ≠ typeConnect) :
    (packets.map (.sent : Packet Double → Note Double Callback)).filterMap Note.carrying =
      packets := by
  induction packets with
  | nil => rfl
  | cons packet packets ih =>
      have first : packet.type ≠ typeConnect := data packet List.mem_cons_self
      have rest := ih fun other member => data other (List.mem_cons_of_mem _ member)
      rw [List.map_cons, List.filterMap_cons, Note.carrying, if_neg first, rest]

@[simp] theorem asked_drain : socket.drain.asked = socket.asked := by
  rw [asked, drain, List.filterMap_append, asking_sent, List.append_nil]
  rfl

theorem carried_drain (socket : Socket Double Callback)
    (data : ∀ packet ∈ socket.packetQueue, packet.type ≠ typeConnect) :
    socket.drain.carried = socket.carried ++ socket.packetQueue := by
  rw [carried, drain, List.filterMap_append, carrying_sent data]
  rfl

/-- A connected socket sends what waits and the packet behind it. -/
theorem sendPacket_connected {packet : Packet Double} (open' : socket.hasClient = true)
    (connected : socket.connected = true)
    (waiting : ∀ packet ∈ socket.packetQueue, packet.type ≠ typeConnect)
    (data : packet.type ≠ typeConnect) :
    (socket.sendPacket packet).asked = socket.asked ++ [packet] ∧
      (socket.sendPacket packet).carried = socket.carried ++ socket.packetQueue ++ [packet] ∧
      (socket.sendPacket packet).packetQueue = [] := by
  have through : (socket.note (.asked packet)).drain.carried =
      socket.carried ++ socket.packetQueue := by
    rw [carried_drain (socket.note (.asked packet)) waiting, carried_note]
    exact congrArg (· ++ socket.packetQueue) (List.append_nil _)
  have last : ((.sent packet : Note Double Callback).carrying) = some packet := if_neg data
  rw [sendPacket, if_neg (by simp [open']), if_pos connected]
  refine ⟨?_, ?_, rfl⟩
  · rw [asked_note, asked_drain, asked_note]
    exact List.append_nil _
  · rw [carried_note, through, last]
    rfl

/-- Any other socket keeps the packet behind what waits. -/
theorem sendPacket_unconnected (packet : Packet Double) (open' : socket.hasClient = true)
    (unconnected : socket.connected = false) :
    (socket.sendPacket packet).asked = socket.asked ++ [packet] ∧
      (socket.sendPacket packet).carried = socket.carried ∧
      (socket.sendPacket packet).packetQueue = socket.packetQueue ++ [packet] := by
  rw [sendPacket, if_neg (by simp [open']), if_neg (by simp [unconnected])]
  refine ⟨asked_note _, ?_, rfl⟩
  show (socket.note (.asked packet)).carried = socket.carried
  rw [carried_note]
  exact List.append_nil _

/-- What was asked for stays asked for. -/
theorem Move.asked_prefix (moved : Move socket next) : socket.asked <+: next.asked := by
  have sent (packet : Packet Double) (open' : socket.hasClient = true) :
      socket.asked <+: (socket.sendPacket packet).asked := by
    rw [sendPacket, if_neg (by simp [open'])]
    split
    · rw [asked_note, asked_drain, asked_note, List.append_assoc]
      exact List.prefix_append _ _
    · exact (asked_note (.asked packet)) ▸ List.prefix_append _ _
  cases moved with
  | call moved =>
      cases moved with
      | armed | ended | listeners => exact List.prefix_rfl
      | asked packet _ open' => exact sent packet open'
      | registered callback => exact (asked_note _) ▸ List.prefix_append _ _
  | answered packet _ open' => exact sent packet open'
  | drained => rw [asked_drain]
  | counted | dropped => exact List.prefix_rfl
  | connecting | opened | closed | removed | heard | listened | failed | acked =>
      exact (asked_note _) ▸ List.prefix_append _ _

theorem Moves.asked_prefix (chain : Moves socket next) : socket.asked <+: next.asked := by
  induction chain with
  | refl => exact List.prefix_rfl
  | tail _ moved ih => exact ih.trans moved.asked_prefix

/-- Every packet that was asked for is sent or waits, in order, and only a closed socket has
lost some of the last ones. -/
structure Orderly (socket : Socket Double Callback) : Prop where
  accounted : ∃ lost, socket.asked = socket.carried ++ socket.packetQueue ++ lost ∧
    (socket.hasClient = true → lost = [])
  data : ∀ packet ∈ socket.packetQueue, packet.type ≠ typeConnect

namespace Orderly

theorem of_same (orderly : Orderly socket) (asked : next.asked = socket.asked)
    (carried : next.carried = socket.carried)
    (hasClient : next.hasClient = socket.hasClient)
    (queue : next.packetQueue = socket.packetQueue) : Orderly next where
  accounted := by
    rw [asked, carried, hasClient, queue]
    exact orderly.accounted
  data := queue ▸ orderly.data

/-- A note of anything but a packet changes no order. -/
theorem note (orderly : Orderly socket) {entry : Note Double Callback}
    (asks : entry.asking = none) (carries : entry.carrying = none) :
    Orderly (socket.note entry) :=
  orderly.of_same (by simp [asks]) (by simp [carries]) rfl rfl

/-- An open socket has lost nothing. -/
theorem asked_eq (orderly : Orderly socket) (open' : socket.hasClient = true) :
    socket.asked = socket.carried ++ socket.packetQueue := by
  obtain ⟨lost, same, none⟩ := orderly.accounted
  rw [same, none open', List.append_nil]

theorem of_asked_eq (same : socket.asked = socket.carried ++ socket.packetQueue)
    (data : ∀ packet ∈ socket.packetQueue, packet.type ≠ typeConnect) : Orderly socket where
  accounted := ⟨[], by rw [same, List.append_nil], fun _ => rfl⟩
  data := data

theorem drain (orderly : Orderly socket) : Orderly socket.drain where
  accounted := by
    obtain ⟨lost, same, none⟩ := orderly.accounted
    refine ⟨lost, ?_, none⟩
    rw [asked_drain, carried_drain socket orderly.data, same]
    exact congrArg (· ++ lost) (List.append_nil _).symm
  data _ member := absurd member List.not_mem_nil

/-- A packet is put behind all packets that were asked for before. -/
theorem sendPacket (orderly : Orderly socket) {packet : Packet Double}
    (open' : socket.hasClient = true) (data : packet.type ≠ typeConnect) :
    Orderly (socket.sendPacket packet) := by
  have before := orderly.asked_eq open'
  cases connected : socket.connected with
  | true =>
      have sent := sendPacket_connected open' connected orderly.data data
      refine of_asked_eq ?_ ?_
      · rw [sent.1, sent.2.1, sent.2.2, before, List.append_nil]
      · rw [sent.2.2]
        exact fun _ member => absurd member List.not_mem_nil
  | false =>
      have sent := sendPacket_unconnected packet open' connected
      refine of_asked_eq ?_ ?_
      · rw [sent.1, sent.2.1, sent.2.2, before, List.append_assoc]
      · rw [sent.2.2]
        intro other member
        rcases List.mem_append.mp member with early | last
        · exact orderly.data other early
        · rw [List.mem_singleton.mp last]
          exact data

theorem callMove (orderly : Orderly socket) (moved : CallMove socket next) : Orderly next := by
  cases moved with
  | armed | ended | listeners => exact orderly.of_same rfl rfl rfl rfl
  | asked packet data open' =>
      apply orderly.sendPacket open'
      rcases data with event | disconnect
      · rw [event]
        decide
      · rw [disconnect]
        decide
  | registered callback =>
      apply note _ rfl rfl
      exact orderly.of_same rfl rfl rfl rfl

/-- Each move keeps the order. -/
theorem move (orderly : Orderly socket) (moved : Move socket next) : Orderly next := by
  cases moved with
  | call moved => exact orderly.callMove moved
  | counted => exact orderly.of_same rfl rfl rfl rfl
  | answered packet data open' =>
      apply orderly.sendPacket open'
      rw [data]
      decide
  | connecting => exact orderly.note rfl (by simp [Note.carrying, Packet.ofType])
  | opened =>
      apply note _ rfl rfl
      exact orderly.of_same rfl rfl rfl rfl
  | drained => exact orderly.drain
  | dropped => exact orderly.of_same rfl rfl rfl rfl
  | closed open' =>
      apply note _ rfl rfl
      have before := orderly.asked_eq open'
      refine ⟨⟨socket.packetQueue, ?_, nofun⟩, fun _ member => absurd member List.not_mem_nil⟩
      show socket.asked = socket.carried ++ [] ++ socket.packetQueue
      rw [before, List.append_nil]
  | removed | heard | listened | failed => exact orderly.note rfl rfl
  | acked id callback messages =>
      apply note _ rfl rfl
      exact orderly.of_same rfl rfl rfl rfl

end Orderly

theorem orderly_create (globalEventId : UInt32) (clientOpened : Bool) (nsp : List UInt8)
    (auth : Message Double) :
    Orderly (create globalEventId clientOpened nsp auth : Socket Double Callback) := by
  cases clientOpened with
  | false => exact ⟨⟨[], rfl, fun _ => rfl⟩, fun _ member => absurd member List.not_mem_nil⟩
  | true => exact ⟨⟨[], rfl, fun _ => rfl⟩, fun _ member => absurd member List.not_mem_nil⟩

theorem orderly_of_reachable (reached : machine.Reachable socket) : Orderly socket :=
  moves_induction orderly_create (fun _ _ orderly => orderly.of_same rfl rfl rfl rfl)
    (fun _ _ orderly moved => orderly.move moved) reached

/-- In every state a socket reaches, what it sent and what waits is a first part of what it was
asked for, and all of it while the socket is open. A server that answers is kept waiting for
nothing. -/
theorem sent_in_order (reached : machine.Reachable socket) :
    socket.carried ++ socket.packetQueue <+: socket.asked ∧
      (socket.hasClient = true → socket.asked = socket.carried ++ socket.packetQueue) ∧
      (socket.connected = true → socket.asked = socket.carried) := by
  have orderly := orderly_of_reachable reached
  have settled := settled_of_reachable reached
  obtain ⟨lost, same, _⟩ := orderly.accounted
  refine ⟨⟨lost, same.symm⟩, orderly.asked_eq, fun connected => ?_⟩
  rw [orderly.asked_eq (settled.open' connected), settled.empty connected, List.append_nil]

theorem sent_in_order_registered :
    registered.carried ++ registered.packetQueue <+: registered.asked ∧
      (registered.hasClient = true →
        registered.asked = registered.carried ++ registered.packetQueue) ∧
      (registered.connected = true → registered.asked = registered.carried) :=
  sent_in_order registered_reachable

end VoiceCall.Transport.Socket
