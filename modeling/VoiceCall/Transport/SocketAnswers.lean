import VoiceCall.Foundation.Bracket
import VoiceCall.Transport.SocketOrder

namespace VoiceCall.Transport.Socket
open Foundation

variable {Double Callback : Type}

/-- A callback is registered and called under an identifier. -/
def Note.id : Note Double Callback → Option UInt32
  | .registered id _ => some id
  | .acked id _ _ => some id
  | _ => none

/-- A callback stands under its identifier until the next one is registered or one is called. -/
def standing (id : UInt32) (callback : Callback) : Bracket (Note Double Callback) where
  opens entry := entry = .registered id callback
  closes entry := entry.id = some id
  intrudes _ := False

/-- An entry of the log that calls a callback under its identifier. -/
def Note.Calls (id : UInt32) (callback : Callback) (entry : Note Double Callback) : Prop :=
  ∃ messages, entry = .acked id callback messages

/-- The map of callbacks holds those that stand, and only such a callback was called. -/
structure Matched (socket : Socket Double Callback) : Prop where
  acks : ∀ id callback, Members.find id socket.acks = some callback ↔
    (standing id callback).Pending socket.log
  calls : ∀ id callback, (standing id callback).Justified (Note.Calls id callback) socket.log

variable {socket next : Socket Double Callback}

namespace Matched

/-- Entries about no identifier and an unchanged map change nothing. -/
theorem of_quiet (matched : Matched socket) {added : List (Note Double Callback)}
    (acks : next.acks = socket.acks) (log : next.log = socket.log ++ added)
    (quiet : ∀ entry ∈ added, entry.id = none) : Matched next where
  acks id callback := by
    have neither : ∀ entry ∈ added, ¬(standing id callback).opens entry ∧
        ¬(standing id callback).closes entry := by
      intro entry member
      have silent := quiet entry member
      constructor
      · rintro rfl
        cases silent
      · intro closes
        cases silent.symm.trans closes
    rw [acks, log, Bracket.pending_append neither]
    exact matched.acks id callback
  calls id callback := by
    rw [log]
    apply (matched.calls id callback).append
    rintro entry member ⟨messages, rfl⟩
    cases quiet _ member

theorem of_same (matched : Matched socket) (acks : next.acks = socket.acks)
    (log : next.log = socket.log) : Matched next :=
  matched.of_quiet acks (log.trans (List.append_nil _).symm) nofun

theorem note (matched : Matched socket) {entry : Note Double Callback} (silent : entry.id = none) :
    Matched (socket.note entry) :=
  matched.of_quiet rfl rfl fun _ member => List.mem_singleton.mp member ▸ silent

theorem drain (matched : Matched socket) : Matched socket.drain := by
  have acks : socket.drain.acks = socket.acks := rfl
  apply matched.of_quiet acks rfl
  intro entry member
  obtain ⟨packet, _, rfl⟩ := List.mem_map.mp member
  rfl

theorem sendPacket (matched : Matched socket) (packet : Packet Double) :
    Matched (socket.sendPacket packet) := by
  have asked : Matched (socket.note (.asked packet)) := matched.note rfl
  unfold Socket.sendPacket
  split_ifs
  · exact matched
  · exact asked.drain.note rfl
  · exact asked.of_same rfl rfl

/-- A registration under an identifier replaces the callback that stood there. -/
theorem register (matched : Matched socket) (id counter : UInt32) (callback : Callback) :
    Matched ({ socket with
      globalEventId := counter
      acks := Members.insert id callback socket.acks }.note (.registered id callback)) where
  acks other known := by
    rw [Socket.note, Members.find_insert, Bracket.pending_append_singleton,
      ← matched.acks other known]
    by_cases same : id = other
    · subst same
      simp [standing, Note.id, eq_comm]
    · simp [standing, Note.id, same]
  calls other known := by
    apply (matched.calls other known).append_singleton
    rintro ⟨messages, absurd⟩
    cases absurd

/-- A call under an identifier takes the callback that stands there. -/
theorem take (matched : Matched socket) {id : UInt32} {callback : Callback}
    (found : Members.find id socket.acks = some callback) (messages : List (Message Double)) :
    Matched ({ socket with acks := Members.erase id socket.acks }.note
      (.acked id callback messages)) where
  acks other known := by
    rw [Socket.note, Members.find_erase, Bracket.pending_append_singleton,
      ← matched.acks other known]
    by_cases same : id = other
    · simp [standing, Note.id, same]
    · simp [standing, Note.id, same]
  calls other known := by
    apply (matched.calls other known).append_singleton
    rintro ⟨values, same⟩
    cases same
    exact (matched.acks id callback).mp found

theorem callMove (matched : Matched socket) (moved : CallMove socket next) : Matched next := by
  cases moved with
  | armed | ended | listeners => exact matched.of_same rfl rfl
  | asked packet => exact matched.sendPacket packet
  | registered callback => exact matched.register socket.globalEventId _ callback

/-- Each move keeps the callbacks matched. -/
theorem move (matched : Matched socket) (moved : Move socket next) : Matched next := by
  cases moved with
  | call moved => exact matched.callMove moved
  | counted | dropped => exact matched.of_same rfl rfl
  | answered packet => exact matched.sendPacket packet
  | drained => exact matched.drain
  | connecting | removed | heard | listened | failed => exact matched.note rfl
  | opened | closed =>
      apply note _ rfl
      exact matched.of_same rfl rfl
  | acked id callback messages open' found => exact matched.take found messages

end Matched

theorem matched_create (globalEventId : UInt32) (clientOpened : Bool) (nsp : List UInt8)
    (auth : Message Double) :
    Matched (create globalEventId clientOpened nsp auth : Socket Double Callback) := by
  have fresh : Matched (create globalEventId false nsp auth : Socket Double Callback) :=
    ⟨fun _ _ => iff_of_false nofun Bracket.not_pending_nil, fun _ _ => Bracket.justified_nil⟩
  cases clientOpened with
  | false => exact fresh
  | true => exact (fresh.note rfl).of_same rfl rfl

theorem matched_of_reachable (reached : machine.Reachable socket) : Matched socket :=
  moves_induction matched_create (fun _ _ matched => matched.of_same rfl rfl)
    (fun _ _ matched moved => matched.move moved) reached

/-- A callback is called only for the latest emit that was counted under its identifier, and
for that emit once. -/
theorem callback_called_once (reached : machine.Reachable socket)
    {before after : List (Note Double Callback)} {id : UInt32} {callback : Callback}
    {messages : List (Message Double)}
    (called : socket.log = before ++ .acked id callback messages :: after) :
    ∃ earlier between, before = earlier ++ .registered id callback :: between ∧
      ∀ entry ∈ between, entry.id ≠ some id := by
  have matched := matched_of_reachable reached
  obtain ⟨earlier, _, between, split, rfl, untouched⟩ :=
    matched.calls id callback before _ after called ⟨messages, rfl⟩
  exact ⟨earlier, between, split, untouched⟩

theorem callback_called_once_answered :
    ∃ earlier between, answered.log.take 5 = earlier ++ .registered 1 7 :: between ∧
      ∀ entry ∈ between, entry.id ≠ some 1 :=
  callback_called_once answered_reachable
    (show answered.log = answered.log.take 5 ++ .acked 1 7 [] :: answered.log.drop 6 from rfl)

theorem log_sendPacket (packet : Packet Double) :
    ∃ added, (socket.sendPacket packet).log = socket.log ++ added := by
  unfold sendPacket
  split_ifs
  · exact ⟨[], (List.append_nil _).symm⟩
  · refine ⟨.asked packet :: (socket.packetQueue.map .sent ++ [.sent packet]), ?_⟩
    simp [note, drain]
  · exact ⟨[.asked packet], rfl⟩

/-- The calls of the application add to the log. -/
theorem CallMoves.log (chain : CallMoves socket next) : ∃ added, next.log = socket.log ++ added := by
  induction chain with
  | refl => exact ⟨[], (List.append_nil _).symm⟩
  | @tail middle after _ moved ih =>
      obtain ⟨added, grown⟩ := ih
      have last : ∃ more, after.log = middle.log ++ more := by
        cases moved with
        | armed | ended | listeners => exact ⟨[], (List.append_nil _).symm⟩
        | asked packet => exact log_sendPacket packet
        | registered callback => exact ⟨_, rfl⟩
      obtain ⟨more, after⟩ := last
      exact ⟨added ++ more, by rw [after, grown, List.append_assoc]⟩

theorem onMessagePacket_ack (open' : socket.hasClient = true) {packet : Packet Double}
    (here : packet.nsp = socket.nsp)
    (isAck : packet.type = typeAck ∨ packet.type = typeBinaryAck)
    {reactions : Reactions Double Callback}
    (taken : socket.onMessagePacket packet reactions = some next) :
    ∃ messages, next = socket.onSocketioAck packet.packId messages reactions.acked := by
  have notEvent : packet.type ≠ typeConnect ∧ packet.type ≠ typeDisconnect ∧
      ¬(packet.type = typeEvent ∨ packet.type = typeBinaryEvent) := by
    rcases isAck with type | type <;> (rw [type]; decide)
  rw [onMessagePacket, if_neg (by simp [open', here]), if_neg notEvent.1, if_neg notEvent.2.1,
    if_neg notEvent.2.2, if_pos isAck] at taken
  split at taken <;> cases taken
  · exact ⟨_, rfl⟩
  · exact ⟨_, rfl⟩

/-- An answer calls a callback exactly when that callback was registered last under the
identifier of the answer and has not been called since. -/
theorem answer_calls_iff (reached : machine.Reachable socket) (open' : socket.hasClient = true)
    {packet : Packet Double} (here : packet.nsp = socket.nsp)
    (isAck : packet.type = typeAck ∨ packet.type = typeBinaryAck)
    {reactions : Reactions Double Callback}
    (taken : machine.step socket (.packet packet reactions) = some next) (callback : Callback) :
    (∃ messages rest, next.log =
        socket.log ++ .acked (UInt32.ofInt packet.packId) callback messages :: rest) ↔
      ∃ earlier between,
        socket.log = earlier ++ .registered (UInt32.ofInt packet.packId) callback :: between ∧
          ∀ entry ∈ between, entry.id ≠ some (UInt32.ofInt packet.packId) := by
  have matched := matched_of_reachable reached
  have pending := matched.acks (UInt32.ofInt packet.packId) callback
  have stands : Members.find (UInt32.ofInt packet.packId) socket.acks = some callback ↔
      ∃ earlier between,
        socket.log = earlier ++ .registered (UInt32.ofInt packet.packId) callback :: between ∧
          ∀ entry ∈ between, entry.id ≠ some (UInt32.ofInt packet.packId) := by
    rw [pending]
    constructor
    · rintro ⟨earlier, _, between, split, rfl, untouched⟩
      exact ⟨earlier, between, split, untouched⟩
    · rintro ⟨earlier, between, split, untouched⟩
      exact ⟨earlier, _, between, split, rfl, untouched⟩
  rw [← stands]
  obtain ⟨messages, rfl⟩ := onMessagePacket_ack open' here isAck taken
  unfold onSocketioAck
  dsimp only
  cases found : Members.find (UInt32.ofInt packet.packId) socket.acks with
  | none =>
      refine iff_of_false ?_ nofun
      rintro ⟨values, rest, grown⟩
      have length := congrArg List.length grown
      simp at length
  | some other =>
      obtain ⟨rest, grown⟩ := (callMoves_perform _ reactions.acked).log
      rw [grown, note, List.append_assoc]
      constructor
      · rintro ⟨values, later, same⟩
        injection List.append_cancel_left same with first
        cases first
        rfl
      · intro same
        cases same
        exact ⟨messages, rest, rfl⟩

theorem answer_calls_iff_registered :
    (∃ messages rest, answered.log.take 6 =
        registered.log ++ .acked (UInt32.ofInt 1) 7 messages :: rest) ↔
      ∃ earlier between, registered.log = earlier ++ .registered (UInt32.ofInt 1) 7 :: between ∧
        ∀ entry ∈ between, entry.id ≠ some (UInt32.ofInt 1) := by
  obtain ⟨next, taken, log⟩ : ∃ next : Socket Empty Nat,
      machine.step registered (.packet { (.ofType typeAck (ascii "/") (.array []) : Packet Empty)
        with packId := 1 } idle) = some next ∧ next.log = answered.log.take 6 := ⟨_, rfl, rfl⟩
  rw [← log]
  exact answer_calls_iff registered_reachable rfl rfl (.inl rfl) taken 7

/-! ### Events that ask for an answer -/

/-- An event with an identifier is a question, and an acknowledgement is its answer. -/
inductive Turn where
  | question (packId : Int)
  | answer (packId : Int)
deriving DecidableEq, Repr

def Note.turn : Note Double Callback → Option Turn
  | .heard event packId => if event.needAck then some (.question packId) else none
  | .asked packet =>
      if packet.type = typeAck + typeUndetermined then some (.answer packet.packId) else none
  | _ => none

def turns (socket : Socket Double Callback) : List Turn := socket.log.filterMap Note.turn

theorem turns_note (entry : Note Double Callback) :
    (socket.note entry).turns = socket.turns ++ entry.turn.toList :=
  filterMap_append_singleton _ _ _

theorem turns_note_of_none {entry : Note Double Callback} (silent : entry.turn = none) :
    (socket.note entry).turns = socket.turns := by
  rw [turns_note, silent, Option.toList_none, List.append_nil]

theorem turns_drain : socket.drain.turns = socket.turns := by
  have silent : (socket.packetQueue.map (.sent : Packet Double → Note Double Callback)).filterMap
      Note.turn = [] := by
    rw [List.filterMap_map, List.filterMap_eq_nil_iff]
    exact fun _ _ => rfl
  rw [turns, drain, List.filterMap_append, silent, List.append_nil]
  rfl

/-- An open socket takes its turn when it is asked to send an acknowledgement. -/
theorem turns_sendPacket (open' : socket.hasClient = true) (packet : Packet Double) :
    (socket.sendPacket packet).turns =
      socket.turns ++ (Note.turn (.asked packet : Note Double Callback)).toList := by
  rw [sendPacket, if_neg (by simp [open'])]
  split_ifs
  · rw [turns_note_of_none rfl, turns_drain, turns_note]
  · exact turns_note _

theorem CallMoves.turns (chain : CallMoves socket next) : next.turns = socket.turns := by
  induction chain with
  | refl => rfl
  | tail _ moved ih =>
      refine Eq.trans ?_ ih
      cases moved with
      | armed | ended | listeners => rfl
      | asked packet data open' =>
          have noAnswer : packet.type ≠ typeAck + typeUndetermined := by
            rcases data with type | type <;> (rw [type]; decide)
          rw [turns_sendPacket open', Note.turn, if_neg noAnswer, Option.toList_none,
            List.append_nil]
      | registered callback => exact turns_note_of_none rfl

theorem turns_perform (calls : List (Call Double Callback)) :
    (socket.perform calls).turns = socket.turns :=
  (callMoves_perform socket calls).turns

theorem turns_listen (listener : Option Callback) (event : Event Double)
    (reaction : Reaction Double Callback) (ackMessage : List (Message Double)) :
    (socket.listen listener event reaction ackMessage).1.turns = socket.turns := by
  cases listener with
  | none => rfl
  | some callback => exact (turns_perform reaction.calls).trans (turns_note_of_none rfl)

/-- A heard event that asks for an answer is answered under its own identifier. -/
theorem turns_onSocketioEvent (open' : socket.hasClient = true) (packId : Int) (name : List UInt8)
    (messages : List (Message Double)) (bound any : Reaction Double Callback) :
    (socket.onSocketioEvent packId name messages bound any).turns =
      socket.turns ++ if 0 ≤ packId then [.question packId, .answer packId] else [] := by
  have called (event : Event Double) :
      ((socket.note (.heard event packId)).callListeners event bound any).1.turns =
        socket.turns ++ (Note.turn (.heard event packId : Note Double Callback)).toList :=
    ((turns_listen _ event any _).trans (turns_listen _ event bound [])).trans (turns_note _)
  have stays (event : Event Double) :
      ((socket.note (.heard event packId)).callListeners event bound any).1.hasClient = true :=
    (callListeners_hasClient event bound any).trans open'
  unfold onSocketioEvent
  dsimp only
  by_cases asks : 0 ≤ packId
  · rw [if_pos (decide_eq_true asks), if_pos asks, ack,
      turns_sendPacket (stays _), called]
    simp [Note.turn, asks, Packet.ofMessage]
  · rw [if_neg (by simpa using asks), if_neg asks, called]
    simp [Note.turn, asks]

theorem turns_onClose (calls : List (Call Double Callback)) :
    (socket.onClose calls).turns = socket.turns := by
  unfold onClose
  split_ifs
  · rfl
  · exact (turns_note_of_none rfl).trans ((turns_perform calls).trans (turns_note_of_none rfl))

theorem turns_onConnected (calls : List (Call Double Callback)) :
    (socket.onConnected calls).turns = socket.turns := by
  unfold onConnected
  dsimp only
  split_ifs
  · rfl
  · exact turns_drain.trans ((turns_perform calls).trans (turns_note_of_none rfl))

theorem turns_onMessagePacket {packet : Packet Double} {reactions : Reactions Double Callback}
    (taken : socket.onMessagePacket packet reactions = some next) :
    ∃ packIds : List Int,
      next.turns = socket.turns ++ packIds.flatMap fun id => [.question id, .answer id] := by
  have unheard {after : Socket Double Callback} (same : after.turns = socket.turns) :
      ∃ packIds : List Int,
        after.turns = socket.turns ++ packIds.flatMap fun id => [.question id, .answer id] :=
    ⟨[], same.trans (List.append_nil _).symm⟩
  unfold onMessagePacket at taken
  split at taken
  · cases taken
    exact unheard rfl
  · next other =>
    have open' : socket.hasClient = true := by
      cases has : socket.hasClient with
      | false => exact absurd (.inl has) other
      | true => rfl
    split_ifs at taken
    · cases taken
      exact unheard (turns_onConnected _)
    · cases taken
      exact unheard (turns_onClose _)
    · split at taken <;> cases taken
      · rw [turns_onSocketioEvent open']
        by_cases asks : 0 ≤ packet.packId
        · exact ⟨[packet.packId], by rw [if_pos asks]; rfl⟩
        · exact ⟨[], by rw [if_neg asks]; rfl⟩
      · exact unheard rfl
    · have silent (messages : List (Message Double)) :
          (socket.onSocketioAck packet.packId messages reactions.acked).turns = socket.turns := by
        unfold onSocketioAck
        dsimp only
        split
        · rfl
        · exact (turns_perform _).trans (turns_note_of_none rfl)
      split at taken <;> cases taken
      · exact unheard (silent _)
      · exact unheard (silent _)
    · cases taken
      apply unheard
      unfold onSocketioError
      split
      · rfl
      · exact (turns_perform _).trans (turns_note_of_none rfl)
    · cases taken
      exact unheard rfl

/-- Each act of a socket answers the events that it hears in it. -/
theorem turns_step {act : Act Double Callback} (taken : socket.step act = some next) :
    ∃ packIds : List Int,
      next.turns = socket.turns ++ packIds.flatMap fun id => [.question id, .answer id] := by
  have unheard {after : Socket Double Callback} (same : after.turns = socket.turns) :
      ∃ packIds : List Int,
        after.turns = socket.turns ++ packIds.flatMap fun id => [.question id, .answer id] :=
    ⟨[], same.trans (List.append_nil _).symm⟩
  cases act with
  | call call => cases taken; exact unheard (callMoves_call socket call).turns
  | opened =>
      cases taken
      apply unheard
      unfold onOpen sendConnect
      split_ifs
      · rfl
      · exact turns_note_of_none rfl
  | disconnected =>
      cases taken
      apply unheard
      unfold onDisconnect
      split_ifs <;> rfl
  | packet packet reactions => exact turns_onMessagePacket taken
  | expired => cases taken; exact unheard rfl
  | handled calls =>
      rw [step] at taken
      split at taken <;> cases taken
      · exact unheard rfl
      · apply unheard
        unfold handle
        split
        · unfold timeoutConnection
          split_ifs
          · rfl
          · exact turns_onClose calls
        · exact turns_onClose calls
  | abandoned calls => cases taken; exact unheard (turns_onClose calls)
  | counted => cases taken; exact unheard rfl

/-- The identifier of the event that an acknowledgement answers. -/
def answering (packet : Packet Double) : Option Int :=
  if packet.type = typeAck + typeUndetermined then some packet.packId else none

def Turn.reply : Turn → Option Int
  | .question _ => none
  | .answer packId => some packId

/-- The events whose acknowledgements were sent, in order. -/
def replies (socket : Socket Double Callback) : List Int :=
  socket.log.filterMap fun entry => match entry with
    | .sent packet => answering packet
    | _ => none

/-- The answers are the acknowledgements among the packets that were asked for. -/
theorem answers_asked (socket : Socket Double Callback) :
    socket.turns.filterMap Turn.reply = socket.asked.filterMap answering := by
  rw [turns, asked, List.filterMap_filterMap, List.filterMap_filterMap]
  refine congrArg (List.filterMap · socket.log) (funext fun entry => ?_)
  cases entry with
  | heard event packId =>
      rw [Note.turn]
      split <;> rfl
  | asked packet =>
      simp only [Note.turn, Note.asking, Option.bind_some, answering]
      split <;> rfl
  | _ => rfl

/-- An acknowledgement that was sent came through the queue. -/
theorem replies_carried (socket : Socket Double Callback) :
    socket.replies = socket.carried.filterMap answering := by
  rw [replies, carried, List.filterMap_filterMap]
  refine congrArg (List.filterMap · socket.log) (funext fun entry => ?_)
  cases entry with
  | sent packet =>
      simp only [Note.carrying]
      split
      · next connects =>
        rw [answering, connects, if_neg (by decide)]
        rfl
      · rfl
  | _ => rfl

/-- In every state a socket reaches, each event that asked for an answer had one acknowledgement
asked for under its own identifier, before the next one was heard, and nothing else had. The
acknowledgements that were sent are the first ones of these, in order, and all of them while the
socket is connected. -/
theorem heard_events_answered (reached : machine.Reachable socket) :
    ∃ packIds : List Int,
      socket.log.filterMap Note.turn =
        packIds.flatMap (fun id => [.question id, .answer id]) ∧
      socket.replies <+: packIds ∧ (socket.connected = true → socket.replies = packIds) := by
  obtain ⟨packIds, answered⟩ : ∃ packIds : List Int,
      socket.turns = packIds.flatMap fun id => [.question id, .answer id] := by
    induction reached with
    | initial start =>
        obtain ⟨globalEventId, clientOpened, nsp, auth, rfl⟩ := start
        cases clientOpened with
        | false => exact ⟨[], rfl⟩
        | true => exact ⟨[], rfl⟩
    | step _ _ taken ih =>
        obtain ⟨before, answered⟩ := ih
        obtain ⟨packIds, grown⟩ := turns_step taken
        exact ⟨before ++ packIds, by rw [List.flatMap_append, ← answered]; exact grown⟩
  have answers : socket.asked.filterMap answering = packIds := by
    rw [← answers_asked, answered, List.filterMap_flatMap]
    exact List.flatMap_singleton' packIds
  obtain ⟨inOrder, _, all⟩ := sent_in_order reached
  refine ⟨packIds, answered, ?_, fun connected => ?_⟩
  · rw [replies_carried, ← answers]
    exact ((List.prefix_append _ _).trans inOrder).filterMap answering
  · rw [replies_carried, ← answers, all connected]

theorem heard_events_answered_answered :
    ∃ packIds : List Int,
      answered.log.filterMap Note.turn =
        packIds.flatMap (fun id => [.question id, .answer id]) ∧
      answered.replies <+: packIds ∧ (answered.connected = true → answered.replies = packIds) :=
  heard_events_answered answered_reachable

end VoiceCall.Transport.Socket
