import VoiceCall.Transport.SocketMoves

namespace VoiceCall.Transport
open Foundation

variable {Double Callback : Type}

/-- A handler closes an open socket unless it is a cancelled wait for the server. -/
def Handler.closes (handler : Handler) : Bool :=
  decide (handler.wait = .onClose) || !handler.aborted

namespace Socket

variable {socket next : Socket Double Callback}

/-! ### Closed sockets -/

theorem onClose_hasClient (calls : List (Call Double Callback)) :
    (socket.onClose calls).hasClient = false := by
  unfold onClose
  split_ifs with gone
  · exact gone
  · exact perform_hasClient calls

theorem handle_hasClient {handler : Handler} (closes : handler.closes = true)
    (calls : List (Call Double Callback)) : (socket.handle handler calls).hasClient = false := by
  obtain ⟨wait, aborted⟩ := handler
  cases wait with
  | onClose => exact onClose_hasClient calls
  | timeoutConnection =>
      obtain rfl : aborted = false := by simpa [Handler.closes] using closes
      show (socket.timeoutConnection false calls).hasClient = false
      by_cases gone : socket.hasClient = false
      · rw [timeoutConnection, if_pos (.inl gone)]
        exact gone
      · rw [timeoutConnection, if_neg (by simp [gone])]
        exact onClose_hasClient calls

theorem Move.gone (moved : Move socket next) (gone : socket.hasClient = false) :
    next.hasClient = false := by
  cases moved with
  | call moved => exact moved.keeps.1.trans gone
  | counted | connecting | opened | drained | dropped | removed | heard | listened | failed
  | acked => exact gone
  | answered packet data open' => cases gone.symm.trans open'
  | closed => rfl

theorem gone_step (settled : Settled socket) {act : Act Double Callback}
    (taken : socket.step act = some next) (gone : socket.hasClient = false) :
    next.hasClient = false := by
  have chain := moves_step settled taken
  have begun : (socket.begin act).hasClient = false := by
    cases act <;> exact gone
  clear taken
  induction chain with
  | refl => exact begun
  | tail _ moved ih => exact moved.gone ih

theorem gone_exec (settled : Settled socket) {acts : List (Act Double Callback)}
    (ran : machine.exec socket acts = some next) (gone : socket.hasClient = false) :
    next.hasClient = false := by
  induction acts generalizing socket with
  | nil =>
      cases ran
      exact gone
  | cons act acts ih =>
      obtain ⟨middle, taken, rest⟩ := Option.bind_eq_some_iff.mp ran
      exact ih (settled.step taken) rest (gone_step settled taken gone)

theorem call_gone (gone : socket.hasClient = false) (call : Call Double Callback) :
    (socket.call call).log = socket.log ∧
      (socket.call call).packetQueue = socket.packetQueue := by
  cases call with
  | emit name messages ack =>
      show (socket.emit name messages ack).log = socket.log ∧
        (socket.emit name messages ack).packetQueue = socket.packetQueue
      unfold emit
      rw [if_pos gone]
      exact ⟨rfl, rfl⟩
  | close =>
      rw [Socket.call, close, if_pos gone]
      exact ⟨rfl, rfl⟩
  | on | onAny | onError | off | offAll | offError => exact ⟨rfl, rfl⟩

/-- A closed socket keeps nothing of what a listener calls. -/
theorem perform_gone (gone : socket.hasClient = false) (calls : List (Call Double Callback)) :
    (socket.perform calls).log = socket.log ∧
      (socket.perform calls).packetQueue = socket.packetQueue := by
  induction calls generalizing socket with
  | nil => exact ⟨rfl, rfl⟩
  | cons call calls ih =>
      have after := ((callMoves_call socket call).keeps.1).trans gone
      have first := call_gone gone call
      exact ⟨(ih after).1.trans first.1, (ih after).2.trans first.2⟩

/-- A closed socket notes nothing any more, whatever happens to it. -/
theorem log_step_gone (gone : socket.hasClient = false) {act : Act Double Callback}
    (taken : socket.step act = some next) : next.log = socket.log := by
  cases act with
  | call call => cases taken; exact (call_gone gone call).1
  | opened => cases taken; rw [onOpen, sendConnect, if_pos gone]
  | disconnected =>
      cases taken
      unfold onDisconnect
      split_ifs <;> rfl
  | packet packet reactions =>
      rw [step, onMessagePacket, if_pos (.inl gone)] at taken
      cases taken
      rfl
  | expired => cases taken; rfl
  | handled calls =>
      rw [step] at taken
      split at taken <;> cases taken
      · rfl
      · unfold handle
        split
        · rw [timeoutConnection, if_pos (.inl gone)]
        · rw [onClose, if_pos gone]
  | abandoned calls => cases taken; rw [onClose, if_pos gone]
  | counted => cases taken; rfl

theorem log_exec_gone (settled : Settled socket) {acts : List (Act Double Callback)}
    (ran : machine.exec socket acts = some next) (gone : socket.hasClient = false) :
    next.log = socket.log := by
  induction acts generalizing socket with
  | nil =>
      cases ran
      rfl
  | cons act acts ih =>
      obtain ⟨middle, taken, rest⟩ := Option.bind_eq_some_iff.mp ran
      have after := gone_step settled taken gone
      exact (ih (settled.step taken) rest after).trans (log_step_gone gone taken)

def Note.isClosed : Note Double Callback → Bool
  | .closed => true
  | _ => false

theorem closed_sendPacket (packet : Packet Double) :
    (socket.sendPacket packet).log.countP Note.isClosed = socket.log.countP Note.isClosed := by
  unfold sendPacket
  split_ifs
  · rfl
  · simp [note, drain, Note.isClosed, List.countP_append, Function.comp_def]
  · simp [note, Note.isClosed, List.countP_append]

/-- A socket that has a client was never closed, and any other was closed once. -/
def ClosedOnce (socket : Socket Double Callback) : Prop :=
  socket.log.countP Note.isClosed = if socket.hasClient = true then 0 else 1

namespace ClosedOnce

theorem of_same (once : ClosedOnce socket)
    (log : next.log.countP Note.isClosed = socket.log.countP Note.isClosed)
    (hasClient : next.hasClient = socket.hasClient) : ClosedOnce next := by
  rw [ClosedOnce, log, hasClient]
  exact once

theorem note (once : ClosedOnce socket) {entry : Note Double Callback}
    (other : entry.isClosed = false) : ClosedOnce (socket.note entry) :=
  once.of_same (by simp [Socket.note, other]) rfl

theorem sendPacket (once : ClosedOnce socket) (packet : Packet Double) :
    ClosedOnce (socket.sendPacket packet) := by
  apply once.of_same (closed_sendPacket packet)
  unfold Socket.sendPacket
  split_ifs <;> rfl

theorem move (once : ClosedOnce socket) (moved : Move socket next) : ClosedOnce next := by
  cases moved with
  | call moved =>
      cases moved with
      | armed | ended | listeners => exact once.of_same rfl rfl
      | asked packet => exact once.sendPacket packet
      | registered callback =>
          apply note _ rfl
          exact once.of_same rfl rfl
  | counted | dropped => exact once.of_same rfl rfl
  | answered packet => exact once.sendPacket packet
  | connecting | removed | heard | listened | failed => exact once.note rfl
  | opened | acked =>
      apply note _ rfl
      exact once.of_same rfl rfl
  | drained =>
      exact once.of_same (by simp [drain, Note.isClosed, Function.comp_def]) rfl
  | closed open' =>
      rw [ClosedOnce, if_pos open'] at once
      simp [ClosedOnce, Socket.note, Note.isClosed, once]

end ClosedOnce

theorem closedOnce_of_reachable (reached : machine.Reachable socket) : ClosedOnce socket := by
  refine moves_induction ?_ (fun _ _ once => once.of_same rfl rfl)
    (fun _ _ once moved => once.move moved) reached
  intro globalEventId clientOpened nsp auth
  cases clientOpened <;> rfl

/-- A socket is closed at most once, exactly when it has lost its client, and for good: nothing
that happens to it later makes it send, call or note anything. -/
theorem closed_for_good (reached : machine.Reachable socket) :
    (socket.log.countP Note.isClosed = if socket.hasClient = true then 0 else 1) ∧
      (socket.hasClient = false → ∀ acts next, machine.exec socket acts = some next →
        next.hasClient = false ∧ next.log = socket.log) := by
  have settled := settled_of_reachable reached
  refine ⟨closedOnce_of_reachable reached, fun gone acts next ran => ?_⟩
  exact ⟨gone_exec settled ran gone, log_exec_gone settled ran gone⟩

/-- The server asks the socket to close. -/
def ended : Socket Empty Nat :=
  (machine.exec answered [.packet (.ofType typeDisconnect (ascii "/") .nullptr) idle]).get rfl

theorem closed_for_good_ended :
    ended.log.countP Note.isClosed = 1 ∧ ∀ acts next, machine.exec ended acts = some next →
      next.hasClient = false ∧ next.log = ended.log := by
  have reached : machine.Reachable ended :=
    Machine.Reachable.exec answered_reachable (Option.some_get _).symm
  have life := closed_for_good reached
  exact ⟨life.1, life.2 rfl⟩

/-! ### Handlers that are ready -/

theorem sendPacket_ready (packet : Packet Double) :
    (socket.sendPacket packet).ready = socket.ready := by
  unfold sendPacket
  split_ifs <;> rfl

/-- Moves only add to the handlers that are ready. -/
theorem Move.ready (moved : Move socket next) : ∃ added, next.ready = socket.ready ++ added := by
  cases moved with
  | call moved =>
      cases moved with
      | armed | listeners | registered => exact ⟨[], (List.append_nil _).symm⟩
      | ended timer added => exact ⟨added, rfl⟩
      | asked packet => exact ⟨[], (sendPacket_ready packet).trans (List.append_nil _).symm⟩
  | answered packet => exact ⟨[], (sendPacket_ready packet).trans (List.append_nil _).symm⟩
  | counted | connecting | opened | drained | dropped | closed | removed | heard | listened
  | failed | acked => exact ⟨[], (List.append_nil _).symm⟩

theorem ready_step (settled : Settled socket) {act : Act Double Callback}
    (taken : socket.step act = some next) :
    ∃ added, next.ready = (socket.begin act).ready ++ added := by
  have chain := moves_step settled taken
  clear taken
  induction chain with
  | refl => exact ⟨[], (List.append_nil _).symm⟩
  | tail _ moved ih =>
      obtain ⟨added, grown⟩ := ih
      obtain ⟨more, after⟩ := moved.ready
      exact ⟨added ++ more, by rw [after, grown, List.append_assoc]⟩

def Act.isHandled : Act Double Callback → Bool
  | .handled _ => true
  | _ => false

/-- A closing handler that is ready cannot be stopped: whatever happens before it runs, once as
many handlers have run as stood in front of it, and it itself, the socket is closed. -/
theorem ready_handler_closes (reached : machine.Reachable socket) {front rest : List Handler}
    {handler : Handler} (ready : socket.ready = front ++ handler :: rest)
    (closes : handler.closes = true) {acts : List (Act Double Callback)}
    (ran : machine.exec socket acts = some next)
    (handled : front.length < acts.countP Act.isHandled) : next.hasClient = false := by
  have settled := settled_of_reachable reached
  clear reached
  induction acts generalizing socket front rest with
  | nil => exact absurd handled (Nat.not_lt_zero _)
  | cons act acts ih =>
      obtain ⟨middle, taken, later⟩ := Option.bind_eq_some_iff.mp ran
      obtain ⟨added, grown⟩ := ready_step settled taken
      have after := settled.step taken
      cases isHandled : act.isHandled with
      | false =>
          have same : (socket.begin act).ready = socket.ready := by
            cases act with
            | handled => cases isHandled
            | _ => rfl
          rw [same, ready, List.append_assoc, List.cons_append] at grown
          rw [List.countP_cons_of_neg (by simp [isHandled])] at handled
          exact ih grown later handled after
      | true =>
          rw [List.countP_cons_of_pos isHandled] at handled
          cases act with
          | handled calls =>
              cases front with
              | nil =>
                  have closed : middle.hasClient = false := by
                    change socket.step (.handled calls) = some middle at taken
                    rw [step, ready] at taken
                    cases taken
                    exact handle_hasClient closes calls
                  exact gone_exec after later closed
              | cons first front =>
                  rw [begin, ready, List.cons_append, List.tail_cons, List.append_assoc,
                    List.cons_append] at grown
                  exact ih grown later (Nat.lt_of_succ_lt_succ handled) after
          | _ => cases isHandled

/-- The server answers the connect after the timer has expired and before its handler runs. -/
def late : List (Act Empty Nat) :=
  [.packet (.ofType typeConnect (ascii "/") .nullptr) idle, .handled []]

def expired : Socket Empty Nat := (machine.exec fresh [.opened, .expired]).get rfl

theorem ready_handler_closes_late :
    ((machine.exec expired late).map fun last => last.hasClient) = some false := by
  have reached : machine.Reachable expired :=
    Machine.Reachable.exec (.initial fresh_initial) (Option.some_get _).symm
  obtain ⟨last, ran⟩ : ∃ last, machine.exec expired late = some last := ⟨_, rfl⟩
  have closed : last.hasClient = false :=
    ready_handler_closes reached (show expired.ready = [] ++ ⟨.timeoutConnection, false⟩ :: [] from rfl)
      rfl ran (by decide)
  rw [ran, Option.map_some, closed]

/-! ### What does not close a socket -/

def Call.isClose : Call Double Callback → Bool
  | .close => true
  | _ => false

/-- The calls that the application makes while an act takes place. -/
def Act.calls : Act Double Callback → List (Call Double Callback)
  | .call made => [made]
  | .packet _ reactions =>
      reactions.opened ++ reactions.closed ++ reactions.bound.calls ++ reactions.any.calls ++
        reactions.acked ++ reactions.failed
  | .handled calls => calls
  | .abandoned calls => calls
  | _ => []

/-- An act ends a socket or leads to its end. -/
def Act.ends : Act Double Callback → Bool
  | .expired => true
  | .abandoned _ => true
  | .packet received _ => received.type = typeDisconnect
  | _ => false

/-- A socket that only waits for the server is open, and what is ready was cancelled. -/
structure Waiting (socket : Socket Double Callback) : Prop where
  open' : socket.hasClient = true
  timer : ∀ wait ∈ socket.connectionTimer.getD [], wait = .timeoutConnection
  ready : ∀ handler ∈ socket.ready, handler = ⟨.timeoutConnection, true⟩

namespace Waiting

theorem of_same (waiting : Waiting socket) (hasClient : next.hasClient = socket.hasClient)
    (timer : next.connectionTimer = socket.connectionTimer)
    (ready : next.ready = socket.ready) : Waiting next where
  open' := hasClient.trans waiting.open'
  timer := timer ▸ waiting.timer
  ready := ready ▸ waiting.ready

theorem resetTimer (waiting : Waiting socket) {timer : Option (List Wait)}
    (known : ∀ wait ∈ timer.getD [], wait = .timeoutConnection) :
    Waiting (socket.resetTimer timer) where
  open' := waiting.open'
  timer := known
  ready handler member := by
    rcases List.mem_append.mp member with early | ended
    · exact waiting.ready handler early
    · obtain ⟨wait, isIn, rfl⟩ := List.mem_map.mp ended
      rw [waiting.timer wait isIn]

theorem sendPacket (waiting : Waiting socket) (packet : Packet Double) :
    Waiting (socket.sendPacket packet) := by
  unfold Socket.sendPacket
  split_ifs
  · exact waiting
  · exact waiting.of_same rfl rfl rfl
  · exact waiting.of_same rfl rfl rfl

theorem call (waiting : Waiting socket) {call : Call Double Callback}
    (open' : call.isClose = false) : Waiting (socket.call call) := by
  cases call with
  | emit name messages ack =>
      show Waiting (socket.emit name messages ack)
      unfold emit
      split_ifs
      · exact waiting
      · cases ack with
        | none => exact waiting.sendPacket _
        | some callback =>
            apply sendPacket
            exact waiting.of_same rfl rfl rfl
  | close => cases open'
  | on | onAny | onError | off | offAll | offError => exact waiting.of_same rfl rfl rfl

theorem perform (waiting : Waiting socket) {calls : List (Call Double Callback)}
    (open' : ∀ call ∈ calls, call.isClose = false) : Waiting (socket.perform calls) := by
  induction calls generalizing socket with
  | nil => exact waiting
  | cons call calls ih =>
      have first := waiting.call (open' call List.mem_cons_self)
      exact ih first fun other member => open' other (List.mem_cons_of_mem _ member)

theorem note (waiting : Waiting socket) (entry : Note Double Callback) :
    Waiting (socket.note entry) :=
  waiting.of_same rfl rfl rfl

theorem listen (waiting : Waiting socket) (listener : Option Callback) (event : Event Double)
    {reaction : Reaction Double Callback} (ackMessage : List (Message Double))
    (open' : ∀ call ∈ reaction.calls, call.isClose = false) :
    Waiting (socket.listen listener event reaction ackMessage).1 := by
  cases listener with
  | none => exact waiting
  | some callback => exact (waiting.note (.listened callback event)).perform open'

theorem onSocketioEvent (waiting : Waiting socket) (packId : Int) (name : List UInt8)
    (messages : List (Message Double)) {bound any : Reaction Double Callback}
    (boundOpen : ∀ call ∈ bound.calls, call.isClose = false)
    (anyOpen : ∀ call ∈ any.calls, call.isClose = false) :
    Waiting (socket.onSocketioEvent packId name messages bound any) := by
  have called (event : Event Double) :
      Waiting ((socket.note (.heard event packId)).callListeners event bound any).1 :=
    ((waiting.note (.heard event packId)).listen _ event [] boundOpen).listen _ event _ anyOpen
  unfold Socket.onSocketioEvent
  dsimp only
  split_ifs
  · exact (called _).sendPacket _
  · exact called _

theorem onConnected (waiting : Waiting socket) {calls : List (Call Double Callback)}
    (open' : ∀ call ∈ calls, call.isClose = false) : Waiting (socket.onConnected calls) := by
  have stopped : Waiting (socket.resetTimer none) := waiting.resetTimer nofun
  unfold Socket.onConnected
  dsimp only
  split_ifs
  · exact stopped
  · have connected : Waiting { socket.resetTimer none with connected := true } :=
      stopped.of_same rfl rfl rfl
    exact ((connected.note .opened).perform open').of_same rfl rfl rfl

theorem onMessagePacket (waiting : Waiting socket) {packet : Packet Double}
    {reactions : Reactions Double Callback} (goesOn : packet.type ≠ typeDisconnect)
    (open' : ∀ call ∈ (Act.packet packet reactions).calls, call.isClose = false)
    (taken : socket.onMessagePacket packet reactions = some next) : Waiting next := by
  have within {calls : List (Call Double Callback)}
      (isIn : ∀ call ∈ calls, call ∈ (Act.packet packet reactions).calls) :
      ∀ call ∈ calls, call.isClose = false :=
    fun call member => open' call (isIn call member)
  unfold Socket.onMessagePacket at taken
  split_ifs at taken
  · cases taken
    exact waiting
  · cases taken
    exact waiting.onConnected (within fun _ member => by simp [Act.calls, member])
  · split at taken <;> cases taken
    · exact waiting.onSocketioEvent _ _ _ (within fun _ member => by simp [Act.calls, member])
        (within fun _ member => by simp [Act.calls, member])
    · exact waiting
  · have answered (messages : List (Message Double)) :
        Waiting (socket.onSocketioAck packet.packId messages reactions.acked) := by
      unfold onSocketioAck
      dsimp only
      split
      · exact waiting
      · apply perform _ (within fun _ member => by simp [Act.calls, member])
        exact waiting.of_same rfl rfl rfl
    split at taken <;> cases taken
    · exact answered _
    · exact answered _
  · cases taken
    unfold onSocketioError
    split
    · exact waiting
    · exact (waiting.note _).perform (within fun _ member => by simp [Act.calls, member])
  · cases taken
    exact waiting

theorem step (waiting : Waiting socket) {act : Act Double Callback} (goesOn : act.ends = false)
    (open' : ∀ call ∈ act.calls, call.isClose = false)
    (taken : socket.step act = some next) : Waiting next := by
  cases act with
  | call call => cases taken; exact waiting.call (open' call List.mem_cons_self)
  | opened =>
      cases taken
      have fresh : Waiting ((socket.note (.sent (.ofType typeConnect socket.nsp
          socket.auth))).resetTimer (some [])) :=
        (waiting.note _).resetTimer nofun
      unfold onOpen sendConnect
      rw [if_neg (by simp [waiting.open'])]
      exact ⟨fresh.open', fun wait member => List.mem_singleton.mp member, fresh.ready⟩
  | disconnected =>
      cases taken
      unfold onDisconnect
      split_ifs
      · exact waiting.of_same rfl rfl rfl
      · exact waiting
  | packet packet reactions =>
      exact waiting.onMessagePacket (of_decide_eq_false goesOn) open' taken
  | expired => cases goesOn
  | handled calls =>
      rw [Socket.step] at taken
      cases ready : socket.ready with
      | nil =>
          rw [ready] at taken
          cases taken
          exact waiting
      | cons handler rest =>
          rw [ready] at taken
          cases taken
          have known := waiting.ready
          rw [ready] at known
          rw [known handler List.mem_cons_self]
          show Waiting ({ socket with ready := rest }.timeoutConnection true calls)
          rw [timeoutConnection, if_pos (.inr rfl)]
          exact ⟨waiting.open', waiting.timer,
            fun other member => known other (List.mem_cons_of_mem _ member)⟩
  | abandoned => cases goesOn
  | counted => cases taken; exact waiting.of_same rfl rfl rfl

end Waiting

/-- A socket stays open as long as the server does not disconnect it, its client lasts, its timer
does not expire and the application does not close it: no loss of the connection ends it. -/
theorem open_unless_ended (globalEventId : UInt32) (clientOpened : Bool) (nsp : List UInt8)
    (auth : Message Double) {acts : List (Act Double Callback)}
    (ran : machine.exec (create globalEventId clientOpened nsp auth) acts = some next)
    (goesOn : ∀ act ∈ acts, act.ends = false)
    (open' : ∀ act ∈ acts, ∀ call ∈ act.calls, call.isClose = false) :
    next.hasClient = true := by
  have waiting : Waiting (create globalEventId clientOpened nsp auth : Socket Double Callback) := by
    cases clientOpened with
    | false => exact ⟨rfl, nofun, nofun⟩
    | true => exact ⟨rfl, fun wait member => List.mem_singleton.mp member, nofun⟩
  suffices kept : Waiting next from kept.open'
  generalize (create globalEventId clientOpened nsp auth : Socket Double Callback) = start
    at ran waiting
  induction acts generalizing start with
  | nil =>
      cases ran
      exact waiting
  | cons act acts ih =>
      obtain ⟨middle, taken, later⟩ := Option.bind_eq_some_iff.mp ran
      have first := waiting.step (goesOn act List.mem_cons_self)
        (open' act List.mem_cons_self) taken
      exact ih (fun other member => goesOn other (List.mem_cons_of_mem _ member))
        (fun other member => open' other (List.mem_cons_of_mem _ member)) middle later first

theorem open_unless_ended_answered : answered.hasClient = true := by
  have ran : machine.exec (create 1 false (ascii "/") .nullptr) (registering ++ acknowledged) =
      some answered := rfl
  exact open_unless_ended 1 false (ascii "/") .nullptr ran (by decide) (by decide)

end Socket
end VoiceCall.Transport
