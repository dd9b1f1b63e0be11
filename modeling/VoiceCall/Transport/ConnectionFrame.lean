import VoiceCall.Transport.ConnectionMoves

namespace VoiceCall.Transport.Connection
open Foundation

variable {Double : Type} {connection middle next : Connection Double} {platform : Platform}

/-- The library keeps a session from its opening to its end. -/
def InSession (connection : Connection Double) : Prop :=
  connection.link = .established ∨ connection.link = .leaving

/-- A client that continues keeps its state and its sockets, and a session that it has. -/
structure Continues (connection next : Connection Double) : Prop where
  conState : next.conState = connection.conState
  sockets : next.sockets = connection.sockets
  inSession : connection.InSession → next.InSession

namespace Continues

theorem refl (connection : Connection Double) : Continues connection connection := ⟨rfl, rfl, id⟩

theorem trans (first : Continues connection middle) (second : Continues middle next) :
    Continues connection next :=
  ⟨second.conState.trans first.conState, second.sockets.trans first.sockets,
    second.inSession ∘ first.inSession⟩

theorem same (conState : next.conState = connection.conState)
    (sockets : next.sockets = connection.sockets) (link : next.link = connection.link) :
    Continues connection next :=
  ⟨conState, sockets, fun inSession => by rwa [InSession, link]⟩

theorem closeImpl (connection : Connection Double) (code : Nat) :
    Continues connection (connection.closeImpl code) := by
  unfold Connection.closeImpl
  dsimp only
  split_ifs
  · exact ⟨rfl, rfl, fun _ => .inr rfl⟩
  · exact same rfl rfl rfl

theorem sendImpl (connection : Connection Double) (isBinary : Bool) (payload : List UInt8) :
    Continues connection (connection.sendImpl isBinary payload) := by
  unfold Connection.sendImpl write
  split_ifs <;> exact same rfl rfl rfl

theorem onEncodes (onNetwork : Bool) (connection : Connection Double)
    (frames : List (Bool × List UInt8)) :
    Continues connection (frames.foldl (onEncode onNetwork) connection) := by
  induction frames generalizing connection with
  | nil => exact refl connection
  | cons frame rest inductionHypothesis =>
      apply trans _ (inductionHypothesis _)
      cases onNetwork with
      | true => exact sendImpl connection frame.1 frame.2
      | false => exact same rfl rfl rfl

theorem onHandshake {message : Message Double}
    (taken : connection.onHandshake message = some next) : Continues connection next := by
  unfold Connection.onHandshake at taken
  split at taken
  · split at taken
    · cases taken
      exact closeImpl connection 1008
    · obtain ⟨pingInterval, _, rest⟩ := Option.bind_eq_some_iff.mp taken
      obtain ⟨pingTimeout, _, rfl⟩ := Option.map_eq_some_iff.mp rest
      exact same rfl rfl rfl
    · cases taken
  · cases taken
    exact closeImpl connection 1008

theorem onPing (taken : connection.onPing = some next) : Continues connection next := by
  unfold Connection.onPing at taken
  split_ifs at taken
  cases taken
  exact same rfl rfl rfl

variable [DoubleText Double]

theorem sendAll {onNetwork : Bool} {packets : List (Packet Double)}
    (taken : connection.sendAll onNetwork packets = some next) : Continues connection next := by
  induction packets generalizing connection with
  | nil =>
      cases taken
      exact refl _
  | cons packet rest inductionHypothesis =>
      obtain ⟨sent, sending, later⟩ := Option.bind_eq_some_iff.mp taken
      obtain ⟨frames, _, rfl⟩ := Option.map_eq_some_iff.mp sending
      have noted : Continues connection (connection.note (.encoded packet)) := same rfl rfl rfl
      exact (noted.trans (onEncodes onNetwork _ frames)).trans (inductionHypothesis later)

theorem onDecode {packet : Packet Double} {sends : List (Packet Double)}
    (taken : connection.onDecode packet sends = some next) : Continues connection next := by
  unfold Connection.onDecode at taken
  split_ifs at taken
  · obtain ⟨synced, syncing, handled⟩ := Option.bind_eq_some_iff.mp taken
    have synced' : Continues connection synced := by
      rw [syncSid_keeps syncing]
      exact same rfl rfl rfl
    split_ifs at handled
    · have noted : Continues synced (synced.note (.delivered packet)) := same rfl rfl rfl
      exact (synced'.trans noted).trans (sendAll handled)
    · cases handled
      exact synced'
  · exact onHandshake taken
  · cases taken
    exact closeImpl connection 1006
  · exact onPing taken
  · cases taken
    exact refl connection

theorem onMessage {payload : List UInt8} {sends : List (Packet Double)}
    (taken : connection.onMessage payload sends = some next) : Continues connection next := by
  obtain ⟨manager, _, handled⟩ := Option.bind_eq_some_iff.mp taken
  have received : Continues connection
      ({ connection with packetMgr := manager }.note (.received payload)) := same rfl rfl rfl
  apply received.trans
  generalize manager.decoded.drop connection.packetMgr.decoded.length = packets at handled
  generalize { connection with packetMgr := manager }.note (.received payload) = current at handled
  clear taken received
  induction packets generalizing current with
  | nil =>
      cases handled
      exact refl _
  | cons packet rest inductionHypothesis =>
      obtain ⟨decoded, decoding, later⟩ := Option.bind_eq_some_iff.mp handled
      exact (onDecode decoding).trans (inductionHypothesis decoded later)

end Continues

theorem socket_link (connection : Connection Double) (nsp : List UInt8) :
    (connection.socket nsp).link = connection.link := by
  unfold socket
  split_ifs <;> rfl

theorem mem_socket {connection : Connection Double} {nsp name : List UInt8} :
    name ∈ (connection.socket nsp).sockets ↔
      name = namespaceOf nsp ∨ name ∈ connection.sockets := by
  unfold socket
  split_ifs with known
  · refine ⟨.inr, fun isIn => isIn.elim (fun same => same ▸ known) id⟩
  · simp [note, or_comm]

theorem retry_keeps (connection : Connection Double) (otherwise : Note Double) :
    (connection.retry platform otherwise).sockets = connection.sockets ∧
      (connection.retry platform otherwise).conState = connection.conState := by
  unfold retry
  dsimp only
  split_ifs <;> exact ⟨rfl, rfl⟩

theorem connectImpl_keeps (connection : Connection Double) (uri queryString : List UInt8) :
    (connection.connectImpl platform uri queryString).sockets = connection.sockets ∧
      (connection.connectImpl platform uri queryString).conState = connection.conState := by
  unfold connectImpl
  split_ifs <;> exact ⟨rfl, rfl⟩

theorem onClose_conState (connection : Connection Double) (code : Nat) :
    (connection.onClose platform code).conState = .closed := by
  unfold onClose
  dsimp only
  split_ifs
  · rfl
  · exact (retry_keeps _ _).2

/-- A task keeps the state of the client, or tries again for a closed one. -/
theorem ran_conState (platform : Platform) (connection : Connection Double) (task : Task) :
    (connection.runTask platform task).conState = connection.conState ∨
      (connection.conState = .closed ∧
        (connection.runTask platform task).conState = .opening) := by
  cases task with
  | connectImpl uri queryString => exact .inl (connectImpl_keeps connection uri queryString).2
  | closeImpl code => exact .inl (Continues.closeImpl connection code).conState
  | sendImpl isBinary payload =>
      exact .inl (Continues.sendImpl connection isBinary payload).conState
  | timeoutReconnect aborted =>
      unfold runTask timeoutReconnect
      dsimp only
      split_ifs with goes
      · exact .inr ⟨goes.2, (connectImpl_keeps _ _ _).2⟩
      · exact .inl rfl
  | timeoutPing aborted =>
      cases aborted with
      | true => exact .inl rfl
      | false => exact .inl (Continues.closeImpl connection 1008).conState

theorem ran_sockets (connection : Connection Double) (task : Task) :
    (connection.runTask platform task).sockets = connection.sockets := by
  cases task with
  | connectImpl uri queryString => exact (connectImpl_keeps connection uri queryString).1
  | closeImpl code => exact (Continues.closeImpl connection code).sockets
  | sendImpl isBinary payload => exact (Continues.sendImpl connection isBinary payload).sockets
  | timeoutReconnect aborted =>
      unfold runTask timeoutReconnect
      dsimp only
      split_ifs
      · exact (connectImpl_keeps _ _ _).1
      · rfl
  | timeoutPing aborted =>
      cases aborted with
      | true => rfl
      | false => exact (Continues.closeImpl connection 1008).sockets

/-- A session that has ended, or has not begun, is no session. -/
theorem InSession.linked (inSession : connection.InSession) :
    connection.link ≠ .absent ∧ connection.link ≠ .handshaking := by
  rcases inSession with link | link <;> rw [link] <;> decide

/-- An attempt that goes on leaves the client opening, unless it is closing. -/
theorem Settled.opening (settled : Settled connection) (shaking : connection.link = .handshaking)
    (goesOn : connection.conState ≠ .closing) : connection.conState = .opening := by
  cases state : connection.conState with
  | opening => rfl
  | opened =>
      have linked := settled.linked (settled.known state)
      rw [shaking] at linked
      rcases linked with link | link <;> cases link
  | closing => exact absurd state goesOn
  | closed => exact absurd (shaking.symm.trans (settled.parted state)) (by decide)

theorem inSession_ran (settled : Settled connection) (inSession : connection.InSession)
    {task : Task} {tasks : List Task} (head : connection.tasks = task :: tasks) :
    ({ connection with tasks }.runTask platform task).InSession := by
  have goesOn (current : Connection Double) (continues : Continues { connection with tasks } current) :
      current.InSession := continues.inSession inSession
  cases task with
  | connectImpl uri queryString =>
      exact absurd (settled.single_head head rfl).2 inSession.linked.1
  | closeImpl code => exact goesOn _ (.closeImpl _ code)
  | sendImpl isBinary payload => exact goesOn _ (.sendImpl _ isBinary payload)
  | timeoutReconnect aborted =>
      unfold runTask timeoutReconnect
      dsimp only
      split_ifs with goes
      · obtain ⟨_, closed⟩ := goes
        exact absurd (settled.parted closed) inSession.linked.1
      · exact inSession
  | timeoutPing aborted =>
      cases aborted with
      | true => exact inSession
      | false => exact goesOn _ (.closeImpl _ 1008)

variable [DoubleText Double]

theorem inSession_close {sends : List (Packet Double)}
    (taken : connection.close false sends = some next) (inSession : connection.InSession) :
    next.InSession := by
  obtain ⟨sent, sending, rfl⟩ := Option.map_eq_some_iff.mp taken
  exact (Continues.sendAll sending).inSession inSession

/-- Only its end ends a session. -/
theorem inSession_step (settled : Settled connection) {act : Act Double}
    (taken : (machine platform).step connection act = some next)
    (goesOn : ∀ code, act ≠ .closed code) (inSession : connection.InSession) :
    next.InSession := by
  obtain ⟨possible, taken⟩ := Option.ite_none_right_eq_some.mp taken
  cases act with
  | connect uri query auth =>
      cases taken
      unfold connect
      dsimp only
      split_ifs <;> exact inSession
  | joined =>
      cases taken
      unfold joined
      split <;> exact inSession
  | socket nsp =>
      cases taken
      rw [InSession, socket_link]
      exact inSession
  | send onNetwork packets => exact (Continues.sendAll taken).inSession inSession
  | close sends => exact inSession_close taken inSession
  | syncClose sends =>
      obtain ⟨closed, closing, rfl⟩ := Option.map_eq_some_iff.mp taken
      have still := inSession_close closing inSession
      split_ifs <;> exact still
  | opened sends => exact absurd possible.2 inSession.linked.2
  | failed sends => exact absurd possible.2 inSession.linked.2
  | closed code => exact absurd rfl (goesOn code)
  | message payload sends => exact (Continues.onMessage taken).inSession inSession
  | ran =>
      unfold take at taken
      cases tasks : connection.tasks with
      | nil => exact absurd tasks possible.2
      | cons task rest =>
          rw [tasks] at taken
          cases taken
          exact inSession_ran settled inSession tasks
  | removeSocket | setReconnectAttempts | setReconnectDelay | setReconnectDelayMax
  | reconnExpired | pingExpired | ended =>
      cases taken
      exact inSession

/-- A client that has a session is no longer opening. -/
def Awake (connection : Connection Double) : Prop :=
  connection.InSession → connection.conState ≠ .opening

theorem awake_of_reachable (reached : (machine platform).Reachable connection) :
    connection.Awake := by
  apply moves_induction _ _ reached
  · exact fun inSession => absurd rfl inSession.linked.1
  intro before after settled awake moved inSession
  cases moved with
  | noted | posted | took | stopped | expired | unarmed | armed | waited | gaveUp | kept | named
  | received | handed | tuned | scheduled => exact awake inSession
  | left known => exact awake (settled.linked known)
  | asked => exact (by decide : ConState.closing ≠ .opening)
  | opened => exact (by decide : ConState.opened ≠ .opening)
  | linked _ closing => exact fun state => absurd (closing.symm.trans state) (by decide)
  | lost | missed => exact absurd rfl inSession.linked.1
  | attempted => exact absurd rfl inSession.linked.2
  | started _ _ _ ended => exact absurd (settled.still ended).1 inSession.linked.1
  | retried _ _ closed => exact absurd (settled.parted closed) inSession.linked.1
  | ended free => exact absurd free inSession.linked.1

/-- In every run a client that has a session is open, or is closing. -/
theorem inSession_opened (reached : (machine platform).Reachable connection)
    (inSession : connection.InSession) (goesOn : connection.conState ≠ .closing) :
    connection.conState = .opened := by
  have settled := settled_of_reachable reached
  cases state : connection.conState with
  | opened => rfl
  | opening => exact absurd state (awake_of_reachable reached inSession)
  | closing => exact absurd state goesOn
  | closed => exact absurd (settled.parted state) inSession.linked.1

theorem close_sockets {onNetwork : Bool} {sends : List (Packet Double)}
    (taken : connection.close onNetwork sends = some next) :
    next.sockets = connection.sockets := by
  obtain ⟨sent, sending, rfl⟩ := Option.map_eq_some_iff.mp taken
  have same := (Continues.sendAll sending).sockets
  split_ifs
  · exact (Continues.closeImpl sent 1000).sockets.trans same
  · exact same

/-- The acts that make or forget no socket. -/
def Act.KeepsSockets : Act Double → Prop
  | .socket _ | .removeSocket _ | .opened _ => False
  | _ => True

theorem sockets_step {act : Act Double} (keeps : act.KeepsSockets)
    (taken : (machine platform).step connection act = some next) :
    next.sockets = connection.sockets := by
  obtain ⟨_, taken⟩ := Option.ite_none_right_eq_some.mp taken
  cases act with
  | connect uri query auth =>
      cases taken
      unfold connect
      dsimp only
      split_ifs <;> rfl
  | joined =>
      cases taken
      unfold joined
      split <;> rfl
  | socket | removeSocket | opened => exact keeps.elim
  | send onNetwork packets => exact (Continues.sendAll taken).sockets
  | close sends => exact close_sockets taken
  | syncClose sends =>
      obtain ⟨closed, closing, rfl⟩ := Option.map_eq_some_iff.mp taken
      have same := close_sockets closing
      split_ifs <;> exact same
  | failed sends =>
      change connection.onFail platform sends = some next at taken
      unfold onFail at taken
      dsimp only at taken
      split_ifs at taken
      · have same := close_sockets taken
        exact same
      · cases taken
        exact (retry_keeps _ _).1
  | closed code =>
      cases taken
      unfold onClose
      dsimp only
      split_ifs
      · rfl
      · exact (retry_keeps _ _).1
  | message payload sends => exact (Continues.onMessage taken).sockets
  | ran =>
      unfold take at taken
      cases tasks : connection.tasks with
      | nil =>
          rw [tasks] at taken
          cases taken
          rfl
      | cons task rest =>
          rw [tasks] at taken
          cases taken
          exact ran_sockets _ task
  | setReconnectAttempts | setReconnectDelay | setReconnectDelayMax | reconnExpired
  | pingExpired | ended =>
      cases taken
      rfl

theorem onFail_conState {sends : List (Packet Double)} (goesOn : connection.conState ≠ .closing)
    (taken : connection.onFail platform sends = some next) : next.conState = .closed := by
  unfold onFail at taken
  dsimp only at taken
  split_ifs at taken with closing
  · exact absurd closing goesOn
  · cases taken
    exact (retry_keeps _ _).2

theorem onOpen_conState {sends : List (Packet Double)} (goesOn : connection.conState ≠ .closing)
    (taken : connection.onOpen sends = some next) : next.conState = .opened := by
  unfold onOpen at taken
  dsimp only at taken
  split_ifs at taken with closing
  · exact absurd closing goesOn
  · exact (Continues.sendAll taken).conState.trans (socket_conState _ [])

/-- A session that opens has the socket of the default namespace, unless the client is closing. -/
theorem mem_opened {sends : List (Packet Double)} {name : List UInt8}
    (taken : connection.onOpen sends = some next) :
    name ∈ next.sockets ↔
      (connection.conState ≠ .closing ∧ name = namespaceOf []) ∨ name ∈ connection.sockets := by
  unfold onOpen at taken
  dsimp only at taken
  split_ifs at taken with closing
  · rw [close_sockets taken]
    simp [closing]
  · rw [(Continues.sendAll taken).sockets, note, mem_socket, and_iff_right closing]
    rfl

end VoiceCall.Transport.Connection
