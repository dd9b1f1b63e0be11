import VoiceCall.Transport.Connection

namespace VoiceCall.Transport

/-- A task that is about to begin an attempt. -/
def Task.attempts : Task → Bool
  | .connectImpl _ _ => true
  | .timeoutReconnect aborted => !aborted
  | _ => false

def Task.connects : Task → Bool
  | .connectImpl _ _ => true
  | _ => false

namespace Connection
open Foundation

variable {Double : Type}

/-- The attempts that a client is going to make, by a task or by its timer. -/
def outstanding (connection : Connection Double) : Nat :=
  connection.reconnTimer.toList.length + connection.tasks.countP Task.attempts

/-- The notes that go with no change of the session or of the attempts. -/
def Note.Plain (connection : Connection Double) : Note Double → Prop
  | .created _ _ | .encoded _ | .failed | .closed _ => True
  | .opened => connection.conState = .opened
  | .wrote _ _ =>
      connection.con = true ∧ connection.link = .established ∧ connection.conState = .opened
  | .answered payload =>
      connection.con = true ∧ connection.link = .established ∧ payload = pong
  | _ => False

/-- A settled client knows its session, and has at most one attempt in mind, for which it has no
session and a fresh receiver. Without a running thread nothing goes on. -/
structure Settled (connection : Connection Double) : Prop where
  linked : connection.con = true → connection.link = .established ∨ connection.link = .leaving
  known : connection.conState = .opened → connection.con = true
  single : connection.outstanding ≤ 1
  free : 0 < connection.outstanding → connection.link = .absent
  parted : connection.conState = .closed → connection.link = .absent
  awake : 0 < connection.tasks.countP Task.connects → connection.conState ≠ .closed
  fresh : 0 < connection.tasks.countP Task.connects ∨ connection.link = .handshaking →
    connection.sid = [] ∧ connection.packetMgr.partialPacket = none
  still : connection.running = false →
    connection.link = .absent ∧ connection.outstanding = 0 ∧ connection.pingTimer = none
  thread : connection.networkThread = false → connection.running = false

variable {connection next : Connection Double}

theorem outstanding_post (connection : Connection Double) (task : Task) :
    (connection.post task).outstanding =
      connection.outstanding + if task.attempts = true then 1 else 0 := by
  unfold outstanding post
  rw [List.countP_append, List.countP_singleton, ← Nat.add_assoc]

theorem connects_post (connection : Connection Double) (task : Task) :
    (connection.post task).tasks.countP Task.connects =
      connection.tasks.countP Task.connects + if task.connects = true then 1 else 0 := by
  rw [post, List.countP_append, List.countP_singleton]

theorem Task.connects_attempts {task : Task} (connects : task.connects = true) :
    task.attempts = true := by
  cases task with
  | connectImpl => rfl
  | closeImpl | sendImpl | timeoutReconnect | timeoutPing => cases connects

/-- A task that connects is an outstanding attempt. -/
theorem connects_le_outstanding (connection : Connection Double) :
    connection.tasks.countP Task.connects ≤ connection.outstanding :=
  (List.countP_mono_left fun _ _ => Task.connects_attempts).trans (Nat.le_add_left _ _)

/-- What the invariant says about a session. -/
def session (connection : Connection Double) :=
  (connection.con, connection.conState, connection.link, connection.running,
    connection.networkThread, connection.sid, connection.packetMgr.partialPacket)

/-- A client stays settled when its session stays and it has no more attempts in mind. -/
theorem Settled.of_fewer (settled : Settled connection) (same : next.session = connection.session)
    (outstanding : next.outstanding ≤ connection.outstanding)
    (connects : next.tasks.countP Task.connects ≤ connection.tasks.countP Task.connects)
    (noPing : connection.running = false → next.pingTimer = none) : Settled next := by
  simp only [session, Prod.mk.injEq] at same
  obtain ⟨con, conState, link, running, networkThread, sid, partialPacket⟩ := same
  constructor
  · rw [con, link]
    exact settled.linked
  · rw [conState, con]
    exact settled.known
  · exact outstanding.trans settled.single
  · rw [link]
    exact fun some => settled.free (some.trans_le outstanding)
  · rw [conState, link]
    exact settled.parted
  · rw [conState]
    exact fun some => settled.awake (some.trans_le connects)
  · rw [link, sid, partialPacket]
    exact fun cause => settled.fresh (cause.imp_left fun some => some.trans_le connects)
  · rw [running, link]
    intro still
    have before := settled.still still
    exact ⟨before.1, Nat.le_zero.mp (outstanding.trans before.2.1.le), noPing still⟩
  · rw [networkThread, running]
    exact settled.thread

/-- A task in front that attempts is the only attempt that is outstanding. -/
theorem Settled.single_head (settled : Settled connection) {task : Task} {tasks : List Task}
    (head : connection.tasks = task :: tasks) (attempts : task.attempts = true) :
    ({ connection with tasks } : Connection Double).outstanding = 0 ∧
      connection.link = .absent := by
  have whole : connection.outstanding =
      ({ connection with tasks } : Connection Double).outstanding + 1 := by
    unfold outstanding
    rw [head, List.countP_cons, if_pos attempts, ← Nat.add_assoc]
  have single := settled.single
  constructor
  · omega
  · exact settled.free (by omega)

theorem outstanding_posted {task : Task} (quiet : task.attempts = false) :
    (connection.post task).outstanding = connection.outstanding := by
  rw [outstanding_post, if_neg (by simp [quiet]), Nat.add_zero]

theorem outstanding_took {task : Task} {tasks : List Task}
    (head : connection.tasks = task :: tasks) :
    ({ connection with tasks } : Connection Double).outstanding ≤ connection.outstanding := by
  unfold outstanding
  rw [head, List.countP_cons]
  exact Nat.add_le_add_left (Nat.le_add_right _ _) _

theorem outstanding_stopped (connection : Connection Double) :
    ({ connection with reconnTimer := none } : Connection Double).outstanding ≤
      connection.outstanding :=
  Nat.add_le_add_right (Nat.zero_le _) _

/-- A timer that expires hands its attempt on to its handler. -/
theorem outstanding_expired (waits : connection.reconnTimer.isSome = true) :
    ({ connection with reconnTimer := none }.post (.timeoutReconnect false)).outstanding =
      connection.outstanding := by
  obtain ⟨millis, armed⟩ := Option.isSome_iff_exists.mp waits
  unfold outstanding
  rw [armed, post, List.countP_append, Option.toList_none, Option.toList_some, List.length_nil,
    List.length_singleton, Nat.zero_add]
  exact Nat.add_comm _ _

/-- A client with a session has no other attempt in mind. -/
structure Busy (connection : Connection Double) : Prop where
  none' : connection.outstanding = 0
  connects : connection.tasks.countP Task.connects = 0
  awake : connection.conState ≠ .closed
  running : connection.running = true

theorem Settled.busy (settled : Settled connection) (linked : connection.link ≠ .absent) :
    Busy connection := by
  have none' : connection.outstanding = 0 := by
    by_contra some
    exact linked (settled.free (Nat.pos_of_ne_zero some))
  constructor
  · exact none'
  · exact Nat.le_zero.mp (none' ▸ connects_le_outstanding connection)
  · exact fun closed => linked (settled.parted closed)
  · by_contra still
    exact linked (settled.still (Bool.not_eq_true _ ▸ still)).1

variable [DoubleText Double]

/-- The smallest changes that the methods of a client are made of. -/
inductive Move (platform : Platform) : Connection Double → Connection Double → Prop
  | noted (connection : Connection Double) (entry : Note Double) (plain : entry.Plain connection) :
      Move platform connection (connection.note entry)
  | posted (connection : Connection Double) (task : Task) (quiet : task.attempts = false) :
      Move platform connection (connection.post task)
  | took (connection : Connection Double) (task : Task) (tasks : List Task)
      (head : connection.tasks = task :: tasks) : Move platform connection { connection with tasks }
  | stopped (connection : Connection Double) :
      Move platform connection { connection with reconnTimer := none }
  | expired (connection : Connection Double) (waits : connection.reconnTimer.isSome = true) :
      Move platform connection
        ({ connection with reconnTimer := none }.post (.timeoutReconnect false))
  | unarmed (connection : Connection Double) :
      Move platform connection { connection with pingTimer := none }
  | armed (connection : Connection Double) (millis : UInt32)
      (established : connection.link = .established) :
      Move platform connection { connection with pingTimer := some millis }
  | left (connection : Connection Double) (known : connection.con = true) :
      Move platform connection { connection with link := .leaving }
  | asked (connection : Connection Double) :
      Move platform connection
        ({ connection with conState := .closing, abortRetries := true }.note (.invoked .close))
  | waited (connection : Connection Double) (request : Request Double)
      (thread : connection.networkThread = true) :
      Move platform connection { connection with joining := some request }
  | gaveUp (connection : Connection Double) (ended : connection.running = false) :
      Move platform connection { connection with networkThread := false, joining := none }
  | started (connection : Connection Double) (uri : List UInt8)
      (query : List (List UInt8 × List UInt8)) (auth : Message Double)
      (ended : connection.running = false) :
      Move platform connection (connection.start uri query auth)
  | attempted (connection : Connection Double) (uri queryString : List UInt8)
      (single : connection.outstanding = 0) (free : connection.link = .absent)
      (awake : connection.conState ≠ .closed) (running : connection.running = true)
      (noSid : connection.sid = [])
      (noPartial : connection.packetMgr.partialPacket = none) :
      Move platform connection
        { connection.note (.attempted uri queryString connection.sid) with link := .handshaking }
  | retried (connection : Connection Double) (tasks : List Task)
      (head : connection.tasks = .timeoutReconnect false :: tasks)
      (closed : connection.conState = .closed) (running : connection.running = true) :
      Move platform connection
        ({ connection with
          tasks
          conState := .opening
          reconnMade := connection.reconnMade + 1 }.resetStates.note .reconnecting)
  | lost (connection : Connection Double) (linked : connection.link ≠ .absent) :
      Move platform connection
        (({ connection with link := .absent, conState := .closed, con := false }.note
          .unlinked).note (.invoked .onDisconnect))
  | missed (connection : Connection Double) (shaking : connection.link = .handshaking) :
      Move platform connection ({ connection with link := .absent }.note .unlinked)
  | scheduled (connection : Connection Double) (single : connection.outstanding = 0)
      (free : connection.link = .absent) (closed : connection.conState = .closed)
      (running : connection.running = true)
      (allowed : connection.reconnMade < connection.reconnAttempts)
      (goesOn : connection.abortRetries = false) :
      Move platform connection
        { connection.note (.reconnect connection.reconnMade (connection.nextDelay platform)) with
          reconnTimer := some (connection.nextDelay platform) }
  | linked (connection : Connection Double) (shaking : connection.link = .handshaking)
      (closing : connection.conState = .closing) :
      Move platform connection { connection with link := .established }
  | opened (connection : Connection Double) (shaking : connection.link = .handshaking)
      (notClosing : connection.conState ≠ .closing) :
      Move platform connection
        ({ connection with
          link := .established
          conState := .opened
          con := true
          reconnMade := 0 }.note (.invoked .onOpen))
  | kept (connection : Connection Double) (sockets : List (List UInt8)) :
      Move platform connection { connection with sockets }
  | named (connection : Connection Double) (sid : List UInt8) (pingInterval pingTimeout : UInt32)
      (established : connection.link = .established) :
      Move platform connection { connection with sid, pingInterval, pingTimeout }
  | received (connection : Connection Double) (payload : List UInt8)
      (packetMgr : PacketManager Double) (established : connection.link = .established)
      (taken : connection.packetMgr.putPayload payload = some packetMgr) :
      Move platform connection ({ connection with packetMgr }.note (.received payload))
  | handed (connection : Connection Double) (payload : List UInt8)
      (packetMgr : PacketManager Double) (packet : Packet Double)
      (established : connection.link = .established)
      (taken : connection.packetMgr.putPayload payload = some packetMgr)
      (decoded : packetMgr.decoded = connection.packetMgr.decoded ++ [packet]) :
      Move platform connection
        (({ connection with packetMgr }.note (.received payload)).note (.delivered packet))
  | tuned (connection : Connection Double) (reconnDelay reconnDelayMax reconnAttempts : UInt32)
      (ordered : connection.reconnDelay ≤ connection.reconnDelayMax →
        reconnDelay ≤ reconnDelayMax) :
      Move platform connection (connection.tune reconnDelay reconnDelayMax reconnAttempts)
  | ended (connection : Connection Double) (free : connection.link = .absent)
      (none' : connection.outstanding = 0) (noPing : connection.pingTimer = none) :
      Move platform connection { connection with running := false }

/-- The moves of a method follow each other. -/
abbrev Moves (platform : Platform) : Connection Double → Connection Double → Prop :=
  Relation.ReflTransGen (Move platform)

variable {platform : Platform}

theorem Settled.move (settled : Settled connection) (moved : Move platform connection next) :
    Settled next := by
  have noPing (still : connection.running = false) : connection.pingTimer = none :=
    (settled.still still).2.2
  have connects := connects_le_outstanding connection
  cases moved with
  | noted | waited | kept | tuned => exact settled.of_fewer rfl le_rfl le_rfl noPing
  | posted task quiet =>
      refine settled.of_fewer rfl ?_ ?_ noPing
      · exact (outstanding_posted quiet).le
      · rw [connects_post, if_neg fun connects => by
          simp [Task.connects_attempts connects] at quiet, Nat.add_zero]
  | took task tasks head =>
      refine settled.of_fewer rfl ?_ ?_ noPing
      · exact outstanding_took head
      · rw [head, List.countP_cons]
        exact Nat.le_add_right _ _
  | stopped =>
      exact settled.of_fewer rfl (outstanding_stopped connection) le_rfl noPing
  | expired waits =>
      refine settled.of_fewer rfl (outstanding_expired waits).le ?_ noPing
      · rw [connects_post]
        exact le_rfl
  | unarmed => exact settled.of_fewer rfl le_rfl le_rfl fun _ => rfl
  | armed millis established =>
      refine settled.of_fewer rfl le_rfl le_rfl ?_
      intro still
      exact absurd ((settled.still still).1.symm.trans established) nofun
  | left known =>
      have linked : connection.link ≠ .absent := by
        rcases settled.linked known with link | link <;> rw [link] <;> decide
      have busy := settled.busy linked
      exact ⟨fun _ => .inr rfl, settled.known, settled.single,
        fun some => absurd busy.none' some.ne', fun closed => absurd closed busy.awake,
        settled.awake, fun cause =>
          cause.elim (fun some => absurd busy.connects some.ne') nofun,
        fun still => absurd busy.running (by simp [show connection.running = false from still]),
        settled.thread⟩
  | asked =>
      exact ⟨settled.linked, nofun, settled.single, settled.free, nofun, fun _ => nofun,
        settled.fresh, settled.still, settled.thread⟩
  | gaveUp ended =>
      exact ⟨settled.linked, settled.known, settled.single, settled.free, settled.parted,
        settled.awake, settled.fresh, settled.still, fun _ => ended⟩
  | started uri query auth ended =>
      obtain ⟨free, none', _⟩ := settled.still ended
      have one : (connection.start uri query auth).outstanding = 1 := by
        have posted := outstanding_post connection (.connectImpl uri (Transport.queryString query))
        rw [none'] at posted
        exact posted
      exact ⟨fun known => absurd (settled.linked known) (by simp [free]), nofun, one.le,
        fun _ => free, nofun, fun _ => nofun, fun _ => ⟨rfl, rfl⟩, nofun, nofun⟩
  | attempted uri queryString single free awake running noSid noPartial =>
      exact ⟨fun known => absurd (settled.linked known) (by simp [free]), settled.known,
        settled.single, fun some => absurd single some.ne', fun closed => absurd closed awake,
        settled.awake, fun _ => ⟨noSid, noPartial⟩,
        fun still => absurd running (by simp [show connection.running = false from still]),
        settled.thread⟩
  | retried tasks head closed running =>
      obtain ⟨single, free⟩ := settled.single_head head rfl
      exact ⟨fun known => absurd (settled.linked known) (by simp [free]), nofun,
        single.le.trans (Nat.zero_le 1), fun some => absurd single some.ne', nofun, fun _ => nofun,
        fun _ => ⟨rfl, rfl⟩,
        fun still => absurd running (by simp [show connection.running = false from still]),
        settled.thread⟩
  | lost linked =>
      have busy := settled.busy linked
      exact ⟨nofun, nofun, settled.single, fun _ => rfl, fun _ => rfl,
        fun some => absurd busy.connects some.ne', fun cause =>
          cause.elim (fun some => absurd busy.connects some.ne') nofun,
        fun still => absurd busy.running (by simp [show connection.running = false from still]),
        settled.thread⟩
  | missed shaking =>
      have busy := settled.busy (by rw [shaking]; decide)
      exact ⟨fun known => absurd (settled.linked known) (by simp [shaking]), settled.known,
        settled.single, fun _ => rfl, fun _ => rfl, settled.awake,
        fun cause =>
          cause.elim (fun some => absurd busy.connects some.ne') nofun,
        fun still => absurd busy.running (by simp [show connection.running = false from still]),
        settled.thread⟩
  | scheduled single free closed running allowed goesOn =>
      have noTask : connection.tasks.countP Task.attempts = 0 := (Nat.add_eq_zero_iff.mp single).2
      have none' : connection.tasks.countP Task.connects = 0 := Nat.le_zero.mp (single ▸ connects)
      exact ⟨fun known => absurd (settled.linked known) (by simp [free]), settled.known,
        by simp [outstanding, note, noTask], fun _ => free, fun _ => free,
        fun some => absurd none' some.ne', settled.fresh,
        fun still => absurd running (by simp [show connection.running = false from still]),
        settled.thread⟩
  | linked shaking closing =>
      have busy := settled.busy (by rw [shaking]; decide)
      exact ⟨fun _ => .inl rfl, settled.known, settled.single,
        fun some => absurd busy.none' some.ne', fun closed => absurd closed busy.awake,
        settled.awake, fun cause =>
          cause.elim (fun some => absurd busy.connects some.ne') nofun,
        fun still => absurd busy.running (by simp [show connection.running = false from still]),
        settled.thread⟩
  | opened shaking notClosing =>
      have busy := settled.busy (by rw [shaking]; decide)
      exact ⟨fun _ => .inl rfl, fun _ => rfl, settled.single,
        fun some => absurd busy.none' some.ne', nofun, fun _ => nofun,
        fun cause =>
          cause.elim (fun some => absurd busy.connects some.ne') nofun,
        fun still => absurd busy.running (by simp [show connection.running = false from still]),
        settled.thread⟩
  | named sid pingInterval pingTimeout established =>
      have busy := settled.busy (by rw [established]; decide)
      exact ⟨settled.linked, settled.known, settled.single, settled.free, settled.parted,
        settled.awake, fun cause =>
          cause.elim (fun some => absurd busy.connects some.ne')
            fun shaking => absurd (established.symm.trans shaking) (by decide),
        settled.still, settled.thread⟩
  | received payload packetMgr established taken =>
      have busy := settled.busy (by rw [established]; decide)
      exact ⟨settled.linked, settled.known, settled.single, settled.free, settled.parted,
        settled.awake, fun cause =>
          cause.elim (fun some => absurd busy.connects some.ne')
            fun shaking => absurd (established.symm.trans shaking) (by decide),
        settled.still, settled.thread⟩
  | handed payload packetMgr packet established taken decoded =>
      have busy := settled.busy (by rw [established]; decide)
      exact ⟨settled.linked, settled.known, settled.single, settled.free, settled.parted,
        settled.awake, fun cause =>
          cause.elim (fun some => absurd busy.connects some.ne')
            fun shaking => absurd (established.symm.trans shaking) (by decide),
        settled.still, settled.thread⟩
  | ended free none' noPing' =>
      exact ⟨settled.linked, settled.known, settled.single, settled.free, settled.parted,
        settled.awake, settled.fresh, fun _ => ⟨free, none', noPing'⟩, fun _ => rfl⟩

omit [DoubleText Double] in
theorem settled_initial : Settled (initial : Connection Double) :=
  ⟨nofun, nofun, Nat.zero_le _, fun _ => rfl, fun _ => rfl, nofun, fun _ => ⟨rfl, rfl⟩,
    fun _ => ⟨rfl, rfl, rfl⟩, fun _ => rfl⟩

/-! ### Timers and tasks -/

theorem moves_cancelReconn (connection : Connection Double) :
    Moves platform connection connection.cancelReconn := by
  cases timer : connection.reconnTimer with
  | none =>
      have same : connection.cancelReconn = { connection with reconnTimer := none } := by
        simp [cancelReconn, timer]
      rw [same]
      exact .single (.stopped connection)
  | some millis =>
      have same : connection.cancelReconn =
          { connection with reconnTimer := none }.post (.timeoutReconnect true) := by
        simp [cancelReconn, post, timer]
      rw [same]
      exact .head (.stopped connection) (.single (.posted _ _ rfl))

theorem moves_clearTimers (connection : Connection Double) :
    Moves platform connection connection.clearTimers := by
  cases timer : connection.pingTimer with
  | none =>
      have same : connection.clearTimers = { connection with pingTimer := none } := by
        simp [clearTimers, timer]
      rw [same]
      exact .single (.unarmed connection)
  | some millis =>
      have same : connection.clearTimers =
          { connection with pingTimer := none }.post (.timeoutPing true) := by
        simp [clearTimers, post, timer]
      rw [same]
      exact .head (.unarmed connection) (.single (.posted _ _ rfl))

omit [DoubleText Double] in
theorem outstanding_clearTimers : connection.clearTimers.outstanding = connection.outstanding := by
  have none' : (connection.pingTimer.toList.map fun _ => Task.timeoutPing true).countP
      Task.attempts = 0 := by
    apply List.countP_eq_zero.mpr
    intro task member
    obtain ⟨_, _, rfl⟩ := List.mem_map.mp member
    decide
  unfold outstanding clearTimers
  rw [List.countP_append, none', Nat.add_zero]

theorem moves_updatePingTimeoutTimer (established : connection.link = .established) :
    Moves platform connection connection.updatePingTimeoutTimer :=
  (moves_clearTimers connection).tail (.armed connection.clearTimers _ established)

theorem moves_closeImpl (connection : Connection Double) (code : Nat) :
    Moves platform connection (connection.closeImpl code) := by
  unfold closeImpl
  dsimp only
  split_ifs with goes
  · exact (moves_cancelReconn connection).tail (.left _ goes.1)
  · exact moves_cancelReconn connection

/-! ### What is sent -/

theorem moves_sendImpl (connection : Connection Double) (isBinary : Bool) (payload : List UInt8) :
    Moves platform connection (connection.sendImpl isBinary payload) := by
  unfold sendImpl write
  split_ifs with opened open'
  · exact .single (.noted connection _ ⟨open'.1, open'.2, opened⟩)
  · exact .refl
  · exact .refl

theorem moves_onEncode (onNetwork : Bool) (connection : Connection Double)
    (frame : Bool × List UInt8) : Moves platform connection (onEncode onNetwork connection frame) := by
  cases onNetwork with
  | true => exact moves_sendImpl connection frame.1 frame.2
  | false => exact .single (.posted connection _ rfl)

/-- A chain of calls moves as its calls do, also when a call may fail. -/
theorem moves_foldlM {Item : Type} {call : Connection Double → Item → Option (Connection Double)}
    {items : List Item}
    (each : ∀ connection, ∀ item ∈ items, ∀ next, call connection item = some next →
      Moves platform connection next)
    (taken : items.foldlM call connection = some next) : Moves platform connection next := by
  induction items generalizing connection with
  | nil =>
      cases taken
      exact .refl
  | cons item rest inductionHypothesis =>
      obtain ⟨middle, first, later⟩ := Option.bind_eq_some_iff.mp taken
      apply (each connection item List.mem_cons_self middle first).trans
      exact inductionHypothesis
        (fun other item member => each other item (List.mem_cons_of_mem _ member)) later

theorem moves_onEncodes (onNetwork : Bool) (connection : Connection Double)
    (frames : List (Bool × List UInt8)) :
    Moves platform connection (frames.foldl (onEncode onNetwork) connection) := by
  induction frames generalizing connection with
  | nil => exact .refl
  | cons frame rest inductionHypothesis =>
      exact (moves_onEncode onNetwork connection frame).trans (inductionHypothesis _)

theorem moves_send {onNetwork : Bool} {packet : Packet Double}
    (taken : send onNetwork connection packet = some next) : Moves platform connection next := by
  obtain ⟨frames, _, rfl⟩ := Option.map_eq_some_iff.mp taken
  exact .head (.noted connection (.encoded packet) trivial) (moves_onEncodes onNetwork _ frames)

theorem moves_sendAll {onNetwork : Bool} {packets : List (Packet Double)}
    (taken : connection.sendAll onNetwork packets = some next) : Moves platform connection next :=
  moves_foldlM (fun _ _ _ _ sent => moves_send sent) taken

/-! ### What the application asks for -/

theorem moves_close {onNetwork : Bool} {sends : List (Packet Double)}
    (taken : connection.close onNetwork sends = some next) : Moves platform connection next := by
  obtain ⟨sent, sending, rfl⟩ := Option.map_eq_some_iff.mp taken
  apply Relation.ReflTransGen.head (.asked connection)
  apply (moves_sendAll sending).trans
  cases onNetwork with
  | true => exact moves_closeImpl sent 1000
  | false => exact .single (.posted sent _ rfl)

theorem moves_syncClose {sends : List (Packet Double)}
    (taken : connection.syncClose sends = some next) : Moves platform connection next := by
  obtain ⟨closed, closing, rfl⟩ := Option.map_eq_some_iff.mp taken
  split_ifs with thread
  · exact (moves_close closing).tail (.waited closed _ thread)
  · exact moves_close closing

theorem moves_socket (connection : Connection Double) (nsp : List UInt8) :
    Moves platform connection (connection.socket nsp) := by
  unfold socket
  split_ifs
  · exact .refl
  · exact .head (.kept connection _) (.single (.noted _ _ trivial))

theorem moves_connect (settled : Settled connection) (uri : List UInt8)
    (query : List (List UInt8 × List UInt8)) (auth : Message Double) :
    Moves platform connection (connection.connect uri query auth) := by
  unfold connect
  dsimp only
  apply (moves_cancelReconn connection).trans
  split_ifs with thread
  · exact .single (.waited _ _ thread)
  · exact .refl
  · exact .single (.started _ uri query auth (settled.thread (Bool.not_eq_true _ ▸ thread)))

theorem moves_joined (ended : connection.running = false) :
    Moves platform connection connection.joined := by
  unfold joined
  cases connection.joining with
  | none => exact .refl
  | some request =>
      cases request with
      | connect uri query auth => exact .single (.started connection uri query auth ended)
      | syncClose => exact .single (.gaveUp connection ended)

/-! ### Attempts -/

theorem moves_connectImpl {uri queryString : List UInt8} (single : connection.outstanding = 0)
    (free : connection.link = .absent) (awake : connection.conState ≠ .closed)
    (running : connection.running = true)
    (fresh : connection.sid = [] ∧ connection.packetMgr.partialPacket = none) :
    Moves platform connection (connection.connectImpl platform uri queryString) := by
  unfold connectImpl
  split_ifs
  · exact .single (.attempted connection uri queryString single free awake running fresh.1 fresh.2)
  · exact .single (.noted connection .failed trivial)

/-- The task in front is taken out before it runs. -/
theorem moves_ran (settled : Settled connection) (running : connection.running = true) {task : Task}
    {tasks : List Task} (head : connection.tasks = task :: tasks) :
    Moves platform connection ({ connection with tasks }.runTask platform task) := by
  have took : Move platform connection { connection with tasks } :=
    .took connection task tasks head
  cases task with
  | connectImpl uri queryString =>
      obtain ⟨single, free⟩ := settled.single_head head rfl
      have some : 0 < connection.tasks.countP Task.connects := by
        rw [head, List.countP_cons_of_pos rfl]
        exact Nat.succ_pos _
      exact .head took
        (moves_connectImpl single free (settled.awake some) running (settled.fresh (.inl some)))
  | closeImpl code => exact .head took (moves_closeImpl _ code)
  | sendImpl isBinary payload => exact .head took (moves_sendImpl _ isBinary payload)
  | timeoutReconnect aborted =>
      unfold runTask timeoutReconnect
      dsimp only
      split_ifs with goes
      · obtain ⟨rfl, closed⟩ := goes
        obtain ⟨single, free⟩ := settled.single_head head rfl
        exact .head (.retried connection tasks head closed running)
          (moves_connectImpl single free nofun running ⟨rfl, rfl⟩)
      · exact .single took
  | timeoutPing aborted =>
      cases aborted with
      | true => exact .single took
      | false => exact .head took (moves_closeImpl _ 1008)

theorem moves_retry {otherwise : Note Double} (single : connection.outstanding = 0)
    (free : connection.link = .absent) (closed : connection.conState = .closed)
    (running : connection.running = true) (plain : otherwise.Plain connection) :
    Moves platform connection (connection.retry platform otherwise) := by
  unfold retry
  dsimp only
  split_ifs with goes
  · have noTimer : connection.reconnTimer = none :=
      Option.toList_eq_nil_iff.mp (List.length_eq_zero_iff.mp (Nat.add_eq_zero_iff.mp single).1)
    have same : { (connection.note (.reconnect connection.reconnMade
          (connection.nextDelay platform))).cancelReconn with
        reconnTimer := some (connection.nextDelay platform) } =
        { connection.note (.reconnect connection.reconnMade (connection.nextDelay platform)) with
          reconnTimer := some (connection.nextDelay platform) } := by
      simp [cancelReconn, note, noTimer]
    rw [same]
    exact .single (.scheduled connection single free closed running goes.1 goes.2)
  · exact .single (.noted connection otherwise plain)

/-! ### What becomes of a session -/

theorem moves_onClose (settled : Settled connection) (linked : connection.link ≠ .absent)
    (code : Nat) : Moves platform connection (connection.onClose platform code) := by
  have busy := settled.busy linked
  -- The notes and the timer are changed in another order than the code does.
  have lost : Moves platform connection (({ connection with
      link := .absent
      conState := .closed
      con := false }.note .unlinked).clearTimers.note (.invoked .onDisconnect)) :=
    .head (.lost connection linked) (moves_clearTimers _)
  unfold onClose
  dsimp only
  apply lost.trans
  split_ifs
  · exact .single (.noted _ _ trivial)
  · exact moves_retry (outstanding_clearTimers.trans busy.none') rfl rfl busy.running trivial

theorem moves_onFail (settled : Settled connection) (shaking : connection.link = .handshaking)
    {sends : List (Packet Double)} (taken : connection.onFail platform sends = some next) :
    Moves platform connection next := by
  have linked : connection.link ≠ .absent := by
    rw [shaking]
    decide
  have busy := settled.busy linked
  unfold onFail at taken
  dsimp only at taken
  split_ifs at taken with closing
  · exact .head (.missed connection shaking) (moves_close taken)
  · cases taken
    apply Relation.ReflTransGen.head (.lost connection linked)
    exact moves_retry busy.none' rfl rfl busy.running trivial

omit [DoubleText Double] in
theorem socket_conState (connection : Connection Double) (nsp : List UInt8) :
    (connection.socket nsp).conState = connection.conState := by
  unfold socket
  split_ifs <;> rfl

theorem moves_onOpen (shaking : connection.link = .handshaking) {sends : List (Packet Double)}
    (taken : connection.onOpen sends = some next) : Moves platform connection next := by
  unfold onOpen at taken
  dsimp only at taken
  split_ifs at taken with closing
  · exact .head (.linked connection shaking closing) (moves_close taken)
  · apply Relation.ReflTransGen.head (.opened connection shaking closing)
    apply (moves_socket _ []).trans
    exact .head (.noted _ .opened (socket_conState _ [])) (moves_sendAll taken)

/-! ### What is received -/

theorem moves_onHandshake (established : connection.link = .established)
    {message : Message Double} (taken : connection.onHandshake message = some next) :
    Moves platform connection next := by
  unfold onHandshake at taken
  split at taken
  · split at taken
    · cases taken
      exact moves_closeImpl connection 1008
    · obtain ⟨pingInterval, _, rest⟩ := Option.bind_eq_some_iff.mp taken
      obtain ⟨pingTimeout, _, rfl⟩ := Option.map_eq_some_iff.mp rest
      exact .head (.named connection _ pingInterval pingTimeout established)
        (moves_updatePingTimeoutTimer established)
    · cases taken
  · cases taken
    exact moves_closeImpl connection 1008

theorem moves_onPing (taken : connection.onPing = some next) : Moves platform connection next := by
  unfold onPing at taken
  split_ifs at taken with open'
  cases taken
  exact .head (.noted connection (.answered pong) ⟨open'.1, open'.2, rfl⟩)
    (moves_updatePingTimeoutTimer open'.2)

theorem moves_syncSid (established : connection.link = .established) {packet : Packet Double}
    (taken : connection.syncSid packet = some next) : Moves platform connection next := by
  unfold syncSid at taken
  split_ifs at taken with connects
  · split at taken
    · split at taken
      · cases taken
        exact .refl
      · cases taken
        exact .single (.named connection _ _ _ established)
      · cases taken
    · cases taken
      exact .refl
  · cases taken
    exact .refl

/-- A payload completes at most one packet. -/
theorem putPayload_decoded {manager after : PacketManager Double} {payload : List UInt8}
    (taken : manager.putPayload payload = some after) :
    after.decoded = manager.decoded ∨ ∃ packet, after.decoded = manager.decoded ++ [packet] := by
  unfold PacketManager.putPayload at taken
  split_ifs at taken with isText isBinary
  · obtain ⟨⟨packet, needsBuffers⟩, _, same⟩ := Option.map_eq_some_iff.mp taken
    cases needsBuffers with
    | true =>
        cases same
        exact .inl rfl
    | false =>
        cases same
        exact .inr ⟨packet, rfl⟩
  · cases partialPacket : manager.partialPacket with
    | none =>
        rw [partialPacket] at taken
        cases taken
        exact .inl rfl
    | some packet =>
        rw [partialPacket] at taken
        obtain ⟨⟨result, needsBuffers⟩, _, same⟩ := Option.map_eq_some_iff.mp taken
        cases needsBuffers with
        | true =>
            cases same
            exact .inl rfl
        | false =>
            cases same
            exact .inr ⟨result, rfl⟩
  · obtain ⟨⟨packet, _⟩, _, same⟩ := Option.map_eq_some_iff.mp taken
    cases same
    exact .inr ⟨packet, rfl⟩

/-- A packet that is not for a socket concerns the client alone. -/
theorem moves_onDecode (established : connection.link = .established) {packet : Packet Double}
    {sends : List (Packet Double)} (foreign : packet.frame ≠ frameMessage)
    (taken : connection.onDecode packet sends = some next) : Moves platform connection next := by
  unfold onDecode at taken
  rw [if_neg foreign] at taken
  split_ifs at taken
  · exact moves_onHandshake established taken
  · cases taken
    exact moves_closeImpl connection 1006
  · exact moves_onPing taken
  · cases taken
    exact .refl

omit [DoubleText Double] in
theorem syncSid_keeps {packet : Packet Double} (taken : connection.syncSid packet = some next) :
    next = { connection with sid := next.sid } := by
  unfold syncSid at taken
  split_ifs at taken with connects
  · split at taken
    · split at taken
      · cases taken
        rfl
      · cases taken
        rfl
      · cases taken
    · cases taken
      rfl
  · cases taken
    rfl

theorem moves_onMessage (established : connection.link = .established) {payload : List UInt8}
    {sends : List (Packet Double)} (taken : connection.onMessage payload sends = some next) :
    Moves platform connection next := by
  obtain ⟨manager, put, handled⟩ := Option.bind_eq_some_iff.mp taken
  rcases putPayload_decoded put with same | ⟨packet, decoded⟩
  · rw [same, List.drop_length] at handled
    cases handled
    exact .single (.received connection payload manager established put)
  · rw [decoded, List.drop_left, List.foldlM_cons] at handled
    obtain ⟨last, handled, same⟩ := Option.bind_eq_some_iff.mp handled
    cases same
    by_cases forSocket : packet.frame = frameMessage
    · unfold onDecode at handled
      rw [if_pos forSocket] at handled
      obtain ⟨_, handled⟩ := Option.ite_none_left_eq_some.mp handled
      obtain ⟨synced, syncing, handled⟩ := Option.bind_eq_some_iff.mp handled
      have same := syncSid_keeps syncing
      split_ifs at handled
      · apply Relation.ReflTransGen.trans _ (moves_sendAll handled)
        rw [same]
        exact .head (.handed connection payload manager packet established put decoded)
          (.single (.named _ synced.sid _ _ established))
      · cases handled
        exact .head (.received connection payload manager established put)
          (moves_syncSid established syncing)
    · exact .head (.received connection payload manager established put)
        (moves_onDecode established forSocket handled)

/-! ### Whole steps -/

theorem moves_step (settled : Settled connection) {act : Act Double}
    (taken : (machine platform).step connection act = some next) :
    Moves platform connection next := by
  obtain ⟨possible, taken⟩ := Option.ite_none_right_eq_some.mp taken
  cases act with
  | connect uri query auth =>
      cases taken
      exact moves_connect settled uri query auth
  | socket nsp =>
      cases taken
      exact moves_socket connection nsp
  | removeSocket nsp =>
      cases taken
      exact .single (.kept connection _)
  | send onNetwork packets => exact moves_sendAll taken
  | close sends => exact moves_close taken
  | syncClose sends => exact moves_syncClose taken
  | setReconnectAttempts attempts =>
      cases taken
      exact .single (.tuned connection _ _ attempts id)
  | setReconnectDelay millis =>
      cases taken
      have ordered : millis ≤
          if connection.reconnDelayMax < millis then millis else connection.reconnDelayMax := by
        split_ifs with below
        · exact UInt32.le_refl millis
        · exact UInt32.not_lt.mp below
      exact .single (.tuned connection millis _ _ fun _ => ordered)
  | setReconnectDelayMax millis =>
      cases taken
      have ordered : (if millis < connection.reconnDelay then millis
          else connection.reconnDelay) ≤ millis := by
        split_ifs with above
        · exact UInt32.le_refl millis
        · exact UInt32.not_lt.mp above
      exact .single (.tuned connection _ millis _ fun _ => ordered)
  | joined =>
      cases taken
      exact moves_joined possible.2
  | opened sends => exact moves_onOpen possible.2 taken
  | failed sends => exact moves_onFail settled possible.2 taken
  | closed code =>
      cases taken
      apply moves_onClose settled
      rcases possible.2 with link | link <;> rw [link] <;> decide
  | message payload sends => exact moves_onMessage possible.2 taken
  | ran =>
      unfold take at taken
      cases tasks : connection.tasks with
      | nil => exact absurd tasks possible.2
      | cons task rest =>
          rw [tasks] at taken
          cases taken
          exact moves_ran settled possible.1 tasks
  | reconnExpired =>
      cases taken
      exact .single (.expired connection possible.2)
  | pingExpired =>
      cases taken
      exact .head (.unarmed connection) (.single (.posted _ _ rfl))
  | ended =>
      cases taken
      obtain ⟨_, noTasks, free, noReconn, noPing⟩ := possible
      have none' : connection.outstanding = 0 := by
        unfold outstanding
        rw [noTasks, noReconn]
        rfl
      exact .single (.ended connection free none' noPing)

theorem Settled.moves (settled : Settled connection) (chain : Moves platform connection next) :
    Settled next := by
  induction chain with
  | refl => exact settled
  | tail _ moved inductionHypothesis => exact inductionHypothesis.move moved

theorem settled_of_reachable (reached : (machine platform).Reachable connection) :
    Settled connection := by
  apply reached.invariant
  · intro _ start
    cases start
    exact settled_initial
  · intro _ _ _ settled _ taken
    exact settled.moves (moves_step settled taken)

/-- What each move of a settled client preserves is preserved by its methods. -/
theorem Moves.preserve {property : Connection Double → Prop}
    (each : ∀ connection next, Settled connection → property connection →
      Move platform connection next → property next)
    (settled : Settled connection) (chain : Moves platform connection next)
    (holds : property connection) : property next := by
  suffices both : Settled next ∧ property next from both.2
  induction chain with
  | refl => exact ⟨settled, holds⟩
  | tail _ moved inductionHypothesis =>
      exact ⟨inductionHypothesis.1.move moved,
        each _ _ inductionHypothesis.1 inductionHypothesis.2 moved⟩

/-- What holds of a new client and survives each move holds of every reachable one. -/
theorem moves_induction {property : Connection Double → Prop} (start : property initial)
    (each : ∀ connection next, Settled connection → property connection →
      Move platform connection next → property next)
    (reached : (machine platform).Reachable connection) : property connection := by
  suffices both : Settled connection ∧ property connection from both.2
  apply reached.invariant
  · intro _ isInitial
    cases isInitial
    exact ⟨settled_initial, start⟩
  · intro _ _ _ both _ taken
    have chain := moves_step both.1 taken
    exact ⟨both.1.moves chain, chain.preserve each both.1 both.2⟩

/-! ### Sample runs -/

/-- A platform that takes every address and whose products need no rounding. -/
def plainPlatform : Platform := ⟨fun _ _ => true, id, monotone_id, fun _ _ => rfl⟩

/-- An attempt fails, and the client tries again. -/
def retrying : List (Act Empty) := [.connect [] [] .nullptr, .ran, .failed [], .reconnExpired, .ran]

/-- A session opens and is closed, and a ping arrives before the close is sent. -/
def parting : List (Act Empty) :=
  [.connect [] [] .nullptr, .ran, .opened [], .close [], .message (ascii "2") []]

/-- A close comes before the session is open. -/
def hurrying : List (Act Empty) := [.connect [] [] .nullptr, .ran, .close []]

def retried : Connection Empty := ((machine plainPlatform).exec initial retrying).get rfl

def parted : Connection Empty := ((machine plainPlatform).exec initial parting).get rfl

def hurried : Connection Empty := ((machine plainPlatform).exec initial hurrying).get rfl

theorem retried_reachable : (machine plainPlatform).Reachable retried :=
  Machine.Reachable.exec (.initial rfl) (Option.some_get _).symm

theorem parted_reachable : (machine plainPlatform).Reachable parted :=
  Machine.Reachable.exec (.initial rfl) (Option.some_get _).symm

theorem hurried_reachable : (machine plainPlatform).Reachable hurried :=
  Machine.Reachable.exec (.initial rfl) (Option.some_get _).symm

end Connection
end VoiceCall.Transport
