import VoiceCall.Foundation.Bracket
import VoiceCall.Transport.ConnectionMoves

namespace VoiceCall.Transport.Connection
open Foundation

variable {Double : Type}

/-! ### One session at a time -/

def Note.Begins : Note Double → Prop
  | .attempted _ _ _ => True
  | _ => False

/-- An attempt begins a session, which is over once it is lost. -/
def sessions : Bracket (Note Double) where
  opens := Note.Begins
  closes entry := entry = .unlinked
  intrudes := Note.Begins

/-- A client has a session as long as its notes say so, and names none when it attempts one. -/
structure Alone (connection : Connection Double) : Prop where
  tracks : sessions.Tracks connection.log (connection.link ≠ .absent)
  noSid : ∀ uri queryString sid, .attempted uri queryString sid ∈ connection.log → sid = []

variable {connection next : Connection Double}

theorem Alone.quiet (alone : Alone connection) {added : List (Note Double)}
    (log : next.log = connection.log ++ added)
    (none' : ∀ entry ∈ added, ¬entry.Begins ∧ entry ≠ .unlinked)
    (link : next.link = .absent ↔ connection.link = .absent) : Alone next := by
  constructor
  · rw [log]
    apply alone.tracks.quiet
    · exact fun entry member => ⟨(none' entry member).1, (none' entry member).2,
        (none' entry member).1⟩
    · rw [ne_eq, ne_eq, link]
  · intro uri queryString sid member
    rw [log] at member
    rcases List.mem_append.mp member with before | last
    · exact alone.noSid uri queryString sid before
    · exact absurd trivial (none' _ last).1

/-- A client that notes one more thing of its own stays alone. -/
theorem Alone.note (alone : Alone connection) {entry : Note Double}
    (log : next.log = connection.log ++ [entry]) (noBegin : ¬entry.Begins)
    (noEnd : entry ≠ .unlinked) (link : next.link = .absent ↔ connection.link = .absent) :
    Alone next :=
  alone.quiet log (List.forall_mem_singleton.mpr ⟨noBegin, noEnd⟩) link

theorem Alone.same (alone : Alone connection) (log : next.log = connection.log)
    (link : next.link = .absent ↔ connection.link = .absent) : Alone next :=
  alone.quiet (log.trans (List.append_nil _).symm) nofun link

theorem Alone.unlink (alone : Alone connection) (log : next.log = connection.log ++ [.unlinked])
    (link : next.link = .absent) : Alone next := by
  constructor
  · rw [log]
    exact alone.tracks.closed rfl id id (not_not.mpr link)
  · intro uri queryString sid member
    rw [log] at member
    rcases List.mem_append.mp member with before | last
    · exact alone.noSid uri queryString sid before
    · cases List.mem_singleton.mp last

theorem Note.Plain.noSession {entry : Note Double} (plain : entry.Plain connection) :
    ¬entry.Begins ∧ entry ≠ .unlinked := by
  cases entry with
  | created | encoded | failed | closed | opened | wrote | answered => exact ⟨id, nofun⟩
  | _ => exact plain.elim

section Runs
variable [DoubleText Double] {platform : Platform}

theorem Alone.move (settled : Settled connection) (alone : Alone connection)
    (moved : Move platform connection next) : Alone next := by
  cases moved with
  | posted | took | stopped | expired | unarmed | armed | waited | gaveUp | kept | named | ended =>
      exact alone.same rfl Iff.rfl
  | noted entry plain => exact alone.note rfl plain.noSession.1 plain.noSession.2 Iff.rfl
  | asked | started | retried | scheduled | received | tuned =>
      exact alone.note rfl id nofun Iff.rfl
  | left known =>
      have linked : connection.link ≠ .absent := by
        rcases settled.linked known with link | link <;> rw [link] <;> decide
      exact alone.same rfl (iff_of_false nofun linked)
  | linked shaking =>
      exact alone.same rfl (iff_of_false nofun fun free => absurd (shaking.symm.trans free) nofun)
  | opened shaking =>
      exact alone.note rfl id nofun
        (iff_of_false nofun fun free => absurd (shaking.symm.trans free) nofun)
  | handed payload packetMgr packet =>
      have first : Alone ({ connection with packetMgr }.note (.received payload)) :=
        alone.note rfl id nofun Iff.rfl
      exact first.note rfl id nofun Iff.rfl
  | attempted uri queryString single free awake running noSid =>
      constructor
      · exact alone.tracks.opened trivial (not_not.mpr free) nofun
      · intro otherUri otherQuery sid member
        rcases List.mem_append.mp member with before | last
        · exact alone.noSid otherUri otherQuery sid before
        · cases List.mem_singleton.mp last
          exact noSid
  | lost =>
      have ended : Alone ({ connection with
          link := .absent
          conState := .closed
          con := false }.note .unlinked) := alone.unlink rfl rfl
      exact ended.note rfl id nofun Iff.rfl
  | missed => exact alone.unlink rfl rfl

/-- A client never attempts a session while an earlier one goes on, and each attempt is one for a
new session. -/
theorem attempted_alone (reached : (machine platform).Reachable connection)
    {before after : List (Note Double)} {uri queryString sid : List UInt8}
    (split : connection.log = before ++ .attempted uri queryString sid :: after) :
    ¬sessions.Pending before ∧ sid = [] := by
  have alone : Alone connection := by
    apply moves_induction _ _ reached
    · exact ⟨.nil (not_not.mpr rfl), nofun⟩
    · exact fun _ _ settled alone moved => alone.move settled moved
  constructor
  · exact alone.tracks.respected before _ after split trivial
  · exact alone.noSid uri queryString sid (by rw [split]; simp)

theorem attempted_alone_retried :
    ¬sessions.Pending retried.log.dropLast ∧ ([] : List UInt8) = [] :=
  attempted_alone retried_reachable
    (show retried.log = retried.log.dropLast ++ .attempted [] [] [] :: [] from rfl)

end Runs

/-! ### What the sockets are told -/

def Note.Writes : Note Double → Prop
  | .wrote _ _ | .answered _ => True
  | _ => False

/-- The sockets are told that a session is open, and then that it is lost. -/
def openings : Bracket (Note Double) where
  opens entry := entry = .invoked .onOpen
  closes entry := entry = .invoked .onDisconnect
  intrudes entry := entry = .invoked .onOpen

/-- The client knows a session as long as it has told its sockets of it, and writes only then. -/
structure Told (connection : Connection Double) : Prop where
  tracks : openings.Tracks connection.log (connection.con = true)
  written : openings.Justified Note.Writes connection.log

theorem Told.note (told : Told connection) {entry : Note Double}
    (log : next.log = connection.log ++ [entry]) (con : next.con = connection.con)
    (noCall : ∀ call, entry = .invoked call → call = .close)
    (knows : entry.Writes → connection.con = true) : Told next := by
  have quiet : ∀ item ∈ [entry], ¬openings.opens item ∧ ¬openings.closes item ∧
      ¬openings.intrudes item :=
    List.forall_mem_singleton.mpr ⟨fun same => absurd (noCall _ same) nofun,
      fun same => absurd (noCall _ same) nofun, fun same => absurd (noCall _ same) nofun⟩
  constructor
  · rw [log, con]
    exact told.tracks.quiet quiet Iff.rfl
  · rw [log]
    exact told.written.append_singleton fun writes => told.tracks.pending.mpr (knows writes)

theorem Told.same (told : Told connection) (log : next.log = connection.log)
    (con : next.con = connection.con) : Told next := by
  constructor
  · rw [log, con]
    exact told.tracks
  · rw [log]
    exact told.written

theorem Note.Plain.noCall {entry : Note Double} (plain : entry.Plain connection)
    (call : SocketCall) : entry ≠ .invoked call := by
  rintro rfl
  exact plain

theorem Note.Plain.knows {entry : Note Double} (plain : entry.Plain connection)
    (writes : entry.Writes) : connection.con = true := by
  cases entry with
  | wrote | answered => exact plain.1
  | _ => exact writes.elim

section Runs
variable [DoubleText Double] {platform : Platform}

theorem Told.move (settled : Settled connection) (told : Told connection)
    (moved : Move platform connection next) : Told next := by
  cases moved with
  | posted | took | stopped | expired | unarmed | armed | waited | gaveUp | kept | named | ended
  | left | linked => exact told.same rfl rfl
  | noted entry plain =>
      exact told.note rfl rfl (fun call same => absurd same (plain.noCall call)) plain.knows
  | asked =>
      refine told.note rfl rfl (fun call same => ?_) False.elim
      cases same
      rfl
  | started | attempted | retried | scheduled | received | missed | tuned =>
      exact told.note rfl rfl nofun False.elim
  | handed payload packetMgr packet =>
      have first : Told ({ connection with packetMgr }.note (.received payload)) :=
        told.note rfl rfl nofun False.elim
      exact first.note rfl rfl nofun False.elim
  | lost =>
      have ended : Told (connection.note .unlinked) := told.note rfl rfl nofun False.elim
      constructor
      · exact ended.tracks.closed rfl nofun nofun nofun
      · exact ended.written.append_singleton False.elim
  | opened shaking =>
      have unknown : ¬connection.con = true := by
        intro known
        rcases settled.linked known with link | link <;> exact absurd (shaking.symm.trans link) nofun
      constructor
      · exact told.tracks.opened rfl unknown rfl
      · exact told.written.append_singleton False.elim

/-- The sockets are told of no two openings without a loss between them, though they may hear of a
loss again and again. Nothing is written but behind an opening that no loss has followed, and such
an opening is there exactly while the client knows its session. -/
theorem openings_told_once (reached : (machine platform).Reachable connection) :
    openings.Respected connection.log ∧ openings.Justified Note.Writes connection.log ∧
      (openings.Pending connection.log ↔ connection.con = true) := by
  have told : Told connection := by
    apply moves_induction _ _ reached
    · exact ⟨.nil nofun, Bracket.justified_nil⟩
    · exact fun _ _ settled told moved => told.move settled moved
  exact ⟨told.tracks.respected, told.written, told.tracks.pending⟩

theorem openings_told_once_parted :
    openings.Respected parted.log ∧ openings.Justified Note.Writes parted.log ∧
      (openings.Pending parted.log ↔ parted.con = true) :=
  openings_told_once parted_reachable

end Runs

/-! ### After a close -/

/-- What a client that was closed may still do: of what it could write, only the pong is left. -/
def Note.Parting : Note Double → Prop
  | .answered payload => payload = pong
  | .wrote _ _ | .reconnect _ _ | .reconnecting | .opened | .invoked .onOpen => False
  | _ => True

/-- A close lasts until the application connects again. -/
def partings : Bracket (Note Double) where
  opens entry := entry = .invoked .close
  closes entry := entry = .started
  intrudes entry := ¬entry.Parting

/-- A closed client is closing, or has nothing more in mind. -/
structure Ending (connection : Connection Double) : Prop where
  aborts : connection.abortRetries = true
  finished : connection.conState = .closing ∨
    (connection.conState = .closed ∧ connection.outstanding = 0)

/-- The client ends as long as it notes a close without a later start. -/
structure Parts (connection : Connection Double) : Prop where
  respected : partings.Respected connection.log
  ending : partings.Pending connection.log → Ending connection

/-- A client that stays as far as its end goes still parts. -/
theorem Parts.same (parts : Parts connection) (log : next.log = connection.log)
    (ending : Ending connection → Ending next) : Parts next := by
  constructor
  · rw [log]
    exact parts.respected
  · rw [log]
    exact fun pending => ending (parts.ending pending)

theorem Parts.note (parts : Parts connection) {entry : Note Double}
    (log : next.log = connection.log ++ [entry]) (noClose : entry ≠ .invoked .close)
    (parting : Ending connection → entry.Parting) (ending : Ending connection → Ending next) :
    Parts next := by
  constructor
  · rw [log]
    apply Bracket.respected_append_singleton.mpr
    exact ⟨parts.respected, fun intrudes pending => intrudes (parting (parts.ending pending))⟩
  · rw [log, Bracket.pending_append_singleton]
    rintro (isClose | ⟨_, pending⟩)
    · exact absurd isClose noClose
    · exact ending (parts.ending pending)

theorem Ending.notOpened (ending : Ending connection) : connection.conState ≠ .opened := by
  rcases ending.finished with closing | ⟨closed, _⟩
  · rw [closing]
    decide
  · rw [closed]
    decide

theorem Note.Plain.parting {entry : Note Double} (plain : entry.Plain connection)
    (ending : Ending connection) : entry.Parting := by
  cases entry with
  | wrote => exact ending.notOpened plain.2.2
  | answered => exact plain.2.2
  | opened => exact ending.notOpened plain
  | created | encoded | failed | closed => trivial
  | _ => exact plain.elim

/-- A client whose tasks and timer do not grow goes on ending. -/
theorem Ending.fewer (ending : Ending connection)
    (aborts : next.abortRetries = connection.abortRetries)
    (conState : next.conState = connection.conState)
    (fewer : connection.conState = .closed → next.outstanding ≤ connection.outstanding) :
    Ending next := by
  constructor
  · rw [aborts]
    exact ending.aborts
  · rw [conState]
    rcases ending.finished with closing | ⟨closed, none'⟩
    · exact .inl closing
    · exact .inr ⟨closed, Nat.le_zero.mp ((fewer closed).trans none'.le)⟩

section Runs
variable [DoubleText Double] {platform : Platform}

theorem Parts.move (settled : Settled connection) (parts : Parts connection)
    (moved : Move platform connection next) : Parts next := by
  cases moved with
  | unarmed | armed | waited | gaveUp | kept | named | ended | left | linked =>
      exact parts.same rfl fun ending => ending.fewer rfl rfl fun _ => le_rfl
  | posted task quiet =>
      exact parts.same rfl fun ending =>
        ending.fewer rfl rfl fun _ => (outstanding_posted quiet).le
  | took task tasks head =>
      exact parts.same rfl fun ending => ending.fewer rfl rfl fun _ => outstanding_took head
  | stopped =>
      exact parts.same rfl fun ending =>
        ending.fewer rfl rfl fun _ => outstanding_stopped connection
  | expired waits =>
      exact parts.same rfl fun ending =>
        ending.fewer rfl rfl fun _ => (outstanding_expired waits).le
  | noted entry plain =>
      exact parts.note rfl (plain.noCall .close) plain.parting
        fun ending => ending.fewer rfl rfl fun _ => le_rfl
  | received | attempted | missed | tuned =>
      exact parts.note rfl nofun (fun _ => trivial)
        fun ending => ending.fewer rfl rfl fun _ => le_rfl
  | handed payload packetMgr packet =>
      have first : Parts ({ connection with packetMgr }.note (.received payload)) :=
        parts.note rfl nofun (fun _ => trivial)
          fun ending => ending.fewer rfl rfl fun _ => le_rfl
      exact first.note rfl nofun (fun _ => trivial)
        fun ending => ending.fewer rfl rfl fun _ => le_rfl
  | asked =>
      constructor
      · apply Bracket.respected_append_singleton.mpr
        exact ⟨parts.respected, fun intrudes => absurd trivial intrudes⟩
      · exact fun _ => ⟨rfl, .inl rfl⟩
  | started =>
      constructor
      · apply Bracket.respected_append_singleton.mpr
        exact ⟨parts.respected, fun intrudes => absurd trivial intrudes⟩
      · intro pending
        rcases Bracket.pending_append_singleton.mp pending with isClose | ⟨keeps, _⟩
        · cases isClose
        · exact absurd rfl keeps
  | retried tasks head closed =>
      -- A closed client that is ending has no attempt left, so this one did not end.
      have goesOn : ¬Ending connection := by
        intro ending
        rcases ending.finished with closing | ⟨_, none'⟩
        · exact absurd (closing.symm.trans closed) (by decide)
        · have some : 0 < connection.tasks.countP Task.attempts := by
            rw [head, List.countP_cons_of_pos rfl]
            exact Nat.succ_pos _
          exact absurd (Nat.add_eq_zero_iff.mp none').2 some.ne'
      exact parts.note rfl nofun (fun ending => absurd ending goesOn)
        fun ending => absurd ending goesOn
  | scheduled single free closed running allowed goesOn =>
      have noEnd : ¬Ending connection := fun ending =>
        absurd (goesOn.symm.trans ending.aborts) Bool.false_ne_true
      exact parts.note rfl nofun (fun ending => absurd ending noEnd)
        fun ending => absurd ending noEnd
  | opened shaking notClosing =>
      have noEnd : ¬Ending connection := by
        intro ending
        rcases ending.finished with closing | ⟨closed, _⟩
        · exact notClosing closing
        · exact absurd (shaking.symm.trans (settled.parted closed)) (by decide)
      exact parts.note rfl nofun (fun ending => absurd ending noEnd)
        fun ending => absurd ending noEnd
  | lost linked =>
      have first : Parts (connection.note .unlinked) :=
        parts.note rfl nofun (fun _ => trivial)
          fun ending => ending.fewer rfl rfl fun _ => le_rfl
      refine first.note rfl ?_ ?_ ?_
      · nofun
      · exact fun _ => trivial
      · exact fun ending => ⟨ending.aborts, .inr ⟨rfl, (settled.busy linked).none'⟩⟩

end Runs

/-! ### A close during the handshake -/

/-- A client that closes does not know the session that it attempted. -/
structure Leaking (connection : Connection Double) : Prop where
  closing : connection.conState = .closing
  unknown : connection.con = false
  goesOn : connection.link = .handshaking ∨ connection.link = .established

/-- Since a moment of its run, a client has lost its session or leaks it. -/
def LeaksSince (log : List (Note Double)) (connection : Connection Double) : Prop :=
  ∃ added, connection.log = log ++ added ∧ (.unlinked ∈ added ∨ Leaking connection)

theorem Leaking.linked (leaking : Leaking connection) : connection.link ≠ .absent := by
  rcases leaking.goesOn with link | link <;> rw [link] <;> decide

/-- What a client does without losing its session only has to go on leaking it. -/
theorem LeaksSince.go {log added : List (Note Double)} (leaks : LeaksSince log connection)
    (grown : next.log = connection.log ++ added) (goesOn : Leaking connection → Leaking next) :
    LeaksSince log next := by
  obtain ⟨before, split, cause⟩ := leaks
  refine ⟨before ++ added, ?_, ?_⟩
  · rw [grown, split, List.append_assoc]
  · exact cause.imp (List.mem_append_left added) goesOn

theorem LeaksSince.same {log : List (Note Double)} (leaks : LeaksSince log connection)
    (log' : next.log = connection.log) (goesOn : Leaking connection → Leaking next) :
    LeaksSince log next :=
  leaks.go (log'.trans (List.append_nil _).symm) goesOn

theorem LeaksSince.unlink {log added : List (Note Double)} (leaks : LeaksSince log connection)
    (grown : next.log = connection.log ++ added) (lost : .unlinked ∈ added) :
    LeaksSince log next := by
  obtain ⟨before, split, _⟩ := leaks
  refine ⟨before ++ added, ?_, .inl (List.mem_append_right before lost)⟩
  rw [grown, split, List.append_assoc]

section Runs
variable [DoubleText Double] {platform : Platform}

theorem LeaksSince.move {log : List (Note Double)} (settled : Settled connection)
    (leaks : LeaksSince log connection) (moved : Move platform connection next) :
    LeaksSince log next := by
  cases moved with
  | posted | took | stopped | expired | unarmed | armed | waited | gaveUp | kept | named =>
      exact leaks.same rfl fun leaking => ⟨leaking.closing, leaking.unknown, leaking.goesOn⟩
  | noted =>
      exact leaks.go rfl fun leaking => ⟨leaking.closing, leaking.unknown, leaking.goesOn⟩
  | received | tuned =>
      exact leaks.go rfl fun leaking => ⟨leaking.closing, leaking.unknown, leaking.goesOn⟩
  | handed =>
      exact leaks.go (List.append_assoc _ _ _)
        fun leaking => ⟨leaking.closing, leaking.unknown, leaking.goesOn⟩
  | asked => exact leaks.go rfl fun leaking => ⟨rfl, leaking.unknown, leaking.goesOn⟩
  | linked =>
      exact leaks.same rfl fun leaking => ⟨leaking.closing, leaking.unknown, .inr rfl⟩
  | ended free => exact leaks.same rfl fun leaking => absurd free leaking.linked
  | left known =>
      exact leaks.same rfl fun leaking => absurd (known.symm.trans leaking.unknown) nofun
  | started uri query auth ended =>
      exact leaks.go rfl fun leaking => absurd (settled.still ended).1 leaking.linked
  | attempted uri queryString single free =>
      exact leaks.go rfl fun leaking => absurd free leaking.linked
  | scheduled single free => exact leaks.go rfl fun leaking => absurd free leaking.linked
  | retried tasks head =>
      exact leaks.go rfl fun leaking => absurd (settled.single_head head rfl).2 leaking.linked
  | opened shaking notClosing =>
      exact leaks.go rfl fun leaking => absurd leaking.closing notClosing
  | lost => exact leaks.unlink (List.append_assoc _ _ _) (by simp)
  | missed => exact leaks.unlink rfl (by simp)

/-- The packet that the payload of a ping is parsed to. -/
def ping : Packet Double := { Packet.ofFrame framePing with nsp := ascii "/" }

theorem putPayload_ping (manager : PacketManager Double) :
    manager.putPayload (ascii "2") = some (manager.decode ping) := rfl

theorem onDecode_ping (connection : Connection Double) (sends : List (Packet Double)) :
    connection.onDecode ping sends = connection.onPing := rfl

/-- A ping in a session that the client does not know throws. -/
theorem onMessage_ping (unknown : connection.con = false) (sends : List (Packet Double)) :
    connection.onMessage (ascii "2") sends = none := by
  have thrown : ({ connection with packetMgr := connection.packetMgr.decode ping }.note
      (.received (ascii "2"))).onPing = none :=
    if_neg fun open' => Bool.false_ne_true (unknown.symm.trans open'.1)
  have decoded : (connection.packetMgr.decode ping).decoded =
      connection.packetMgr.decoded ++ [ping] := rfl
  unfold onMessage
  rw [putPayload_ping, Option.bind_some, decoded, List.drop_left, List.foldlM_cons, onDecode_ping,
    thrown]
  rfl

/-- A client that is closed during a handshake never gets rid of the session: until the session is
lost, no call that waits for the network thread returns, and a ping ends the process. -/
theorem close_leaks_session (reached : (machine platform).Reachable connection)
    (closing : connection.conState = .closing) (shaking : connection.link = .handshaking)
    {acts : List (Act Double)} {last : Connection Double}
    (ran : (machine platform).exec connection acts = some last) :
    ∃ added, last.log = connection.log ++ added ∧
      (.unlinked ∈ added ∨ (last.link ≠ .absent ∧ ¬last.Possible .joined ∧ ¬last.Possible .ended ∧
        ∀ sends, last.onMessage (ascii "2") sends = none)) := by
  have settled := settled_of_reachable reached
  have unknown : connection.con = false := by
    by_contra known
    rcases settled.linked (Bool.not_eq_false _ ▸ known) with link | link <;>
      exact absurd (shaking.symm.trans link) nofun
  have both : Settled last ∧ LeaksSince connection.log last := by
    refine Machine.exec_induction ?_ ?_ ran
    · exact ⟨settled, [], (List.append_nil _).symm, .inr ⟨closing, unknown, .inl shaking⟩⟩
    · intro _ state _ after ⟨settledBefore, leaks⟩ taken
      have chain := moves_step settledBefore taken
      exact ⟨settledBefore.moves chain,
        chain.preserve (fun _ _ settled leaks moved => leaks.move settled moved) settledBefore leaks⟩
  obtain ⟨settledLast, added, grown, cause⟩ := both
  refine ⟨added, grown, cause.imp_right fun leaking => ?_⟩
  have busy := settledLast.busy leaking.linked
  refine ⟨leaking.linked, ?_, ?_, onMessage_ping leaking.unknown⟩
  · exact fun joined => absurd (busy.running.symm.trans joined.2) nofun
  · exact fun ended => leaking.linked ended.2.2.1

/-- The session opens after all, and the client does not know it. -/
def leaked : Connection Empty := ((machine plainPlatform).exec hurried [.opened []]).get rfl

theorem close_leaks_session_hurried :
    ∃ added, leaked.log = hurried.log ++ added ∧
      (.unlinked ∈ added ∨ (leaked.link ≠ .absent ∧ ¬leaked.Possible .joined ∧
        ¬leaked.Possible .ended ∧ ∀ sends, leaked.onMessage (ascii "2") sends = none)) :=
  close_leaks_session hurried_reachable rfl rfl (Option.some_get _).symm

end Runs
end VoiceCall.Transport.Connection
