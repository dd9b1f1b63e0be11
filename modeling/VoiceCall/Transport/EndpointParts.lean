import VoiceCall.Transport.ConnectionFrame
import VoiceCall.Transport.SocketSteady

namespace VoiceCall.Transport
open Foundation

variable {Double Callback : Type}

namespace Socket

variable {socket next : Socket Double Callback}

/-- The other sockets can count the identifiers on to any other. -/
theorem exec_counted (socket : Socket Double Callback) (globalEventId : UInt32) :
    ∃ count, machine.exec socket (List.replicate count .counted) =
      some { socket with globalEventId } := by
  have counted (count : Nat) (socket : Socket Double Callback) :
      machine.exec socket (List.replicate count .counted) =
        some { socket with globalEventId := socket.globalEventId + UInt32.ofNat count } := by
    induction count generalizing socket with
    | zero => simp
    | succ count inductionHypothesis =>
        rw [List.replicate_succ, Machine.exec_cons]
        refine (inductionHypothesis _).trans ?_
        simp [UInt32.ofNat_add, UInt32.add_assoc, UInt32.add_comm]
  have reaches := UInt32.sub_add_cancel globalEventId socket.globalEventId
  rw [UInt32.add_comm] at reaches
  refine ⟨(globalEventId - socket.globalEventId).toNat, (counted _ socket).trans ?_⟩
  rw [UInt32.ofNat_toNat, reaches]

/-- A socket that its client holds runs a machine of its own under its namespace, and is connected
only within a session. -/
structure Held (inSession : Prop) (nsp : List UInt8) (socket : Socket Double Callback) : Prop where
  reachable : machine.Reachable socket
  nsp : socket.nsp = nsp
  hasClient : socket.hasClient = true
  connected : socket.connected = true → inSession

variable {inSession later : Prop} {nsp : List UInt8}

theorem held_create (globalEventId : UInt32) (clientOpened : Bool) (nsp : List UInt8)
    (auth : Message Double) :
    Held inSession nsp (create globalEventId clientOpened nsp auth : Socket Double Callback) := by
  have started : machine.Reachable
      (create globalEventId clientOpened nsp auth : Socket Double Callback) :=
    .initial ⟨globalEventId, clientOpened, nsp, auth, rfl⟩
  cases clientOpened with
  | true => exact ⟨started, rfl, rfl, nofun⟩
  | false => exact ⟨started, rfl, rfl, nofun⟩

namespace Held

theorem mono (held : Held inSession nsp socket) (implied : inSession → later) :
    Held later nsp socket :=
  ⟨held.reachable, held.nsp, held.hasClient, implied ∘ held.connected⟩

/-- An act that is not the answer to a connect connects no socket. -/
theorem step (held : Held inSession nsp socket) (act : Act Double Callback)
    (taken : socket.step act = some next) (kept : next.hasClient = true)
    (answer : act.NoAnswer ∨ inSession) : Held inSession nsp next := by
  refine ⟨.step held.reachable trivial taken, (step_keeps taken).1.trans held.nsp, kept, ?_⟩
  intro connected
  rcases answer with noAnswer | inSession
  · exact held.connected ((steady_step noAnswer taken).connected connected)
  · exact inSession

theorem counted (held : Held inSession nsp socket) (globalEventId : UInt32) :
    Held inSession nsp { socket with globalEventId } := by
  obtain ⟨_, ran⟩ := exec_counted socket globalEventId
  exact ⟨held.reachable.exec ran, held.nsp, held.hasClient, held.connected⟩

theorem onOpen (held : Held inSession nsp socket) : Held inSession nsp socket.onOpen := by
  refine held.step .opened rfl ?_ (.inl trivial)
  rw [Socket.onOpen, sendConnect, if_neg (by simp [held.hasClient])]
  exact held.hasClient

theorem close (held : Held inSession nsp socket) : Held inSession nsp socket.close :=
  held.step (.call .close) rfl ((perform_hasClient [.close]).trans held.hasClient)
    (.inl trivial)

/-- A loss of the session disconnects a socket. -/
theorem onDisconnect (held : Held inSession nsp socket) : Held False nsp socket.onDisconnect := by
  have lost : socket.onDisconnect.hasClient = true ∧ socket.onDisconnect.connected = false := by
    unfold Socket.onDisconnect
    split_ifs with connected
    · exact ⟨held.hasClient, rfl⟩
    · refine ⟨held.hasClient, ?_⟩
      simpa [held.hasClient] using connected
  have told := held.step .disconnected rfl lost.1 (.inl trivial)
  exact ⟨told.reachable, told.nsp, told.hasClient, by simp [lost.2]⟩

end Held
end Socket

namespace Endpoint

/-- Each namespace that has a socket has one with the property. -/
def Each (property : List UInt8 → Socket Double Callback → Prop)
    (sockets : Members (List UInt8) (Socket Double Callback)) : Prop :=
  ∀ nsp socket, Members.find nsp sockets = some socket → property nsp socket

variable {property later : List UInt8 → Socket Double Callback → Prop}
  {sockets : Members (List UInt8) (Socket Double Callback)}
  {endpoint next : Endpoint Double Callback} {nsp : List UInt8}

theorem Each.mono (each : Each property sockets)
    (implied : ∀ nsp socket, property nsp socket → later nsp socket) : Each later sockets :=
  fun nsp socket found => implied nsp socket (each nsp socket found)

theorem Each.invoke (each : Each property sockets)
    (call : Socket Double Callback → Socket Double Callback)
    (called : ∀ nsp socket, property nsp socket → later nsp (call socket)) :
    Each later (socketsInvoke sockets call).1 := by
  intro nsp socket found
  rw [socketsInvoke, Members.find_map] at found
  obtain ⟨before, wasFound, rfl⟩ := Option.map_eq_some_iff.mp found
  exact called nsp before (each nsp before wasFound)

theorem Each.insert (each : Each property sockets) {socket : Socket Double Callback}
    (holds : property nsp socket) : Each property (Members.insert nsp socket sockets) := by
  intro other value found
  rw [Members.find_insert] at found
  split_ifs at found with same
  · cases found
    rwa [← same]
  · exact each other value found

theorem Each.erase (each : Each property sockets) : Each property (Members.erase nsp sockets) := by
  intro other value found
  rw [Members.find_erase] at found
  split_ifs at found
  exact each other value found

/-- A namespace that gets a socket gets it from the client's constructor. -/
theorem Each.socket (each : Each property endpoint.sockets) (clientOpened : Bool)
    (created : property nsp
      (.create endpoint.globalEventId clientOpened nsp endpoint.connection.auth)) :
    Each property (endpoint.socket clientOpened nsp).1.sockets := by
  unfold Endpoint.socket
  split
  · exact each
  · exact each.insert created

/-- The socket of a namespace acts, and the others stay. -/
theorem Each.act (each : Each property endpoint.sockets) {act : Socket.Act Double Callback}
    {sends : List (Packet Double)}
    (acted : endpoint.act nsp act = some (next, sends))
    (steps : ∀ socket after, property nsp socket →
      ({ socket with globalEventId := endpoint.globalEventId } : Socket Double Callback).step act =
        some after → after.hasClient = true → property nsp after) :
    Each property next.sockets := by
  unfold Endpoint.act at acted
  split at acted
  · cases acted
    exact each
  · next socket found =>
      obtain ⟨after, taken, same⟩ := Option.map_eq_some_iff.mp acted
      cases same
      dsimp only
      split_ifs with kept
      · exact each.insert (steps socket after (each nsp socket found) taken kept)
      · exact each.erase

theorem act_connection {act : Socket.Act Double Callback} {sends : List (Packet Double)}
    (acted : endpoint.act nsp act = some (next, sends)) :
    next.connection = endpoint.connection := by
  unfold Endpoint.act at acted
  split at acted
  · cases acted
    rfl
  · obtain ⟨after, _, same⟩ := Option.map_eq_some_iff.mp acted
    cases same
    rfl

theorem socket_connection (endpoint : Endpoint Double Callback) (clientOpened : Bool)
    (nsp : List UInt8) :
    (endpoint.socket clientOpened nsp).1.connection = endpoint.connection := by
  unfold Endpoint.socket
  split <;> rfl

variable [DoubleText Double] {platform : Platform}

/-- The connection runs its own machine, and so does every socket, within the same session. -/
structure Composed (platform : Platform) (endpoint : Endpoint Double Callback) : Prop where
  connection : (Connection.machine platform).Reachable endpoint.connection
  sockets : Each (Socket.Held endpoint.connection.InSession) endpoint.sockets

/-- What the client does alone is a step of its connection. -/
theorem client_cases {act : Connection.Act Double}
    (taken : endpoint.client platform act = some next) :
    (Connection.machine platform).step endpoint.connection act = some next.connection ∧
      next.sockets = endpoint.sockets := by
  obtain ⟨connection, moved, rfl⟩ := Option.map_eq_some_iff.mp taken
  exact ⟨moved, rfl⟩

theorem composed_client (connection : (Connection.machine platform).Reachable endpoint.connection)
    (sockets : Each (Socket.Held endpoint.connection.InSession) endpoint.sockets)
    {act : Connection.Act Double} (goesOn : ∀ code, act ≠ .closed code)
    (taken : endpoint.client platform act = some next) : next.Composed platform := by
  obtain ⟨moved, same⟩ := client_cases taken
  refine ⟨.step connection trivial moved, ?_⟩
  rw [same]
  have settled := Connection.settled_of_reachable connection
  exact sockets.mono fun nsp socket held =>
    held.mono (Connection.inSession_step settled moved goesOn)

/-- Sockets that are not connected are within any session. -/
theorem composed_lost (connection : (Connection.machine platform).Reachable endpoint.connection)
    (sockets : Each (Socket.Held False) endpoint.sockets) {act : Connection.Act Double}
    (taken : endpoint.client platform act = some next) : next.Composed platform := by
  obtain ⟨moved, same⟩ := client_cases taken
  refine ⟨.step connection trivial moved, ?_⟩
  rw [same]
  exact sockets.mono fun nsp socket held => held.mono False.elim

namespace Composed

theorem forget (composed : endpoint.Composed platform) (nsp : List UInt8) :
    (endpoint.forget nsp).Composed platform := by
  unfold Endpoint.forget
  split_ifs
  · exact composed
  · have forgets : endpoint.client platform (.removeSocket nsp) =
        some { endpoint with connection := endpoint.connection.removeSocket nsp } := by
      simp [client, Connection.machine, Connection.Possible, Connection.take]
    exact composed_client composed.connection composed.sockets (by simp) forgets

/-- A socket acts and the client sends, unless the act answers a connect outside a session. -/
theorem act (composed : endpoint.Composed platform) {act : Socket.Act Double Callback}
    {sends : List (Packet Double)} (acted : endpoint.act nsp act = some (next, sends))
    (answer : act.NoAnswer ∨ endpoint.connection.InSession) : next.Composed platform := by
  have same := act_connection acted
  refine ⟨same ▸ composed.connection, ?_⟩
  rw [same]
  exact composed.sockets.act acted fun socket after held taken kept =>
    (held.counted endpoint.globalEventId).step act taken kept answer

/-- A client takes an act once each of its sockets was called. -/
theorem invoke (composed : endpoint.Composed platform)
    {call : Socket Double Callback → Socket Double Callback}
    (called : ∀ nsp socket, Socket.Held endpoint.connection.InSession nsp socket →
      Socket.Held endpoint.connection.InSession nsp (call socket))
    {act : Connection.Act Double} (goesOn : ∀ code, act ≠ .closed code)
    (taken : ({ endpoint with sockets := (socketsInvoke endpoint.sockets call).1 } :
      Endpoint Double Callback).client platform act = some next) : next.Composed platform := by
  refine composed_client ?_ ?_ goesOn taken
  · exact composed.connection
  · exact composed.sockets.invoke call called

/-- A client whose session is lost has disconnected its sockets. -/
theorem lose (composed : endpoint.Composed platform) {act : Connection.Act Double}
    (taken : ({ endpoint with
      sockets := (socketsInvoke endpoint.sockets Socket.onDisconnect).1 } :
      Endpoint Double Callback).client platform act = some next) : next.Composed platform := by
  refine composed_lost ?_ ?_ taken
  · exact composed.connection
  · exact composed.sockets.invoke Socket.onDisconnect fun _ _ held => held.onDisconnect

/-- A client has made the socket that an act is about before it takes the act. -/
theorem made (composed : endpoint.Composed platform) (clientOpened : Bool) (nsp : List UInt8)
    {act : Connection.Act Double} (goesOn : ∀ code, act ≠ .closed code)
    (taken : (endpoint.socket clientOpened nsp).1.client platform act = some next) :
    next.Composed platform := by
  have same := socket_connection endpoint clientOpened nsp
  refine composed_client (same ▸ composed.connection) ?_ goesOn taken
  rw [same]
  exact composed.sockets.socket clientOpened (Socket.held_create _ _ _ _)

end Composed

/-- Every step keeps the parts of an endpoint in runs of their own machines. -/
theorem Composed.step (composed : endpoint.Composed platform) {act : Act Double Callback}
    (taken : step platform endpoint act = some next) : next.Composed platform := by
  unfold Endpoint.step at taken
  cases act with
  | alone act =>
      obtain ⟨alone, taken⟩ := Option.ite_none_right_eq_some.mp taken
      refine composed_client composed.connection composed.sockets ?_ taken
      rintro code rfl
      cases alone
  | ended =>
      obtain ⟨_, taken⟩ := Option.ite_none_right_eq_some.mp taken
      exact composed_client composed.connection composed.sockets (by simp) taken
  | socket nsp =>
      obtain ⟨made, making, sent⟩ := Option.bind_eq_some_iff.mp taken
      have composed := composed.made _ _ (by simp) making
      exact composed_client composed.connection composed.sockets (by simp) sent
  | call onNetwork nsp call =>
      obtain ⟨⟨acted, sends⟩, acting, sent⟩ := Option.bind_eq_some_iff.mp taken
      have composed := composed.act acting (.inl trivial)
      exact composed_client composed.connection composed.sockets (by simp) sent
  | close => exact composed.invoke (fun _ _ held => held.close) (by simp) taken
  | syncClose => exact composed.invoke (fun _ _ held => held.close) (by simp) taken
  | opened =>
      dsimp only at taken
      split_ifs at taken
      · exact composed.invoke (fun _ _ held => held.close) (by simp) taken
      · have told : Composed platform ({ endpoint with
            sockets := (socketsInvoke endpoint.sockets Socket.onOpen).1 } :
            Endpoint Double Callback) :=
          ⟨composed.connection, composed.sockets.invoke Socket.onOpen fun _ _ held => held.onOpen⟩
        exact told.made true _ (by simp) taken
  | failed =>
      dsimp only at taken
      split_ifs at taken
      · exact composed.invoke (fun _ _ held => held.close) (by simp) taken
      · exact composed.lose taken
  | closed code => exact composed.lose taken
  | message payload reactions =>
      dsimp only at taken
      split at taken
      · exact composed_client composed.connection composed.sockets (by simp) taken
      · obtain ⟨⟨acted, sends⟩, acting, handled⟩ := Option.bind_eq_some_iff.mp taken
        obtain ⟨last, received, rfl⟩ := Option.map_eq_some_iff.mp handled
        have possible := (Option.ite_none_right_eq_some.mp (client_cases received).1).1
        rw [act_connection acting] at possible
        have composed := composed.act acting (.inr (.inl possible.2))
        exact (composed_client composed.connection composed.sockets (by simp) received).forget _
  | expired nsp =>
      obtain ⟨_, taken⟩ := Option.ite_none_right_eq_some.mp taken
      obtain ⟨⟨acted, sends⟩, acting, rfl⟩ := Option.map_eq_some_iff.mp taken
      exact composed.act acting (.inl trivial)
  | handled nsp calls =>
      obtain ⟨⟨acted, sends⟩, acting, handled⟩ := Option.bind_eq_some_iff.mp taken
      obtain ⟨last, sent, rfl⟩ := Option.map_eq_some_iff.mp handled
      have composed := composed.act acting (.inl trivial)
      exact (composed_client composed.connection composed.sockets (by simp) sent).forget _

theorem composed_of_reachable (reached : (machine platform).Reachable endpoint) :
    endpoint.Composed platform := by
  apply reached.invariant
  · rintro state ⟨connection, sockets⟩
    refine ⟨.initial connection, ?_⟩
    rw [sockets]
    exact nofun
  · intro _ _ _ composed _ taken
    exact composed.step taken

/-- What holds in every run of a connection holds of the client of every endpoint. -/
theorem connection_reachable (reached : (machine platform).Reachable endpoint) :
    (Connection.machine platform).Reachable endpoint.connection :=
  (composed_of_reachable reached).connection

/-- What holds in every run of a socket holds of each socket of every endpoint. -/
theorem socket_reachable (reached : (machine platform).Reachable endpoint)
    {socket : Socket Double Callback} (found : Members.find nsp endpoint.sockets = some socket) :
    Socket.machine.Reachable socket ∧ socket.nsp = nsp ∧ socket.hasClient = true :=
  have held := (composed_of_reachable reached).sockets nsp socket found
  ⟨held.reachable, held.nsp, held.hasClient⟩

/-- In every run a socket is connected only while the client has a session. -/
theorem connected_within_session (reached : (machine platform).Reachable endpoint)
    {socket : Socket Double Callback} (found : Members.find nsp endpoint.sockets = some socket)
    (connected : socket.connected = true) : endpoint.connection.InSession :=
  ((composed_of_reachable reached).sockets nsp socket found).connected connected

/-! ### The namespaces of a client -/

/-- The client knows a namespace exactly when it has a socket. -/
def Named (endpoint : Endpoint Double Callback) : Prop :=
  ∀ name, name ∈ endpoint.connection.sockets ↔ (Members.find name endpoint.sockets).isSome = true

namespace Named

theorem client (named : endpoint.Named) (act : Connection.Act Double) (keeps : act.KeepsSockets)
    (taken : endpoint.client platform act = some next) : next.Named := by
  obtain ⟨moved, same⟩ := client_cases taken
  intro name
  rw [same, Connection.sockets_step keeps moved]
  exact named name

omit [DoubleText Double] in
theorem invoke (named : endpoint.Named) (call : Socket Double Callback → Socket Double Callback) :
    ({ endpoint with sockets := (socketsInvoke endpoint.sockets call).1 } :
      Endpoint Double Callback).Named := by
  intro name
  rw [socketsInvoke, Members.find_map, Option.isSome_map]
  exact named name

omit [DoubleText Double] in
theorem find_socket (clientOpened : Bool) (nsp name : List UInt8) :
    (Members.find name (endpoint.socket clientOpened nsp).1.sockets).isSome = true ↔
      name = nsp ∨ (Members.find name endpoint.sockets).isSome = true := by
  unfold Endpoint.socket
  split
  · next socket known =>
      refine ⟨.inr, fun isIn => isIn.elim (fun same => ?_) id⟩
      rw [same, known]
      rfl
  · rw [Members.find_insert]
    split_ifs with same
    · simp [same]
    · simp [Ne.symm same]

omit [DoubleText Double] in
/-- After an act of a socket the client may still know the namespace that it has lost. -/
theorem act (named : endpoint.Named) {act : Socket.Act Double Callback}
    {sends : List (Packet Double)} (acted : endpoint.act nsp act = some (next, sends))
    (name : List UInt8) :
    ((Members.find name next.sockets).isSome = true → name ∈ endpoint.connection.sockets) ∧
      (name ≠ nsp → name ∈ endpoint.connection.sockets →
        (Members.find name next.sockets).isSome = true) := by
  unfold Endpoint.act at acted
  split at acted
  · cases acted
    exact ⟨(named name).mpr, fun _ => (named name).mp⟩
  · next socket found =>
      obtain ⟨after, _, same⟩ := Option.map_eq_some_iff.mp acted
      cases same
      have known : nsp ∈ endpoint.connection.sockets := (named nsp).mpr (by rw [found]; rfl)
      dsimp only
      split_ifs with kept
      · rw [Members.find_insert]
        split_ifs with same
        · exact ⟨fun _ => same ▸ known, fun _ _ => rfl⟩
        · exact ⟨(named name).mpr, fun _ => (named name).mp⟩
      · rw [Members.find_erase]
        split_ifs with same
        · exact ⟨nofun, fun differs => absurd same.symm differs⟩
        · exact ⟨(named name).mpr, fun _ => (named name).mp⟩

/-- Once the client has sent what a socket hands it, it forgets a socket that has gone. -/
theorem act_forget (named : endpoint.Named) {acted : Endpoint Double Callback}
    {act : Socket.Act Double Callback} {sends : List (Packet Double)}
    (acting : endpoint.act nsp act = some (acted, sends)) (taken : Connection.Act Double)
    (keeps : taken.KeepsSockets) (sent : acted.client platform taken = some next) :
    (next.forget nsp).Named := by
  obtain ⟨moved, same⟩ := client_cases sent
  have sockets := Connection.sockets_step keeps moved
  rw [act_connection acting] at sockets
  intro name
  obtain ⟨known, kept⟩ := named.act acting name
  unfold forget
  split_ifs with found
  · rw [sockets, same]
    refine ⟨fun isIn => ?_, known⟩
    by_cases own : name = nsp
    · rw [own, ← same]
      exact found
    · exact kept own isIn
  · rw [same] at found ⊢
    change name ∈ next.connection.sockets.filter (· ≠ nsp) ↔ _
    rw [List.mem_filter, sockets, decide_eq_true_iff]
    refine ⟨fun isIn => kept isIn.2 isIn.1, fun isFound => ⟨known isFound, ?_⟩⟩
    rintro rfl
    exact found isFound

omit [DoubleText Double] in
/-- An act that leaves a socket its client leaves the namespaces alone. -/
theorem stays (named : endpoint.Named) {act : Socket.Act Double Callback}
    {sends : List (Packet Double)} (acted : endpoint.act nsp act = some (next, sends))
    (kept : ∀ socket after, Members.find nsp endpoint.sockets = some socket →
      ({ socket with globalEventId := endpoint.globalEventId } : Socket Double Callback).step act =
        some after → after.hasClient = true) : next.Named := by
  intro name
  obtain ⟨known, others⟩ := named.act acted name
  rw [act_connection acted]
  refine ⟨fun isIn => ?_, known⟩
  by_cases own : name = nsp
  · obtain ⟨socket, found⟩ := Option.isSome_iff_exists.mp ((named name).mp isIn)
    rw [own] at found
    unfold Endpoint.act at acted
    rw [found] at acted
    obtain ⟨after, taken, same⟩ := Option.map_eq_some_iff.mp acted
    cases same
    dsimp only
    rw [if_pos (kept socket after found taken), Members.find_insert, if_pos own.symm]
    rfl
  · exact others own isIn

end Named

theorem Named.step (named : endpoint.Named) (composed : endpoint.Composed platform)
    {act : Act Double Callback} (taken : step platform endpoint act = some next) :
    next.Named := by
  unfold Endpoint.step at taken
  cases act with
  | alone act =>
      obtain ⟨alone, taken⟩ := Option.ite_none_right_eq_some.mp taken
      refine named.client act ?_ taken
      cases act <;> first | exact trivial | cases alone
  | ended =>
      obtain ⟨_, taken⟩ := Option.ite_none_right_eq_some.mp taken
      exact named.client .ended trivial taken
  | socket nsp =>
      obtain ⟨made, making, sent⟩ := Option.bind_eq_some_iff.mp taken
      refine Named.client (fun name => ?_) (.send false _) trivial sent
      obtain ⟨moved, same⟩ := client_cases making
      rw [same, find_socket]
      obtain ⟨_, knows⟩ := Option.ite_none_right_eq_some.mp moved
      rw [← Option.some.inj knows, Connection.mem_socket, socket_connection, named name]
  | call onNetwork nsp call =>
      obtain ⟨⟨acted, sends⟩, acting, sent⟩ := Option.bind_eq_some_iff.mp taken
      refine (named.stays acting fun socket after found taken => ?_).client
        (.send onNetwork sends) trivial sent
      cases taken
      exact (Socket.perform_hasClient [call]).trans (composed.sockets nsp socket found).hasClient
  | close => exact (named.invoke Socket.close).client (.close _) trivial taken
  | syncClose => exact (named.invoke Socket.close).client (.syncClose _) trivial taken
  | opened =>
      dsimp only at taken
      split_ifs at taken with closing
      · obtain ⟨moved, same⟩ := client_cases taken
        obtain ⟨_, opened⟩ := Option.ite_none_right_eq_some.mp moved
        intro name
        rw [same, Connection.mem_opened opened, (named.invoke Socket.close) name]
        simp [closing]
      · obtain ⟨moved, same⟩ := client_cases taken
        obtain ⟨_, opened⟩ := Option.ite_none_right_eq_some.mp moved
        intro name
        rw [same, find_socket, Connection.mem_opened opened, socket_connection,
          (named.invoke Socket.onOpen) name]
        simp [closing]
  | failed =>
      dsimp only at taken
      split_ifs at taken
      · exact (named.invoke Socket.close).client (.failed _) trivial taken
      · exact (named.invoke Socket.onDisconnect).client (.failed _) trivial taken
  | closed code =>
      exact (named.invoke Socket.onDisconnect).client (.closed code) trivial taken
  | message payload reactions =>
      dsimp only at taken
      split at taken
      · exact named.client (.message payload []) trivial taken
      · obtain ⟨⟨acted, sends⟩, acting, handled⟩ := Option.bind_eq_some_iff.mp taken
        obtain ⟨last, received, rfl⟩ := Option.map_eq_some_iff.mp handled
        exact named.act_forget acting (.message payload sends) trivial received
  | expired nsp =>
      obtain ⟨_, taken⟩ := Option.ite_none_right_eq_some.mp taken
      obtain ⟨⟨acted, sends⟩, acting, rfl⟩ := Option.map_eq_some_iff.mp taken
      refine named.stays acting fun socket after found taken => ?_
      cases taken
      exact (composed.sockets nsp socket found).hasClient
  | handled nsp calls =>
      obtain ⟨⟨acted, sends⟩, acting, handled⟩ := Option.bind_eq_some_iff.mp taken
      obtain ⟨last, sent, rfl⟩ := Option.map_eq_some_iff.mp handled
      exact named.act_forget acting (.send true sends) trivial sent

/-- In every run the client hands a packet on exactly when its namespace has a socket. -/
theorem named_of_reachable (reached : (machine platform).Reachable endpoint) :
    endpoint.Named := by
  suffices both : endpoint.Composed platform ∧ endpoint.Named from both.2
  apply reached.invariant
  · rintro state ⟨connection, sockets⟩
    refine ⟨⟨.initial connection, ?_⟩, fun name => ?_⟩
    · rw [sockets]
      exact nofun
    · rw [connection, sockets]
      exact ⟨nofun, nofun⟩
  · intro _ _ _ both _ taken
    exact ⟨both.1.step taken, both.2.step both.1 taken⟩

end Endpoint

end VoiceCall.Transport
