import VoiceCall.Signalling.Consistency

namespace VoiceCall.Signalling

open Foundation

/-- The relay events look a target up by name. -/
def relayEvents : List String := ["offer", "answer", "reject", "ice-candidate"]

/-- A packet is addressed to a name when a relay handler looks that name up. -/
def Packet.AddressedTo (packet : Packet) (name : String) : Prop :=
  packet.event ∈ relayEvents ∧ packet.arg 0 = .string name

/-- The payload of a relay keeps its argument under the field name of its event. -/
def Packet.payload (packet : Packet) : List (String × JsValue) :=
  match packet.event with
  | "offer" => [("sdpOffer", packet.arg 1)]
  | "answer" => [("sdpAnswer", packet.arg 1)]
  | "ice-candidate" => [("candidate", packet.arg 1)]
  | _ => []

/-- The forwarded packet carries the payload and the name of the sender. -/
def Server.forwarded (server : Server) (sender : SocketId) (packet : Packet) : Packet :=
  ⟨packet.event, [jsonObject (packet.payload ++ [("from", server.fromPeerName sender)])]⟩

/-- Every relay handler turns its target into a key and forwards along the route of that key. -/
theorem Server.handle_relay (server : Server) (sender : SocketId) {packet : Packet}
    (isRelay : packet.event ∈ relayEvents) :
    server.handle sender packet = (packet.arg 0).toText.map fun key =>
      (server, (server.peerIds.get key).map fun target =>
        (target, server.forwarded sender packet)) := by
  obtain ⟨event, args⟩ := packet
  simp only [relayEvents, List.mem_cons, List.not_mem_nil, or_false] at isRelay
  rcases isRelay with rfl | rfl | rfl | rfl <;>
    simp only [handle, offer, answer, reject, iceCandidate, relay, forwarded, Packet.payload] <;>
    cases (Packet.arg ⟨_, args⟩ 0).toText <;> rfl

/-- Every relay handler forwards along the route of the addressed name. -/
theorem Server.handle_addressed (server : Server) (sender : SocketId) {packet : Packet}
    {name : String} (addressed : packet.AddressedTo name) :
    server.handle sender packet =
      .ok (server, (server.peerIds.get name).map fun target =>
        (target, server.forwarded sender packet)) := by
  rw [server.handle_relay sender addressed.1, addressed.2]
  rfl

namespace Hub

variable {hub next : Hub}

/-- The room of a connected socket holds that socket once. -/
theorem Consistent.emit_connected (consistent : hub.Consistent) {socketId : SocketId}
    (inside : socketId ∈ hub.connected) (packet : Packet) :
    hub.emit (some (socketId, packet)) = [(socketId, packet)] := by
  have alone : hub.connected.filter (fun other => other = socketId) = [socketId] := by
    rw [List.filter_eq, List.count_eq_one_of_mem consistent.connectedOnce inside]
    rfl
  rw [emit, alone]
  rfl

/-- A processed relay reaches the room of the addressed name and changes no table. -/
theorem process_addressed {sender : SocketId} {packet : Packet} {name : String}
    (inside : sender ∈ hub.connected) (addressed : packet.AddressedTo name) :
    hub.process (.packet sender packet) =
      some ({ hub with history := hub.history ++ [.packet sender packet] },
        hub.emit ((hub.server.peerIds.get name).map fun target =>
          (target, hub.server.forwarded sender packet))) := by
  simp only [process, inside, if_true, Server.handle_addressed _ _ addressed]

/-- A disconnection step deletes one route of its socket and the name of its socket. -/
theorem step_disconnect {socketId : SocketId}
    (taken : machine.step hub (.disconnect socketId) = some next) :
    next.server = hub.server.disconnect socketId ∧
      ∀ other, other ∈ next.connected ↔ other ∈ hub.connected ∧ other ≠ socketId := by
  obtain ⟨_, _, left, remaining⟩ := step_cases taken
  exact ⟨left, fun other => by rw [remaining, List.mem_filter, decide_eq_true_eq]⟩

/-- No route and no name belongs to a socket that has gone. -/
def NoDanglingRoutes (hub : Hub) : Prop :=
  (∀ name socketId, hub.server.peerIds.get name = some socketId → socketId ∈ hub.connected) ∧
    ∀ key name, hub.server.peerNames.get key = some name →
      ∃ socketId ∈ hub.connected, socketId.val = key

/-- A disconnection clears its socket when it removes all its entries and no other. -/
def Clears (hub next : Hub) (socketId : SocketId) : Prop :=
  (∀ name, next.server.peerIds.get name ≠ some socketId) ∧
    (∀ name other, other ≠ socketId →
      (next.server.peerIds.get name = some other ↔ hub.server.peerIds.get name = some other)) ∧
    next.server.peerNames.get socketId.val = none ∧
    ∀ key, key ≠ socketId.val →
      next.server.peerNames.get key = hub.server.peerNames.get key

/-- At most one name leads to the socket. -/
def SingleRoute (hub : Hub) (socketId : SocketId) : Prop :=
  ∀ first second, hub.server.peerIds.get first = some socketId →
    hub.server.peerIds.get second = some socketId → first = second

/-- The guard asks for a single route whenever a socket disconnects. -/
def DisconnectsSingle (hub : Hub) (event : HubEvent) : Prop :=
  ∀ socketId, event = .disconnect socketId → hub.SingleRoute socketId

/-- The `break` leaves a route behind exactly when there were two. -/
theorem disconnect_removes_iff (hub : Hub) (socketId : SocketId) :
    (∀ name, (hub.server.disconnect socketId).peerIds.get name ≠ some socketId) ↔
      hub.SingleRoute socketId := by
  rcases hub.server.disconnect_cases socketId with ⟨absent, same⟩ | ⟨deleted, found, same⟩
  · rw [same]
    exact iff_of_true absent fun first _ routed _ => absurd routed (absent first)
  · simp only [same, JsObject.get_delete]
    constructor
    · intro removed
      have onlyDeleted (name : String) (routed : hub.server.peerIds.get name = some socketId) :
          name = deleted := by
        by_contra different
        exact removed name (by rw [if_neg different, routed])
      exact fun first second routedFirst routedSecond =>
        (onlyDeleted first routedFirst).trans (onlyDeleted second routedSecond).symm
    · intro single name
      split
      · simp
      · next different => exact fun routed => different (single name deleted routed found)

/-- A disconnection step clears its socket exactly when that socket has a single route. -/
theorem clears_iff {socketId : SocketId}
    (taken : machine.step hub (.disconnect socketId) = some next) :
    hub.Clears next socketId ↔ hub.SingleRoute socketId := by
  obtain ⟨left, _⟩ := step_disconnect taken
  rw [← disconnect_removes_iff, Clears, left]
  constructor
  · exact And.left
  · intro removed
    refine ⟨removed, ?_, ?_, ?_⟩
    · intro name other different
      exact ⟨Server.disconnect_get, Server.disconnect_get_other different⟩
    · exact (JsObject.get_delete _ _ _).trans (if_pos rfl)
    · intro key different
      exact (JsObject.get_delete _ _ _).trans (if_neg different)

/-- The first disconnection with two routes is the first step that leaves one dangling. -/
theorem noDanglingRoutes_disconnect (clean : hub.NoDanglingRoutes) {socketId : SocketId}
    (taken : machine.step hub (.disconnect socketId) = some next) :
    next.NoDanglingRoutes ↔ hub.SingleRoute socketId := by
  obtain ⟨left, remaining⟩ := step_disconnect taken
  rw [← disconnect_removes_iff, NoDanglingRoutes, left]
  constructor
  · rintro ⟨routes, _⟩ name routed
    exact ((remaining socketId).mp (routes name socketId routed)).2 rfl
  · intro removed
    refine ⟨?_, ?_⟩
    · intro name other routed
      refine (remaining other).mpr ⟨clean.1 name other (Server.disconnect_get routed), ?_⟩
      rintro rfl
      exact removed name routed
    · intro key name found
      have kept := (JsObject.get_delete hub.server.peerNames socketId.val key).symm.trans found
      split at kept
      · contradiction
      · next different =>
          obtain ⟨owner, inside, same⟩ := clean.2 key name kept
          refine ⟨owner, (remaining owner).mpr ⟨inside, ?_⟩, same⟩
          rintro rfl
          exact different same.symm

/-- A step that is no disconnection leaves no route dangling. -/
theorem NoDanglingRoutes.step {event : HubEvent} (clean : hub.NoDanglingRoutes)
    (single : hub.DisconnectsSingle event) (taken : machine.step hub event = some next) :
    next.NoDanglingRoutes := by
  cases event with
  | connect socketId =>
      obtain ⟨_, _, sameServer, joined⟩ := step_cases taken
      rw [NoDanglingRoutes, sameServer, joined]
      refine ⟨fun name other routed => List.mem_cons_of_mem _ (clean.1 name other routed), ?_⟩
      intro key name found
      obtain ⟨owner, inside, same⟩ := clean.2 key name found
      exact ⟨owner, List.mem_cons_of_mem _ inside, same⟩
  | packet socketId packet =>
      obtain ⟨_, inside, sameConnected, changed⟩ := step_cases taken
      cases accepted : registrationName packet with
      | none =>
          rw [accepted] at changed
          rwa [NoDanglingRoutes, changed, sameConnected]
      | some name =>
          rw [accepted] at changed
          rw [NoDanglingRoutes, changed, sameConnected]
          simp only [Server.registered, JsObject.get_set]
          refine ⟨?_, ?_⟩
          · intro query other routed
            split at routed
            · exact Option.some.inj routed ▸ inside
            · exact clean.1 query other routed
          · intro key query found
            split at found
            · next same => exact ⟨socketId, inside, same.symm⟩
            · exact clean.2 key query found
  | disconnect socketId =>
      exact (noDanglingRoutes_disconnect clean taken).mpr (single socketId rfl)

/-- No route dangles in a run whose sockets disconnect with a single route each.
A disconnection clears its socket exactly then, and otherwise leaves a route dangling. -/
theorem noDanglingRoutes_of_singleRoute (hub : Hub) :
    (machine.ReachableUnder DisconnectsSingle hub → hub.NoDanglingRoutes) ∧
      ∀ next socketId, machine.Reachable hub →
        machine.step hub (.disconnect socketId) = some next →
        (hub.Clears next socketId ↔ hub.SingleRoute socketId) ∧
          (hub.NoDanglingRoutes → (next.NoDanglingRoutes ↔ hub.SingleRoute socketId)) := by
  constructor
  · intro reached
    refine reached.invariant ?_ fun _ _ _ clean single taken => clean.step single taken
    intro state start
    subst start
    exact ⟨by simp [empty, Server.empty], by simp [empty, Server.empty]⟩
  · intro next socketId _ taken
    exact ⟨clears_iff taken, fun clean => noDanglingRoutes_disconnect clean taken⟩

def firstSocket : SocketId := ⟨"s1", by decide⟩

def secondSocket : SocketId := ⟨"s2", by decide⟩

/-- A socket registers one name. -/
def oneNameRun : List HubEvent :=
  [.connect firstSocket, .packet firstSocket ⟨"register", [.string "alice"]⟩]

theorem noDanglingRoutes_of_singleRoute_oneName :
    ∃ hub next, hub.NoDanglingRoutes ∧
      machine.step hub (.disconnect firstSocket) = some next ∧
      (next.NoDanglingRoutes ↔ hub.SingleRoute firstSocket) := by
  have ran : machine.exec empty oneNameRun = some (_) := rfl
  have reached : machine.ReachableUnder DisconnectsSingle _ :=
    Machine.ReachableUnder.exec (.initial rfl) (by simp [oneNameRun, DisconnectsSingle]) ran
  have clean := (noDanglingRoutes_of_singleRoute _).1 reached
  exact ⟨_, _, clean, rfl,
    ((noDanglingRoutes_of_singleRoute _).2 _ _ reached.reachable rfl).2 clean⟩

/-- One socket registers two names and leaves. -/
def twoNamesRun : List HubEvent :=
  [.connect firstSocket,
    .packet firstSocket ⟨"register", [.string "alice"]⟩,
    .packet firstSocket ⟨"register", [.string "bob"]⟩,
    .disconnect firstSocket]

/-- The second name of the socket still leads to it after it has gone. -/
theorem noDanglingRoutes_fails :
    ¬ ∀ hub, machine.Reachable hub → hub.NoDanglingRoutes ∧
      ∀ next socketId, machine.step hub (.disconnect socketId) = some next →
        hub.Clears next socketId := by
  intro claim
  obtain ⟨hub, reached, dangling⟩ := Machine.reachable_of_exec machine rfl twoNamesRun
    (fun hub => hub.server.peerIds.get "bob" = some firstSocket ∧ hub.connected = [])
    (by decide)
  obtain ⟨routed, gone⟩ := of_decide_eq_true dangling
  have inside := (claim hub reached).1.1 "bob" _ routed
  rw [gone] at inside
  exact List.not_mem_nil inside

/-- A route to a connected socket stands while no other socket has claimed its name. -/
theorem Consistent.route_iff (consistent : hub.Consistent) {socketId : SocketId}
    (inside : socketId ∈ hub.connected) (name : String) :
    hub.server.peerIds.get name = some socketId ↔ hub.lastRegistrant name = some socketId :=
  ⟨consistent.routed name socketId, fun claimed => consistent.kept name socketId claimed inside⟩

/-- A message to the name of a connected socket reaches that socket, and only it,
exactly while it is the last socket to have registered the name. -/
theorem replies_reach_lastRegistrant (hub : Hub) (reached : machine.Reachable hub)
    (socketId : SocketId) (inside : socketId ∈ hub.connected) (name : String)
    (_named : hub.server.peerNames.get socketId.val = some name) :
    (hub.server.peerIds.get name = some socketId ↔ hub.lastRegistrant name = some socketId) ∧
      ∀ sender ∈ hub.connected, ∀ packet : Packet, packet.AddressedTo name →
        ∃ next out, hub.process (.packet sender packet) = some (next, out) ∧
          (hub.lastRegistrant name = some socketId →
            out = [(socketId, hub.server.forwarded sender packet)]) ∧
          (hub.lastRegistrant name ≠ some socketId → ∀ delivery ∈ out, delivery.1 ≠ socketId) := by
  have consistent := consistent_of_reachable reached
  have route := consistent.route_iff inside name
  refine ⟨route, ?_⟩
  intro sender senderInside packet addressed
  refine ⟨_, _, process_addressed senderInside addressed, ?_, ?_⟩
  · intro claimed
    rw [route.mpr claimed]
    exact consistent.emit_connected inside _
  · intro displaced delivery member
    cases found : hub.server.peerIds.get name with
    | none => simp [found, emit] at member
    | some target =>
        simp only [found, Option.map_some, emit, List.mem_map, List.mem_filter,
          decide_eq_true_eq] at member
        obtain ⟨other, ⟨_, rfl⟩, rfl⟩ := member
        rintro rfl
        exact displaced (consistent.routed name _ found)

/-- Two sockets register one name. -/
def sharedNameRun : List HubEvent :=
  [.connect firstSocket, .packet firstSocket ⟨"register", [.string "alice"]⟩,
    .connect secondSocket, .packet secondSocket ⟨"register", [.string "alice"]⟩]

theorem replies_reach_lastRegistrant_sharedName :
    ∃ hub : Hub, hub.server.peerNames.get "s2" = some "alice" ∧
      (hub.server.peerIds.get "alice" = some secondSocket ↔
        hub.lastRegistrant "alice" = some secondSocket) := by
  obtain ⟨hub, reached, shared⟩ := Machine.reachable_of_exec machine rfl
    sharedNameRun
    (fun hub => secondSocket ∈ hub.connected ∧
      hub.server.peerNames.get "s2" = some "alice")
    (by decide)
  obtain ⟨inside, named⟩ := of_decide_eq_true shared
  exact ⟨hub, named, (replies_reach_lastRegistrant hub reached _ inside "alice" named).1⟩

/-- The first holder keeps the name, but its route leads to the second one. -/
theorem name_held_by_two_sockets :
    ¬ ∀ hub, machine.Reachable hub → ∀ socketId ∈ hub.connected, ∀ name,
      hub.server.peerNames.get socketId.val = some name →
      hub.server.peerIds.get name = some socketId := by
  intro claim
  obtain ⟨hub, reached, shared⟩ := Machine.reachable_of_exec machine rfl
    sharedNameRun
    (fun hub => firstSocket ∈ hub.connected ∧
      hub.server.peerNames.get "s1" = some "alice" ∧
      hub.server.peerIds.get "alice" = some secondSocket)
    (by decide)
  obtain ⟨inside, named, routed⟩ := of_decide_eq_true shared
  have held := claim hub reached firstSocket inside "alice" named
  rw [routed] at held
  exact absurd held (by decide)

end Hub
end VoiceCall.Signalling
