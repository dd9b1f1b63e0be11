import VoiceCall.Signalling.Server

namespace VoiceCall.Signalling

open Foundation

/-- The name that a `register` packet stores, when the handler accepts it. -/
def registrationName (packet : Packet) : Option String :=
  if packet.event = "register" then
    match packet.arg 0 with
    | .string name => if JsValue.trimmed name = "" then none else some name
    | _ => none
  else none

/-- An accepted registration writes both objects. -/
def Server.registered (server : Server) (socketId : SocketId) (name : String) : Server where
  peerIds := server.peerIds.set name socketId
  peerNames := server.peerNames.set socketId.val name

/-- The handler registers exactly the accepted names and throws on a truthy non-string. -/
theorem Server.register_ok {server next : Server} {socketId : SocketId} {packet : Packet}
    (isRegister : packet.event = "register")
    (handled : server.register socketId (packet.arg 0) = .ok next) :
    next = match registrationName packet with
      | some name => server.registered socketId name
      | none => server := by
  rw [registrationName, if_pos isRegister]
  generalize packet.arg 0 = arg at handled ⊢
  unfold Server.register at handled
  cases truth : arg.truthy with
  | false =>
      rw [truth] at handled
      cases handled
      cases arg with
      | string name =>
          have isEmpty : name = "" := by simpa [JsValue.truthy] using truth
          subst isEmpty
          rfl
      | _ => rfl
  | true =>
      rw [truth] at handled
      cases arg with
      | string name =>
          by_cases blank : JsValue.trimmed name = ""
          · simp only [JsValue.trim, Except.bind, blank, if_true] at handled ⊢
            cases handled
            rfl
          · simp only [JsValue.trim, Except.bind, blank, if_false, JsValue.toText_string,
              Except.map] at handled ⊢
            cases handled
            rfl
      | _ => cases handled

/-- A relay keeps the server it read. -/
theorem Server.map_keeps {server next : Server} {out : Option (SocketId × Packet)}
    {relayed : Except JsError (Option (SocketId × Packet))}
    (handled : (relayed.map fun found => (server, found)) = .ok (next, out)) : next = server := by
  cases relayed with
  | error problem => cases handled
  | ok found =>
      cases handled
      rfl

/-- Only an accepted registration changes the two objects. -/
theorem Server.handle_ok {server next : Server} {socketId : SocketId} {packet : Packet}
    {out : Option (SocketId × Packet)}
    (handled : server.handle socketId packet = .ok (next, out)) :
    next = match registrationName packet with
      | some name => server.registered socketId name
      | none => server := by
  by_cases isRegister : packet.event = "register"
  · unfold Server.handle at handled
    rw [isRegister] at handled
    cases registered : server.register socketId (packet.arg 0) with
    | error problem => simp [registered, Except.map] at handled
    | ok after =>
        simp only [registered, Except.map, Except.ok.injEq, Prod.mk.injEq] at handled
        rw [← handled.1]
        exact Server.register_ok isRegister registered
  · have noName : registrationName packet = none := by rw [registrationName, if_neg isRegister]
    rw [noName]
    unfold Server.handle at handled
    split at handled
    · contradiction
    · exact Server.map_keeps handled
    · exact Server.map_keeps handled
    · exact Server.map_keeps handled
    · exact Server.map_keeps handled
    · cases handled
      rfl

/-- The loop deletes one route to the socket when there is one. -/
theorem Server.removeRoute_cases (peerIds : JsObject SocketId) (socketId : SocketId)
    (visited : List String) :
    ((∀ key ∈ visited, peerIds.get key ≠ some socketId) ∧
        removeRoute peerIds socketId visited = peerIds) ∨
      ∃ key, peerIds.get key = some socketId ∧
        removeRoute peerIds socketId visited = peerIds.delete key := by
  induction visited with
  | nil => exact .inl ⟨by simp, rfl⟩
  | cons key rest ih =>
      by_cases found : peerIds.get key = some socketId
      · exact .inr ⟨key, found, by rw [removeRoute, if_pos found]⟩
      · rw [removeRoute, if_neg found]
        rcases ih with ⟨absent, same⟩ | deleted
        · refine .inl ⟨?_, same⟩
          intro query member
          rcases List.mem_cons.mp member with rfl | inRest
          · exact found
          · exact absent query inRest
        · exact .inr deleted

/-- A disconnection deletes one route of the socket, or finds none. -/
theorem Server.disconnect_cases (server : Server) (socketId : SocketId) :
    ((∀ key, server.peerIds.get key ≠ some socketId) ∧
        (server.disconnect socketId).peerIds = server.peerIds) ∨
      ∃ key, server.peerIds.get key = some socketId ∧
        (server.disconnect socketId).peerIds = server.peerIds.delete key := by
  rcases removeRoute_cases server.peerIds socketId server.peerIds.keys with ⟨absent, same⟩ | found
  · refine .inl ⟨?_, same⟩
    intro key routed
    exact absent key ((server.peerIds.mem_keys key).mpr (by simp [routed])) routed
  · exact .inr found

/-- A disconnection never creates or moves a route. -/
theorem Server.disconnect_get {server : Server} {socketId target : SocketId} {key : String}
    (routed : (server.disconnect socketId).peerIds.get key = some target) :
    server.peerIds.get key = some target := by
  rcases server.disconnect_cases socketId with ⟨_, same⟩ | ⟨deleted, _, same⟩
  · rwa [same] at routed
  · rw [same, JsObject.get_delete] at routed
    split at routed
    · contradiction
    · exact routed

/-- A disconnection keeps the routes of every other socket. -/
theorem Server.disconnect_get_other {server : Server} {socketId target : SocketId} {key : String}
    (other : target ≠ socketId) (routed : server.peerIds.get key = some target) :
    (server.disconnect socketId).peerIds.get key = some target := by
  rcases server.disconnect_cases socketId with ⟨_, same⟩ | ⟨deleted, found, same⟩
  · rwa [same]
  · rw [same, JsObject.get_delete, if_neg, routed]
    rintro rfl
    exact other (Option.some.inj (routed.symm.trans found))

/-- The directory sees a connection, an accepted registration and a disconnection. -/
def directoryEvent : HubEvent → Option (DirectoryEvent String SocketId)
  | .connect socketId => some (.arrive socketId)
  | .packet socketId packet => (registrationName packet).map (.claim socketId)
  | .disconnect socketId => some (.depart socketId)

/-- The registrations of a history are its accepted `register` packets. -/
def registration : HubEvent → Option (SocketId × String)
  | .packet socketId packet => (registrationName packet).map fun name => (socketId, name)
  | _ => none

namespace Hub

/-- The directory of a hub forgets everything but claims, arrivals and departures. -/
def directory (hub : Hub) : Directory String SocketId :=
  Directory.replay (hub.history.filterMap directoryEvent)

/-- The last socket to register a name, connected or not. -/
def lastRegistrant (hub : Hub) (name : String) : Option SocketId := hub.directory.claimant name

def registrations (hub : Hub) : List (SocketId × String) := hub.history.filterMap registration

/-- The last name that a socket registered. -/
def registeredName (hub : Hub) (socketId : SocketId) : Option String :=
  ((hub.registrations.filter fun entry => entry.1 = socketId).getLast?).map Prod.snd

/-- The change of one step names all that the step touches. -/
def Changed (hub next : Hub) : HubEvent → Prop
  | .connect socketId =>
      socketId ∉ hub.issued ∧ next.server = hub.server ∧
        next.connected = socketId :: hub.connected
  | .packet socketId packet =>
      socketId ∈ hub.connected ∧ next.connected = hub.connected ∧
        next.server = match registrationName packet with
          | some name => hub.server.registered socketId name
          | none => hub.server
  | .disconnect socketId =>
      socketId ∈ hub.connected ∧ next.server = hub.server.disconnect socketId ∧
        next.connected = hub.connected.filter fun other => other ≠ socketId

/-- What the hub processes is a step of the signalling machine. -/
theorem step_of_process {hub : Hub} {event : HubEvent} {result : Hub × List (SocketId × Packet)}
    (processed : hub.process event = some result) : machine.step hub event = some result.1 := by
  simp only [machine, processed, Option.map_some]

/-- Every step extends the history and changes what its event says. -/
theorem step_cases {hub next : Hub} {event : HubEvent}
    (taken : machine.step hub event = some next) :
    next.history = hub.history ++ [event] ∧ hub.Changed next event := by
  simp only [machine, process] at taken
  cases event with
  | connect socketId =>
      by_cases used : socketId ∈ hub.issued
      · simp [used] at taken
      · simp only [used, if_false, Option.map_some, Option.some.injEq] at taken
        subst taken
        exact ⟨rfl, used, rfl, rfl⟩
  | packet socketId packet =>
      by_cases inside : socketId ∈ hub.connected
      · simp only [inside, if_true] at taken
        cases handled : hub.server.handle socketId packet with
        | error problem => simp [handled] at taken
        | ok result =>
            simp only [handled, Option.map_some, Option.some.injEq] at taken
            subst taken
            exact ⟨rfl, inside, rfl, Server.handle_ok handled⟩
      · simp [inside] at taken
  | disconnect socketId =>
      by_cases inside : socketId ∈ hub.connected
      · simp only [inside, if_true, Option.map_some, Option.some.injEq] at taken
        subst taken
        exact ⟨rfl, inside, rfl, rfl⟩
      · simp [inside] at taken

end Hub
end VoiceCall.Signalling
