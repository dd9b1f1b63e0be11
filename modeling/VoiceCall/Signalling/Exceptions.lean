import VoiceCall.Signalling.Routes

namespace VoiceCall.Signalling

open Foundation

/-- A falsy name and a string are the two arguments that `register` can look at. -/
def registrable (peerName : JsValue) : Prop :=
  peerName.truthy = false ∨ ∃ name, peerName = .string name

/-- A packet is harmless when its handler can use the first argument as the handler does. -/
def Packet.Harmless (packet : Packet) : Prop :=
  (packet.event = "register" → registrable (packet.arg 0)) ∧
    (packet.event ∈ relayEvents → (packet.arg 0).hasText = true)

/-- The `trim` call throws on every truthy value that is no string. -/
theorem Server.register_isOk (server : Server) (socketId : SocketId) (peerName : JsValue) :
    (server.register socketId peerName).isOk = true ↔ registrable peerName := by
  unfold register registrable
  cases truth : peerName.truthy with
  | false => exact iff_of_true rfl (.inl rfl)
  | true =>
      cases peerName with
      | string name =>
          refine iff_of_true ?_ (.inr ⟨name, rfl⟩)
          by_cases blank : JsValue.trimmed name = ""
          · simp [JsValue.trim, Except.bind, blank, Except.isOk, Except.toBool]
          · simp [JsValue.trim, Except.bind, blank, Except.map, Except.isOk, Except.toBool]
      | _ =>
          refine iff_of_false ?_ (by simp)
          simp [JsValue.trim, Except.bind, Except.isOk, Except.toBool]

/-- A handler completes exactly on the harmless packets. -/
theorem Server.handle_isOk (server : Server) (socketId : SocketId) (packet : Packet) :
    (server.handle socketId packet).isOk = true ↔ packet.Harmless := by
  have mapped {α β : Type} (outcome : Except JsError α) (f : α → β) :
      (outcome.map f).isOk = outcome.isOk := by cases outcome <;> rfl
  by_cases isRelay : packet.event ∈ relayEvents
  · have notRegister : packet.event ≠ "register" := by
      intro same
      rw [same] at isRelay
      exact absurd isRelay (by decide)
    rw [server.handle_relay socketId isRelay, mapped, JsValue.isOk_toText, Packet.Harmless]
    simp [isRelay, notRegister]
  · by_cases isRegister : packet.event = "register"
    · have registers : server.handle socketId packet =
          (server.register socketId (packet.arg 0)).map fun next => (next, none) := by
        simp [handle, isRegister]
      rw [registers, mapped, server.register_isOk, Packet.Harmless]
      simp [isRegister, relayEvents]
    · have ignored : server.handle socketId packet = .ok (server, none) := by
        unfold handle
        split
        · contradiction
        · next event => exact absurd (by rw [event]; decide) isRelay
        · next event => exact absurd (by rw [event]; decide) isRelay
        · next event => exact absurd (by rw [event]; decide) isRelay
        · next event => exact absurd (by rw [event]; decide) isRelay
        · rfl
      rw [ignored, Packet.Harmless]
      simp [isRegister, isRelay, Except.isOk, Except.toBool]

namespace Hub

variable {hub : Hub} {sender : SocketId} {packet : Packet}

/-- The hub survives an event when no exception ends the process, and keeps both objects
unless the event is an accepted registration. -/
def Survives (hub : Hub) (sender : SocketId) (packet : Packet) : Prop :=
  ∃ next deliveries, hub.process (.packet sender packet) = some (next, deliveries) ∧
    (registrationName packet = none → next.server = hub.server)

theorem survives_iff_isOk (inside : sender ∈ hub.connected) :
    hub.Survives sender packet ↔ (hub.server.handle sender packet).isOk = true := by
  simp only [Survives, process, inside, if_true]
  cases handled : hub.server.handle sender packet with
  | error _ => simp [Except.isOk, Except.toBool]
  | ok result =>
      refine iff_of_true ⟨_, _, rfl, ?_⟩ rfl
      intro refused
      have kept := Server.handle_ok handled
      rwa [refused] at kept

/-- The hub survives exactly the harmless packets, and every disconnection. -/
theorem survives_iff_harmless (hub : Hub) (sender : SocketId) (inside : sender ∈ hub.connected) :
    (∀ packet, hub.Survives sender packet ↔ packet.Harmless) ∧
      ∃ next, hub.process (.disconnect sender) = some (next, []) := by
  constructor
  · intro packet
    rw [survives_iff_isOk inside, Server.handle_isOk]
  · simp [process, inside]

theorem survives_iff_harmless_oneName :
    ∃ hub : Hub, hub.Survives firstSocket ⟨"register", [.string "bob"]⟩ := by
  obtain ⟨hub, _, inside⟩ := Machine.reachable_of_exec machine rfl oneNameRun
    (fun hub => firstSocket ∈ hub.connected) (by decide)
  have harmless : Packet.Harmless ⟨"register", [.string "bob"]⟩ :=
    ⟨fun _ => .inr ⟨"bob", rfl⟩, by decide⟩
  exact ⟨hub, ((survives_iff_harmless hub firstSocket (of_decide_eq_true inside)).1 _).mpr harmless⟩

/-- A number as a name ends the process. -/
theorem survives_fails :
    ¬∀ hub, machine.Reachable hub → ∀ sender ∈ hub.connected, ∀ packet,
      hub.Survives sender packet := by
  intro claim
  obtain ⟨hub, reached, inside⟩ := Machine.reachable_of_exec machine rfl oneNameRun
    (fun hub => firstSocket ∈ hub.connected) (by decide)
  have inside := of_decide_eq_true inside
  have survives := claim hub reached firstSocket inside ⟨"register", [.number "5"]⟩
  have threw : (hub.server.handle firstSocket ⟨"register", [.number "5"]⟩).isOk = false := rfl
  rw [survives_iff_isOk inside, threw] at survives
  cases survives

end Hub
end VoiceCall.Signalling
