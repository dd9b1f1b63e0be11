import VoiceCall.Signalling.Relay

namespace VoiceCall.Signalling

open Foundation

namespace SignalManager

/-- The members that the handler of an event reads through a string pointer. -/
def fields (event : String) : List String :=
  match event with
  | "offer" => ["sdpOffer", "from"]
  | "answer" => ["sdpAnswer", "from"]
  | "reject" => ["from"]
  | _ => []

/-- A packet is readable when its object has a string under every field of its event. -/
def Readable (packet : Packet) : Prop :=
  ∀ field ∈ fields packet.event, (getString packet field).isSome = true

/-- A handler reads through a missing or non-string message exactly on an unreadable packet. -/
theorem receive_faults_iff (packet : Packet) :
    receive packet = .faults ↔ ¬Readable packet := by
  unfold receive Readable
  split
  · next event =>
      rw [event]
      cases text : getString packet "sdpOffer" <;> cases sender : getString packet "from" <;>
        simp [fields, text, sender]
  · next event =>
      rw [event]
      cases text : getString packet "sdpAnswer" <;> cases sender : getString packet "from" <;>
        simp [fields, text, sender]
  · next event =>
      rw [event]
      cases sender : getString packet "from" <;> simp [fields, sender]
  · next offer answer reject =>
      have noFields : fields packet.event = [] := by
        unfold fields
        split
        · contradiction
        · contradiction
        · contradiction
        · rfl
      simp [noFields]

end SignalManager

/-- The text that a packet carries as its second argument. -/
def Packet.text (packet : Packet) : Option String :=
  match packet.arg 1 with
  | .string text => some text
  | _ => none

/-- An offer and an answer carry a text, and a rejection needs none. -/
def Packet.Carries (packet : Packet) : Prop :=
  packet.event = "reject" ∨ packet.text.isSome = true

@[simp] theorem Server.forwarded_event (server : Server) (sender : SocketId) (packet : Packet) :
    (server.forwarded sender packet).event = packet.event := rfl

/-- The field of a forwarded packet names the sender, if the sender has a name. -/
theorem Server.getString_from (server : Server) (sender : SocketId) (packet : Packet) :
    SignalManager.getString (server.forwarded sender packet) "from" =
      server.peerNames.get sender.val := by
  have named : SignalManager.getString
      ⟨packet.event, [jsonObject [("from", server.fromPeerName sender)]]⟩ "from" =
        server.peerNames.get sender.val := by
    unfold fromPeerName
    cases server.peerNames.get sender.val <;> rfl
  unfold forwarded Packet.payload
  split
  · cases packet.arg 1 <;> exact named
  · cases packet.arg 1 <;> exact named
  · cases packet.arg 1 <;> exact named
  · exact named

/-- The payload field of a forwarded packet holds the text that was sent. -/
theorem Server.getString_payload (server : Server) (sender : SocketId) {packet : Packet}
    {field : String} (payload : packet.payload = [(field, packet.arg 1)])
    (other : field ≠ "from") :
    SignalManager.getString (server.forwarded sender packet) field = packet.text := by
  rw [forwarded, payload, Packet.text]
  unfold fromPeerName
  cases server.peerNames.get sender.val <;> cases packet.arg 1 <;>
    simp [SignalManager.getString, jsonObject, Packet.arg, List.lookup_cons,
      beq_false_of_ne other]

/-- A forwarded packet is readable when the sender has a name and the payload is a text. -/
theorem Server.readable_forwarded_iff (server : Server) (sender : SocketId) {packet : Packet}
    (isCall : packet.event ∈ ["offer", "answer", "reject"]) :
    SignalManager.Readable (server.forwarded sender packet) ↔
      (server.peerNames.get sender.val).isSome = true ∧ packet.Carries := by
  have named := server.getString_from sender packet
  obtain ⟨event, args⟩ := packet
  simp only [List.mem_cons, List.not_mem_nil, or_false] at isCall
  rcases isCall with rfl | rfl | rfl
  · have text : SignalManager.getString (server.forwarded sender ⟨"offer", args⟩) "sdpOffer" =
        Packet.text ⟨"offer", args⟩ := server.getString_payload sender rfl (by decide)
    simp [SignalManager.Readable, SignalManager.fields, named, text, Packet.Carries, and_comm]
  · have text : SignalManager.getString (server.forwarded sender ⟨"answer", args⟩) "sdpAnswer" =
        Packet.text ⟨"answer", args⟩ := server.getString_payload sender rfl (by decide)
    simp [SignalManager.Readable, SignalManager.fields, named, text, Packet.Carries, and_comm]
  · simp [SignalManager.Readable, SignalManager.fields, named, Packet.Carries]

namespace Hub

variable {hub : Hub} {sender : SocketId} {packet : Packet}

/-- The hub forwards a packet when the handler emits it to the room of a route. -/
def Forwards (hub : Hub) (sender : SocketId) (packet forwarded : Packet) : Prop :=
  ∃ server room, hub.server.handle sender packet = .ok (server, some (room, forwarded))

/-- What is forwarded is readable, and no handler that receives it reads through null. -/
def ForwardsReadable (hub : Hub) (sender : SocketId) (packet : Packet) : Prop :=
  (∀ forwarded, hub.Forwards sender packet forwarded → SignalManager.Readable forwarded) ∧
    ∀ next deliveries, hub.process (.packet sender packet) = some (next, deliveries) →
      ∀ receiver, .faults ∉ SignalManager.reactions receiver deliveries

/-- A target is routed when its text is a key of `peerIds`. -/
def Routed (hub : Hub) (target : JsValue) : Prop :=
  ∃ key, target.toText = .ok key ∧ (hub.server.peerIds.get key).isSome = true

theorem forwards_iff (isRelay : packet.event ∈ relayEvents) (forwarded : Packet) :
    hub.Forwards sender packet forwarded ↔
      hub.Routed (packet.arg 0) ∧ forwarded = hub.server.forwarded sender packet := by
  rw [Forwards, Routed, Server.handle_relay _ _ isRelay]
  cases (packet.arg 0).toText with
  | error _ => simp [Except.map]
  | ok key =>
      simp only [Except.map, Except.ok.injEq, Prod.mk.injEq, Option.map_eq_some_iff,
        exists_eq_left', Option.isSome_iff_exists]
      constructor
      · rintro ⟨_, _, _, _, routed, _, sent⟩
        exact ⟨⟨_, routed⟩, sent.symm⟩
      · rintro ⟨⟨_, routed⟩, sent⟩
        exact ⟨_, _, rfl, _, routed, rfl, sent.symm⟩

/-- Every delivery is a packet that the hub forwards. -/
theorem forwards_of_delivered {next : Hub} {deliveries : List (SocketId × Packet)}
    (processed : hub.process (.packet sender packet) = some (next, deliveries))
    {delivery : SocketId × Packet} (delivered : delivery ∈ deliveries) :
    hub.Forwards sender packet delivery.2 := by
  simp only [process, Option.ite_none_right_eq_some] at processed
  obtain ⟨_, handled⟩ := processed
  cases outcome : hub.server.handle sender packet with
  | error _ => simp [outcome] at handled
  | ok result =>
      obtain ⟨server, out⟩ := result
      simp only [outcome, Option.some.injEq, Prod.mk.injEq] at handled
      rw [← handled.2] at delivered
      cases out with
      | none => cases delivered
      | some sent =>
          obtain ⟨receiver, _, rfl⟩ := List.mem_map.mp delivered
          exact ⟨server, sent.1, outcome⟩

/-- What the hub forwards is readable exactly when a routed packet carries a text, or needs
none, and comes from a socket that has registered. -/
theorem forwards_readable_iff (hub : Hub) (reached : machine.Reachable hub) (sender : SocketId)
    (inside : sender ∈ hub.connected) (packet : Packet)
    (isCall : packet.event ∈ ["offer", "answer", "reject"]) :
    hub.ForwardsReadable sender packet ↔
      (hub.Routed (packet.arg 0) →
        (hub.registeredName sender).isSome = true ∧ packet.Carries) := by
  have isRelay : packet.event ∈ relayEvents := List.mem_append_left ["ice-candidate"] isCall
  rw [← (consistent_of_reachable reached).named sender inside,
    ← Server.readable_forwarded_iff _ _ isCall]
  constructor
  · rintro ⟨readable, _⟩ routed
    exact readable _ ((forwards_iff isRelay _).mpr ⟨routed, rfl⟩)
  · intro readable
    have understood (forwarded : Packet) (forwards : hub.Forwards sender packet forwarded) :
        SignalManager.Readable forwarded := by
      obtain ⟨routed, rfl⟩ := (forwards_iff isRelay _).mp forwards
      exact readable routed
    refine ⟨understood, ?_⟩
    intro next deliveries processed receiver faults
    obtain ⟨delivery, member, faulted⟩ := List.mem_map.mp faults
    have delivered := (List.mem_filter.mp member).1
    exact (SignalManager.receive_faults_iff delivery.2).mp faulted
      (understood _ (forwards_of_delivered processed delivered))

/-- An offer of a registered socket is readable. -/
theorem forwards_readable_iff_sharedName :
    ∃ hub : Hub, hub.ForwardsReadable firstSocket ⟨"offer", [.string "alice", .string "sdp"]⟩ := by
  obtain ⟨hub, reached, checked⟩ := Machine.reachable_of_exec machine rfl sharedNameRun
    (fun hub => firstSocket ∈ hub.connected ∧ (hub.registeredName firstSocket).isSome = true)
    (by decide)
  obtain ⟨inside, registered⟩ := of_decide_eq_true checked
  exact ⟨hub, (forwards_readable_iff hub reached firstSocket inside _ (by decide)).mpr
    fun _ => ⟨registered, .inr rfl⟩⟩

/-- The offer of a socket that never registered has no sender. -/
theorem forwards_readable_fails :
    ¬∀ hub, machine.Reachable hub → ∀ sender ∈ hub.connected, ∀ packet : Packet,
      packet.event ∈ ["offer", "answer", "reject"] → hub.ForwardsReadable sender packet := by
  intro claim
  obtain ⟨hub, reached, checked⟩ := Machine.reachable_of_exec machine rfl
    (oneNameRun ++ [.connect secondSocket])
    (fun hub => secondSocket ∈ hub.connected ∧ hub.server.peerNames.get "s2" = none ∧
      (hub.server.peerIds.get "alice").isSome = true)
    (by decide)
  obtain ⟨inside, unnamed, routed⟩ := of_decide_eq_true checked
  have readable := (claim hub reached secondSocket inside
    ⟨"offer", [.string "alice", .string "sdp"]⟩ (by decide)).1 _
    ((forwards_iff (by decide) _).mpr ⟨⟨"alice", rfl, routed⟩, rfl⟩)
  have named := ((Server.readable_forwarded_iff _ _ (by decide)).mp readable).1
  have isNone : hub.server.peerNames.get secondSocket.val = none := unnamed
  rw [isNone] at named
  cases named

end Hub
end VoiceCall.Signalling
