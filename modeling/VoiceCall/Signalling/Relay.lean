import VoiceCall.Signalling.Routes

namespace VoiceCall.Signalling

open Foundation

namespace SignalManager

def sendOffer (sdpOffer targetPeerId : String) : Packet :=
  ⟨"offer", [.string targetPeerId, .string sdpOffer]⟩

def sendAnswer (sdpAnswer targetPeerId : String) : Packet :=
  ⟨"answer", [.string targetPeerId, .string sdpAnswer]⟩

def sendReject (peerId : String) : Packet := ⟨"reject", [.string peerId]⟩

def sendIceCandidate (iceCandidate : String) : Packet :=
  ⟨"ice-candidate", [.string iceCandidate]⟩

/-- The last call of `connectToSignalingServer` emits the name. -/
def sendRegister (peerId : String) : Packet := ⟨"register", [.string peerId]⟩

/-- The signals that the event handlers emit. -/
inductive Signal where
  | onOfferReceived (peerID sdp : String)
  | onAnswerReceived (peerID sdp : String)
  | onRejectReceived (peerID : String)
deriving DecidableEq, Repr

/-- A handler emits a signal, does nothing, or reads through a pointer that is not a string. -/
inductive Reaction where
  | emits (signal : Signal)
  | silent
  | faults
deriving DecidableEq

/-- The read takes a string member out of the first argument of an event. -/
def getString (packet : Packet) (field : String) : Option String :=
  match packet.arg 0 with
  | .object properties =>
      match properties.lookup field with
      | some (.string text) => some text
      | _ => none
  | _ => none

/-- The handlers that `connectToSignalingServer` installs, by event name. -/
def receive (packet : Packet) : Reaction :=
  match packet.event with
  | "offer" =>
      match getString packet "sdpOffer", getString packet "from" with
      | some sdpOffer, some sender => .emits (.onOfferReceived sender sdpOffer)
      | _, _ => .faults
  | "answer" =>
      match getString packet "sdpAnswer", getString packet "from" with
      | some sdpAnswer, some sender => .emits (.onAnswerReceived sender sdpAnswer)
      | _, _ => .faults
  | "reject" =>
      match getString packet "from" with
      | some sender => .emits (.onRejectReceived sender)
      | none => .faults
  | _ => .silent

/-- The three kinds of message that one client sends to another. -/
inductive Message where
  | offer (sdp : String)
  | answer (sdp : String)
  | reject
deriving DecidableEq, Repr

def Message.send (target : String) : Message → Packet
  | .offer sdp => sendOffer sdp target
  | .answer sdp => sendAnswer sdp target
  | .reject => sendReject target

/-- The signal that a message from a named sender should become. -/
def Message.signal (sender : String) : Message → Signal
  | .offer sdp => .onOfferReceived sender sdp
  | .answer sdp => .onAnswerReceived sender sdp
  | .reject => .onRejectReceived sender

theorem Message.send_addressed (message : Message) (target : String) :
    (message.send target).AddressedTo target := by
  cases message <;>
    exact ⟨by simp [send, sendOffer, sendAnswer, sendReject, relayEvents], rfl⟩

/-- The emitter, the relay and the receiver agree on every field and position. -/
theorem Message.receive_forwarded (message : Message) (target sender : String) {server : Server}
    {socketId : SocketId} (named : server.peerNames.get socketId.val = some sender) :
    receive (server.forwarded socketId (message.send target)) =
      .emits (message.signal sender) := by
  cases message <;>
    simp [send, sendOffer, sendAnswer, sendReject, Server.forwarded, Packet.payload, Packet.arg,
      Server.fromPeerName, named, jsonObject, receive, getString, signal, List.lookup_cons]

/-- The reactions of one socket's client to the packets that reach it. -/
def reactions (socketId : SocketId) (deliveries : List (SocketId × Packet)) : List Reaction :=
  (deliveries.filter fun delivery => delivery.1 = socketId).map fun delivery =>
    receive delivery.2

end SignalManager

namespace Hub

variable {hub : Hub}

/-- Every socket registered at most once. -/
def RegistersOnce (hub : Hub) : Prop := (hub.registrations.map Prod.fst).Nodup

theorem RegistersOnce.before {next : Hub} {event : HubEvent}
    (grown : next.history = hub.history ++ [event]) (once : next.RegistersOnce) :
    hub.RegistersOnce := by
  rw [RegistersOnce, registrations_append grown, List.map_append] at once
  exact once.sublist (List.sublist_append_left _ _)

/-- A socket that registers once has at most one route. -/
theorem Consistent.singleRoute (consistent : hub.Consistent) (once : hub.RegistersOnce)
    (socketId : SocketId) : hub.SingleRoute socketId := by
  intro first second routedFirst routedSecond
  have firstEntry := consistent.claimed _ _ (consistent.routed _ _ routedFirst)
  have secondEntry := consistent.claimed _ _ (consistent.routed _ _ routedSecond)
  exact congrArg Prod.snd (List.inj_on_of_nodup_map once firstEntry secondEntry rfl)

/-- No route dangles while every socket registers at most once. -/
theorem noDanglingRoutes_of_registersOnce (reached : machine.Reachable hub)
    (once : hub.RegistersOnce) : hub.NoDanglingRoutes := by
  induction reached with
  | initial start =>
      subst start
      exact ⟨by simp [empty, Server.empty], by simp [empty, Server.empty]⟩
  | step before _ taken ih =>
      have grown := (step_cases taken).1
      have onceBefore := once.before grown
      refine (ih onceBefore).step (fun socketId _ => ?_) taken
      exact (consistent_of_reachable before).singleRoute onceBefore socketId

/-- The routes of the server implement the directory of last registrants. -/
theorem routes_refine_directory (reached : machine.Reachable hub) (once : hub.RegistersOnce)
    (name : String) : hub.server.peerIds.get name = hub.directory.lookup name := by
  have consistent := consistent_of_reachable reached
  have clean := noDanglingRoutes_of_registersOnce reached once
  apply Option.ext
  intro socketId
  rw [Directory.lookup_eq_some_iff, consistent.present]
  constructor
  · intro routed
    exact ⟨consistent.routed name socketId routed, clean.1 name socketId routed⟩
  · rintro ⟨claimed, inside⟩
    exact consistent.kept name socketId claimed inside

/-- A message reaches the client that the directory names, once and unchanged, and no other. -/
theorem relay_endToEnd (hub : Hub) (reached : machine.Reachable hub) (once : hub.RegistersOnce)
    (socketId : SocketId) (inside : socketId ∈ hub.connected) (sender : String)
    (registered : hub.registeredName socketId = some sender)
    (message : SignalManager.Message) (target : String) :
    ∃ next deliveries,
      hub.process (.packet socketId (message.send target)) = some (next, deliveries) ∧
      ∀ receiver, SignalManager.reactions receiver deliveries =
        if hub.lastRegistrant target = some receiver ∧ receiver ∈ hub.connected then
          [.emits (message.signal sender)]
        else [] := by
  have consistent := consistent_of_reachable reached
  have named : hub.server.peerNames.get socketId.val = some sender :=
    (consistent.named socketId inside).trans registered
  refine ⟨_, _, process_addressed inside (message.send_addressed target), ?_⟩
  intro receiver
  rw [routes_refine_directory reached once target]
  cases found : hub.directory.lookup target with
  | none =>
      have nobody : ¬(hub.lastRegistrant target = some receiver ∧ receiver ∈ hub.connected) := by
        rintro ⟨claimed, receiverInside⟩
        rw [← consistent.present] at receiverInside
        have looked := (hub.directory.lookup_eq_some_iff target receiver).mpr
          ⟨claimed, receiverInside⟩
        rw [found] at looked
        cases looked
      rw [if_neg nobody]
      rfl
  | some holder =>
      obtain ⟨claimed, present⟩ := (hub.directory.lookup_eq_some_iff target holder).mp found
      have holderInside := (consistent.present holder).mp present
      rw [Option.map_some, consistent.emit_connected holderInside]
      by_cases same : receiver = holder
      · subst same
        rw [if_pos ⟨claimed, holderInside⟩]
        simp [SignalManager.reactions, message.receive_forwarded target sender named]
      · have other : ¬(hub.lastRegistrant target = some receiver ∧ receiver ∈ hub.connected) :=
          fun both => same (Option.some.inj (both.1.symm.trans claimed))
        rw [if_neg other]
        simp [SignalManager.reactions, Ne.symm same]

/-- The offer of a registered socket reaches the second holder of a shared name. -/
theorem relay_endToEnd_sharedName :
    ∃ (hub next : Hub) (deliveries : List (SocketId × Packet)),
      hub.process (.packet firstSocket ((SignalManager.Message.offer "sdp").send "alice")) =
        some (next, deliveries) ∧
      ∀ receiver, SignalManager.reactions receiver deliveries =
        if hub.lastRegistrant "alice" = some receiver ∧ receiver ∈ hub.connected then
          [.emits (.onOfferReceived "alice" "sdp")]
        else [] := by
  obtain ⟨hub, reached, shared⟩ := Machine.reachable_of_exec machine rfl
    sharedNameRun
    (fun hub => (hub.registrations.map Prod.fst).Nodup ∧ firstSocket ∈ hub.connected ∧
      hub.registeredName firstSocket = some "alice")
    (by decide)
  obtain ⟨once, inside, registered⟩ := of_decide_eq_true shared
  exact ⟨hub, relay_endToEnd hub reached once firstSocket inside "alice" registered
    (.offer "sdp") "alice"⟩

end Hub
end VoiceCall.Signalling
