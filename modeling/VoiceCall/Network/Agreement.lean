import VoiceCall.Network.Roles
import VoiceCall.Network.Wiring

namespace VoiceCall

open Foundation Signalling Client

/-- An answer and a rejection reply to an offer. -/
def Signalling.SignalManager.Message.replies : SignalManager.Message → Bool
  | .offer _ => false
  | .answer _ | .reject => true

namespace Network

variable {libraries : SocketId → RtcLibrary} {net next : Network}

/-- The callee has accepted the last offer that the caller has sent to it. -/
def AcceptedLatest (net : Network) (callee caller : SocketId) : Prop :=
  ∃ sdp ∈ latestOffer (net.clients caller).log (net.localId callee), ∃ target,
    .setRemoteDescription (net.localId caller) target ⟨.offer, sdp⟩ ∈ (net.clients callee).log

/-- The caller is calling the callee, which has refused the offer of this call. -/
def RefusedCurrent (net : Network) (callee caller : SocketId) : Prop :=
  ∃ sdp, currentCall (net.clients caller).log = some (net.localId callee, some sdp) ∧
    .callRejected (net.localId caller) (some sdp) ∈ (net.clients callee).log

/-- A client that hears of an acceptance or a rejection hears it from the peer that has made it. -/
def OutcomeAgrees (net : Network) (event : NetworkEvent) (next : Network) (caller : SocketId) :
    Prop :=
  (.acceptedReceived ∈ (net.clients caller).since (next.clients caller) →
    ∃ callee ∈ net.hub.connected, ∃ sdp, event = .deliver caller ∧
      net.arriving caller = some (.onAnswerReceived (net.localId callee) sdp) ∧
      net.AcceptedLatest callee caller) ∧
  (.rejectReceived ∈ (net.clients caller).since (next.clients caller) →
    ∃ callee ∈ net.hub.connected, event = .deliver caller ∧
      net.arriving caller = some (.onRejectReceived (net.localId callee)) ∧
      net.RefusedCurrent callee caller)

/-- No rejection is on its way to the client. -/
def NoneRejecting (net : Network) (receiver : SocketId) : Prop :=
  ∀ sender ∈ net.hub.connected, .reject ∉ net.channel sender receiver

/-- The sender prepares no answer to the receiver, and no reply of it is on its way. -/
def NoneReplying (net : Network) (sender receiver : SocketId) : Prop :=
  (∀ id < (net.clients sender).created, (net.clients sender).Announces id .answer →
    ((net.clients sender).connections id).peerId ≠ net.localId receiver) ∧
  ∀ message ∈ net.channel sender receiver, message.replies = false

/-- The guard asks that replies are made to the offer that counts, and that nothing changes
this offer or the call while a reply is on its way. -/
def RepliesKept (libraries : SocketId → RtcLibrary) (net : Network) (mover : SocketId) :
    Event → Prop
  | .startCall _ | .endCall _ => net.NoneRejecting mover
  | .runQueued _ _ => (net.clients mover).ending.isSome = true → net.NoneRejecting mover
  | .acceptCall name => ∀ sdp ∈ (net.clients mover).peerSdps name,
      (libraries mover).parses sdp .offer = true →
      (libraries mover).accepts ((net.clients mover).acceptFound name) ⟨.offer, sdp⟩ = true →
      ∃ caller ∈ net.hub.connected, net.localId caller = name ∧
        latestOffer (net.clients caller).log (net.localId mover) = some sdp
  | .rejectCall name => ∃ caller ∈ net.hub.connected, net.localId caller = name ∧
      (∃ sdp ∈ (net.clients mover).peerSdps name,
        currentCall (net.clients caller).log = some (net.localId mover, some sdp)) ∧
      net.NoneRejecting caller
  | .gatheringComplete id => ∀ callee ∈ net.hub.connected,
      (net.clients mover).Offers (net.localId callee) (.gatheringComplete id) →
      net.NoneReplying callee mover
  | .offerReceived _ _ => ∀ id < (net.clients mover).created,
      ¬(net.clients mover).Announces id .offer
  | _ => True

/-- The guard holds of the event that a client sees in a step of the network. -/
def Orderly (libraries : SocketId → RtcLibrary) (net : Network) (event : NetworkEvent) : Prop :=
  ∀ moved ∈ net.clientEvent event, net.RepliesKept libraries moved.1 moved.2

instance (net : Network) (receiver : SocketId) : Decidable (net.NoneRejecting receiver) :=
  inferInstanceAs (Decidable (∀ _ ∈ net.hub.connected, _))

instance (net : Network) (sender receiver : SocketId) :
    Decidable (net.NoneReplying sender receiver) :=
  inferInstanceAs (Decidable
    ((∀ id < (net.clients sender).created, (net.clients sender).Announces id .answer →
      ((net.clients sender).connections id).peerId ≠ net.localId receiver) ∧
    ∀ message ∈ net.channel sender receiver, message.replies = false))

instance (webRtc : WebRTC) (peerId : String) : ∀ event, Decidable (webRtc.Offers peerId event)
  | .gatheringComplete id => inferInstanceAs (Decidable (webRtc.isOfferer = true ∧
      (webRtc.connections id).peerId = peerId ∧
      (webRtc.Announces id .offer ∨ webRtc.Announces id .answer)))
  | .startCall _ | .registerName _ | .endCall _ | .acceptCall _ | .rejectCall _
  | .offerReceived _ _ | .answerReceived _ _ | .rejectedReceived _ | .setRemoteCandidate _
  | .dataReady _ _ _ | .stateChanged _ _ | .remoteTrack _ | .message _ _ | .runQueued _ _ =>
      .isFalse fun offers => offers

instance (libraries : SocketId → RtcLibrary) (net : Network) (mover : SocketId) :
    ∀ event, Decidable (net.RepliesKept libraries mover event)
  | .startCall _ | .endCall _ => inferInstanceAs (Decidable (net.NoneRejecting mover))
  | .runQueued _ _ => inferInstanceAs (Decidable (_ = true → net.NoneRejecting mover))
  | .acceptCall name => inferInstanceAs (Decidable
      (∀ sdp ∈ (net.clients mover).peerSdps name, _ → _ →
        ∃ caller ∈ net.hub.connected, net.localId caller = name ∧
          latestOffer (net.clients caller).log (net.localId mover) = some sdp))
  | .rejectCall name => inferInstanceAs (Decidable
      (∃ caller ∈ net.hub.connected, net.localId caller = name ∧
        (∃ sdp ∈ (net.clients mover).peerSdps name,
          currentCall (net.clients caller).log = some (net.localId mover, some sdp)) ∧
        net.NoneRejecting caller))
  | .gatheringComplete id => inferInstanceAs (Decidable (∀ callee ∈ net.hub.connected,
      (net.clients mover).Offers (net.localId callee) (.gatheringComplete id) →
      net.NoneReplying callee mover))
  | .offerReceived _ _ => inferInstanceAs (Decidable (∀ id < (net.clients mover).created, _))
  | .registerName _ | .answerReceived _ _ | .rejectedReceived _ | .setRemoteCandidate _
  | .dataReady _ _ _ | .stateChanged _ _ | .remoteTrack _ | .message _ _ => .isTrue trivial

instance (libraries : SocketId → RtcLibrary) (net : Network) (event : NetworkEvent) :
    Decidable (Orderly libraries net event) :=
  inferInstanceAs (Decidable (∀ _ ∈ net.clientEvent event, _))

/-- Everything that will be heard as an answer or a rejection is backed by what its sender did,
and at most one rejection of a peer is on its way. -/
structure Agreeing (net : Network) : Prop where
  tagged : ∀ sender ∈ net.hub.connected, ∀ id, (net.clients sender).Announces id .offer →
    (net.clients sender).isOfferer = true
  accepting : ∀ sender ∈ net.hub.connected, ∀ id, (net.clients sender).Announces id .answer →
    ∃ receiver ∈ net.hub.connected,
      net.localId receiver = ((net.clients sender).connections id).peerId ∧
        net.AcceptedLatest sender receiver
  answering : ∀ sender ∈ net.hub.connected, ∀ receiver ∈ net.hub.connected, ∀ sdp,
    .answer sdp ∈ net.channel sender receiver → net.AcceptedLatest sender receiver
  rejecting : ∀ sender ∈ net.hub.connected, ∀ receiver ∈ net.hub.connected,
    .reject ∈ net.channel sender receiver → net.RefusedCurrent sender receiver
  once : ∀ sender ∈ net.hub.connected, ∀ receiver ∈ net.hub.connected,
    (net.channel sender receiver).count .reject ≤ 1
  known : ∀ sender ∈ net.hub.connected, ∀ message target,
    .relay message target ∈ net.toServer sender → message.replies = true →
      ∃ receiver ∈ net.hub.connected, net.localId receiver = target

section Moves

variable {mover : SocketId} {own : Event} {after : WebRTC}

/-- The log of every client only grows. -/
theorem mem_log_advance (stepped : (net.clients mover).step (libraries mover) own = some after)
    {socketId : SocketId} {observation : Observation}
    (member : observation ∈ (net.clients socketId).log) :
    observation ∈ ((net.advance mover after).clients socketId).log := by
  by_cases same : socketId = mover
  · subst same
    obtain ⟨added, grown, _⟩ := WebRTC.step_logs stepped
    rw [advance_clients_self, grown]
    exact List.mem_append_left _ member
  · rwa [advance_clients_other same]

/-- An acceptance stands while its answer is prepared or on its way. -/
theorem AcceptedLatest.advance {sender receiver : SocketId}
    (accepted : net.AcceptedLatest sender receiver)
    (stepped : (net.clients mover).step (libraries mover) own = some after)
    (keeps : net.RepliesKept libraries mover own) (inside : sender ∈ net.hub.connected)
    (replying : ¬net.NoneReplying sender receiver) :
    (net.advance mover after).AcceptedLatest sender receiver := by
  obtain ⟨sdp, latest, target, called⟩ := accepted
  refine ⟨sdp, ?_, target, mem_log_advance stepped called⟩
  by_cases same : receiver = mover
  · subst same
    rw [advance_clients_self]
    refine (WebRTC.latestOffer_step stepped fun offers => ?_).trans latest
    cases own with
    | gatheringComplete id => exact replying (keeps sender inside offers)
    | _ => exact offers
  · rw [advance_clients_other same]
    exact latest

/-- A rejection stands while it is on its way. -/
theorem RefusedCurrent.advance {sender receiver : SocketId}
    (refused : net.RefusedCurrent sender receiver)
    (stepped : (net.clients mover).step (libraries mover) own = some after)
    (keeps : net.RepliesKept libraries mover own)
    (disrupted : (net.clients mover).Disrupts own → net.NoneRejecting mover)
    (inside : sender ∈ net.hub.connected) (waiting : .reject ∈ net.channel sender receiver) :
    (net.advance mover after).RefusedCurrent sender receiver := by
  obtain ⟨sdp, current, called⟩ := refused
  refine ⟨sdp, ?_, mem_log_advance stepped called⟩
  by_cases same : receiver = mover
  · subst same
    rw [advance_clients_self]
    refine (WebRTC.currentCall_step stepped ?_ ?_).trans current
    · exact fun disrupts => disrupted disrupts sender inside waiting
    · intro call isCurrent offers
      rw [current, Option.mem_some_iff] at isCurrent
      subst isCurrent
      cases own with
      | gatheringComplete id =>
          have reply := (keeps sender inside offers).2 _ waiting
          cases reply
      | _ => exact offers
  · rw [advance_clients_other same]
    exact current

/-- A reply that a step emits is an announced answer or the rejection that the user makes. -/
theorem Agreeing.emitted (agreeing : net.Agreeing) (moverInside : mover ∈ net.hub.connected)
    (stepped : (net.clients mover).step (libraries mover) own = some after)
    {message : SignalManager.Message} {target : String} (replies : message.replies = true)
    (sent : .relay message target ∈ (net.clients mover).emits after) :
    (∃ id sdp, message = .answer sdp ∧ (net.clients mover).Announces id .answer ∧
        ((net.clients mover).connections id).peerId = target) ∨
      (message = .reject ∧ own = .rejectCall target ∧
        (net.clients mover).emits after = [.relay .reject target]) := by
  rcases WebRTC.emits_cases stepped with none | ⟨id, description, _, announces, emitted⟩ |
    ⟨name, called, emitted⟩ | ⟨username, _, emitted⟩
  · rw [none] at sent
    cases sent
  · rw [emitted] at sent
    have same := List.mem_singleton.mp sent
    rw [Emission.relay.injEq] at same
    obtain ⟨rfl, rfl⟩ := same
    cases offering : (net.clients mover).isOfferer with
    | true =>
        rw [offering] at replies
        cases replies
    | false =>
        left
        refine ⟨id, description.sdp, by simp, ?_, rfl⟩
        cases kind : description.type with
        | answer => rwa [kind] at announces
        | offer =>
            rw [kind] at announces
            rw [agreeing.tagged mover moverInside id announces] at offering
            cases offering
  · rw [emitted] at sent
    cases List.mem_singleton.mp sent
    exact .inr ⟨rfl, called, emitted⟩
  · rw [emitted] at sent
    cases List.mem_singleton.mp sent

/-- A step keeps the tags of announced offers. -/
theorem Agreeing.tagged_advance (agreeing : net.Agreeing) (sound : (net.clients mover).Sound)
    (moverInside : mover ∈ net.hub.connected)
    (stepped : (net.clients mover).step (libraries mover) own = some after)
    (keeps : net.RepliesKept libraries mover own) (stays : ∀ name, own ≠ .registerName name)
    {id : ConnectionId} (announces : after.Announces id .offer) : after.isOfferer = true := by
  rcases announces.before sound stepped with ⟨older, _⟩ | ⟨called, _⟩ | ⟨_, _, _, wrong⟩
  · rcases WebRTC.isOfferer_step stepped with same | ⟨_, _, offering⟩ | ⟨_, _, received⟩ |
      ⟨username, registered⟩
    · rw [same]
      exact agreeing.tagged mover moverInside id older
    · exact offering
    · subst received
      exact absurd older (keeps id older.1.1)
    · exact absurd registered (stays username)
  · rw [called] at stepped
    rw [← Option.some.inj stepped, WebRTC.startCall_eq]
    rfl
  · cases wrong

/-- A step announces no answer but to an offer that counts. -/
theorem Agreeing.accepting_advance (agreeing : net.Agreeing) (sound : (net.clients mover).Sound)
    (moverInside : mover ∈ net.hub.connected)
    (stepped : (net.clients mover).step (libraries mover) own = some after)
    (keeps : net.RepliesKept libraries mover own) {id : ConnectionId}
    (announces : after.Announces id .answer) :
    ∃ receiver ∈ net.hub.connected, net.localId receiver = (after.connections id).peerId ∧
      (net.advance mover after).AcceptedLatest mover receiver := by
  rcases announces.before sound stepped with ⟨older, sameName⟩ | ⟨_, wrong⟩ |
    ⟨sdp, called, accepts, _⟩
  · obtain ⟨receiver, inside, named, accepted⟩ :=
      agreeing.accepting mover moverInside id older
    refine ⟨receiver, inside, by rw [sameName, named], ?_⟩
    exact accepted.advance stepped keeps moverInside
      fun none => none.1 id older.1.1 older named.symm
  · cases wrong
  · subst called
    obtain ⟨receiver, inside, named, latest⟩ := keeps sdp accepts.1 accepts.2.1 accepts.2.2
    refine ⟨receiver, inside, named, sdp, ?_, ?_⟩
    · by_cases same : receiver = mover
      · subst same
        rw [advance_clients_self]
        exact (WebRTC.latestOffer_step stepped fun offers => offers).trans latest
      · rw [advance_clients_other same]
        exact latest
    · obtain ⟨added, grown, _, logged⟩ := WebRTC.step_logs stepped
      obtain ⟨target, member⟩ := logged sdp accepts
      refine ⟨target, ?_⟩
      rw [advance_clients_self, grown]
      refine List.mem_append_right _ ?_
      rw [show (net.advance mover after).localId receiver = _ from named]
      exact member

/-- An answer that a step emits is backed by the acceptance. -/
theorem Agreeing.answering_advance (agreeing : net.Agreeing) (wired : net.Wired)
    (moverInside : mover ∈ net.hub.connected)
    (stepped : (net.clients mover).step (libraries mover) own = some after)
    (keeps : net.RepliesKept libraries mover own) {receiver : SocketId}
    (receiverInside : receiver ∈ net.hub.connected) {sdp : String}
    (sent : .relay (.answer sdp) (net.localId receiver) ∈ (net.clients mover).emits after) :
    (net.advance mover after).AcceptedLatest mover receiver := by
  rcases agreeing.emitted moverInside stepped rfl sent with
    ⟨id, _, _, announces, named⟩ | ⟨wrong, _⟩
  · obtain ⟨holder, inside, leads, accepted⟩ := agreeing.accepting mover moverInside id announces
    have same := wired.distinct holder inside receiver receiverInside (leads.trans named)
    subst same
    exact accepted.advance stepped keeps moverInside
      fun none => none.1 id announces.1.1 announces named
  · cases wrong

/-- A rejection that a step emits is the user's, and no other is on its way to its receiver. -/
theorem Agreeing.rejecting_advance (agreeing : net.Agreeing) (wired : net.Wired)
    (moverInside : mover ∈ net.hub.connected)
    (stepped : (net.clients mover).step (libraries mover) own = some after)
    (keeps : net.RepliesKept libraries mover own) {receiver : SocketId}
    (receiverInside : receiver ∈ net.hub.connected)
    (sent : .relay .reject (net.localId receiver) ∈ (net.clients mover).emits after) :
    (net.advance mover after).RefusedCurrent mover receiver ∧ net.NoneRejecting receiver ∧
      (net.clients mover).emits after = [.relay .reject (net.localId receiver)] := by
  rcases agreeing.emitted moverInside stepped rfl sent with ⟨_, _, wrong, _⟩ | ⟨_, refused, only⟩
  · cases wrong
  · rw [refused] at keeps stepped
    obtain ⟨caller, inside, leads, ⟨sdp, stored, current⟩, quiet⟩ := keeps
    have same := wired.distinct caller inside receiver receiverInside leads
    subst same
    refine ⟨⟨sdp, ?_, ?_⟩, quiet, only⟩
    · by_cases self : caller = mover
      · subst self
        rw [advance_clients_self]
        refine (WebRTC.currentCall_step stepped ?_ ?_).trans current
        · exact fun disrupts => disrupts
        · exact fun _ _ offers => offers
      · rw [advance_clients_other self]
        exact current
    · obtain ⟨added, grown, logged⟩ := WebRTC.step_logs stepped
      rw [advance_clients_self, grown, logged, Option.mem_def.mp stored]
      exact List.mem_append_right _ List.mem_cons_self

/-- Only the client that moves emits. -/
theorem mem_sent {sender : SocketId} {message : SignalManager.Message} {target : String}
    (member : message ∈ ((net.clients sender).emits
      ((net.advance mover after).clients sender)).filterMap (addressed target)) :
    sender = mover ∧ .relay message target ∈ (net.clients mover).emits after := by
  obtain ⟨emission, emitted, leads⟩ := List.mem_filterMap.mp member
  by_cases same : sender = mover
  · subst same
    rw [advance_clients_self] at emitted
    refine ⟨rfl, ?_⟩
    cases emission with
    | register name => cases leads
    | relay other name =>
        obtain ⟨named, sameMessage⟩ := Option.ite_none_right_eq_some.mp leads
        cases sameMessage
        rwa [← named]
  · rw [advance_clients_other same, WebRTC.emits_self] at emitted
    cases emitted

/-- What a step adds to a channel is what its own client has emitted. -/
theorem mem_channel_advance {sender receiver : SocketId} {message : SignalManager.Message}
    (member : message ∈ (net.advance mover after).channel sender receiver) :
    message ∈ net.channel sender receiver ∨ sender = mover ∧
      .relay message (net.localId receiver) ∈ (net.clients mover).emits after := by
  rw [channel_advance, List.mem_append] at member
  exact member.imp_right mem_sent

/-- A step of a client keeps every reply backed. -/
theorem Agreeing.advance (agreeing : net.Agreeing) (wired : net.Wired)
    (sound : (net.clients mover).Sound) (moverInside : mover ∈ net.hub.connected)
    (stepped : (net.clients mover).step (libraries mover) own = some after)
    (keeps : net.RepliesKept libraries mover own) (stays : ∀ name, own ≠ .registerName name)
    (disrupted : (net.clients mover).Disrupts own → net.NoneRejecting mover) :
    (net.advance mover after).Agreeing := by
  constructor
  · intro sender inside id announces
    by_cases same : sender = mover
    · subst same
      rw [advance_clients_self] at announces ⊢
      exact agreeing.tagged_advance sound moverInside stepped keeps stays announces
    · rw [advance_clients_other same] at announces ⊢
      exact agreeing.tagged sender inside id announces
  · intro sender inside id announces
    by_cases same : sender = mover
    · subst same
      rw [advance_clients_self] at announces ⊢
      exact agreeing.accepting_advance sound moverInside stepped keeps announces
    · rw [advance_clients_other same] at announces ⊢
      obtain ⟨receiver, receiverInside, named, accepted⟩ :=
        agreeing.accepting sender inside id announces
      exact ⟨receiver, receiverInside, named, accepted.advance stepped keeps inside
        fun none => none.1 id announces.1.1 announces named.symm⟩
  · intro sender inside receiver receiverInside sdp waiting
    rcases mem_channel_advance waiting with old | ⟨rfl, sent⟩
    · refine (agreeing.answering sender inside receiver receiverInside sdp old).advance stepped
        keeps inside fun none => ?_
      cases none.2 _ old
    · exact agreeing.answering_advance wired moverInside stepped keeps receiverInside sent
  · intro sender inside receiver receiverInside waiting
    rcases mem_channel_advance waiting with old | ⟨rfl, sent⟩
    · exact (agreeing.rejecting sender inside receiver receiverInside old).advance stepped keeps
        disrupted inside old
    · exact (agreeing.rejecting_advance wired moverInside stepped keeps receiverInside sent).1
  · intro sender inside receiver receiverInside
    by_cases new : sender = mover ∧
        .relay .reject (net.localId receiver) ∈ (net.clients mover).emits after
    · obtain ⟨rfl, sent⟩ := new
      obtain ⟨_, quiet, only⟩ :=
        agreeing.rejecting_advance wired moverInside stepped keeps receiverInside sent
      rw [channel_advance, advance_clients_self, only, List.count_append,
        List.count_eq_zero_of_not_mem (quiet sender inside)]
      simp [addressed]
    · rw [channel_advance, List.count_append,
        List.count_eq_zero_of_not_mem fun added => new (mem_sent added)]
      exact agreeing.once sender inside receiver receiverInside
  · intro sender inside message target queued replies
    by_cases same : sender = mover
    · subst same
      rw [advance_toServer, Function.update_self, List.mem_append] at queued
      rcases queued with old | sent
      · exact agreeing.known sender inside message target old replies
      · rcases agreeing.emitted moverInside stepped replies sent with
          ⟨id, _, _, announces, named⟩ | ⟨_, refused, _⟩
        · obtain ⟨receiver, receiverInside, leads, _⟩ :=
            agreeing.accepting sender inside id announces
          exact ⟨receiver, receiverInside, leads.trans named⟩
        · rw [refused] at keeps
          obtain ⟨caller, callerInside, leads, _⟩ := keeps
          exact ⟨caller, callerInside, leads⟩
    · rw [advance_toServer, Function.update_of_ne same] at queued
      exact agreeing.known sender inside message target queued replies

end Moves

/-- A network with fewer messages on their way and the same clients agrees as well. -/
theorem Agreeing.of_fewer (agreeing : net.Agreeing) (clients : next.clients = net.clients)
    (names : next.localId = net.localId) (sockets : next.hub.connected = net.hub.connected)
    (channels : ∀ sender ∈ net.hub.connected, ∀ receiver ∈ net.hub.connected,
      (next.channel sender receiver).Sublist (net.channel sender receiver))
    (queues : ∀ sender, ∀ emission ∈ next.toServer sender, emission ∈ net.toServer sender) :
    next.Agreeing := by
  have accepted (sender receiver : SocketId) (before : net.AcceptedLatest sender receiver) :
      next.AcceptedLatest sender receiver := by rwa [AcceptedLatest, clients, names]
  have refused (sender receiver : SocketId) (before : net.RefusedCurrent sender receiver) :
      next.RefusedCurrent sender receiver := by rwa [RefusedCurrent, clients, names]
  constructor
  · rw [sockets, clients]
    exact agreeing.tagged
  · rw [sockets, clients, names]
    intro sender inside id announces
    obtain ⟨receiver, receiverInside, named, before⟩ :=
      agreeing.accepting sender inside id announces
    exact ⟨receiver, receiverInside, named, accepted sender receiver before⟩
  · rw [sockets]
    intro sender inside receiver receiverInside sdp waiting
    exact accepted sender receiver (agreeing.answering sender inside receiver receiverInside sdp
      ((channels sender inside receiver receiverInside).subset waiting))
  · rw [sockets]
    intro sender inside receiver receiverInside waiting
    exact refused sender receiver (agreeing.rejecting sender inside receiver receiverInside
      ((channels sender inside receiver receiverInside).subset waiting))
  · rw [sockets]
    intro sender inside receiver receiverInside
    exact ((channels sender inside receiver receiverInside).count_le _).trans
      (agreeing.once sender inside receiver receiverInside)
  · rw [sockets, names]
    intro sender inside message target queued
    exact agreeing.known sender inside message target (queues sender _ queued)

theorem Agreeing.popped (agreeing : net.Agreeing) {receiver : SocketId} {packet : Packet}
    {rest : List Packet} (waiting : net.toClient receiver = packet :: rest) :
    (net.popped receiver rest).Agreeing := by
  refine agreeing.of_fewer rfl rfl rfl ?_ fun _ _ queued => queued
  intro sender _ other _
  by_cases same : other = receiver
  · subst same
    rw [channel_popped waiting sender]
    exact List.sublist_append_right _ _
  · rw [channel_popped_other same]

theorem Agreeing.serve (agreeing : net.Agreeing) (wired : net.Wired) {mover : SocketId}
    (ran : net.step libraries (.serve mover) = some next) : next.Agreeing := by
  obtain ⟨emission, rest, result, waiting, processed, made⟩ := serve_cases ran
  obtain ⟨_, _, sockets, _⟩ := Hub.step_cases (Hub.step_of_process processed)
  refine agreeing.of_fewer (by rw [made]; rfl) (by rw [made]; rfl) (by rw [made]; exact sockets)
    (fun sender inside receiver => channel_serve wired ran inside) ?_
  intro sender queued member
  rw [made] at member
  exact (served_queue waiting result sender).subset member

/-- A client that joins has nothing to announce. -/
theorem not_announces_registered (wild : Bool) (name : String) (id : ConnectionId)
    (type : SdpType) : ¬((WebRTC.initial wild).registerName name).Announces id type := by
  intro announces
  have sound : ((WebRTC.initial wild).setIsOfferer false).Sound :=
    (WebRTC.Sound.initial wild).setIsOfferer false
  have older : ((WebRTC.initial wild).setIsOfferer false).Announces id type :=
    (WebRTC.Announces.of_addPeer sound announces).1
  exact absurd older.1.1 (Nat.not_lt_zero id)

/-- A client that joins neither replies nor is replied to. -/
theorem Agreeing.join (agreeing : net.Agreeing) (wired : net.Wired) {newcomer : SocketId}
    {name : String} {wild : Bool}
    (ran : net.step libraries (.join newcomer name wild) = some next) : next.Agreeing := by
  have joins := wired.joins ran
  have accepted {sender receiver : SocketId} (senderOld : sender ∈ net.hub.connected)
      (receiverOld : receiver ∈ net.hub.connected) (before : net.AcceptedLatest sender receiver) :
      next.AcceptedLatest sender receiver := by
    rwa [AcceptedLatest, joins.clients _ (joins.older senderOld),
      joins.clients _ (joins.older receiverOld), joins.names _ (joins.older senderOld),
      joins.names _ (joins.older receiverOld)]
  have refused {sender receiver : SocketId} (senderOld : sender ∈ net.hub.connected)
      (receiverOld : receiver ∈ net.hub.connected) (before : net.RefusedCurrent sender receiver) :
      next.RefusedCurrent sender receiver := by
    rwa [RefusedCurrent, joins.clients _ (joins.older senderOld),
      joins.clients _ (joins.older receiverOld), joins.names _ (joins.older senderOld),
      joins.names _ (joins.older receiverOld)]
  -- a reply in a channel runs between two clients that were there before
  have replied {sender receiver : SocketId} (senderInside : sender ∈ next.hub.connected)
      (receiverInside : receiver ∈ next.hub.connected) {message : SignalManager.Message}
      (replies : message.replies = true) (waiting : message ∈ next.channel sender receiver) :
      sender ∈ net.hub.connected ∧ receiver ∈ net.hub.connected ∧
        next.channel sender receiver = net.channel sender receiver := by
    rcases (joins.sockets sender).mp senderInside with rfl | senderOld
    · rw [joins.channel_from wired] at waiting
      cases waiting
    · rcases (joins.sockets receiver).mp receiverInside with rfl | receiverOld
      · obtain ⟨holder, inside, named⟩ := agreeing.known sender senderOld message name
          (joins.channel_to (joins.older senderOld) waiting) replies
        exact absurd named (joins.unused holder inside)
      · exact ⟨senderOld, receiverOld,
          joins.channel_old (joins.older senderOld) (joins.older receiverOld)⟩
  constructor
  · intro sender inside id announces
    rcases (joins.sockets sender).mp inside with rfl | old
    · rw [joins.ownClient] at announces
      exact absurd announces (not_announces_registered wild name id _)
    · rw [joins.clients _ (joins.older old)] at announces ⊢
      exact agreeing.tagged sender old id announces
  · intro sender inside id announces
    rcases (joins.sockets sender).mp inside with rfl | old
    · rw [joins.ownClient] at announces
      exact absurd announces (not_announces_registered wild name id _)
    · rw [joins.clients _ (joins.older old)] at announces ⊢
      obtain ⟨receiver, receiverOld, named, before⟩ := agreeing.accepting sender old id announces
      exact ⟨receiver, (joins.sockets receiver).mpr (.inr receiverOld),
        by rw [joins.names _ (joins.older receiverOld), named], accepted old receiverOld before⟩
  · intro sender inside receiver receiverInside sdp waiting
    obtain ⟨old, receiverOld, same⟩ := replied inside receiverInside rfl waiting
    rw [same] at waiting
    exact accepted old receiverOld (agreeing.answering sender old receiver receiverOld sdp waiting)
  · intro sender inside receiver receiverInside waiting
    obtain ⟨old, receiverOld, same⟩ := replied inside receiverInside rfl waiting
    rw [same] at waiting
    exact refused old receiverOld (agreeing.rejecting sender old receiver receiverOld waiting)
  · intro sender inside receiver receiverInside
    by_cases waiting : .reject ∈ next.channel sender receiver
    · obtain ⟨old, receiverOld, same⟩ := replied inside receiverInside rfl waiting
      rw [same]
      exact agreeing.once sender old receiver receiverOld
    · rw [List.count_eq_zero_of_not_mem waiting]
      exact Nat.zero_le 1
  · intro sender inside message target queued replies
    rcases (joins.sockets sender).mp inside with rfl | old
    · rw [joins.ownQueue, List.mem_singleton] at queued
      cases queued
    · rw [joins.queues _ (joins.older old)] at queued
      obtain ⟨holder, holderOld, named⟩ := agreeing.known sender old message target queued replies
      exact ⟨holder, (joins.sockets holder).mpr (.inr holderOld),
        by rw [joins.names _ (joins.older holderOld), named]⟩

/-- The first packet for a client brings a message of some client. -/
theorem Wired.arriving (wired : net.Wired) {receiver : SocketId} {signal : SignalManager.Signal}
    (arrives : net.arriving receiver = some signal) :
    receiver ∈ net.hub.connected ∧ ∃ packet rest, net.toClient receiver = packet :: rest ∧
      SignalManager.receive packet = .emits signal ∧
      ∃ sender ∈ net.hub.connected, ∃ message : SignalManager.Message,
        signal = message.signal (net.localId sender) ∧
        net.channel sender receiver =
          message :: (net.popped receiver rest).channel sender receiver := by
  obtain ⟨packet, head, received⟩ := Option.bind_eq_some_iff.mp arrives
  obtain ⟨rest, waiting⟩ := List.head?_eq_some_iff.mp head
  have emitted : SignalManager.receive packet = .emits signal := by
    split at received
    · next other same =>
        cases received
        exact same
    · cases received
  obtain ⟨sender, inside, message, brings⟩ :=
    wired.relayed receiver packet (by rw [waiting]; exact List.mem_cons_self)
  refine ⟨?_, packet, rest, waiting, emitted, sender, inside, message, ?_, ?_⟩
  · by_contra out
    rw [(wired.outside receiver out).2] at waiting
    cases waiting
  · rw [emitted] at brings
    exact SignalManager.Reaction.emits.inj brings
  · rw [channel_popped waiting, brought_eq brings, if_pos rfl]
    rfl

/-- A rejection that is delivered was the only one on its way to its receiver. -/
theorem Agreeing.last_rejection (agreeing : net.Agreeing) (wired : net.Wired)
    {receiver : SocketId} {peerID : String} {packet : Packet} {rest : List Packet}
    (arrives : net.arriving receiver = some (.onRejectReceived peerID))
    (waiting : net.toClient receiver = packet :: rest) :
    (net.popped receiver rest).NoneRejecting receiver := by
  obtain ⟨inside, _, _, again, _, refuser, refuserInside, message, brings, first⟩ :=
    wired.arriving arrives
  rw [waiting] at again
  cases again
  have isReject : message = .reject := by
    cases message <;> cases brings
    rfl
  subst isReject
  intro sender senderInside left
  have earlier : .reject ∈ net.channel sender receiver := by
    rw [channel_popped waiting]
    exact List.mem_append_right _ left
  have backed := agreeing.rejecting sender senderInside receiver inside earlier
  have refused := agreeing.rejecting refuser refuserInside receiver inside
    (by rw [first]; exact List.mem_cons_self)
  obtain ⟨sdp, current, _⟩ := backed
  obtain ⟨other, called, _⟩ := refused
  rw [current, Option.some.injEq, Prod.mk.injEq] at called
  have same := wired.distinct sender senderInside refuser refuserInside called.1
  subst same
  have once := agreeing.once sender senderInside receiver inside
  rw [first, List.count_cons_self] at once
  have present := List.count_pos_iff.mpr left
  omega

/-- Every guarded step keeps every reply backed. -/
theorem Agreeing.step (agreeing : net.Agreeing) (wired : net.Wired)
    (sound : ∀ socketId ∈ net.hub.connected, (net.clients socketId).Sound)
    {event : NetworkEvent} (orderly : Orderly libraries net event)
    (ran : net.step libraries event = some next) : next.Agreeing := by
  cases event with
  | join newcomer name wild => exact agreeing.join wired ran
  | serve mover => exact agreeing.serve wired ran
  | act mover own =>
      obtain ⟨inside, isLocal, after, stepped, made⟩ := act_cases ran
      have keeps : net.RepliesKept libraries mover own := orderly _ rfl
      rw [made]
      refine agreeing.advance wired (sound mover inside) inside stepped keeps ?_ ?_
      · rintro name rfl
        cases isLocal
      · intro disrupts
        cases own with
        | startCall _ | endCall _ => exact keeps
        | runQueued _ _ => exact keeps disrupts
        | rejectedReceived _ => cases isLocal
        | _ => cases disrupts
  | deliver mover =>
      obtain ⟨packet, rest, waiting, ⟨signal, after, _, arrives, stepped, made⟩ | ⟨_, made⟩⟩ :=
        deliver_cases ran
      · have seen : net.clientEvent (.deliver mover) = some (mover, signal.event) := by
          rw [clientEvent, arrives, Option.map_some]
        have keeps : net.RepliesKept libraries mover signal.event := orderly _ seen
        have inside := (wired.arriving arrives).1
        rw [made]
        refine (agreeing.popped waiting).advance (wired.popped waiting) (sound mover inside) inside
          stepped ?_ ?_ ?_
        · cases signal with
          | onOfferReceived _ _ => exact keeps
          | onAnswerReceived _ _ | onRejectReceived _ => trivial
        · intro name same
          cases signal <;> cases same
        · intro disrupts
          cases signal with
          | onRejectReceived peerID => exact agreeing.last_rejection wired arrives waiting
          | onOfferReceived _ _ | onAnswerReceived _ _ => cases disrupts
      · rw [made]
        exact agreeing.popped waiting

theorem Agreeing.empty : Network.empty.Agreeing where
  tagged _ inside := by cases inside
  accepting _ inside := by cases inside
  answering _ inside := by cases inside
  rejecting _ inside := by cases inside
  once _ inside := by cases inside
  known _ inside := by cases inside

/-- Every guarded run keeps every reply backed. -/
theorem agreeing_of_reachableUnder
    (reached : (machine libraries).ReachableUnder (Orderly libraries) net) : net.Agreeing := by
  induction reached with
  | initial start =>
      subst start
      exact .empty
  | step before orderly ran ih =>
      exact ih.step (wired_of_reachable before.reachable)
        (fun socketId inside => sound_of_reachable before.reachable inside) orderly ran

/-- What a client of the network logs in a step, it logs in a step of its own. -/
theorem step_of_since (wired : net.Wired) {event : NetworkEvent}
    (ran : net.step libraries event = some next) {socketId : SocketId}
    (inside : socketId ∈ net.hub.connected) {observation : Observation}
    (heard : observation ∈ (net.clients socketId).since (next.clients socketId)) :
    ∃ own after, net.clientEvent event = some (socketId, own) ∧
      (net.clients socketId).step (libraries socketId) own = some after ∧
      observation ∈ (net.clients socketId).since after := by
  have idle : observation ∉ (net.clients socketId).since (net.clients socketId) := by
    simp [WebRTC.since]
  rcases step_clients ran with ⟨mover, own, after, seen, stepped, _, clients⟩ |
    ⟨newcomer, name, wild, rfl, _, clients⟩ | ⟨_, clients⟩
  · by_cases same : socketId = mover
    · subst same
      rw [clients, Function.update_self] at heard
      exact ⟨own, after, seen, stepped, heard⟩
    · rw [clients, Function.update_of_ne same] at heard
      exact absurd heard idle
  · rw [clients, Function.update_of_ne ((wired.joins ran).older inside)] at heard
    exact absurd heard idle
  · rw [clients] at heard
    exact absurd heard idle

/-- A slot that waits for the server runs only on the signal that is connected to it. -/
theorem arriving_of_clientEvent {event : NetworkEvent} {socketId : SocketId} {own : Event}
    (seen : net.clientEvent event = some (socketId, own)) (remote : own.isLocal = false)
    (ran : net.step libraries event = some next) :
    event = .deliver socketId ∧ ∃ signal, net.arriving socketId = some signal ∧
      own = signal.event := by
  cases event with
  | join _ _ _ | serve _ => cases seen
  | act actor _ =>
      cases seen
      obtain ⟨_, isLocal, _⟩ := act_cases ran
      rw [remote] at isLocal
      cases isLocal
  | deliver receiver =>
      obtain ⟨signal, arrives, same⟩ := Option.map_eq_some_iff.mp seen
      cases same
      exact ⟨rfl, signal, arrives, rfl⟩

/-- A client hears of an outcome when the message of a client that replied is delivered. -/
theorem Wired.outcome (wired : net.Wired) {event : NetworkEvent}
    (ran : net.step libraries event = some next) {caller : SocketId}
    (callerInside : caller ∈ net.hub.connected) {observation : Observation}
    (outcome : observation.Outcome)
    (heard : observation ∈ (net.clients caller).since (next.clients caller)) :
    event = .deliver caller ∧ ∃ callee ∈ net.hub.connected, ∃ message : SignalManager.Message,
      net.arriving caller = some (message.signal (net.localId callee)) ∧
      message ∈ net.channel callee caller ∧
      ((∃ sdp, message = .answer sdp) ∧ observation = .acceptedReceived ∨
        message = .reject ∧ observation = .rejectReceived) := by
  obtain ⟨own, after, seen, stepped, logged⟩ := step_of_since wired ran callerInside heard
  have kind := WebRTC.outcome_of_since stepped outcome logged
  have remote : own.isLocal = false := by
    rcases kind with ⟨_, _, rfl, _⟩ | ⟨_, rfl, _⟩
    · rfl
    · rfl
  obtain ⟨delivered, signal, arrives, same⟩ := arriving_of_clientEvent seen remote ran
  obtain ⟨_, _, _, _, _, callee, inside, message, brings, first⟩ := wired.arriving arrives
  rw [brings] at arrives same
  refine ⟨delivered, callee, inside, message, arrives, ?_, ?_⟩
  · rw [first]
    exact List.mem_cons_self
  · rcases kind with ⟨_, sdp, rfl, accepted⟩ | ⟨_, rfl, rejected⟩
    · left
      cases message <;> cases same
      exact ⟨⟨sdp, rfl⟩, accepted⟩
    · right
      cases message <;> cases same
      exact ⟨rfl, rejected⟩

/-- In a guarded run the caller and the callee agree on the outcome of a call. -/
theorem call_outcomes_agree (libraries : SocketId → RtcLibrary) (net : Network)
    (reached : (machine libraries).ReachableUnder (Orderly libraries) net) (event : NetworkEvent)
    (next : Network) (ran : net.step libraries event = some next) (caller : SocketId)
    (callerInside : caller ∈ net.hub.connected) : net.OutcomeAgrees event next caller := by
  have wired := wired_of_reachable reached.reachable
  have agreeing := agreeing_of_reachableUnder reached
  constructor
  · intro heard
    obtain ⟨delivered, callee, inside, message, arrives, waiting, kind⟩ :=
      wired.outcome ran callerInside (by trivial) heard
    rcases kind with ⟨⟨sdp, rfl⟩, _⟩ | ⟨_, wrong⟩
    · exact ⟨callee, inside, sdp, delivered, arrives,
        agreeing.answering callee inside caller callerInside sdp waiting⟩
    · cases wrong
  · intro heard
    obtain ⟨delivered, callee, inside, message, arrives, waiting, kind⟩ :=
      wired.outcome ran callerInside (by trivial) heard
    rcases kind with ⟨_, wrong⟩ | ⟨rfl, _⟩
    · cases wrong
    · exact ⟨callee, inside, delivered, arrives,
        agreeing.rejecting callee inside caller callerInside waiting⟩

/-- Alice calls Bob, and his offer is on the popup. -/
def offeredRun : List NetworkEvent :=
  joinedRun ++ [.act Hub.firstSocket (.startCall "bob"),
    .act Hub.firstSocket (.gatheringComplete 1), .serve Hub.firstSocket,
    .deliver Hub.secondSocket]

/-- Bob accepts, and his answer waits for Alice. -/
def acceptedRun : List NetworkEvent :=
  offeredRun ++ [.act Hub.secondSocket (.acceptCall "alice"),
    .act Hub.secondSocket (.gatheringComplete 1), .serve Hub.secondSocket]

theorem call_outcomes_agree_accepted :
    ∃ net next : Network, net.step (fun _ => .sample) (.deliver Hub.firstSocket) = some next ∧
      .acceptedReceived ∈
        (net.clients Hub.firstSocket).since (next.clients Hub.firstSocket) ∧
      net.OutcomeAgrees (.deliver Hub.firstSocket) next Hub.firstSocket := by
  obtain ⟨net, reached, checked⟩ := Machine.reachableUnder_of_exec
    (machine fun _ => .sample) (Orderly fun _ => .sample) rfl acceptedRun
    (fun net => Hub.firstSocket ∈ net.hub.connected ∧
      (net.step (fun _ => .sample) (.deliver Hub.firstSocket)).any fun next =>
        .acceptedReceived ∈
          (net.clients Hub.firstSocket).since (next.clients Hub.firstSocket))
    (by decide +kernel)
  obtain ⟨inside, hears⟩ := of_decide_eq_true checked
  obtain ⟨next, ran, heard⟩ := (Option.any_eq_true _ _).mp hears
  exact ⟨net, next, ran, of_decide_eq_true heard,
    call_outcomes_agree _ net reached _ next ran _ inside⟩

/-- Bob rejects, and Alice calls Carol before she hears of it. -/
def lateRejectionRun : List NetworkEvent :=
  offeredRun ++ [.act Hub.secondSocket (.rejectCall "alice"), .serve Hub.secondSocket,
    .act Hub.firstSocket (.startCall "carol")]

/-- A rejection of an earlier call is taken for one of the current call. -/
theorem call_outcomes_agree_fails :
    ¬∀ libraries net, (machine libraries).Reachable net → ∀ event next,
      net.step libraries event = some next → ∀ caller ∈ net.hub.connected,
        net.OutcomeAgrees event next caller := by
  intro claim
  obtain ⟨net, reached, checked⟩ := Machine.reachable_of_exec (machine fun _ => .sample) rfl
    lateRejectionRun
    (fun net => (Hub.firstSocket ∈ net.hub.connected ∧
      currentCall (net.clients Hub.firstSocket).log = some ("carol", none)) ∧
      (net.step (fun _ => .sample) (.deliver Hub.firstSocket)).any fun next =>
        .rejectReceived ∈
          (net.clients Hub.firstSocket).since (next.clients Hub.firstSocket))
    (by decide +kernel)
  obtain ⟨⟨inside, current⟩, hears⟩ := of_decide_eq_true checked
  obtain ⟨next, ran, heard⟩ := (Option.any_eq_true _ _).mp hears
  obtain ⟨callee, _, _, _, sdp, called, _⟩ :=
    (claim _ net reached _ next ran _ inside).2 (of_decide_eq_true heard)
  rw [current, Option.some.injEq, Prod.mk.injEq] at called
  cases called.2

end Network
end VoiceCall
