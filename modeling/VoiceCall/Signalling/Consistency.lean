import VoiceCall.Signalling.Registration

namespace VoiceCall.Signalling

open Foundation

namespace Hub

variable {hub next : Hub} {event : HubEvent}

theorem issued_append (grown : next.history = hub.history ++ [event]) :
    next.issued = hub.issued ++ event.issue.toList := by
  rw [issued, grown, List.filterMap_append]
  cases event <;> rfl

theorem registrations_append (grown : next.history = hub.history ++ [event]) :
    next.registrations = hub.registrations ++ (registration event).toList := by
  rw [registrations, grown, List.filterMap_append]
  cases found : registration event <;> simp [found, registrations]

theorem directory_append (grown : next.history = hub.history ++ [event]) :
    next.directory = match directoryEvent event with
      | some seen => hub.directory.apply seen
      | none => hub.directory := by
  rw [directory, grown, List.filterMap_append]
  cases found : directoryEvent event <;> simp [found, directory]

/-- A registration replaces the registered name of its socket only. -/
theorem registeredName_append (grown : next.history = hub.history ++ [event])
    (socketId : SocketId) :
    next.registeredName socketId = match registration event with
      | some entry => if entry.1 = socketId then some entry.2 else hub.registeredName socketId
      | none => hub.registeredName socketId := by
  rw [registeredName, registrations_append grown, List.filter_append]
  cases found : registration event with
  | none => simp [registeredName]
  | some entry =>
      by_cases own : entry.1 = socketId <;> simp [own, registeredName]

/-- The two objects agree with the history on every connected socket. -/
structure Consistent (hub : Hub) : Prop where
  connectedOnce : hub.connected.Nodup
  connectedIssued : ∀ socketId ∈ hub.connected, socketId ∈ hub.issued
  registrantIssued : ∀ entry ∈ hub.registrations, entry.1 ∈ hub.issued
  claimed : ∀ name socketId, hub.lastRegistrant name = some socketId →
    (socketId, name) ∈ hub.registrations
  present : ∀ socketId, hub.directory.present socketId = true ↔ socketId ∈ hub.connected
  routed : ∀ name socketId, hub.server.peerIds.get name = some socketId →
    hub.lastRegistrant name = some socketId
  kept : ∀ name socketId, hub.lastRegistrant name = some socketId →
    socketId ∈ hub.connected → hub.server.peerIds.get name = some socketId
  named : ∀ socketId ∈ hub.connected,
    hub.server.peerNames.get socketId.val = hub.registeredName socketId
  owned : ∀ key name, hub.server.peerNames.get key = some name →
    ∃ socketId ∈ hub.connected, socketId.val = key

theorem consistent_empty : Consistent empty where
  connectedOnce := by simp [empty]
  connectedIssued := by simp [empty]
  registrantIssued := by simp [empty, registrations]
  claimed := by simp [lastRegistrant, directory, empty]
  present := by simp [directory, empty]
  routed := by simp [empty, Server.empty]
  kept := by simp [empty]
  named := by simp [empty]
  owned := by simp [empty, Server.empty]

/-- A fresh identifier has registered nothing. -/
theorem Consistent.registeredName_fresh (consistent : hub.Consistent) {socketId : SocketId}
    (fresh : socketId ∉ hub.issued) : hub.registeredName socketId = none := by
  rw [registeredName, List.filter_eq_nil_iff.mpr]
  · rfl
  · intro entry member
    simp only [decide_eq_true_eq]
    rintro rfl
    exact fresh (consistent.registrantIssued entry member)

/-- A socket without a registered name has no registration. -/
theorem not_mem_registrations_of_registeredName {socketId : SocketId}
    (unnamed : hub.registeredName socketId = none) (name : String) :
    (socketId, name) ∉ hub.registrations := by
  rw [registeredName, Option.map_eq_none_iff, List.getLast?_eq_none_iff,
    List.filter_eq_nil_iff] at unnamed
  intro member
  exact unnamed _ member (by simp)

theorem Consistent.connect (consistent : hub.Consistent) {socketId : SocketId}
    (grown : next.history = hub.history ++ [.connect socketId])
    (fresh : socketId ∉ hub.issued) (sameServer : next.server = hub.server)
    (joined : next.connected = socketId :: hub.connected) : next.Consistent := by
  have sameRegistrations : next.registrations = hub.registrations := by
    simpa [registration] using registrations_append grown
  have nextIssued : next.issued = hub.issued ++ [socketId] := issued_append grown
  have nextDirectory : next.directory = hub.directory.apply (.arrive socketId) :=
    directory_append grown
  have sameClaims (name : String) : next.lastRegistrant name = hub.lastRegistrant name := by
    rw [lastRegistrant, lastRegistrant, nextDirectory, Directory.claimant_arrive]
  have sameNames (other : SocketId) : next.registeredName other = hub.registeredName other := by
    rw [registeredName_append grown]
    rfl
  constructor
  · rw [joined]
    exact List.nodup_cons.mpr
      ⟨fun inside => fresh (consistent.connectedIssued socketId inside), consistent.connectedOnce⟩
  · intro other member
    rw [joined, List.mem_cons] at member
    rw [nextIssued, List.mem_append, List.mem_singleton]
    exact member.symm.imp_left (consistent.connectedIssued other)
  · intro entry member
    rw [sameRegistrations] at member
    rw [nextIssued]
    exact List.mem_append_left _ (consistent.registrantIssued entry member)
  · intro name other claimed
    rw [sameRegistrations]
    exact consistent.claimed name other (sameClaims name ▸ claimed)
  · intro other
    rw [nextDirectory, Directory.present_arrive, joined, List.mem_cons]
    by_cases same : other = socketId
    · simp [same]
    · simp [same, consistent.present]
  · intro name other routed
    rw [sameServer] at routed
    rw [sameClaims]
    exact consistent.routed name other routed
  · intro name other claimed inside
    rw [sameClaims] at claimed
    rw [sameServer]
    rcases List.mem_cons.mp (joined ▸ inside) with rfl | old
    · exact absurd (consistent.registrantIssued _ (consistent.claimed name _ claimed)) fresh
    · exact consistent.kept name other claimed old
  · intro other inside
    rw [sameServer, sameNames]
    rcases List.mem_cons.mp (joined ▸ inside) with rfl | old
    · rw [consistent.registeredName_fresh fresh, Option.eq_none_iff_forall_ne_some]
      intro name stored
      obtain ⟨owner, ownerInside, same⟩ := consistent.owned _ _ stored
      rw [← Subtype.ext same] at fresh
      exact fresh (consistent.connectedIssued owner ownerInside)
    · exact consistent.named other old
  · intro key name stored
    rw [sameServer] at stored
    obtain ⟨owner, ownerInside, same⟩ := consistent.owned key name stored
    exact ⟨owner, by rw [joined]; exact List.mem_cons_of_mem _ ownerInside, same⟩

/-- A packet that registers nothing changes only the history. -/
theorem Consistent.relayed (consistent : hub.Consistent) {socketId : SocketId} {packet : Packet}
    (grown : next.history = hub.history ++ [.packet socketId packet])
    (noName : registrationName packet = none) (sameServer : next.server = hub.server)
    (sameConnected : next.connected = hub.connected) : next.Consistent := by
  have noRegistration : registration (.packet socketId packet) = none := by
    simp [registration, noName]
  have sameRegistrations : next.registrations = hub.registrations := by
    rw [registrations_append grown, noRegistration]
    simp
  have sameIssued : next.issued = hub.issued := by
    simpa [HubEvent.issue] using issued_append grown
  have sameDirectory : next.directory = hub.directory := by
    rw [directory_append grown]
    simp [directoryEvent, noName]
  have sameNames (other : SocketId) : next.registeredName other = hub.registeredName other := by
    rw [registeredName_append grown, noRegistration]
  constructor
  · rw [sameConnected]
    exact consistent.connectedOnce
  · rw [sameConnected, sameIssued]
    exact consistent.connectedIssued
  · rw [sameRegistrations, sameIssued]
    exact consistent.registrantIssued
  · simp only [lastRegistrant, sameDirectory, sameRegistrations]
    exact consistent.claimed
  · rw [sameDirectory, sameConnected]
    exact consistent.present
  · simp only [lastRegistrant, sameDirectory, sameServer]
    exact consistent.routed
  · simp only [lastRegistrant, sameDirectory, sameServer, sameConnected]
    exact consistent.kept
  · simp only [sameNames, sameServer, sameConnected]
    exact consistent.named
  · rw [sameServer, sameConnected]
    exact consistent.owned

/-- An accepted registration writes a route and a name that the history records. -/
theorem Consistent.register (consistent : hub.Consistent) {socketId : SocketId} {packet : Packet}
    {name : String} (grown : next.history = hub.history ++ [.packet socketId packet])
    (inside : socketId ∈ hub.connected) (accepted : registrationName packet = some name)
    (stored : next.server = hub.server.registered socketId name)
    (sameConnected : next.connected = hub.connected) : next.Consistent := by
  have isRegistration : registration (.packet socketId packet) = some (socketId, name) := by
    simp [registration, accepted]
  have nextRegistrations : next.registrations = hub.registrations ++ [(socketId, name)] := by
    rw [registrations_append grown, isRegistration]
    rfl
  have sameIssued : next.issued = hub.issued := by
    simpa [HubEvent.issue] using issued_append grown
  have nextDirectory : next.directory = hub.directory.apply (.claim socketId name) := by
    rw [directory_append grown]
    simp [directoryEvent, accepted]
  have nextClaims (query : String) : next.lastRegistrant query =
      if query = name then some socketId else hub.lastRegistrant query := by
    rw [lastRegistrant, nextDirectory, Directory.claimant_claim]
    rfl
  have nextRoutes (query : String) : next.server.peerIds.get query =
      if query = name then some socketId else hub.server.peerIds.get query := by
    rw [stored]
    exact JsObject.get_set _ _ _ _
  have nextNames (key : String) : next.server.peerNames.get key =
      if key = socketId.val then some name else hub.server.peerNames.get key := by
    rw [stored]
    exact JsObject.get_set _ _ _ _
  constructor
  · rw [sameConnected]
    exact consistent.connectedOnce
  · rw [sameConnected, sameIssued]
    exact consistent.connectedIssued
  · intro entry member
    rw [nextRegistrations, List.mem_append, List.mem_singleton] at member
    rw [sameIssued]
    rcases member with old | rfl
    · exact consistent.registrantIssued entry old
    · exact consistent.connectedIssued socketId inside
  · intro query other claimed
    rw [nextClaims] at claimed
    rw [nextRegistrations, List.mem_append, List.mem_singleton]
    split at claimed
    · next same =>
        right
        rw [same, Option.some.inj claimed]
    · exact .inl (consistent.claimed query other claimed)
  · rw [nextDirectory, Directory.present_claim, sameConnected]
    exact consistent.present
  · intro query other routed
    rw [nextRoutes] at routed
    rw [nextClaims]
    split at routed
    · next same => rw [if_pos same, routed]
    · next different =>
        rw [if_neg different]
        exact consistent.routed query other routed
  · intro query other claimed otherInside
    rw [nextClaims] at claimed
    rw [nextRoutes]
    split at claimed
    · next same => rw [if_pos same, claimed]
    · next different =>
        rw [if_neg different]
        exact consistent.kept query other claimed (sameConnected ▸ otherInside)
  · intro other otherInside
    rw [nextNames, registeredName_append grown, isRegistration]
    by_cases same : other = socketId
    · simp [same]
    · have differentKey : other.val ≠ socketId.val := fun equal => same (Subtype.ext equal)
      simp only [differentKey, Ne.symm same, if_false]
      exact consistent.named other (sameConnected ▸ otherInside)
  · intro key query found
    rw [nextNames] at found
    rw [sameConnected]
    split at found
    · next same => exact ⟨socketId, inside, same.symm⟩
    · exact consistent.owned key query found

/-- A disconnection keeps the agreement for the sockets that stay. -/
theorem Consistent.disconnect (consistent : hub.Consistent) {socketId : SocketId}
    (grown : next.history = hub.history ++ [.disconnect socketId])
    (left : next.server = hub.server.disconnect socketId)
    (remaining : next.connected = hub.connected.filter fun other => other ≠ socketId) :
    next.Consistent := by
  have sameRegistrations : next.registrations = hub.registrations := by
    simpa [registration] using registrations_append grown
  have sameIssued : next.issued = hub.issued := by
    simpa [HubEvent.issue] using issued_append grown
  have nextDirectory : next.directory = hub.directory.apply (.depart socketId) :=
    directory_append grown
  have sameClaims (name : String) : next.lastRegistrant name = hub.lastRegistrant name := by
    rw [lastRegistrant, lastRegistrant, nextDirectory, Directory.claimant_depart]
  have sameNames (other : SocketId) : next.registeredName other = hub.registeredName other := by
    rw [registeredName_append grown]
    rfl
  have nextNames (key : String) : next.server.peerNames.get key =
      if key = socketId.val then none else hub.server.peerNames.get key := by
    rw [left]
    exact JsObject.get_delete _ _ _
  have stays (other : SocketId) :
      other ∈ next.connected ↔ other ∈ hub.connected ∧ other ≠ socketId := by
    rw [remaining, List.mem_filter, decide_eq_true_eq]
  constructor
  · rw [remaining]
    exact consistent.connectedOnce.filter _
  · intro other member
    rw [sameIssued]
    exact consistent.connectedIssued other ((stays other).mp member).1
  · rw [sameRegistrations, sameIssued]
    exact consistent.registrantIssued
  · intro name other claimed
    rw [sameRegistrations]
    exact consistent.claimed name other (sameClaims name ▸ claimed)
  · intro other
    rw [nextDirectory, Directory.present_depart, stays]
    by_cases same : other = socketId
    · simp [same]
    · simp [same, consistent.present]
  · intro name other routed
    rw [left] at routed
    rw [sameClaims]
    exact consistent.routed name other (Server.disconnect_get routed)
  · intro name other claimed inside
    obtain ⟨wasInside, different⟩ := (stays other).mp inside
    rw [left]
    exact Server.disconnect_get_other different
      (consistent.kept name other (sameClaims name ▸ claimed) wasInside)
  · intro other inside
    obtain ⟨wasInside, different⟩ := (stays other).mp inside
    have differentKey : other.val ≠ socketId.val := fun equal => different (Subtype.ext equal)
    rw [nextNames, if_neg differentKey, sameNames]
    exact consistent.named other wasInside
  · intro key name found
    rw [nextNames] at found
    split at found
    · contradiction
    · next differentKey =>
        obtain ⟨owner, ownerInside, same⟩ := consistent.owned key name found
        refine ⟨owner, (stays owner).mpr ⟨ownerInside, ?_⟩, same⟩
        rintro rfl
        exact differentKey same.symm

/-- Every step keeps the agreement. -/
theorem Consistent.step (consistent : hub.Consistent)
    (taken : machine.step hub event = some next) : next.Consistent := by
  obtain ⟨grown, changed⟩ := step_cases taken
  cases event with
  | connect socketId =>
      obtain ⟨fresh, sameServer, joined⟩ := changed
      exact consistent.connect grown fresh sameServer joined
  | packet socketId packet =>
      obtain ⟨inside, sameConnected, changedServer⟩ := changed
      cases accepted : registrationName packet with
      | none =>
          rw [accepted] at changedServer
          exact consistent.relayed grown accepted changedServer sameConnected
      | some name =>
          rw [accepted] at changedServer
          exact consistent.register grown inside accepted changedServer sameConnected
  | disconnect socketId =>
      obtain ⟨_, left, remaining⟩ := changed
      exact consistent.disconnect grown left remaining

/-- The agreement holds in every reachable hub. -/
theorem consistent_of_reachable (reached : machine.Reachable hub) : hub.Consistent :=
  reached.invariant (fun _ start => start ▸ consistent_empty)
    fun _ _ _ consistent _ taken => consistent.step taken

end Hub
end VoiceCall.Signalling
