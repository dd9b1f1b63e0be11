import VoiceCall.Client.Changes
import VoiceCall.Client.RtpReading
import VoiceCall.Foundation.Positions

namespace VoiceCall.Client

open Foundation

namespace WebRTC

variable {library : RtcLibrary} {webRtc middle next : WebRTC}

/-- A client counts nothing when the counter stays and no packet is handed to a track. -/
structure Uncounted (webRtc next : WebRTC) : Prop where
  counter : next.sequenceNumber = webRtc.sequenceNumber
  log : ∃ added, next.log = webRtc.log ++ added ∧ ∀ observation ∈ added, observation.sent = none

namespace Uncounted

theorem of_log {added : List Observation} (counter : next.sequenceNumber = webRtc.sequenceNumber)
    (grown : next.log = webRtc.log ++ added)
    (silent : ∀ observation ∈ added, observation.sent = none) : webRtc.Uncounted next :=
  ⟨counter, added, grown, silent⟩

theorem of_eq (counter : next.sequenceNumber = webRtc.sequenceNumber)
    (log : next.log = webRtc.log) : webRtc.Uncounted next :=
  of_log counter (log.trans (List.append_nil _).symm) (by simp)

theorem trans (first : webRtc.Uncounted middle) (second : middle.Uncounted next) :
    webRtc.Uncounted next := by
  exact ⟨second.counter.trans first.counter, grown_trans first.log second.log⟩

theorem record {observation : Observation} (silent : observation.sent = none) :
    webRtc.Uncounted (webRtc.record observation) :=
  of_log rfl rfl (by simpa using silent)

/-- Only a captured chunk advances the counter. -/
theorem of_changes (changed : webRtc.Changes next) : webRtc.Uncounted next := by
  induction changed with
  | refl => exact of_eq rfl rfl
  | tail _ change ih =>
      refine ih.trans ?_
      cases change with
      | record observation unsent => exact record unsent
      | _ => exact of_eq rfl rfl

end Uncounted

/-- The track to which a chunk is handed successfully, if it is. -/
def handsTo (webRtc : WebRTC) (sendSucceeds : Bool) : Option TrackId :=
  if webRtc.isOfferer && sendSucceeds then
    webRtc.peerTrack.filter fun track => webRtc.trackIsOpen track
  else none

end WebRTC

/-- The sequence number of a packet that was handed to the track successfully. -/
def Observation.sequenceOn (track : TrackId) : Observation → Option UInt16
  | .send used packet true =>
      if used = track then (readRtp packet).map RtpFields.sequenceNumber else none
  | _ => none

/-- The sequence numbers of the packets that the track took, in their order. -/
def sequenceNumbers (log : List Observation) (track : TrackId) : List UInt16 :=
  log.filterMap (Observation.sequenceOn track)

/-- A captured chunk advances the counter, and a track that takes its packet gets the new value. -/
theorem WebRTC.dataReady_sequence (webRtc : WebRTC) (data : List UInt8) (now : UInt32)
    (sendSucceeds : Bool) :
    (webRtc.dataReady data now sendSucceeds).sequenceNumber = webRtc.sequenceNumber + 1 ∧
      ∀ track, sequenceNumbers (webRtc.dataReady data now sendSucceeds).log track =
        sequenceNumbers webRtc.log track ++
          if webRtc.handsTo sendSucceeds = some track then [webRtc.sequenceNumber + 1] else [] := by
  rcases webRtc.dataReady_cases data now sendSucceeds with
    ⟨used, offering, current, isOpen, sends⟩ | ⟨idle, unsent⟩
  · rw [sends]
    refine ⟨rfl, fun track => ?_⟩
    rw [record_log, count_log, sequenceNumbers, List.filterMap_append]
    congr 1
    cases sendSucceeds with
    | false => simp [Observation.sequenceOn, handsTo]
    | true =>
        have hands : webRtc.handsTo true = some used := by
          simp [handsTo, offering, current, Option.filter, isOpen]
        by_cases same : used = track
        · simp [Observation.sequenceOn, hands, same, readRtp_packet, rtpFields]
        · simp [Observation.sequenceOn, hands, same]
  · rw [unsent]
    refine ⟨rfl, fun track => ?_⟩
    have nothing : webRtc.handsTo sendSucceeds = none := by
      unfold handsTo
      split
      · next offers =>
          rw [Bool.and_eq_true] at offers
          refine Option.filter_eq_none_iff.mpr fun track current => ?_
          simp [idle offers.1 track current]
      · rfl
    rw [nothing, count_log]
    simp

/-- The instances of one process share the static counter. -/
structure Process where
  sequenceNumber : UInt16
  instances : Nat → WebRTC

namespace Process

variable {libraries : Nat → RtcLibrary} {process next : Process}

/-- An instance runs with the counter that the process holds. -/
def load (process : Process) (index : Nat) : WebRTC :=
  { process.instances index with sequenceNumber := process.sequenceNumber }

/-- What an instance has become stands in the process, with its counter. -/
@[simps -fullyApplied] def store (process : Process) (index : Nat) (after : WebRTC) : Process where
  sequenceNumber := after.sequenceNumber
  instances := Function.update process.instances index after

/-- An event of an instance changes that instance and the counter. -/
def step (libraries : Nat → RtcLibrary) (process : Process) (event : Nat × Event) :
    Option Process :=
  ((process.load event.1).step (libraries event.1) event.2).map (process.store event.1)

/-- The counter starts at zero, and an instance that has done nothing is as constructed. -/
def machine (libraries : Nat → RtcLibrary) : Machine Process (Nat × Event) where
  initial process := process.sequenceNumber = 0 ∧
    ∀ index, ∃ wild, process.instances index = .initial wild
  step := step libraries

/-- A call of `dataReady` with the instance and the track that took its packet, if one did. -/
def dataCall (step : Process × (Nat × Event)) : Option (Option (Nat × TrackId)) :=
  match step.2.2 with
  | .dataReady _ _ sendSucceeds =>
      some (((step.1.load step.2.1).handsTo sendSucceeds).map fun track => (step.2.1, track))
  | _ => none

/-- The calls of `dataReady` in the whole process, in their order. -/
def dataCalls (steps : List (Process × (Nat × Event))) : List (Option (Nat × TrackId)) :=
  steps.filterMap dataCall

/-- The n-th call of the process has the sequence number n, and the track that took its packet
has it in its place. -/
structure Numbered (process : Process) (calls : List (Option (Nat × TrackId))) : Prop where
  counter : process.sequenceNumber = UInt16.ofNat calls.length
  packets : ∀ index track, sequenceNumbers (process.instances index).log track =
    (positions (some (index, track)) calls).map UInt16.ofNat

/-- A step without a captured chunk leaves every packet as it was. -/
theorem Numbered.uncounted {calls : List (Option (Nat × TrackId))}
    (numbered : process.Numbered calls) {index : Nat} {after : WebRTC}
    (uncounted : (process.load index).Uncounted after) :
    (process.store index after).Numbered calls := by
  obtain ⟨counter, added, grown, silent⟩ := uncounted
  refine ⟨counter.trans numbered.counter, ?_⟩
  intro other track
  by_cases here : other = index
  · subst here
    have log : after.log = (process.instances other).log ++ added := grown
    have none : added.filterMap (Observation.sequenceOn track) = [] := by
      refine List.filterMap_eq_nil_iff.mpr fun observation member => ?_
      have unsent := silent observation member
      cases observation with
      | send _ _ _ => cases unsent
      | _ => rfl
    rw [store_instances, Function.update_self, log, sequenceNumbers, List.filterMap_append, none,
      List.append_nil]
    exact numbered.packets other track
  · rw [store_instances, Function.update_of_ne here]
    exact numbered.packets other track

/-- A captured chunk takes the next number, and the track that takes its packet its place. -/
theorem Numbered.counted {calls : List (Option (Nat × TrackId))}
    (numbered : process.Numbered calls) (index : Nat) (data : List UInt8) (now : UInt32)
    (sendSucceeds : Bool) :
    (process.store index ((process.load index).dataReady data now sendSucceeds)).Numbered
      (calls ++ [((process.load index).handsTo sendSucceeds).map fun track => (index, track)]) := by
  obtain ⟨counts, hands⟩ := (process.load index).dataReady_sequence data now sendSucceeds
  have counter : (process.load index).sequenceNumber + 1 = UInt16.ofNat (calls.length + 1) := by
    have old : (process.load index).sequenceNumber = UInt16.ofNat calls.length := numbered.counter
    rw [old]
    simp
  refine ⟨?_, ?_⟩
  · rw [store_sequenceNumber, counts, counter, List.length_append, List.length_singleton]
  · intro other track
    rw [positions_append_singleton, List.map_append, ← numbered.packets, store_instances]
    by_cases here : other = index
    · subst here
      rw [Function.update_self, hands]
      congr 1
      rw [counter]
      cases (process.load other).handsTo sendSucceeds with
      | none => simp
      | some used => by_cases same : used = track <;> simp [same]
    · rw [Function.update_of_ne here]
      cases (process.load index).handsTo sendSucceeds with
      | none => simp
      | some used => simp [Ne.symm here]

/-- Every packet of a run is numbered by the place of its call in the whole process. -/
theorem numbered_of_reachable {run : Machine.Traced Process (Nat × Event)}
    (reached : (machine libraries).traced.Reachable run) :
    run.current.Numbered (dataCalls run.steps) := by
  induction reached with
  | initial start =>
      obtain ⟨⟨zero, constructed⟩, noSteps⟩ := start
      rw [noSteps]
      refine ⟨zero, fun index track => ?_⟩
      obtain ⟨wild, isInitial⟩ := constructed index
      rw [isInitial]
      rfl
  | @step before after event _ _ taken ih =>
      obtain ⟨stepped, grown⟩ := Machine.traced_step_iff.mp taken
      obtain ⟨after, ran, stored⟩ := Option.map_eq_some_iff.mp stepped
      obtain ⟨index, event⟩ := event
      rw [← stored, grown, dataCalls, List.filterMap_append]
      by_cases isChunk : ∃ data now ok, event = .dataReady data now ok
      · obtain ⟨data, now, ok, rfl⟩ := isChunk
        cases ran
        exact ih.counted index data now ok
      · push Not at isChunk
        have noCall : [(before.current, index, event)].filterMap dataCall = [] := by
          cases event with
          | dataReady data now ok => exact absurd rfl (isChunk data now ok)
          | _ => rfl
        rw [noCall, List.append_nil]
        exact ih.uncounted (.of_changes (.of_step isChunk ran))

/-- A track is gapless when each packet it took has the next number after the one before. -/
def Gapless (process : Process) (index : Nat) (track : TrackId) : Prop :=
  (sequenceNumbers (process.instances index).log track).IsChain
    fun earlier later => later = earlier + 1

/-- The calls between two packets of a track are a multiple of 65536 in number. -/
def Spaced (calls : List (Option (Nat × TrackId))) (index : Nat) (track : TrackId) : Prop :=
  (positions (some (index, track)) calls).IsChain
    fun earlier later => 65536 ∣ later - earlier - 1

/-- A track is gapless exactly when the other calls between its packets wrap the counter. -/
theorem sequence_gapless_iff (libraries : Nat → RtcLibrary)
    (run : Machine.Traced Process (Nat × Event))
    (reached : (machine libraries).traced.Reachable run) (index : Nat) (track : TrackId) :
    run.current.Gapless index track ↔ Spaced (dataCalls run.steps) index track := by
  rw [Gapless, (numbered_of_reachable reached).packets, List.isChain_map]
  refine isChain_congr (positions_increase _ _) fun earlier later ordered => ?_
  rw [← UInt16.toNat_inj]
  simp
  omega

/-- A process before its first event. -/
def fresh : Process := ⟨0, fun _ => .initial false⟩

theorem initial_fresh : (machine libraries).traced.initial ⟨fresh, []⟩ :=
  ⟨⟨rfl, fun _ => ⟨false, rfl⟩⟩, rfl⟩

/-- The first instance calls and then captures a chunk for each outcome of `send`. -/
def chunkRun (outcomes : List Bool) : List (Nat × Event) :=
  WebRTC.establishedRun.map (fun event => (0, event)) ++
    outcomes.map fun sendSucceeds => (0, .dataReady [1, 2] 40 sendSucceeds)

theorem sequence_gapless_iff_twoChunks :
    ∃ run : Machine.Traced Process (Nat × Event),
      (machine fun _ => .sample).traced.Reachable run ∧
        sequenceNumbers (run.current.instances 0).log 0 = [1, 2] ∧ run.current.Gapless 0 0 := by
  obtain ⟨run, reached, checked⟩ := Machine.reachable_of_exec (machine fun _ => .sample).traced
    initial_fresh (chunkRun [true, true])
    (fun run => decide (sequenceNumbers (run.current.instances 0).log 0 = [1, 2] ∧
      dataCalls run.steps = [some (0, 0), some (0, 0)])) (by decide)
  obtain ⟨numbers, calls⟩ := of_decide_eq_true checked
  have spaced : Spaced (dataCalls run.steps) 0 0 := by simp [calls, Spaced, positions]
  exact ⟨run, reached, numbers,
    (sequence_gapless_iff (fun _ => .sample) run reached 0 0).mpr spaced⟩

/-- A chunk whose `send` throws takes a number away from its track. -/
theorem sequence_gapless_fails :
    ¬∀ libraries run, (machine libraries).traced.Reachable run →
      ∀ index track, run.current.Gapless index track := by
  intro claim
  obtain ⟨run, reached, checked⟩ := Machine.reachable_of_exec (machine fun _ => .sample).traced
    initial_fresh (chunkRun [true, false, true])
    (fun run => decide (sequenceNumbers (run.current.instances 0).log 0 = [1, 3])) (by decide)
  have gapless := claim (fun _ => .sample) run reached 0 0
  rw [Gapless, of_decide_eq_true checked] at gapless
  simp at gapless

end Process
end VoiceCall.Client
