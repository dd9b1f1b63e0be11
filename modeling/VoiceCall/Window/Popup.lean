import VoiceCall.Client.LiveOffers
import VoiceCall.Window.Window

namespace VoiceCall

open Foundation Client

/-- A run of the window with the steps it has taken. -/
abbrev WindowRun := Machine.Traced Window WindowEvent

/-- An offer makes its peer pending until the popup's backend answers or rejects that peer.
An accept answers nobody when it finds no text or when it throws. -/
def pendingAfter (library : RtcLibrary) (pending : String → Bool) (step : Window × WindowEvent) :
    String → Bool :=
  match step.2 with
  | .backend (.offerReceived peerID _) => Function.update pending peerID true
  | .accept =>
      if takesOffer library step.1.backend step.1.incomingCallPopup.callerName then
        Function.update pending step.1.incomingCallPopup.callerName false
      else pending
  | .reject => Function.update pending step.1.incomingCallPopup.callerName false
  | _ => pending

/-- The peers whose latest offer has been neither answered nor rejected. -/
def pending (library : RtcLibrary) (steps : List (Window × WindowEvent)) : String → Bool :=
  steps.foldl (pendingAfter library) fun _ => false

namespace Window

variable {library : RtcLibrary} {window next : Window} {peerId : String}

/-- The open popup shows the peer as the caller. -/
def Shows (window : Window) (peerId : String) : Prop :=
  window.incomingCallPopup.isOpen = true ∧ window.incomingCallPopup.callerName = peerId

instance (window : Window) (peerId : String) : Decidable (window.Shows peerId) :=
  inferInstanceAs (Decidable (_ ∧ _))

/-- A peer can be answered when the popup shows it, perhaps once those in front are closed. -/
def Answerable (library : RtcLibrary) (window : Window) (peerId : String) : Prop :=
  ∃ closings : List WindowEvent, (∀ event ∈ closings, event = .accept ∨ event = .reject) ∧
    ∃ last, (machine library).exec window closings = some last ∧ last.Shows peerId

/-- A click in the popup brings up no other caller. -/
theorem Shows.before {event : WindowEvent} (shows : next.Shows peerId)
    (closes : event = .accept ∨ event = .reject)
    (taken : window.step library event = some next) : window.Shows peerId := by
  rcases closes with rfl | rfl
  · obtain ⟨isOpen, rfl⟩ := step_cases taken
    refine ⟨isOpen, ?_⟩
    have same := shows.2
    unfold onAccept at same
    split at same
    · exact same
    · exact same
  · obtain ⟨isOpen, rfl⟩ := step_cases taken
    exact ⟨isOpen, shows.2⟩

/-- Nothing waits behind the popup, so only the caller it shows can be answered. -/
theorem answerable_iff : Answerable library window peerId ↔ window.Shows peerId := by
  refine ⟨?_, fun shows => ⟨[], by simp, window, rfl, shows⟩⟩
  rintro ⟨closings, closes, last, ran, shows⟩
  induction closings generalizing window with
  | nil =>
      cases ran
      exact shows
  | cons event rest ih =>
      obtain ⟨middle, taken, ran⟩ := Option.bind_eq_some_iff.mp ran
      have inside := ih (fun other member => closes other (List.mem_cons_of_mem _ member)) ran
      exact inside.before (closes event List.mem_cons_self) taken

/-- A backend event other than an offer leaves the popup as it is. -/
theorem popup_of_backend {event : Event}
    (noOffer : ∀ peerID sdp, event ≠ .offerReceived peerID sdp)
    (taken : window.step library (.backend event) = some next) :
    next.incomingCallPopup = window.incomingCallPopup := by
  obtain ⟨_, after, _, handled⟩ := step_backend taken
  subst handled
  cases event with
  | offerReceived peerID sdp => exact absurd rfl (noOffer peerID sdp)
  | answerReceived peerID sdp =>
      rw [WebRTC.signalsOf]
      split <;> rfl
  | runQueued deviceOpens sinkStarts =>
      rw [WebRTC.signalsOf]
      split <;> rfl
  | _ => rfl

/-- The popup changes with an offer, which it shows, and with a click in it. -/
theorem popup_of_step {event : WindowEvent}
    (noOffer : ∀ peerID sdp, event ≠ .backend (.offerReceived peerID sdp))
    (noAccept : event ≠ .accept) (noReject : event ≠ .reject)
    (taken : window.step library event = some next) :
    next.incomingCallPopup = window.incomingCallPopup := by
  cases event with
  | submit nameInput =>
      have registers : next = window.registerName nameInput := step_cases taken
      subst registers
      unfold registerName
      split <;> rfl
  | edit text =>
      obtain ⟨_, rfl⟩ := step_cases taken
      rfl
  | click =>
      rcases onClicked_cases (step_cases taken) with ⟨_, rfl⟩ | ⟨after, _, rfl⟩
      · rfl
      · rfl
  | accept => exact absurd rfl noAccept
  | reject => exact absurd rfl noReject
  | backend event =>
      exact popup_of_backend (fun peerID sdp same => noOffer peerID sdp (by rw [same])) taken

end Window

/-- No call is lost when every pending peer can still be answered. -/
def NothingLost (library : RtcLibrary) (run : WindowRun) : Prop :=
  ∀ peerId, pending library run.steps peerId = true → run.current.Answerable library peerId

/-- The guard lets an offer come only while no other peer is pending, and lets a pending caller
be accepted only while its text is stored. -/
def OnePending (library : RtcLibrary) (run : WindowRun) : WindowEvent → Prop
  | .backend (.offerReceived peerID _) =>
      ∀ other, pending library run.steps other = true → other = peerID
  | .accept => pending library run.steps run.current.incomingCallPopup.callerName = true →
      (run.current.backend.peerSdps run.current.incomingCallPopup.callerName).isSome = true
  | _ => True

section Step

variable {library : RtcLibrary} {run next : WindowRun} {peerId : String}

/-- The pending peers after a step of a run. -/
theorem pending_step {event : WindowEvent}
    (taken : (Window.machine library).traced.step run event = some next) :
    pending library next.steps =
      pendingAfter library (pending library run.steps) (run.current, event) := by
  rw [(Machine.traced_step_iff.mp taken).2, pending, List.foldl_append]
  rfl

/-- The caller whom the popup shows is the only one that can be pending. -/
theorem NothingLost.settled (nothingLost : NothingLost library run)
    (waiting : Function.update (pending library run.steps)
      run.current.incomingCallPopup.callerName false peerId = true) : False := by
  by_cases here : peerId = run.current.incomingCallPopup.callerName
  · rw [here, Function.update_self] at waiting
    cases waiting
  · rw [Function.update_of_ne here] at waiting
    exact here (Window.answerable_iff.mp (nothingLost peerId waiting)).2.symm

/-- An offer takes the popup for its peer. -/
theorem nothingLost_offer {peerID sdp : String}
    (taken : (Window.machine library).traced.step run (.backend (.offerReceived peerID sdp)) =
      some next) :
    NothingLost library next ↔ OnePending library run (.backend (.offerReceived peerID sdp)) := by
  obtain ⟨_, after, _, handled⟩ := Window.step_backend (Machine.traced_step_iff.mp taken).1
  have shown : next.current.incomingCallPopup = ⟨true, peerID⟩ := by rw [handled]; rfl
  have joined (other : String) : pending library next.steps other = true ↔
      other = peerID ∨ pending library run.steps other = true := by
    rw [pending_step taken]
    change Function.update (pending library run.steps) peerID true other = true ↔ _
    rw [Function.update_apply]
    split <;> simp [*]
  simp only [NothingLost, Window.answerable_iff, Window.Shows, shown, true_and, OnePending, joined]
  constructor
  · intro shows other waiting
    exact (shows other (.inr waiting)).symm
  · rintro alone other (here | waiting)
    · exact here.symm
    · exact (alone other waiting).symm

/-- An accept that finds no text closes the popup and answers nobody. -/
theorem nothingLost_accept (nothingLost : NothingLost library run)
    (taken : (Window.machine library).traced.step run .accept = some next) :
    NothingLost library next ↔ OnePending library run .accept := by
  have stepped : run.current.step library .accept = some next.current :=
    (Machine.traced_step_iff.mp taken).1
  obtain ⟨isOpen, clicked⟩ := Window.step_cases stepped
  have steps := pending_step taken
  simp only [pendingAfter] at steps
  cases stored : run.current.backend.peerSdps run.current.incomingCallPopup.callerName with
  | none =>
      have untaken : takesOffer library run.current.backend
          run.current.incomingCallPopup.callerName = false := by
        simp [takesOffer, stored]
      have closed : next.current.incomingCallPopup.isOpen = false := by
        simp [clicked, Window.onAccept, WebRTC.acceptCall, stored]
      rw [untaken, if_neg Bool.false_ne_true] at steps
      simp only [NothingLost, Window.answerable_iff, Window.Shows, closed, steps, OnePending, stored,
        Option.isSome_none]
      constructor
      · intro shows waiting
        exact (shows _ waiting).1
      · intro settled peerId waiting
        have shown := (Window.answerable_iff.mp (nothingLost peerId waiting)).2
        exact absurd (settled (shown ▸ waiting)) Bool.false_ne_true
  | some sdp =>
      refine iff_of_true ?_ (by simp [OnePending, stored])
      intro peerId waiting
      rw [steps] at waiting
      rcases WebRTC.acceptCall_stored stored with
        ⟨takes, _⟩ | ⟨untaken, after, thrown⟩
      · rw [if_pos takes] at waiting
        exact (nothingLost.settled waiting).elim
      · rw [untaken, if_neg Bool.false_ne_true] at waiting
        have shows := Window.answerable_iff.mp (nothingLost peerId waiting)
        refine Window.answerable_iff.mpr ?_
        rw [clicked, Window.onAccept, thrown]
        exact shows

/-- A step loses no call exactly when it meets the guard. -/
theorem nothingLost_step {event : WindowEvent} (nothingLost : NothingLost library run)
    (taken : (Window.machine library).traced.step run event = some next) :
    NothingLost library next ↔ OnePending library run event := by
  have steps := pending_step taken
  have unchanged (noOffer : ∀ peerID sdp, event ≠ .backend (.offerReceived peerID sdp))
      (noAccept : event ≠ .accept) (noReject : event ≠ .reject)
      (same : pending library next.steps = pending library run.steps) :
      NothingLost library next := by
    intro peerId waiting
    rw [same] at waiting
    have shows := Window.answerable_iff.mp (nothingLost peerId waiting)
    rw [Window.answerable_iff, Window.Shows,
      Window.popup_of_step noOffer noAccept noReject (Machine.traced_step_iff.mp taken).1]
    exact shows
  cases event with
  | accept => exact nothingLost_accept nothingLost taken
  | reject =>
      refine iff_of_true (fun peerId waiting => ?_) trivial
      rw [steps] at waiting
      exact (nothingLost.settled waiting).elim
  | backend event =>
      cases event with
      | offerReceived peerID sdp => exact nothingLost_offer taken
      | _ => exact iff_of_true (unchanged (by simp) (by simp) (by simp) steps) trivial
  | _ => exact iff_of_true (unchanged (by simp) (by simp) (by simp) steps) trivial

end Step

/-- While the guard holds no call is lost, and a step against it loses one. -/
theorem no_call_lost (library : RtcLibrary) (run : WindowRun)
    (reached : (Window.machine library).traced.ReachableUnder (OnePending library) run) :
    NothingLost library run ∧ ∀ event next,
      (Window.machine library).traced.step run event = some next →
        (NothingLost library next ↔ OnePending library run event) := by
  have nothingLost : NothingLost library run := by
    refine Machine.ReachableUnder.invariant ?_ ?_ reached
    · rintro start ⟨_, noSteps⟩ peerId waiting
      rw [noSteps] at waiting
      cases waiting
    · intro before event after nothingLost meets taken
      exact (nothingLost_step nothingLost taken).mpr meets
  exact ⟨nothingLost, fun event next taken => nothingLost_step nothingLost taken⟩

theorem initial_run (library : RtcLibrary) :
    (Window.machine library).traced.initial ⟨.initial false, []⟩ :=
  ⟨⟨false, rfl⟩, rfl⟩

/-- One offer comes and is shown. -/
theorem no_call_lost_bob :
    ∃ run : WindowRun, (Window.machine .sample).traced.ReachableUnder (OnePending .sample) run ∧
      pending .sample run.steps "bob" = true ∧ run.current.Answerable .sample "bob" := by
  have first : (Window.machine .sample).traced.step ⟨.initial false, []⟩ (.submit "alice") =
      some ⟨(Window.initial false).registerName "alice",
        [(.initial false, .submit "alice")]⟩ := rfl
  have alone : OnePending .sample ⟨(Window.initial false).registerName "alice",
      [(.initial false, .submit "alice")]⟩
      (.backend (.offerReceived "bob" "v=0 o=bob a=setup:actpass")) := by
    intro other waiting
    cases waiting
  have early : OnePending .sample ⟨.initial false, []⟩ (.submit "alice") := trivial
  have reached : (Window.machine .sample).traced.ReachableUnder (OnePending .sample)
      ⟨(Window.initial false).registerName "alice", [(.initial false, .submit "alice")]⟩ :=
    .step (.initial (initial_run .sample)) early first
  exact ⟨_, reached.step alone rfl, rfl,
    (no_call_lost .sample _ (reached.step alone rfl)).1 "bob" rfl⟩

/-- Carol's offer takes the popup from Bob's. -/
theorem no_call_lost_fails :
    ¬∀ library run, (Window.machine library).traced.Reachable run → NothingLost library run := by
  intro claim
  obtain ⟨run, reached, checked⟩ := Machine.reachable_of_exec (Window.machine .sample).traced
    (initial_run .sample)
    [.submit "alice", .backend (.offerReceived "bob" "v=0 o=bob a=setup:actpass"),
      .backend (.offerReceived "carol" "v=0 o=carol a=setup:actpass")]
    (fun run => pending .sample run.steps "bob" && !decide (run.current.Shows "bob")) (by decide)
  simp only [Bool.and_eq_true, Bool.not_eq_true', decide_eq_false_iff_not] at checked
  obtain ⟨waiting, hidden⟩ := checked
  exact hidden (Window.answerable_iff.mp (claim .sample run reached "bob" waiting))

end VoiceCall
