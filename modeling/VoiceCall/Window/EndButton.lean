import VoiceCall.Client.Changes
import VoiceCall.Window.Window

namespace VoiceCall

open Foundation Client

namespace Window

variable {library : RtcLibrary} {window next : Window}

/-- A click would call `endCall` with the name in the field. -/
def EndsCall (window : Window) : Prop :=
  window.Free ∧ window.callButton.enabled = true ∧ window.callButton.pushed = true

/-- The name that a click would end a call with has a connection. -/
def EndsSafely (window : Window) : Prop :=
  window.EndsCall → (window.backend.peerConnections window.nameField).isSome = true

instance (window : Window) : Decidable window.EndsCall :=
  inferInstanceAs (Decidable (_ ∧ _ ∧ _))

instance (window : Window) : Decidable window.EndsSafely :=
  inferInstanceAs (Decidable (_ → _))

/-- The guard lets Accept be clicked only for a caller with a text or a connection, and an answer
be taken only while the name in the field has a connection. -/
def CallsNamed (library : RtcLibrary) (window : Window) : WindowEvent → Prop
  | .accept =>
      (window.backend.peerSdps window.incomingCallPopup.callerName).isSome = true ∨
        (window.backend.peerConnections window.incomingCallPopup.callerName).isSome = true
  | .backend (.answerReceived peerID sdp) =>
      WebRTC.takesAnswer library window.backend peerID sdp = true →
        (window.backend.peerConnections window.nameField).isSome = true
  | _ => True

instance (library : RtcLibrary) (window : Window) :
    ∀ event, Decidable (CallsNamed library window event)
  | .accept => inferInstanceAs (Decidable (_ ∨ _))
  | .backend (.answerReceived _ _) => inferInstanceAs (Decidable (_ → _))
  | .submit _ | .edit _ | .click | .reject => .isTrue trivial
  | .backend (.startCall _) | .backend (.registerName _) | .backend (.endCall _)
  | .backend (.acceptCall _) | .backend (.rejectCall _) | .backend (.offerReceived _ _)
  | .backend (.rejectedReceived _) | .backend (.setRemoteCandidate _)
  | .backend (.dataReady _ _ _) | .backend (.gatheringComplete _) | .backend (.stateChanged _ _)
  | .backend (.remoteTrack _) | .backend (.message _ _) | .backend (.runQueued _ _) =>
      .isTrue trivial

/-- The popup for calls opens after the one for the name, and a pushed button names an entry. -/
structure Named (window : Window) : Prop where
  registered : window.incomingCallPopup.isOpen = true → window.namePopupOpen = false
  entry : window.callButton.pushed = true →
    (window.backend.peerConnections window.nameField).isSome = true

/-- An accept that returns leaves an entry for a name with a stored text. -/
theorem acceptCall_entry {webRtc after : WebRTC} {name : String}
    (accepted : webRtc.acceptCall library name = .ok after)
    (stored : (webRtc.peerSdps name).isSome = true) :
    (after.peerConnections name).isSome = true := by
  obtain ⟨sdp, found⟩ := Option.isSome_iff_exists.mp stored
  simp only [WebRTC.acceptCall, found] at accepted
  split at accepted
  · rcases webRtc.acceptPeer_cases library ⟨.offer, sdp⟩ name with
      ⟨connection, _, applied⟩ | ⟨_, threw⟩
    · rw [applied] at accepted
      cases accepted
      have entry := webRtc.acceptReady_entry name
      rw [WebRTC.setConnection_peerConnections, WebRTC.acceptCalled,
        WebRTC.record_peerConnections, entry]
      rfl
    · rw [threw] at accepted
      cases accepted
  · cases accepted

namespace Named

theorem initial (wild : Bool) : (Window.initial wild).Named where
  registered isOpen := by cases isOpen
  entry pushed := by cases pushed

theorem endsSafely (named : window.Named) : window.EndsSafely :=
  fun ends => named.entry ends.2.2

/-- A backend that has lost no entry takes the place of the old one. -/
theorem backend (named : window.Named) {after : WebRTC}
    (kept : ∀ name, (window.backend.peerConnections name).isSome = true →
      (after.peerConnections name).isSome = true) :
    ({ window with backend := after } : Window).Named :=
  ⟨named.registered, fun pushed => kept _ (named.entry pushed)⟩

theorem reset (named : window.Named) : window.reset.Named :=
  ⟨named.registered, fun pushed => by cases pushed⟩

theorem connected (named : window.Named)
    (entry : (window.backend.peerConnections window.nameField).isSome = true) :
    window.connected.Named :=
  ⟨named.registered, fun _ => entry⟩

theorem onClicked (named : window.Named) (clicked : window.onClicked library = some next) :
    next.Named := by
  rcases onClicked_cases clicked with ⟨_, rfl⟩ | ⟨after, _, rfl⟩
  · refine ⟨named.registered, fun _ => ?_⟩
    simp [WebRTC.startCall_eq]
  · exact ⟨named.registered, fun pushed => by cases pushed⟩

/-- A caller with a text gets an entry unless the handler stops. -/
theorem onAccept (named : window.Named)
    (known : (window.backend.peerSdps window.incomingCallPopup.callerName).isSome = true ∨
      (window.backend.peerConnections window.incomingCallPopup.callerName).isSome = true) :
    (window.onAccept library).Named := by
  have taken : window.backend.step library (.acceptCall window.incomingCallPopup.callerName) =
      some (settle (window.backend.acceptCall library window.incomingCallPopup.callerName)) := rfl
  have kept (name : String) (held : (window.backend.peerConnections name).isSome = true) :=
    WebRTC.entry_of_step taken held
  rw [Window.onAccept]
  cases outcome : window.backend.acceptCall library window.incomingCallPopup.callerName with
  | error after =>
      rw [outcome] at kept
      exact named.backend kept
  | ok after =>
      rw [outcome] at kept
      refine ⟨fun isOpen => (by cases isOpen), fun _ => ?_⟩
      rcases known with stored | held
      · exact acceptCall_entry outcome stored
      · exact kept _ held

/-- The handlers of a backend event keep the invariant under the guard. -/
theorem onBackend (named : window.Named) {event : Event}
    (named' : CallsNamed library window (.backend event))
    (taken : window.step library (.backend event) = some next) : next.Named := by
  obtain ⟨registered, after, stepped, handled⟩ := step_backend taken
  have kept := named.backend fun _ held => WebRTC.entry_of_step stepped held
  subst handled
  cases event with
  | offerReceived peerID sdp => exact ⟨fun _ => registered, kept.entry⟩
  | answerReceived peerID sdp =>
      rw [WebRTC.signalsOf]
      split
      · next takes => exact kept.connected (WebRTC.entry_of_step stepped (named' takes))
      · exact kept
  | rejectedReceived peerID => exact kept.reset
  | runQueued deviceOpens sinkStarts =>
      rw [WebRTC.signalsOf]
      split
      · exact kept.reset
      · exact kept
  | _ => exact kept

theorem step (named : window.Named) {event : WindowEvent}
    (meets : CallsNamed library window event) (taken : window.step library event = some next) :
    next.Named := by
  cases event with
  | submit nameInput =>
      have registers : next = window.registerName nameInput := step_cases taken
      subst registers
      have registered : window.backend.step library (.registerName (JsValue.trimmed nameInput)) =
          some (window.backend.registerName (JsValue.trimmed nameInput)) := rfl
      unfold registerName
      split
      · exact ⟨fun _ => rfl, fun pushed => WebRTC.entry_of_step registered (named.entry pushed)⟩
      · exact named
  | edit text =>
      obtain ⟨idle, rfl⟩ := step_cases taken
      refine ⟨named.registered, fun pushed => ?_⟩
      rw [idle] at pushed
      cases pushed
  | click => exact named.onClicked (step_cases taken)
  | accept =>
      obtain ⟨_, rfl⟩ := step_cases taken
      exact named.onAccept meets
  | reject =>
      obtain ⟨_, rfl⟩ := step_cases taken
      exact ⟨fun isOpen => (by cases isOpen), named.entry⟩
  | backend event => exact named.onBackend meets taken

end Named

/-- A button to end a call that names no entry is unsafe, at once or behind the popup. -/
theorem not_safe_of_unnamed (registered : window.namePopupOpen = false)
    (pushed : window.callButton = ⟨true, true, "End Call", .red⟩)
    (missing : (window.backend.peerConnections window.nameField).isSome = false) :
    ¬(window.EndsSafely ∧
      ∀ last, window.step library .reject = some last → last.EndsSafely) := by
  rintro ⟨safe, rejected⟩
  cases isOpen : window.incomingCallPopup.isOpen with
  | false =>
      have entry := safe ⟨⟨registered, isOpen⟩, by rw [pushed], by rw [pushed]⟩
      rw [missing] at entry
      cases entry
  | true =>
      have closed : window.step library .reject = some window.onReject := if_pos isOpen
      have ends : window.onReject.EndsCall :=
        ⟨⟨registered, rfl⟩, by rw [onReject, pushed], by rw [onReject, pushed]⟩
      have entry := rejected _ closed ends
      change (window.backend.peerConnections window.nameField).isSome = true at entry
      rw [missing] at entry
      cases entry

/-- A step against the guard makes the button name no entry. -/
theorem Named.not_safe_of_not_meets (named : window.Named) {event : WindowEvent}
    (against : ¬CallsNamed library window event)
    (taken : window.step library event = some next) :
    ¬(next.EndsSafely ∧ ∀ last, next.step library .reject = some last → last.EndsSafely) := by
  cases event with
  | accept =>
      obtain ⟨isOpen, accepts⟩ := step_cases taken
      rw [CallsNamed, not_or, Bool.not_eq_true, Bool.not_eq_true] at against
      obtain ⟨noText, noEntry⟩ := against
      have early : window.backend.acceptCall library window.incomingCallPopup.callerName =
          .ok window.backend := by
        simp only [Option.isSome_eq_false_iff, Option.isNone_iff_eq_none] at noText
        simp only [WebRTC.acceptCall, noText]
      rw [Window.onAccept, early] at accepts
      subst accepts
      exact not_safe_of_unnamed (named.registered isOpen) rfl noEntry
  | backend event =>
      obtain ⟨registered, after, stepped, handled⟩ := step_backend taken
      cases event with
      | answerReceived peerID sdp =>
          rw [CallsNamed, Classical.not_imp, Bool.not_eq_true] at against
          obtain ⟨takes, missing⟩ := against
          cases stepped
          rw [WebRTC.signalsOf, if_pos takes] at handled
          subst handled
          refine not_safe_of_unnamed registered rfl ?_
          rw [← missing, ← WebRTC.answerReceived_entries takes]
          rfl
      | _ => exact absurd trivial against
  | _ => exact absurd trivial against

/-- While the guard holds, the button to end a call always finds the connection. A step against
it makes a click unsafe, at once or when the user has rejected the call that is shown. -/
theorem endCall_finds_connection (library : RtcLibrary) (window : Window)
    (reached : (machine library).ReachableUnder (CallsNamed library) window) :
    window.EndsSafely ∧ ∀ event next, window.step library event = some next →
      (CallsNamed library window event ↔
        next.EndsSafely ∧ ∀ last, next.step library .reject = some last → last.EndsSafely) := by
  have named : window.Named := by
    refine Machine.ReachableUnder.invariant ?_ ?_ reached
    · rintro _ ⟨wild, rfl⟩
      exact .initial wild
    · intro before event after named meets taken
      exact named.step meets taken
  refine ⟨named.endsSafely, fun event next taken => ⟨fun meets => ?_, fun safe => ?_⟩⟩
  · have after := named.step meets taken
    have mayReject : CallsNamed library next .reject := trivial
    exact ⟨after.endsSafely, fun last rejected => (after.step mayReject rejected).endsSafely⟩
  · by_contra against
    exact named.not_safe_of_not_meets against taken safe

/-- Alice registers, which makes connection 0, and calls Bob, who answers. -/
def answeredCall : List WindowEvent :=
  [.submit "alice", .edit "bob", .click, .backend (.gatheringComplete 1),
    .backend (.answerReceived "bob" "v=0 o=bob a=setup:active")]

theorem endCall_finds_connection_answered :
    ∃ window : Window, (machine .sample).ReachableUnder (CallsNamed .sample) window ∧
      window.EndsCall ∧ window.EndsSafely := by
  obtain ⟨window, reached, checked⟩ := Machine.reachableUnder_of_exec (machine .sample)
    (CallsNamed .sample) ⟨false, rfl⟩ answeredCall (fun window => window.EndsCall) (by decide)
  exact ⟨window, reached, of_decide_eq_true checked,
    (endCall_finds_connection .sample window reached).1⟩

/-- Bob hangs up, and the end of his call clears the text of Carol's offer. When Alice accepts
Carol, nothing happens but the button names her. -/
theorem endCall_finds_connection_fails :
    ¬∀ library window, (machine library).Reachable window → window.EndsSafely := by
  intro claim
  obtain ⟨window, reached, checked⟩ := Machine.reachable_of_exec (machine .sample)
    ⟨false, rfl⟩
    (answeredCall ++ [.backend (.stateChanged 1 .connected), .backend (.runQueued true true),
      .backend (.stateChanged 1 .closed),
      .backend (.offerReceived "carol" "v=0 o=carol a=setup:actpass"),
      .backend (.runQueued true true), .accept])
    (fun window => !decide window.EndsSafely) (by decide)
  simp [claim .sample window reached] at checked

end Window
end VoiceCall
