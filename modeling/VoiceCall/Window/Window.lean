import VoiceCall.Client.Signals
import VoiceCall.Foundation.JsValue

namespace VoiceCall

open Foundation Client

inductive Background where
  | green
  | red
deriving DecidableEq, Repr

structure CallButton where
  pushed : Bool
  enabled : Bool
  text : String
  background : Background
deriving DecidableEq, Repr

/-- The popup has room for the name of one caller. -/
structure IncommingCallPopup where
  isOpen : Bool
  callerName : String
deriving DecidableEq, Repr

/-- The window holds the backend and two modal popups over a field and a button. -/
structure Window where
  username : String
  namePopupOpen : Bool
  incomingCallPopup : IncommingCallPopup
  nameField : String
  callButton : CallButton
  backend : WebRTC

/-- The backend's own events are those that no handler of the window calls for. -/
def Client.Event.isOwn : Event → Bool
  | .startCall _ | .registerName _ | .endCall _ | .acceptCall _ | .rejectCall _ => false
  | _ => true

/-- The user submits a name, edits the field or clicks a button, or the backend acts. -/
inductive WindowEvent where
  | submit (nameInput : String)
  | edit (text : String)
  | click
  | accept
  | reject
  | backend (event : Event)
deriving DecidableEq

namespace Window

/-- The window opens the popup for the name as soon as it is complete. -/
def initial (wild : Bool) : Window where
  username := ""
  namePopupOpen := true
  incomingCallPopup := ⟨false, "Unknown"⟩
  nameField := ""
  callButton := ⟨false, true, "Call", .green⟩
  backend := .initial wild

@[simps -fullyApplied] def connected (window : Window) : Window :=
  { window with callButton := ⟨true, true, "End Call", .red⟩ }

@[simps -fullyApplied] def reset (window : Window) : Window :=
  { window with callButton := ⟨false, true, "Call", .green⟩, nameField := "" }

/-- A blank name is only logged. -/
def registerName (window : Window) (nameInput : String) : Window :=
  if JsValue.trimmed nameInput ≠ "" then
    { window with
      username := JsValue.trimmed nameInput
      backend := window.backend.registerName (JsValue.trimmed nameInput)
      namePopupOpen := false }
  else window

/-- The click that starts a call keeps the background. -/
def onClicked (library : RtcLibrary) (window : Window) : Option Window :=
  if window.callButton.pushed = false then
    some { window with
      backend := window.backend.startCall library window.nameField
      callButton := { window.callButton with
        pushed := true, text := "Connecting...", enabled := false } }
  else
    (window.backend.endCall window.nameField).map fun backend =>
      { window with backend := backend }.reset

/-- An exception of `acceptCall` leaves the handler at once, and the popup stays open. -/
def onAccept (library : RtcLibrary) (window : Window) : Window :=
  match window.backend.acceptCall library window.incomingCallPopup.callerName with
  | .error backend => { window with backend := backend }
  | .ok backend =>
      { window with
        backend := backend
        incomingCallPopup := { window.incomingCallPopup with isOpen := false }
        nameField := window.incomingCallPopup.callerName }.connected

def onReject (window : Window) : Window :=
  { window with
    backend := window.backend.rejectCall window.incomingCallPopup.callerName
    incomingCallPopup := { window.incomingCallPopup with isOpen := false } }

/-- Opening an open popup only changes the name it shows. -/
def onSignal (window : Window) : Observation → Window
  | .incommigCall name => { window with incomingCallPopup := ⟨true, name⟩ }
  | .acceptedReceived => window.connected
  | .rejectReceived => window.reset
  | .endReceived => window.reset
  | _ => window

/-- The handlers run in the order of the signals and leave the backend alone. -/
def receive (window : Window) (next : WebRTC) : Window :=
  (window.backend.signals next).foldl onSignal { window with backend := next }

/-- The window takes clicks and edits while no popup is open. -/
def Free (window : Window) : Prop :=
  window.namePopupOpen = false ∧ window.incomingCallPopup.isOpen = false

instance (window : Window) : Decidable window.Free := inferInstanceAs (Decidable (_ ∧ _))

/-- The result `none` is a refused event or the end of the process.
A backend without a name has no connection and nothing to report. -/
def step (library : RtcLibrary) (window : Window) : WindowEvent → Option Window
  | .submit nameInput =>
      if window.namePopupOpen then some (window.registerName nameInput) else none
  | .edit text =>
      if window.Free ∧ window.callButton.pushed = false then
        some { window with nameField := text }
      else none
  | .click =>
      if window.Free ∧ window.callButton.enabled = true then window.onClicked library else none
  | .accept => if window.incomingCallPopup.isOpen then some (window.onAccept library) else none
  | .reject => if window.incomingCallPopup.isOpen then some window.onReject else none
  | .backend event =>
      if window.namePopupOpen = false ∧ event.isOwn = true then
        (window.backend.step library event).map window.receive
      else none

def machine (library : RtcLibrary) : Machine Window WindowEvent where
  initial window := ∃ wild, window = initial wild
  step := step library

variable {library : RtcLibrary} {window next : Window}

/-- A backend event runs the handlers of its own signals over the new backend. -/
theorem step_backend {event : Event} (taken : window.step library (.backend event) = some next) :
    window.namePopupOpen = false ∧ ∃ after, window.backend.step library event = some after ∧
      next = (WebRTC.signalsOf library window.backend event).foldl onSignal
        { window with backend := after } := by
  obtain ⟨⟨registered, _⟩, ran⟩ := Option.ite_none_right_eq_some.mp taken
  obtain ⟨after, stepped, received⟩ := Option.map_eq_some_iff.mp ran
  refine ⟨registered, after, stepped, ?_⟩
  rw [← received, receive, WebRTC.step_signals stepped]

/-- An event that is taken runs its handler over a window that lets it happen. -/
theorem step_cases {event : WindowEvent} (taken : window.step library event = some next) :
    match event with
    | .submit nameInput => next = window.registerName nameInput
    | .edit text => window.callButton.pushed = false ∧ next = { window with nameField := text }
    | .click => window.onClicked library = some next
    | .accept => window.incomingCallPopup.isOpen = true ∧ next = window.onAccept library
    | .reject => window.incomingCallPopup.isOpen = true ∧ next = window.onReject
    | .backend event => window.namePopupOpen = false ∧ ∃ after,
        window.backend.step library event = some after ∧
        next = (WebRTC.signalsOf library window.backend event).foldl onSignal
          { window with backend := after } := by
  cases event with
  | submit nameInput => exact (Option.some.inj (Option.ite_none_right_eq_some.mp taken).2).symm
  | edit text =>
      obtain ⟨⟨_, idle⟩, edited⟩ := Option.ite_none_right_eq_some.mp taken
      exact ⟨idle, (Option.some.inj edited).symm⟩
  | click => exact (Option.ite_none_right_eq_some.mp taken).2
  | accept =>
      obtain ⟨isOpen, accepts⟩ := Option.ite_none_right_eq_some.mp taken
      exact ⟨isOpen, (Option.some.inj accepts).symm⟩
  | reject =>
      obtain ⟨isOpen, rejects⟩ := Option.ite_none_right_eq_some.mp taken
      exact ⟨isOpen, (Option.some.inj rejects).symm⟩
  | backend event => exact step_backend taken

/-- A click starts a call or ends one. -/
theorem onClicked_cases (clicked : window.onClicked library = some next) :
    (window.callButton.pushed = false ∧ next = { window with
        backend := window.backend.startCall library window.nameField
        callButton := { window.callButton with
          pushed := true, text := "Connecting...", enabled := false } }) ∨
      ∃ after, window.backend.endCall window.nameField = some after ∧
        next = { window with backend := after }.reset := by
  unfold onClicked at clicked
  split at clicked
  · next idle => exact .inl ⟨idle, (Option.some.inj clicked).symm⟩
  · obtain ⟨after, ended, made⟩ := Option.map_eq_some_iff.mp clicked
    exact .inr ⟨after, ended, made.symm⟩

end Window
end VoiceCall
