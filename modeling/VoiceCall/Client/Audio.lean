import Mathlib.Tactic

namespace VoiceCall.Client

/-- The microphone side numbers its `QAudioSource` objects in the order of their creation. -/
structure AudioInput where
  audioSource : Nat
  sources : Nat
  started : List Nat
  isOpen : Bool
deriving DecidableEq, Repr

namespace AudioInput

/-- The constructor creates one source and does not start it. -/
def initial : AudioInput := ⟨0, 1, [], false⟩

/-- The `open` method replaces the source first and starts it only when the device opens. -/
def openDevice (input : AudioInput) (opens : Bool) : AudioInput :=
  let replaced := { input with audioSource := input.sources, sources := input.sources + 1 }
  if opens then
    { replaced with started := replaced.audioSource :: input.started, isOpen := true }
  else replaced

/-- The `close` method stops the current source only. -/
def close (input : AudioInput) : AudioInput :=
  { input with
    started := input.started.filter fun source => source ≠ input.audioSource
    isOpen := false }

/-- Capture runs when the device is open and its current source has been started. -/
def Capturing (input : AudioInput) : Prop :=
  input.isOpen = true ∧ input.audioSource ∈ input.started

instance (input : AudioInput) : Decidable input.Capturing :=
  inferInstanceAs (Decidable (_ ∧ _))

theorem capturing_openDevice (input : AudioInput) : (input.openDevice true).Capturing := by
  simp [openDevice, Capturing]

end AudioInput

/-- The member `device` is null, never set, or the device of one playback session. -/
inductive Handle where
  | null
  | wild
  | session (index : Nat)
deriving DecidableEq, Repr

/-- The playback side counts the sessions of its sink and keeps the bytes written to them. -/
structure AudioOutput where
  device : Handle
  sessions : Nat
  running : Option Nat
  written : List UInt8
deriving DecidableEq, Repr

namespace AudioOutput

/-- The constructor does not set `device`, so its first value may be wild. -/
def initial (wild : Bool) : AudioOutput := ⟨if wild then .wild else .null, 0, none, []⟩

/-- The `start` method trusts the pointer and starts the sink only when it is null. -/
def start (output : AudioOutput) (sinkStarts : Bool) : AudioOutput :=
  if output.device = .null then
    if sinkStarts then
      { output with
        device := .session output.sessions
        sessions := output.sessions + 1
        running := some output.sessions }
    else output
  else output

/-- The `stop` method trusts the sink and resets the pointer only when the sink runs. -/
def stop (output : AudioOutput) : AudioOutput :=
  match output.running with
  | some _ => { output with running := none, device := .null }
  | none => output

/-- The slot writes to the device, and a pointer to no running session is a fault. -/
def receivedData (output : AudioOutput) (data : List UInt8) : Option AudioOutput :=
  match output.device with
  | .null => some output
  | .wild => none
  | .session index =>
      if output.running = some index then some { output with written := output.written ++ data }
      else none

/-- Playback runs when the pointer is the device of the running session. -/
def Playing (output : AudioOutput) : Prop :=
  ∃ index ∈ output.running, output.device = .session index

instance (output : AudioOutput) : Decidable output.Playing :=
  match running : output.running with
  | none => isFalse (by simp [Playing, running])
  | some index => decidable_of_iff (output.device = .session index) (by simp [Playing, running])

/-- The pointer is settled when it is null with a stopped sink or names the running session. -/
def Settled (output : AudioOutput) : Prop :=
  (output.device = .null ∧ output.running = none) ∨ output.Playing

theorem Settled.start {output : AudioOutput} (settled : output.Settled) :
    (output.start true).Playing := by
  rcases settled with ⟨isNull, _⟩ | playing
  · simp [AudioOutput.start, isNull, Playing]
  · have notNull : output.device ≠ .null := by
      obtain ⟨index, _, isSession⟩ := playing
      simp [isSession]
    rwa [AudioOutput.start, if_neg notNull]

/-- A stopped output is settled, unless its pointer is still wild. -/
theorem settled_stop {output : AudioOutput} (settled : output.device ≠ .wild → output.Settled)
    (tame : output.stop.device ≠ .wild) : output.stop.Settled := by
  unfold stop at tame ⊢
  split at tame
  · exact .inl ⟨rfl, rfl⟩
  · exact settled tame

/-- The slot leaves the pointer and the sessions as they are. -/
theorem receivedData_keeps {output next : AudioOutput} {data : List UInt8}
    (wrote : output.receivedData data = some next) :
    next.device = output.device ∧ next.running = output.running := by
  unfold receivedData at wrote
  split at wrote
  · cases wrote
    exact ⟨rfl, rfl⟩
  · cases wrote
  · split at wrote
    · cases wrote
      exact ⟨rfl, rfl⟩
    · cases wrote

end AudioOutput
end VoiceCall.Client
