import VoiceCall.Transport.Connection

namespace VoiceCall.Signalling

open Transport (ConState)

/-- The bundled client as its user sees it: it keeps one socket for the default namespace, which
queues its early packets. The application never closes the client itself. -/
structure SioClient (Item : Type) where
  conState : ConState
  connected : Bool
  packetQueue : List Item

namespace SioClient

variable {Item : Type}

/-- The state that `connect` leaves before anything has opened. -/
def connecting : SioClient Item := ⟨.opening, false, []⟩

/-- A payload is written only while the connection is open. -/
def sendImpl (client : SioClient Item) (packets : List Item) : List Item :=
  if client.conState = .opened then packets else []

/-- A connected socket empties its queue before the new packet, and any other queues it. -/
def emit (client : SioClient Item) (packet : Item) : SioClient Item × List Item :=
  if client.connected then
    ({ client with packetQueue := [] }, client.sendImpl (client.packetQueue ++ [packet]))
  else ({ client with packetQueue := client.packetQueue ++ [packet] }, [])

def onOpen (client : SioClient Item) : SioClient Item := { client with conState := .opened }

/-- The acknowledgement of the namespace sends what was queued. -/
def onConnected (client : SioClient Item) : SioClient Item × List Item :=
  if client.connected then (client, [])
  else ({ client with connected := true, packetQueue := [] },
    client.sendImpl client.packetQueue)

/-- A socket that was never acknowledged keeps its queue. -/
def onDisconnect (client : SioClient Item) : SioClient Item :=
  if client.connected then { client with connected := false, packetQueue := [] } else client

/-- An abnormal close or a failed attempt disconnects the socket and keeps its event handlers. -/
def onClose (client : SioClient Item) : SioClient Item :=
  onDisconnect { client with conState := .closed }

def timeoutReconnect (client : SioClient Item) : SioClient Item :=
  if client.conState = .closed then { client with conState := .opening } else client

@[simp] theorem onClose_connected (client : SioClient Item) :
    client.onClose.connected = false := by
  by_cases was : client.connected = true <;> simp [onClose, onDisconnect, was]

/-- A close keeps the queue of a socket that was not connected, and empties any other. -/
theorem mem_onClose_queue {client : SioClient Item} {packet : Item}
    (kept : packet ∈ client.onClose.packetQueue) : packet ∈ client.packetQueue := by
  by_cases was : client.connected = true
  · simp [onClose, onDisconnect, was] at kept
  · simpa [onClose, onDisconnect, was] using kept

/-- What a user of the client does, and what happens to the client. -/
inductive Act (Item : Type) where
  | emit (packet : Item)
  | onOpen
  | onConnected
  | onClose
  | timeoutReconnect

/-- An act changes the client and writes packets. A session opens behind an attempt alone, and
only an open one acknowledges the namespace. -/
def take (client : SioClient Item) : Act Item → Option (SioClient Item × List Item)
  | .emit packet => some (client.emit packet)
  | .onOpen => if client.conState = .opening then some (client.onOpen, []) else none
  | .onConnected => if client.conState = .opened then some client.onConnected else none
  | .onClose => some (client.onClose, [])
  | .timeoutReconnect => some (client.timeoutReconnect, [])

/-- A run of acts writes the packets of each one behind those before. -/
def exec : SioClient Item → List (Act Item) → Option (SioClient Item × List Item)
  | client, [] => some (client, [])
  | client, act :: rest =>
      (client.take act).bind fun taken =>
        (taken.1.exec rest).map fun ran => (ran.1, taken.2 ++ ran.2)

/-- Runs follow each other. -/
theorem exec_append {client middle last : SioClient Item} {first second : List (Act Item)}
    {written later : List Item} (ran : client.exec first = some (middle, written))
    (goesOn : middle.exec second = some (last, later)) :
    client.exec (first ++ second) = some (last, written ++ later) := by
  induction first generalizing client written with
  | nil =>
      cases ran
      exact goesOn
  | cons act rest ih =>
      obtain ⟨⟨next, front⟩, taken, ran⟩ := Option.bind_eq_some_iff.mp ran
      obtain ⟨⟨_, back⟩, ranRest, same⟩ := Option.map_eq_some_iff.mp ran
      cases same
      rw [List.cons_append, exec, taken, Option.bind_some, ih ranRest, Option.map_some,
        List.append_assoc]

theorem exec_single {client next : SioClient Item} {act : Act Item} {written : List Item}
    (taken : client.take act = some (next, written)) :
    client.exec [act] = some (next, written) := by
  rw [exec, taken, Option.bind_some]
  exact congrArg some (congrArg (next, ·) (List.append_nil written))

/-- No act closes the client for good. -/
theorem exec_goesOn {client last : SioClient Item} {acts : List (Act Item)} {written : List Item}
    (goesOn : client.conState ≠ .closing) (ran : client.exec acts = some (last, written)) :
    last.conState ≠ .closing := by
  induction acts generalizing client written with
  | nil =>
      cases ran
      exact goesOn
  | cons act rest ih =>
      obtain ⟨taken, took, ran⟩ := Option.bind_eq_some_iff.mp ran
      obtain ⟨_, ranRest, same⟩ := Option.map_eq_some_iff.mp ran
      cases same
      refine ih ?_ ranRest
      unfold take at took
      cases act with
      | emit packet =>
          cases took
          unfold emit
          split_ifs <;> exact goesOn
      | onOpen =>
          obtain ⟨_, opened⟩ := Option.ite_none_right_eq_some.mp took
          cases opened
          exact (by decide : ConState.opened ≠ .closing)
      | onConnected =>
          obtain ⟨_, connected⟩ := Option.ite_none_right_eq_some.mp took
          cases connected
          unfold onConnected
          split_ifs <;> exact goesOn
      | onClose =>
          cases took
          unfold onClose onDisconnect
          split_ifs <;> exact (by decide : ConState.closed ≠ .closing)
      | timeoutReconnect =>
          cases took
          unfold timeoutReconnect
          split_ifs
          · exact (by decide : ConState.opening ≠ .closing)
          · exact goesOn

end SioClient
end VoiceCall.Signalling
