import VoiceCall.Transport.SocketLife
import VoiceCall.Transport.SocketThreads

namespace VoiceCall.Transport.Threads
open Foundation

variable {Thread Item : Type} [DecidableEq Thread]

/-- A thread goes on for a number of accesses while all others stand still. -/
def goOn (state : Threads Thread Item) (thread : Thread) (accesses : Nat) :
    Option (Threads Thread Item) :=
  machine.exec state (List.replicate accesses (.advance thread))

/-- A thread that is left alone comes to a state within a number of accesses. -/
def Comes (thread : Thread) (most : Nat) (state next : Threads Thread Item) : Prop :=
  ∃ accesses ≤ most, state.goOn thread accesses = some next

section Comes

variable {state middle next : Threads Thread Item} {thread : Thread} {outer : List (Place Item)}

theorem goOn_succ (accesses : Nat) :
    state.goOn thread (accesses + 1) = (state.advance thread).bind (·.goOn thread accesses) := by
  rw [goOn, List.replicate_succ, Machine.exec_cons]
  rfl

theorem goOn_add (first second : Nat) :
    state.goOn thread (first + second) = (state.goOn thread first).bind (·.goOn thread second) := by
  rw [goOn, List.replicate_add, Machine.exec_append]
  rfl

/-- A thread that has left its method changes nothing. -/
theorem goOn_idle (idle : state.stack thread = []) (accesses : Nat) :
    state.goOn thread accesses = some state := by
  induction accesses with
  | zero => rfl
  | succ accesses ih => rw [goOn_succ, advance, idle, Option.bind_some, ih]

namespace Comes

theorem here (most : Nat) : Comes thread most state state := ⟨0, Nat.zero_le most, rfl⟩

theorem trans {first second most : Nat} (before : Comes thread first state middle)
    (after : Comes thread second middle next) (enough : first + second ≤ most) :
    Comes thread most state next := by
  obtain ⟨early, earlyFew, reached⟩ := before
  obtain ⟨late, lateFew, last⟩ := after
  exact ⟨early + late, (Nat.add_le_add earlyFew lateFew).trans enough,
    by rw [goOn_add, reached]; exact last⟩

/-- One access leads on from a place. -/
theorem access {place : Place Item} {most : Nat} (at' : state.stack thread = place :: outer)
    (taken : state.access thread outer place = some middle) (after : Comes thread most middle next) :
    Comes thread (most + 1) state next := by
  obtain ⟨accesses, few, last⟩ := after
  refine ⟨accesses + 1, Nat.add_le_add_right few 1, ?_⟩
  rw [goOn_succ, advance, at']
  exact (congrArg (·.bind (·.goOn thread accesses)) taken).trans last

/-- A thread that has left its method stays where it is for the accesses that are left. -/
theorem idle {most accesses : Nat} (comes : Comes thread most state next)
    (idle : next.stack thread = []) (enough : most ≤ accesses) :
    state.goOn thread accesses = some next := by
  obtain ⟨few, fewer, reached⟩ := comes
  obtain ⟨rest, rfl⟩ := Nat.exists_eq_add_of_le (fewer.trans enough)
  rw [goOn_add, reached, Option.bind_some, goOn_idle idle]

end Comes

/-- A thread that drains the queue sends it, and its own item behind it if it has one. -/
theorem comes_draining {last : Option Item} (open' : state.hasClient = true)
    (at' : state.stack thread = .draining last :: outer) :
    Comes thread (3 * state.queue.length + 3) state { state.goTo thread outer with
      queue := []
      sent := state.sent ++ (state.queue ++ last.toList) } := by
  generalize waiting : state.queue = queue
  induction queue generalizing state with
  | nil =>
      cases last with
      | none =>
          have looked : state.access thread outer (.draining none) =
              some (state.goTo thread outer) := by simp [Threads.access, waiting]
          have same : { state.goTo thread outer with
              queue := []
              sent := state.sent ++ ([] ++ (none : Option Item).toList) } =
                state.goTo thread outer := by simp [goTo, ← waiting]
          rw [same]
          exact .access at' looked (.here _)
      | some item =>
          have looked : state.access thread outer (.draining (some item)) =
              some (state.goTo thread (.ending item :: outer)) := by simp [Threads.access, waiting]
          have found : (state.goTo thread (.ending item :: outer)).access thread outer
              (.ending item) = some (state.goTo thread (.finishing item :: outer)) := by
            simp [Threads.access, dereference, goTo, open']
          refine .access at' looked (.access (Function.update_self ..) found
            (.access (Function.update_self ..) ?_ (.here 0)))
          simp [Threads.access, deliver, goTo, ← waiting]
  | cons front queue ih =>
      have looked : state.access thread outer (.draining last) = some
          { state.goTo thread (.carrying front last :: outer) with queue } := by
        simp [Threads.access, waiting]
      have found : ({ state.goTo thread (.carrying front last :: outer) with queue } :
          Threads Thread Item).access thread outer (.carrying front last) = some
            { state.goTo thread (.handing front last :: outer) with queue } := by
        simp [Threads.access, dereference, goTo, open']
      have handed : ({ state.goTo thread (.handing front last :: outer) with queue } :
          Threads Thread Item).access thread outer (.handing front last) = some
            { state.goTo thread (.draining last :: outer) with
              queue, sent := state.sent ++ [front] } := by
        simp [Threads.access, deliver, goTo]
      have rest := @ih { state.goTo thread (.draining last :: outer) with
        queue, sent := state.sent ++ [front] } open' (Function.update_self ..) rfl
      refine .access at' looked (.access (Function.update_self ..) found
        (.access (Function.update_self ..) handed ?_))
      rw [List.length_cons, Nat.mul_add_one]
      simpa [goTo] using rest

/-- A send on a connected socket empties the queue before its own item. -/
theorem comes_asked {item : Item} (open' : state.hasClient = true)
    (connected : state.connected = true) (at' : state.stack thread = .asked item :: outer) :
    Comes thread (3 * state.queue.length + 4) state { state.goTo thread outer with
      queue := []
      sent := state.sent ++ (state.queue ++ [item]) } := by
  have tested : state.access thread outer (.asked item) =
      some (state.goTo thread (.draining (some item) :: outer)) := by
    simp [Threads.access, connected]
  have drained := @comes_draining _ _ _ (state.goTo thread (.draining (some item) :: outer)) thread
    outer (some item) open' (Function.update_self ..)
  refine .access at' tested ?_
  simpa [goTo] using drained

/-- The open listener sends what it has to send, and the rest of the queue follows. -/
theorem comes_opened {sends : List Item} (open' : state.hasClient = true)
    (connected : state.connected = true) (at' : state.stack thread = [.opened sends]) :
    Comes thread (3 * state.queue.length + 5 * sends.length + 4) state { state.goTo thread [] with
      queue := []
      asked := state.asked ++ sends
      sent := state.sent ++ (state.queue ++ sends) } := by
  induction sends generalizing state with
  | nil =>
      have drained := @comes_draining _ _ _ (state.goTo thread [.draining none]) thread [] none
        open' (Function.update_self ..)
      refine .access at' rfl ?_
      simpa [goTo] using drained
  | cons item sends ih =>
      have passed : state.access thread [] (.opened (item :: sends)) = some
          { state.goTo thread [.asked item, .opened sends] with asked := state.asked ++ [item] } :=
        congrArg some (if_pos open')
      have asked := @comes_asked _ _ _
        { state.goTo thread [.asked item, .opened sends] with asked := state.asked ++ [item] }
        thread [.opened sends] item open' connected (Function.update_self ..)
      have rest := @ih { state.goTo thread [.opened sends] with
        queue := []
        asked := state.asked ++ [item]
        sent := state.sent ++ (state.queue ++ [item]) } open' connected (Function.update_self ..)
      simp only [goTo, Function.update_idem, List.append_assoc, List.singleton_append] at asked rest
      refine .access at' passed (asked.trans rest ?_)
      simp only [List.length_cons, List.length_nil]
      omega

/-- The first answer to a connect opens the socket. -/
theorem comes_answered {sends : List Item} (open' : state.hasClient = true)
    (unanswered : state.connected = false) (at' : state.stack thread = [.answered sends]) :
    Comes thread (3 * state.queue.length + 5 * sends.length + 7) state { state.goTo thread [] with
      connected := true
      queue := []
      asked := state.asked ++ sends
      sent := state.sent ++ (state.queue ++ sends) } := by
  have tested : state.access thread [] (.answered sends) =
      some (state.goTo thread [.connecting sends]) := by
    simp [Threads.access, unanswered]
  have called : ({ (state.goTo thread [.connecting sends]).goTo thread [.opening sends] with
      connected := true } : Threads Thread Item).access thread [] (.opening sends) =
        some { state.goTo thread [.opened sends] with connected := true } := by
    simp [Threads.access, dereference, goTo, open']
  have comes := @comes_opened _ _ _ { state.goTo thread [.opened sends] with connected := true }
    thread sends open' rfl (Function.update_self ..)
  simp only [goTo, Function.update_idem] at comes
  exact .access at' tested (.access (Function.update_self ..) rfl
    (.access (Function.update_self ..) called comes))

theorem comes_disconnecting (connected : state.connected = true)
    (at' : state.stack thread = [.disconnecting]) :
    Comes thread 3 state { state.goTo thread [] with
      connected := false
      queue := []
      dropped := state.dropped ++ state.queue } := by
  have tested : state.access thread [] .disconnecting =
      some (state.goTo thread [.disconnected]) := by
    simp [Threads.access, connected]
  have cleared : ({ (state.goTo thread [.disconnected]).goTo thread [.clearing] with
      connected := false } : Threads Thread Item).access thread [] .clearing =
        some { state.goTo thread [] with
          connected := false
          queue := []
          dropped := state.dropped ++ state.queue } := by
    simp [Threads.access, goTo]
  exact .access at' tested (.access (Function.update_self ..) rfl
    (.access (Function.update_self ..) cleared (.here 0)))

/-- The close listener finds no client, and its sends come to nothing. -/
theorem comes_left {sends : List Item} (gone : state.hasClient = false)
    (at' : state.stack thread = [.left sends]) :
    Comes thread (sends.length + 1) state (state.goTo thread []) := by
  induction sends generalizing state with
  | nil => exact .access at' rfl (.here 0)
  | cons item sends ih =>
      have refused : state.access thread [] (.left (item :: sends)) =
          some (state.goTo thread [.left sends]) :=
        congrArg some (if_neg (by simp [gone]))
      have rest := @ih (state.goTo thread [.left sends]) gone (Function.update_self ..)
      simp only [goTo, Function.update_idem] at rest
      exact .access at' refused rest

/-- A close forgets the client before it drops what waits. -/
theorem comes_closing {sends : List Item} (open' : state.hasClient = true)
    (at' : state.stack thread = [.closing sends]) :
    Comes thread (sends.length + 6) state { state.goTo thread [] with
      hasClient := false
      connected := false
      queue := []
      dropped := state.dropped ++ state.queue } := by
  have copied : state.access thread [] (.closing sends) =
      some (state.goTo thread [.forgetting true sends]) := by
    simp [Threads.access, open']
  have comes := @comes_left _ _ _ { state.goTo thread [.left sends] with
    hasClient := false
    connected := false
    queue := []
    dropped := state.dropped ++ state.queue } thread sends rfl (Function.update_self ..)
  simp only [goTo, Function.update_idem] at comes
  refine .access at' copied (.access (Function.update_self ..) rfl
    (.access (Function.update_self ..) rfl (.access (Function.update_self ..) rfl
      (.access (Function.update_self ..) rfl ?_))))
  simpa only [goTo, Function.update_idem] using comes

end Comes

/-! ### The methods of a socket -/

section Atomic

variable {Double Callback : Type}

/-- The shared fields of a socket while no thread is in a method. -/
def ofSocket (socket : Socket Double Callback) (dropped : List (Packet Double)) :
    Threads Thread (Packet Double) :=
  ⟨socket.hasClient, socket.connected, socket.packetQueue, fun _ => [], socket.asked,
    socket.carried, dropped⟩

/-- A thread that enters a method and is left alone until it has left it. -/
def alone (state : Threads Thread Item) (event : Event Thread Item) (accesses : Nat) :
    Option (Threads Thread Item) :=
  machine.exec state (event :: List.replicate accesses (.advance event.thread))

theorem alone_eq {state next : Threads Thread Item} {event : Event Thread Item}
    {most accesses : Nat} (idle : state.stack event.thread = [])
    (comes : Comes event.thread most (state.enter event) next)
    (left : next.stack event.thread = []) (enough : most ≤ accesses) :
    state.alone event accesses = some next := by
  have entered : machine.step state event = some (state.enter event) := by
    show state.step event = some (state.enter event)
    unfold step
    cases event with
    | advance thread =>
        show state.advance thread = some state
        rw [advance, show state.stack thread = [] from idle]
    | _ => rw [idle]
  rw [alone, Machine.exec_cons, entered]
  exact comes.idle left enough

variable {socket : Socket Double Callback} (thread : Thread) (dropped : List (Packet Double))
  {accesses : Nat}

theorem sendPacket_alone (orderly : socket.Orderly) (open' : socket.hasClient = true)
    {packet : Packet Double} (data : packet.type ≠ typeConnect)
    (enough : 3 * socket.packetQueue.length + 4 ≤ accesses) :
    (ofSocket socket dropped).alone (.sendPacket thread packet) accesses =
      some (ofSocket (socket.sendPacket packet) dropped) := by
  have entered : (ofSocket socket dropped).enter (.sendPacket thread packet) =
      { (ofSocket socket dropped).goTo thread [.asked packet] with
        asked := socket.asked ++ [packet] } :=
    if_pos open'
  refine alone_eq rfl (?_ : Comes thread _ _ _) rfl enough
  rw [entered]
  cases connected : socket.connected with
  | true =>
      have sent := Socket.sendPacket_connected open' connected orderly.data data
      have comes := @comes_asked _ _ _ { (ofSocket socket dropped).goTo thread [.asked packet] with
        asked := socket.asked ++ [packet] } thread [] packet open' connected (Function.update_self ..)
      simpa [goTo, ofSocket, sent, connected, Socket.sendPacket_keeps] using comes
  | false =>
      have sent := Socket.sendPacket_unconnected packet open' connected
      have tested : ({ (ofSocket socket dropped).goTo thread [.asked packet] with
          asked := socket.asked ++ [packet] } : Threads Thread (Packet Double)).access thread []
            (.asked packet) = some { (ofSocket socket dropped).goTo thread [.queueing packet] with
              asked := socket.asked ++ [packet] } := by
        simp [Threads.access, goTo, ofSocket, connected]
      have queued : ({ (ofSocket socket dropped).goTo thread [.queueing packet] with
          asked := socket.asked ++ [packet] } : Threads Thread (Packet Double)).access thread []
            (.queueing packet) = some (ofSocket (socket.sendPacket packet) dropped) := by
        simp [Threads.access, goTo, ofSocket, sent, Socket.sendPacket_keeps]
      exact .access (Function.update_self ..) tested
        (.access (Function.update_self ..) queued (.here _))

/-- A guarded method is entered at its first place. -/
theorem enter_guarded (open' : socket.hasClient = true) (place : Place (Packet Double)) :
    (ofSocket socket dropped).guarded thread place =
      (ofSocket socket dropped).goTo thread [place] :=
  if_pos open'

omit [DecidableEq Thread] in
/-- A socket that has just connected has sent all it was asked for. -/
theorem onConnected_sent (reached : Socket.machine.Reachable socket)
    (open' : socket.hasClient = true) (unanswered : socket.connected = false)
    {calls : List (Socket.Call Double Callback)} {sends : List (Packet Double)}
    (asks : (socket.onConnected calls).asked = socket.asked ++ sends) :
    ofSocket (socket.onConnected calls) dropped =
      (⟨true, true, [], fun _ => [], socket.asked ++ sends,
        socket.carried ++ (socket.packetQueue ++ sends), dropped⟩ :
          Threads Thread (Packet Double)) := by
  have answers : Socket.machine.step socket (.packet (.ofType typeConnect socket.nsp .nullptr)
      { Socket.idle with opened := calls }) = some (socket.onConnected calls) := by
    have type : (Packet.ofType typeConnect socket.nsp .nullptr : Packet Double).type =
        typeConnect := rfl
    show socket.onMessagePacket _ _ = _
    rw [Socket.onMessagePacket, if_neg, if_pos type]
    rintro (gone | other)
    · cases open'.symm.trans gone
    · exact other rfl
  have after := Socket.orderly_of_reachable (.step reached trivial answers)
  have flags : (socket.onConnected calls).hasClient = true ∧
      (socket.onConnected calls).connected = true ∧ (socket.onConnected calls).packetQueue = [] := by
    rw [Socket.onConnected_unanswered unanswered]
    exact ⟨(Socket.perform_hasClient calls).trans open', Socket.perform_connected calls, rfl⟩
  have sent : (socket.onConnected calls).carried =
      socket.carried ++ (socket.packetQueue ++ sends) := by
    have whole := after.asked_eq flags.1
    rw [flags.2.2, List.append_nil, asks,
      (Socket.orderly_of_reachable reached).asked_eq open', List.append_assoc] at whole
    exact whole.symm
  rw [ofSocket, flags.1, flags.2.1, flags.2.2, asks, sent]

/-- The sends of the open listener are the packets that its calls ask for. -/
theorem onConnected_alone (reached : Socket.machine.Reachable socket)
    (open' : socket.hasClient = true) {calls : List (Socket.Call Double Callback)}
    {sends : List (Packet Double)} (asks : (socket.onConnected calls).asked = socket.asked ++ sends)
    (enough : 3 * socket.packetQueue.length + 5 * sends.length + 7 ≤ accesses) :
    (ofSocket socket dropped).alone (.onConnected thread sends) accesses =
      some (ofSocket (socket.onConnected calls) dropped) := by
  refine alone_eq rfl (?_ : Comes thread _ _ _) rfl enough
  show Comes thread _ ((ofSocket socket dropped).guarded thread (.answered sends)) _
  rw [enter_guarded thread dropped open']
  cases connected : socket.connected with
  | true =>
      have kept : socket.onConnected calls = socket.resetTimer none := if_pos connected
      have tested : ((ofSocket socket dropped).goTo thread [.answered sends]).access thread []
          (.answered sends) = some (ofSocket socket dropped) := by
        simp [Threads.access, goTo, ofSocket, connected]
      rw [kept]
      exact .access (Function.update_self ..) tested (.here _)
  | false =>
      have comes := @comes_answered _ _ _ ((ofSocket socket dropped).goTo thread [.answered sends])
        thread sends open' connected (Function.update_self ..)
      rw [onConnected_sent dropped reached open' connected asks]
      simpa [goTo, ofSocket, open'] using comes

theorem onDisconnect_alone (settled : socket.Settled) (open' : socket.hasClient = true)
    (enough : 3 ≤ accesses) :
    (ofSocket socket dropped).alone (.onDisconnect thread) accesses =
      some (ofSocket socket.onDisconnect dropped) := by
  refine alone_eq rfl (?_ : Comes thread _ _ _) rfl enough
  show Comes thread _ ((ofSocket socket dropped).guarded thread .disconnecting) _
  rw [enter_guarded thread dropped open']
  cases connected : socket.connected with
  | true =>
      have lost : socket.onDisconnect = { socket with connected := false, packetQueue := [] } :=
        if_pos ⟨open', connected⟩
      have comes := @comes_disconnecting _ _ _ ((ofSocket socket dropped).goTo thread
        [.disconnecting]) thread connected (Function.update_self ..)
      have same : (ofSocket socket.onDisconnect dropped : Threads Thread (Packet Double)) =
          { ofSocket socket dropped with connected := false, queue := [] } := by
        rw [lost]
        rfl
      rw [same]
      simpa [goTo, ofSocket, settled.empty connected] using comes
  | false =>
      have kept : socket.onDisconnect = socket := if_neg (by simp [connected])
      have tested : ((ofSocket socket dropped).goTo thread [.disconnecting]).access thread []
          .disconnecting = some (ofSocket socket dropped) := by
        simp [Threads.access, goTo, ofSocket, connected]
      rw [kept]
      exact .access (Function.update_self ..) tested (.here _)

omit [DecidableEq Thread] in
/-- A socket that has just closed has dropped what waited, whatever its listener calls. -/
theorem onClose_dropped (open' : socket.hasClient = true)
    (calls : List (Socket.Call Double Callback)) :
    ofSocket (socket.onClose calls) (dropped ++ socket.packetQueue) =
      (⟨false, false, [], fun _ => [], socket.asked, socket.carried,
        dropped ++ socket.packetQueue⟩ : Threads Thread (Packet Double)) := by
  let closed := { socket.resetTimer none with
    hasClient := false
    connected := false
    packetQueue := [] }.note (.closed : Socket.Note Double Callback)
  have closes : socket.onClose calls = (closed.perform calls).note .removed := by
    rw [Socket.onClose, if_neg (by simp [open'])]
  have gone := Socket.perform_gone (show closed.hasClient = false from rfl) calls
  have asked : (socket.onClose calls).asked = socket.asked := by
    rw [closes, Socket.asked_note, Socket.asked, gone.1]
    exact (List.append_nil _).trans ((Socket.asked_note _).trans (List.append_nil _))
  have carried : (socket.onClose calls).carried = socket.carried := by
    rw [closes, Socket.carried_note, Socket.carried, gone.1]
    exact (List.append_nil _).trans ((Socket.carried_note _).trans (List.append_nil _))
  have connected : (socket.onClose calls).connected = false := by
    rw [closes]
    exact Socket.perform_connected calls
  have queue : (socket.onClose calls).packetQueue = [] := by
    rw [closes]
    exact gone.2
  rw [ofSocket, Socket.onClose_hasClient calls, connected, queue, asked, carried]

theorem onClose_alone (open' : socket.hasClient = true)
    (calls : List (Socket.Call Double Callback)) (sends : List (Packet Double))
    (enough : sends.length + 6 ≤ accesses) :
    (ofSocket socket dropped).alone (.onClose thread sends) accesses =
      some (ofSocket (socket.onClose calls) (dropped ++ socket.packetQueue)) := by
  refine alone_eq rfl (?_ : Comes thread _ _ _) rfl enough
  show Comes thread _ ((ofSocket socket dropped).guarded thread (.closing sends)) _
  rw [enter_guarded thread dropped open', onClose_dropped dropped open' calls]
  have comes := @comes_closing _ _ _ ((ofSocket socket dropped).goTo thread [.closing sends])
    thread sends open' (Function.update_self ..)
  simpa [goTo, ofSocket] using comes

/-- A thread that runs a method from its start to its end, while all other threads stand still,
does what the method of a socket does at once. The open listener sends the packets that its calls
ask for, and the close listener may send what it likes. -/
theorem methods_left_alone (reached : Socket.machine.Reachable socket)
    (open' : socket.hasClient = true) :
    (∀ packet : Packet Double, packet.type ≠ typeConnect →
        ∀ accesses, 3 * socket.packetQueue.length + 4 ≤ accesses →
        (ofSocket socket dropped).alone (.sendPacket thread packet) accesses =
          some (ofSocket (socket.sendPacket packet) dropped)) ∧
      (∀ calls, ∃ sends, (socket.onConnected calls).asked = socket.asked ++ sends ∧
        ∀ accesses, 3 * socket.packetQueue.length + 5 * sends.length + 7 ≤ accesses →
        (ofSocket socket dropped).alone (.onConnected thread sends) accesses =
          some (ofSocket (socket.onConnected calls) dropped)) ∧
      (∀ accesses, 3 ≤ accesses →
        (ofSocket socket dropped).alone (.onDisconnect thread) accesses =
          some (ofSocket socket.onDisconnect dropped)) ∧
      ∀ calls sends accesses, sends.length + 6 ≤ accesses →
        (ofSocket socket dropped).alone (.onClose thread sends) accesses =
          some (ofSocket (socket.onClose calls) (dropped ++ socket.packetQueue)) := by
  have orderly := Socket.orderly_of_reachable reached
  have settled := Socket.settled_of_reachable reached
  refine ⟨?_, fun calls => ?_, ?_, ?_⟩
  · exact fun packet data accesses => sendPacket_alone thread dropped orderly open' data
  · obtain ⟨sends, asks⟩ := Socket.Moves.asked_prefix (Socket.moves_onConnected socket calls open')
    exact ⟨sends, asks.symm, fun accesses =>
      onConnected_alone thread dropped reached open' asks.symm⟩
  · exact fun accesses => onDisconnect_alone thread dropped settled open'
  · exact fun calls sends accesses => onClose_alone thread dropped open' calls sends

/-- A socket whose register packet waits for the server. -/
def waiting : Socket Empty Nat :=
  (Socket.machine.exec Socket.fresh (Socket.registering.take 2)).get rfl

theorem methods_left_alone_waiting :
    ∃ sends, sends.length = 1 ∧ (ofSocket waiting []).alone (.onConnected true sends) 15 =
      some (ofSocket (waiting.onConnected [.emit (ascii "hello") [] none]) []) := by
  have reached : Socket.machine.Reachable waiting :=
    Machine.Reachable.exec (.initial Socket.fresh_initial) (Option.some_get _).symm
  obtain ⟨sends, asks, left⟩ := (methods_left_alone true [] reached rfl).2.1
    [.emit (ascii "hello") [] none]
  have one : sends.length = 1 := by
    have lengths := congrArg List.length asks
    rw [List.length_append] at lengths
    exact (Nat.add_left_cancel (lengths.symm.trans (rfl : _ = waiting.asked.length + 1)))
  refine ⟨sends, one, left 15 ?_⟩
  rw [one]
  decide

end Atomic
end VoiceCall.Transport.Threads
