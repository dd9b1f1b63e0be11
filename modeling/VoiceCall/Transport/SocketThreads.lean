import VoiceCall.Transport.SocketOrder

namespace VoiceCall.Transport
open Foundation

/-- Where a thread stands in a method that shares the queue of a socket. The method has read
`m_client` in its guard. A method that calls a listener keeps what the listener will send, and
`on_close` keeps the pointer that it has copied. -/
inductive Place (Item : Type) where
  | asked (item : Item)
  | queueing (item : Item)
  | draining (last : Option Item)
  | carrying (front : Item) (last : Option Item)
  | handing (front : Item) (last : Option Item)
  | ending (item : Item)
  | finishing (item : Item)
  | answered (sends : List Item)
  | connecting (sends : List Item)
  | opening (sends : List Item)
  | opened (sends : List Item)
  | disconnecting
  | disconnected
  | clearing
  | closing (sends : List Item)
  | forgetting (client : Bool) (sends : List Item)
  | forgotten (client : Bool) (sends : List Item)
  | emptying (client : Bool) (sends : List Item)
  | reporting (client : Bool) (sends : List Item)
  | left (sends : List Item)
deriving DecidableEq, Repr

/-- The places in `send_packet` and in the loop that empties the queue. -/
def Place.sends {Item : Type} : Place Item → Bool
  | .asked _ => true
  | .queueing _ => true
  | .draining _ => true
  | .carrying _ _ => true
  | .handing _ _ => true
  | .ending _ => true
  | .finishing _ => true
  | _ => false

/-- The fields of a socket that its threads share, and the methods each thread is in, the inner
one first. The last three fields say what became of the items in order. -/
structure Threads (Thread Item : Type) where
  hasClient : Bool
  connected : Bool
  queue : List Item
  stack : Thread → List (Place Item)
  asked : List Item
  sent : List Item
  dropped : List Item

namespace Threads

variable {Thread Item : Type} [DecidableEq Thread]

def goTo (state : Threads Thread Item) (thread : Thread) (stack : List (Place Item)) :
    Threads Thread Item :=
  { state with stack := Function.update state.stack thread stack }

/-- A call through `m_client` reads it first. A client that is gone has no outcome. -/
def dereference (state : Threads Thread Item) (thread : Thread) (stack : List (Place Item)) :
    Option (Threads Thread Item) :=
  if state.hasClient then some (state.goTo thread stack) else none

def deliver (state : Threads Thread Item) (thread : Thread) (item : Item)
    (stack : List (Place Item)) : Threads Thread Item :=
  { state.goTo thread stack with sent := state.sent ++ [item] }

/-- The guard of `send_packet` lets an item pass while the socket has its client. -/
def sendPacket (state : Threads Thread Item) (thread : Thread) (item : Item)
    (outer : List (Place Item)) : Threads Thread Item :=
  if state.hasClient then
    { state.goTo thread (.asked item :: outer) with asked := state.asked ++ [item] }
  else state.goTo thread outer

/-- One access of a thread to what it shares. The lock of the queue makes a look at it and the
removal of its front one access. A listener sends from inside the method that calls it. -/
def access (state : Threads Thread Item) (thread : Thread) (outer : List (Place Item)) :
    Place Item → Option (Threads Thread Item)
  | .asked item =>
      some (state.goTo thread
        ((if state.connected then .draining (some item) else .queueing item) :: outer))
  | .queueing item => some { state.goTo thread outer with queue := state.queue ++ [item] }
  | .draining last =>
      match state.queue, last with
      | [], none => some (state.goTo thread outer)
      | [], some item => some (state.goTo thread (.ending item :: outer))
      | front :: queue, last =>
          some { state.goTo thread (.carrying front last :: outer) with queue }
  | .carrying front last => state.dereference thread (.handing front last :: outer)
  | .handing front last => some (state.deliver thread front (.draining last :: outer))
  | .ending item => state.dereference thread (.finishing item :: outer)
  | .finishing item => some (state.deliver thread item outer)
  | .answered sends =>
      some (state.goTo thread (if state.connected then outer else .connecting sends :: outer))
  | .connecting sends => some { state.goTo thread (.opening sends :: outer) with connected := true }
  | .opening sends => state.dereference thread (.opened sends :: outer)
  | .opened [] => some (state.goTo thread (.draining none :: outer))
  | .opened (item :: sends) => some (state.sendPacket thread item (.opened sends :: outer))
  | .disconnecting =>
      some (state.goTo thread (if state.connected then .disconnected :: outer else outer))
  | .disconnected => some { state.goTo thread (.clearing :: outer) with connected := false }
  | .clearing =>
      some { state.goTo thread outer with
        queue := []
        dropped := state.dropped ++ state.queue }
  | .closing sends => some (state.goTo thread (.forgetting state.hasClient sends :: outer))
  | .forgetting client sends =>
      some { state.goTo thread (.forgotten client sends :: outer) with hasClient := false }
  | .forgotten client sends =>
      some { state.goTo thread (.emptying client sends :: outer) with connected := false }
  | .emptying client sends =>
      some { state.goTo thread (.reporting client sends :: outer) with
        queue := []
        dropped := state.dropped ++ state.queue }
  | .reporting client sends =>
      if client then some (state.goTo thread (.left sends :: outer)) else none
  | .left [] => some (state.goTo thread outer)
  | .left (item :: sends) => some (state.sendPacket thread item (.left sends :: outer))

/-- The next access of a thread is that of the method it is in. -/
def advance (state : Threads Thread Item) (thread : Thread) : Option (Threads Thread Item) :=
  match state.stack thread with
  | [] => some state
  | place :: outer => state.access thread outer place

/-- A guarded method is entered while the socket has its client. -/
def guarded (state : Threads Thread Item) (thread : Thread) (place : Place Item) :
    Threads Thread Item :=
  if state.hasClient then state.goTo thread [place] else state

def onConnected (state : Threads Thread Item) (thread : Thread) (sends : List Item) :
    Threads Thread Item :=
  state.guarded thread (.answered sends)

def onDisconnect (state : Threads Thread Item) (thread : Thread) : Threads Thread Item :=
  state.guarded thread .disconnecting

def onClose (state : Threads Thread Item) (thread : Thread) (sends : List Item) :
    Threads Thread Item :=
  state.guarded thread (.closing sends)

/-- A thread enters one of the methods, or goes on in the one it is in.
What the listener of a method will send comes with the method. -/
inductive Event (Thread Item : Type) where
  | sendPacket (thread : Thread) (item : Item)
  | onConnected (thread : Thread) (sends : List Item)
  | onDisconnect (thread : Thread)
  | onClose (thread : Thread) (sends : List Item)
  | advance (thread : Thread)

def Event.thread : Event Thread Item → Thread
  | .sendPacket thread _ => thread
  | .onConnected thread _ => thread
  | .onDisconnect thread => thread
  | .onClose thread _ => thread
  | .advance thread => thread

def enter (state : Threads Thread Item) : Event Thread Item → Threads Thread Item
  | .sendPacket thread item => state.sendPacket thread item []
  | .onConnected thread sends => state.onConnected thread sends
  | .onDisconnect thread => state.onDisconnect thread
  | .onClose thread sends => state.onClose thread sends
  | .advance _ => state

/-- A thread in a method enters another one only through a listener. -/
def step (state : Threads Thread Item) (event : Event Thread Item) :
    Option (Threads Thread Item) :=
  match event, state.stack event.thread with
  | .advance thread, _ => state.advance thread
  | event, [] => some (state.enter event)
  | _, _ => some state

/-- Any threads share a new socket. -/
def machine : Machine (Threads Thread Item) (Event Thread Item) where
  initial state := state = ⟨true, false, [], fun _ => [], [], [], []⟩
  step := step

/-! ### No item is lost or doubled -/

/-- The items that a thread has in its hands in one method. -/
def hand : Place Item → Multiset Item
  | .asked item => {item}
  | .queueing item => {item}
  | .draining last => last.toList
  | .carrying front last => front ::ₘ last.toList
  | .handing front last => front ::ₘ last.toList
  | .ending item => {item}
  | .finishing item => {item}
  | _ => 0

/-- The items that a thread has in its hands. -/
def hands (stack : List (Place Item)) : Multiset Item := (stack.map hand).sum

@[simp] theorem hands_nil : hands ([] : List (Place Item)) = 0 := rfl

@[simp] theorem hands_cons (place : Place Item) (outer : List (Place Item)) :
    hands (place :: outer) = hand place + hands outer := by
  rw [hands, List.map_cons, List.sum_cons]
  rfl

/-- Each item that was asked for is sent, dropped, in the queue or in one thread's hands. -/
def Conserved [Fintype Thread] (state : Threads Thread Item) : Prop :=
  (state.asked : Multiset Item) =
    state.sent + state.dropped + state.queue + ∑ thread, hands (state.stack thread)

section Conserved

variable [Fintype Thread] {state next : Threads Thread Item} {thread : Thread}
  {outer : List (Place Item)}

/-- What one thread puts down is what the others still have in their hands. -/
theorem sum_hands_update (stack : Thread → List (Place Item)) (thread : Thread)
    (put : List (Place Item)) :
    ∑ other, hands (Function.update stack thread put other) + hands (stack thread) =
      ∑ other, hands (stack other) + hands put := by
  have others : ∑ other ∈ Finset.univ.erase thread, hands (Function.update stack thread put other) =
      ∑ other ∈ Finset.univ.erase thread, hands (stack other) := by
    apply Finset.sum_congr rfl
    intro other isOther
    rw [Function.update_of_ne (Finset.ne_of_mem_erase isOther)]
  rw [← Finset.add_sum_erase _ (fun other => hands (Function.update stack thread put other))
    (Finset.mem_univ thread), ← Finset.add_sum_erase _ (fun other => hands (stack other))
    (Finset.mem_univ thread), others, Function.update_self]
  abel

/-- An access of one thread conserves the items when it balances what that thread holds. -/
theorem Conserved.of_access (conserved : Conserved state) {put : List (Place Item)}
    (moved : next.stack = Function.update state.stack thread put)
    (balance : (next.asked : Multiset Item) + state.sent + state.dropped + state.queue +
        hands (state.stack thread) =
      state.asked + next.sent + next.dropped + next.queue + hands put) : Conserved next := by
  classical
  have sums := sum_hands_update state.stack thread put
  rw [← moved] at sums
  apply Multiset.ext.mpr
  intro item
  have before := congrArg (Multiset.count item) conserved
  have after := congrArg (Multiset.count item) sums
  have both := congrArg (Multiset.count item) balance
  simp only [Multiset.count_add] at before after both ⊢
  omega

/-- A thread that goes on with the same items in its hands changes nothing. -/
theorem Conserved.goTo (conserved : Conserved state) {stack : List (Place Item)}
    (holds : hands (state.stack thread) = hands stack) : Conserved (state.goTo thread stack) := by
  apply conserved.of_access rfl
  rw [holds]
  rfl

theorem Conserved.sendPacket (conserved : Conserved state) {item : Item}
    (holds : hands (state.stack thread) = hands outer) :
    Conserved (state.sendPacket thread item outer) := by
  unfold Threads.sendPacket
  split
  · apply conserved.of_access rfl
    rw [holds, hands_cons]
    simp only [hand, Threads.goTo, ← Multiset.coe_add, Multiset.coe_singleton]
    abel
  · exact conserved.goTo holds

theorem Conserved.dereference (conserved : Conserved state) {stack : List (Place Item)}
    (holds : hands (state.stack thread) = hands stack)
    (taken : state.dereference thread stack = some next) : Conserved next := by
  obtain ⟨_, same⟩ := Option.ite_none_right_eq_some.mp taken
  cases same
  exact conserved.goTo holds

theorem Conserved.deliver (conserved : Conserved state) {item : Item} {stack : List (Place Item)}
    (holds : hands (state.stack thread) = item ::ₘ hands stack) :
    Conserved (state.deliver thread item stack) := by
  apply conserved.of_access rfl
  rw [holds]
  simp only [Threads.deliver, Threads.goTo, ← Multiset.coe_add, Multiset.coe_singleton,
    ← Multiset.singleton_add]
  abel

/-- A thread that clears the queue drops what it finds there. -/
theorem Conserved.clear (conserved : Conserved state) {stack : List (Place Item)}
    (holds : hands (state.stack thread) = hands stack) :
    Conserved { state.goTo thread stack with
      queue := []
      dropped := state.dropped ++ state.queue } := by
  apply conserved.of_access rfl
  rw [holds]
  simp only [Threads.goTo, ← Multiset.coe_add, Multiset.coe_nil]
  abel

/-- An access keeps the balance. -/
theorem Conserved.access (conserved : Conserved state) {place : Place Item}
    (at' : state.stack thread = place :: outer)
    (taken : state.access thread outer place = some next) : Conserved next := by
  have holds : hands (state.stack thread) = hand place + hands outer := by rw [at', hands_cons]
  cases place with
  | asked item =>
      cases taken
      refine conserved.goTo ?_
      rw [holds, hands_cons]
      split <;> rfl
  | queueing item =>
      cases taken
      apply conserved.of_access rfl
      rw [holds]
      simp only [hand, Threads.goTo, ← Multiset.coe_add, Multiset.coe_singleton]
      abel
  | draining last =>
      simp only [Threads.access] at taken
      cases waiting : state.queue with
      | nil =>
          rw [waiting] at taken
          cases last with
          | none =>
              cases taken
              refine conserved.goTo ?_
              rw [holds]
              exact zero_add _
          | some item =>
              cases taken
              refine conserved.goTo ?_
              rw [holds, hands_cons]
              rfl
      | cons front queue =>
          rw [waiting] at taken
          cases taken
          apply conserved.of_access rfl
          rw [holds, hands_cons, waiting]
          simp only [hand, Threads.goTo, ← Multiset.cons_coe, ← Multiset.singleton_add]
          abel
  | carrying front last | ending item | opening sends =>
      refine conserved.dereference ?_ taken
      rw [holds, hands_cons]
      rfl
  | handing front last =>
      cases taken
      refine conserved.deliver ?_
      rw [holds, hands_cons, hand, hand, Multiset.cons_add]
  | finishing item =>
      cases taken
      refine conserved.deliver ?_
      rw [holds, hand, Multiset.singleton_add]
  | answered sends =>
      cases taken
      refine conserved.goTo ?_
      rw [holds]
      split
      · exact zero_add _
      · rw [hands_cons]
        rfl
  | disconnecting =>
      cases taken
      refine conserved.goTo ?_
      rw [holds]
      split
      · rw [hands_cons]
        rfl
      · exact zero_add _
  | connecting sends | disconnected | forgetting client sends | forgotten client sends =>
      cases taken
      apply conserved.of_access rfl
      rw [holds, hands_cons]
      rfl
  | closing sends =>
      cases taken
      refine conserved.goTo ?_
      rw [holds, hands_cons]
      rfl
  | reporting client sends =>
      obtain ⟨_, same⟩ := Option.ite_none_right_eq_some.mp taken
      cases same
      refine conserved.goTo ?_
      rw [holds, hands_cons]
      rfl
  | opened sends | left sends =>
      cases sends with
      | nil =>
          cases taken
          refine conserved.goTo ?_
          simp [holds, hand]
      | cons item sends =>
          cases taken
          refine conserved.sendPacket ?_
          rw [holds, hands_cons]
          rfl
  | clearing =>
      cases taken
      refine conserved.clear ?_
      rw [holds]
      exact zero_add _
  | emptying client sends =>
      cases taken
      refine conserved.clear ?_
      rw [holds, hands_cons]
      rfl

theorem Conserved.guarded (conserved : Conserved state) {place : Place Item}
    (idle : state.stack thread = []) (empty : hand place = 0) :
    Conserved (state.guarded thread place) := by
  unfold Threads.guarded
  split
  · refine conserved.goTo ?_
    simp [idle, empty]
  · exact conserved

theorem Conserved.enter (conserved : Conserved state) {event : Event Thread Item}
    (idle : state.stack event.thread = []) : Conserved (state.enter event) := by
  cases event with
  | sendPacket thread item =>
      refine conserved.sendPacket ?_
      rw [show state.stack thread = [] from idle]
  | onConnected thread sends => exact conserved.guarded idle rfl
  | onDisconnect thread => exact conserved.guarded idle rfl
  | onClose thread sends => exact conserved.guarded idle rfl
  | advance => exact conserved

/-- Across every interleaving of the accesses of any threads, each item that was asked for is in
one place: it was sent once, dropped once, is in the queue or in the hands of one thread. -/
theorem items_conserved (reached : machine.Reachable state) :
    (state.asked : Multiset Item) =
      state.sent + state.dropped + state.queue + ∑ thread, hands (state.stack thread) := by
  suffices conserved : Conserved state from conserved
  refine reached.invariant ?_ ?_
  · rintro _ rfl
    simp [Conserved]
  · intro before event after conserved _ taken
    change before.step event = some after at taken
    unfold step at taken
    split at taken
    · unfold Threads.advance at taken
      split at taken
      · cases taken
        exact conserved
      · next at' => exact conserved.access at' taken
    · next idle =>
      cases taken
      exact conserved.enter idle
    · cases taken
      exact conserved

end Conserved

/-- One thread takes an item from the queue, and another one sends a later item before it. -/
def overtaking : List (Event Bool Nat) :=
  [.sendPacket false 1, .advance false, .advance false, .onConnected true []] ++
    List.replicate 5 (.advance true) ++ .sendPacket false 2 ::
      List.replicate 4 (.advance false) ++ List.replicate 2 (.advance true)

def overtaken : Threads Bool Nat :=
  (machine.exec ⟨true, false, [], fun _ => [], [], [], []⟩ overtaking).get rfl

example : overtaken.asked = [1, 2] ∧ overtaken.sent = [2, 1] := ⟨rfl, rfl⟩

theorem items_conserved_overtaken :
    (overtaken.asked : Multiset Nat) = overtaken.sent + overtaken.dropped + overtaken.queue +
      ∑ thread, hands (overtaken.stack thread) :=
  items_conserved (Machine.Reachable.exec (.initial rfl) (Option.some_get _).symm)

/-! ### Threads that take turns -/

/-- A thread enters a method only while no thread is in one. -/
def TakesTurns (state : Threads Thread Item) : Event Thread Item → Prop
  | .advance _ => True
  | _ => ∀ thread, state.stack thread = []

/-- The items that are still to be sent, in order, while one thread is in a method. -/
def line (queue : List Item) : List (Place Item) → List Item
  | .asked item :: _ => queue ++ [item]
  | .queueing item :: _ => queue ++ [item]
  | .draining last :: _ => queue ++ last.toList
  | .carrying front last :: _ => front :: (queue ++ last.toList)
  | .handing front last :: _ => front :: (queue ++ last.toList)
  | .ending item :: _ => queue ++ [item]
  | .finishing item :: _ => queue ++ [item]
  | _ => queue

/-- What the place of the only thread in a method says of the socket. -/
def KnowsAt (state : Threads Thread Item) : Place Item → Prop
  | .asked _ => state.hasClient = true
  | .queueing _ => state.hasClient = true ∧ state.connected = false
  | .draining _ => state.hasClient = true ∧ state.connected = true
  | .carrying _ _ => state.hasClient = true ∧ state.connected = true
  | .handing _ _ => state.hasClient = true ∧ state.connected = true
  | .ending _ => state.hasClient = true ∧ state.connected = true ∧ state.queue = []
  | .finishing _ => state.hasClient = true ∧ state.connected = true ∧ state.queue = []
  | .answered _ => state.hasClient = true ∧ (state.connected = true → state.queue = [])
  | .connecting _ => state.hasClient = true
  | .opening _ => state.hasClient = true ∧ state.connected = true
  | .opened _ => state.hasClient = true ∧ state.connected = true
  | .disconnecting => state.hasClient = true ∧ (state.connected = true → state.queue = [])
  | .disconnected => state.hasClient = true ∧ state.queue = []
  | .clearing => state.connected = false ∧ state.queue = []
  | .closing _ => state.hasClient = true
  | .forgetting client _ => client = true
  | .forgotten client _ => client = true ∧ state.hasClient = false
  | .emptying client _ => client = true ∧ state.hasClient = false ∧ state.connected = false
  | .reporting client _ => client = true ∧ state.hasClient = false ∧ state.connected = false
  | .left _ => state.hasClient = false ∧ state.connected = false

/-- A socket at rest is open when it is connected, and then keeps nothing back. -/
def Rests (state : Threads Thread Item) : Prop :=
  state.connected = true → state.hasClient = true ∧ state.queue = []

/-- Only the open listener sends from inside a method. -/
def Around (state : Threads Thread Item) : List (Place Item) → Prop
  | [] => True
  | [.opened _] => state.hasClient = true ∧ state.connected = true
  | _ => False

/-- What the methods of the only thread in one say of the socket. -/
def Knows (state : Threads Thread Item) : List (Place Item) → Prop
  | [] => state.Rests
  | place :: outer => state.KnowsAt place ∧ if place.sends then state.Around outer else outer = []

/-- An open socket has sent all items but those in line, and none out of order. -/
structure Right (state : Threads Thread Item) (stack : List (Place Item)) : Prop where
  knows : state.Knows stack
  kept : state.hasClient = true →
    state.asked = state.sent ++ line state.queue stack ∧ state.dropped = []
  order : state.sent <+: state.asked

/-- At most one thread is in a method, and all is right for it. -/
structure Turns (state : Threads Thread Item) : Prop where
  single : ∀ first second, state.stack first ≠ [] → state.stack second ≠ [] → first = second
  busy : ∀ thread, state.stack thread ≠ [] → state.Right (state.stack thread)
  rest : (∀ thread, state.stack thread = []) → state.Right []

section Turns

variable {state next : Threads Thread Item} {thread : Thread} {outer : List (Place Item)}

omit [DecidableEq Thread] in
theorem Around.of_same (around : state.Around outer) (hasClient : next.hasClient = state.hasClient)
    (connected : next.connected = state.connected) : next.Around outer := by
  unfold Around at around ⊢
  rw [hasClient, connected]
  exact around

omit [DecidableEq Thread] in
/-- A send that is over returns to a socket at rest or to the open listener. -/
theorem Around.right (around : state.Around outer) (rests : state.Rests)
    (kept : state.hasClient = true →
      state.asked = state.sent ++ state.queue ∧ state.dropped = [])
    (order : state.sent <+: state.asked) : state.Right outer := by
  unfold Around at around
  split at around
  · exact ⟨rests, kept, order⟩
  · exact ⟨⟨around, rfl⟩, kept, order⟩
  · exact around.elim

theorem Turns.of_alone (others : ∀ other, other ≠ thread → state.stack other = [])
    (right : state.Right (state.stack thread)) : Turns state := by
  have only (other : Thread) (busy : state.stack other ≠ []) : other = thread := by
    by_contra different
    exact busy (others other different)
  constructor
  · intro first second firstBusy secondBusy
    rw [only first firstBusy, only second secondBusy]
  · intro other busy
    rw [only other busy]
    exact right
  · intro idle
    rw [← idle thread]
    exact right

/-- A thread that goes on while all others rest leaves them at rest. -/
theorem Turns.of_goTo (others : ∀ other, other ≠ thread → state.stack other = [])
    {stack : List (Place Item)} (moved : next.stack = Function.update state.stack thread stack)
    (right : next.Right stack) : Turns next := by
  refine @of_alone _ _ _ _ thread (fun other different => ?_) ?_
  · rw [moved, Function.update_of_ne different]
    exact others other different
  · rw [moved, Function.update_self]
    exact right

omit [DecidableEq Thread] in
theorem Turns.others (turns : Turns state) (busy : state.stack thread ≠ []) :
    ∀ other, other ≠ thread → state.stack other = [] := by
  intro other different
  by_contra otherBusy
  exact different (turns.single other thread otherBusy busy)

/-- An item that the guard lets pass is the last one in line. -/
theorem Right.sendPacket {stack : List (Place Item)} (right : state.Right stack)
    (nothing : line state.queue stack = state.queue) (around : state.Around outer)
    (open' : state.hasClient = true) (item : Item) :
    (state.sendPacket thread item outer).Right (.asked item :: outer) := by
  rw [Threads.sendPacket, if_pos open']
  refine ⟨⟨open', around.of_same rfl rfl⟩, fun _ => ⟨?_, (right.kept open').2⟩, ?_⟩
  · show state.asked ++ [item] = state.sent ++ (state.queue ++ [item])
    rw [(right.kept open').1, nothing, List.append_assoc]
  · exact right.order.trans (List.prefix_append _ _)

/-- The only thread in a method goes on in a send. -/
theorem Right.accessSend {place : Place Item} (right : state.Right (place :: outer))
    (sends : place.sends = true) :
    ∃ stack next, state.access thread outer place = some next ∧
      next.stack = Function.update state.stack thread stack ∧ next.Right stack := by
  obtain ⟨⟨knows, inside⟩, kept, order⟩ := right
  rw [if_pos sends] at inside
  cases place with
  | asked item =>
      cases connected : state.connected with
      | true =>
          refine ⟨.draining (some item) :: outer, state.goTo thread _, ?_, rfl, ?_⟩
          · rw [Threads.access, connected, if_pos rfl]
          · exact ⟨⟨⟨knows, connected⟩, inside⟩, kept, order⟩
      | false =>
          refine ⟨.queueing item :: outer, state.goTo thread _, ?_, rfl, ?_⟩
          · rw [Threads.access, connected, if_neg Bool.false_ne_true]
          · exact ⟨⟨⟨knows, connected⟩, inside⟩, kept, order⟩
  | queueing item =>
      refine ⟨outer, _, rfl, rfl, Around.right (inside.of_same rfl rfl) ?_ kept order⟩
      intro connected
      cases knows.2.symm.trans connected
  | draining last =>
      cases waiting : state.queue with
      | nil =>
          cases last with
          | none =>
              refine ⟨outer, state.goTo thread outer, by simp [Threads.access, waiting], rfl, ?_⟩
              refine Around.right (inside.of_same rfl rfl) (fun _ => ⟨knows.1, waiting⟩) ?_ order
              intro open'
              have whole := kept open'
              rw [line, Option.toList_none, List.append_nil] at whole
              exact whole
          | some item =>
              refine ⟨.ending item :: outer, state.goTo thread (.ending item :: outer),
                by simp [Threads.access, waiting], rfl, ?_⟩
              exact ⟨⟨⟨knows.1, knows.2, waiting⟩, inside.of_same rfl rfl⟩, kept, order⟩
      | cons front queue =>
          refine ⟨.carrying front last :: outer,
            { state.goTo thread (.carrying front last :: outer) with queue },
            by simp [Threads.access, waiting], rfl, ?_⟩
          refine ⟨⟨knows, inside.of_same rfl rfl⟩, fun open' => ?_, order⟩
          have whole := kept open'
          rw [waiting] at whole
          exact whole
  | carrying front last =>
      exact ⟨.handing front last :: outer, _, if_pos knows.1, rfl,
        ⟨knows, inside.of_same rfl rfl⟩, kept, order⟩
  | handing front last =>
      have whole : state.asked = state.sent ++ [front] ++ (state.queue ++ last.toList) := by
        rw [(kept knows.1).1, List.append_assoc]
        rfl
      exact ⟨.draining last :: outer, _, rfl, rfl,
        ⟨knows, inside.of_same rfl rfl⟩, fun _ => ⟨whole, (kept knows.1).2⟩, _, whole.symm⟩
  | ending item =>
      exact ⟨.finishing item :: outer, _, if_pos knows.1, rfl,
        ⟨knows, inside.of_same rfl rfl⟩, kept, order⟩
  | finishing item =>
      have whole : state.asked = state.sent ++ [item] ++ state.queue := by
        rw [(kept knows.1).1, line, knows.2.2, List.append_nil]
        rfl
      exact ⟨outer, _, rfl, rfl, Around.right (inside.of_same rfl rfl)
        (fun _ => ⟨knows.1, knows.2.2⟩) (fun _ => ⟨whole, (kept knows.1).2⟩) ⟨_, whole.symm⟩⟩
  | _ => cases sends

/-- The only thread in a method goes on in any other place, and no method is around it. -/
theorem Right.accessOwn {place : Place Item} (right : state.Right [place])
    (own : place.sends = false) :
    ∃ stack next, state.access thread [] place = some next ∧
      next.stack = Function.update state.stack thread stack ∧ next.Right stack := by
  have whole := right
  obtain ⟨⟨knows, _⟩, kept, order⟩ := right
  cases place with
  | answered sends =>
      cases connected : state.connected with
      | true =>
          exact ⟨[], state.goTo thread [], by simp [Threads.access, connected], rfl,
            fun _ => ⟨knows.1, knows.2 connected⟩, kept, order⟩
      | false =>
          exact ⟨[.connecting sends], state.goTo thread [.connecting sends],
            by simp [Threads.access, connected], rfl, ⟨knows.1, rfl⟩, kept, order⟩
  | connecting sends => exact ⟨[.opening sends], _, rfl, rfl, ⟨⟨knows, rfl⟩, rfl⟩, kept, order⟩
  | opening sends =>
      exact ⟨[.opened sends], state.goTo thread [.opened sends], if_pos knows.1, rfl,
        ⟨knows, rfl⟩, kept, order⟩
  | opened sends =>
      cases sends with
      | nil =>
          refine ⟨[.draining none], _, rfl, rfl, ⟨knows, trivial⟩, fun open' => ?_, order⟩
          rw [line, Option.toList_none, List.append_nil]
          exact kept open'
      | cons item sends =>
          have around : state.Around [.opened sends] := knows
          refine ⟨[.asked item, .opened sends], _, rfl, ?_,
            whole.sendPacket rfl around knows.1 item⟩
          rw [Threads.sendPacket, if_pos knows.1]
          rfl
  | disconnecting =>
      cases connected : state.connected with
      | true =>
          exact ⟨[.disconnected], state.goTo thread [.disconnected],
            by simp [Threads.access, connected], rfl, ⟨⟨knows.1, knows.2 connected⟩, rfl⟩, kept,
            order⟩
      | false =>
          refine ⟨[], state.goTo thread [], by simp [Threads.access, connected], rfl, ?_, kept,
            order⟩
          intro answered
          cases connected.symm.trans answered
  | disconnected => exact ⟨[.clearing], _, rfl, rfl, ⟨⟨rfl, knows.2⟩, rfl⟩, kept, order⟩
  | clearing =>
      refine ⟨[], _, rfl, rfl, fun connected => ?_, fun open' => ?_, order⟩
      · cases knows.1.symm.trans connected
      · have same : state.asked = state.sent ++ state.queue := (kept open').1
        rw [knows.2] at same
        exact ⟨same, by rw [(kept open').2, knows.2]; rfl⟩
  | closing sends =>
      exact ⟨[.forgetting state.hasClient sends], _, rfl, rfl, ⟨knows, rfl⟩, kept, order⟩
  | forgetting client sends =>
      exact ⟨[.forgotten client sends], _, rfl, rfl, ⟨⟨knows, rfl⟩, rfl⟩, nofun, order⟩
  | forgotten client sends =>
      refine ⟨[.emptying client sends], _, rfl, rfl, ⟨⟨knows.1, knows.2, rfl⟩, rfl⟩, ?_, order⟩
      intro open'
      cases knows.2.symm.trans open'
  | emptying client sends =>
      refine ⟨[.reporting client sends], _, rfl, rfl, ⟨knows, rfl⟩, ?_, order⟩
      intro open'
      cases knows.2.1.symm.trans open'
  | reporting client sends =>
      exact ⟨[.left sends], state.goTo thread [.left sends], if_pos knows.1, rfl,
        ⟨knows.2, rfl⟩, kept, order⟩
  | left sends =>
      cases sends with
      | nil =>
          refine ⟨[], _, rfl, rfl, fun connected => ?_, kept, order⟩
          cases knows.2.symm.trans connected
      | cons item sends =>
          have refused : state.sendPacket thread item [.left sends] =
              state.goTo thread [.left sends] := by
            rw [Threads.sendPacket, knows.1, if_neg Bool.false_ne_true]
          exact ⟨[.left sends], state.goTo thread [.left sends], congrArg some refused, rfl,
            ⟨knows, rfl⟩, kept, order⟩
  | asked _ | queueing _ | draining _ | carrying _ _ | handing _ _ | ending _ | finishing _ =>
      cases own

/-- The only thread in a method goes on in turn. -/
theorem Turns.advance (turns : Turns state) (thread : Thread) :
    ∃ next, state.advance thread = some next ∧ Turns next := by
  cases at' : state.stack thread with
  | nil => exact ⟨state, by rw [Threads.advance, at'], turns⟩
  | cons place outer =>
      have busy : state.stack thread ≠ [] := by rw [at']; exact List.cons_ne_nil _ _
      have right := turns.busy thread busy
      rw [at'] at right
      obtain ⟨stack, next, taken, moved, right⟩ : ∃ stack next,
          state.access thread outer place = some next ∧
            next.stack = Function.update state.stack thread stack ∧ next.Right stack := by
        cases sends : place.sends with
        | true => exact right.accessSend sends
        | false =>
            have alone : outer = [] := by
              have inside := right.knows.2
              rwa [if_neg (by simp [sends])] at inside
            subst alone
            exact right.accessOwn sends
      exact ⟨next, by rw [Threads.advance, at']; exact taken,
        .of_goTo (turns.others busy) moved right⟩

theorem Turns.guarded (turns : Turns state) (idle : ∀ thread, state.stack thread = [])
    {place : Place Item} (sends : place.sends = false)
    (knows : state.hasClient = true → state.KnowsAt place)
    (nothing : line state.queue [place] = state.queue) : Turns (state.guarded thread place) := by
  obtain ⟨_, kept, order⟩ := turns.rest idle
  unfold Threads.guarded
  split
  · next open' =>
    refine .of_goTo (fun other _ => idle other) rfl ⟨⟨?_, ?_⟩, fun _ => ?_, order⟩
    · cases place <;> exact knows open'
    · rw [if_neg (by simp [sends])]
    · show state.asked = state.sent ++ line state.queue [place] ∧ _
      rw [nothing]
      exact kept open'
  · exact turns

/-- A thread that enters a method while all rest enters it in turn. -/
theorem Turns.enter (turns : Turns state) {event : Event Thread Item}
    (allowed : TakesTurns state event) : Turns (state.enter event) := by
  cases event with
  | sendPacket thread item =>
      cases open' : state.hasClient with
      | true =>
          have right := @Right.sendPacket _ _ _ state thread [] [] (turns.rest allowed) rfl trivial
            open' item
          have moved : (state.sendPacket thread item []).stack =
              Function.update state.stack thread [.asked item] := by
            rw [Threads.sendPacket, if_pos open']
            rfl
          exact @Turns.of_goTo _ _ _ _ _ thread (fun other _ => allowed other) _ moved right
      | false =>
          have refused : state.sendPacket thread item [] = state.goTo thread [] := by
            rw [Threads.sendPacket, open', if_neg Bool.false_ne_true]
          rw [Threads.enter, refused]
          obtain ⟨knows, kept, order⟩ := turns.rest allowed
          exact .of_goTo (fun other _ => allowed other) rfl ⟨knows, kept, order⟩
  | onConnected thread sends =>
      exact turns.guarded allowed rfl
        (fun open' => ⟨open', fun connected => ((turns.rest allowed).knows connected).2⟩) rfl
  | onDisconnect thread =>
      exact turns.guarded allowed rfl
        (fun open' => ⟨open', fun connected => ((turns.rest allowed).knows connected).2⟩) rfl
  | onClose thread sends => exact turns.guarded allowed rfl (fun open' => open') rfl
  | advance => exact turns

theorem turns_of_reachableUnder (reached : machine.ReachableUnder TakesTurns state) :
    Turns state := by
  refine reached.invariant ?_ ?_
  · rintro _ rfl
    refine ⟨fun _ _ busy => absurd rfl busy, fun _ busy => absurd rfl busy, fun _ => ?_⟩
    refine ⟨fun connected => ?_, fun _ => ⟨rfl, rfl⟩, List.prefix_rfl⟩
    cases connected
  · intro before event after turns allowed taken
    change before.step event = some after at taken
    unfold step at taken
    split at taken
    · obtain ⟨next, advanced, turns⟩ := turns.advance _
      cases advanced.symm.trans taken
      exact turns
    · cases taken
      exact turns.enter allowed
    · cases taken
      exact turns

/-- Threads that take turns never meet a client that is gone. They send the items in the order
in which they were asked for, and drop none of them while the socket is open. -/
theorem turns_keep_order (reached : machine.ReachableUnder TakesTurns state) :
    state.sent <+: state.asked ∧ (state.hasClient = true → state.dropped = []) ∧
      ((∀ thread, state.stack thread = []) → state.hasClient = true →
        state.asked = state.sent ++ state.queue) ∧
      ∀ event, (machine.step state event).isSome = true := by
  have turns := turns_of_reachableUnder reached
  have right : ∃ stack, state.Right stack := by
    by_cases idle : ∀ thread, state.stack thread = []
    · exact ⟨_, turns.rest idle⟩
    · obtain ⟨thread, busy⟩ := not_forall.mp idle
      exact ⟨_, turns.busy thread busy⟩
  obtain ⟨_, _, kept, order⟩ := right
  refine ⟨order, fun open' => (kept open').2, fun idle open' => ?_, fun event => ?_⟩
  · exact ((turns.rest idle).kept open').1
  · show (state.step event).isSome = true
    unfold step
    split
    · obtain ⟨next, advanced, _⟩ := turns.advance _
      rw [advanced]
      rfl
    · rfl
    · rfl

end Turns

instance [Fintype Thread] (state : Threads Thread Item) [DecidableEq Item] :
    ∀ event, Decidable (TakesTurns state event)
  | .advance _ => .isTrue trivial
  | .sendPacket _ _ | .onConnected _ _ | .onDisconnect _ | .onClose _ _ =>
      inferInstanceAs (Decidable (∀ thread, state.stack thread = []))

/-- Two threads take turns, and the open listener sends behind what waited. -/
def inTurns : List (Event Bool Nat) :=
  [.sendPacket false 1, .advance false, .advance false, .onConnected true [2]] ++
    List.replicate 13 (.advance true) ++ .sendPacket false 3 :: List.replicate 4 (.advance false)

theorem turns_keep_order_inTurns :
    ∃ state : Threads Bool Nat, state.asked = [1, 2, 3] ∧ state.hasClient = true ∧
      state.queue = [] ∧ (∀ thread, state.stack thread = []) ∧
      state.sent <+: state.asked ∧ (state.hasClient = true → state.dropped = []) ∧
      ((∀ thread, state.stack thread = []) → state.hasClient = true →
        state.asked = state.sent ++ state.queue) ∧
      ∀ event, (machine.step state event).isSome = true := by
  obtain ⟨state, reached, checked⟩ := Machine.reachableUnder_of_exec machine TakesTurns rfl inTurns
    (fun state => state.asked = [1, 2, 3] ∧ state.hasClient = true ∧ state.queue = [] ∧
      ∀ thread, state.stack thread = [])
    (by decide)
  obtain ⟨asked, open', queue, idle⟩ := of_decide_eq_true checked
  exact ⟨state, asked, open', queue, idle, turns_keep_order reached⟩

end Threads
end VoiceCall.Transport
