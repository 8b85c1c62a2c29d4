/-
# One sender and one receiver, step by step

`ipc_send_message` and `ipc_receive_message` on one queue, run by two parties
whose steps interleave over one memory. Each volatile read, each volatile
write and each message copy is a step, in program order; `count++` and
`count--` read, then write. The capacity is not volatile, and no step writes
it. A party's control point says which step is next
and carries what it has read.

A party alone computes the function of `Runtime` (`sender_alone`,
`receiver_alone`) and touches the fields listed there. Two parties that are
both between the read and the write of `count` lose an update
(`count_update_lost`). When no party reads `count` for its update while the
other is inside its own, `count` and the slots agree with what was sent and
received in every reachable state (`Inv.step`, `agrees_of_exclusive`).

Key definitions: `step`, `exclusive`, `Inv`.
-/
import Dos25.Runtime
import Dos25.Lib.System

namespace Dos25
namespace Interleave

/-- The sender's control points: the step named is the next one. -/
inductive Sender
  | idle
  | checkFull (msg : IpcMessage)
  | loadSlot (msg : IpcMessage)
  | copy (msg : IpcMessage) (i : UInt32)
  | loadProducer (msg : IpcMessage)
  | storeProducer (msg : IpcMessage) (i : UInt32)
  | loadCount (msg : IpcMessage)
  | storeCount (msg : IpcMessage) (n : UInt32)

/-- The receiver's control points. -/
inductive Receiver
  | idle
  | checkEmpty
  | loadSlot
  | copy (i : UInt32)
  | loadConsumer (msg : IpcMessage)
  | storeConsumer (msg : IpcMessage) (i : UInt32)
  | loadCount (msg : IpcMessage)
  | storeCount (msg : IpcMessage) (n : UInt32)

/-- The queue, both parties, and the messages of the calls that returned
`BOOT_SUCCESS` so far. -/
structure Shared where
  queue : IpcQueue
  sender : Sender
  receiver : Receiver
  sent : List IpcMessage
  received : List IpcMessage

/-- Who moves: a party enters a call, or takes its next step. -/
inductive Move
  | callSend (msg : IpcMessage)
  | send
  | callReceive
  | receive

/-- The sender's next step; `none` when it is in no call, or on a fault. -/
def sendStep (s : Shared) : Option Shared :=
  match s.sender with
  | .idle => none
  | .checkFull msg =>
    if ipcQueueFull s.queue then some { s with sender := .idle }
    else some { s with sender := .loadSlot msg }
  | .loadSlot msg => some { s with sender := .copy msg s.queue.producerIndex }
  | .copy msg i => match slotOf i with
    | .ok k => some { s with
        queue := { s.queue with messages := Function.update s.queue.messages k msg }
        sender := .loadProducer msg }
    | .error _ => none
  | .loadProducer msg => some { s with sender := .storeProducer msg s.queue.producerIndex }
  | .storeProducer msg i => match s.queue.next i with
    | .ok next => some { s with
        queue := { s.queue with producerIndex := next }
        sender := .loadCount msg }
    | .error _ => none
  | .loadCount msg => some { s with sender := .storeCount msg s.queue.count }
  | .storeCount msg n => some { s with
      queue := { s.queue with count := n + 1 }
      sender := .idle
      sent := s.sent ++ [msg] }

/-- The receiver's next step. -/
def receiveStep (s : Shared) : Option Shared :=
  match s.receiver with
  | .idle => none
  | .checkEmpty =>
    if ipcQueueEmpty s.queue then some { s with receiver := .idle }
    else some { s with receiver := .loadSlot }
  | .loadSlot => some { s with receiver := .copy s.queue.consumerIndex }
  | .copy i => match slotOf i with
    | .ok k => some { s with receiver := .loadConsumer (s.queue.messages k) }
    | .error _ => none
  | .loadConsumer msg => some { s with receiver := .storeConsumer msg s.queue.consumerIndex }
  | .storeConsumer msg i => match s.queue.next i with
    | .ok next => some { s with
        queue := { s.queue with consumerIndex := next }
        receiver := .loadCount msg }
    | .error _ => none
  | .loadCount msg => some { s with receiver := .storeCount msg s.queue.count }
  | .storeCount msg n => some { s with
      queue := { s.queue with count := n - 1 }
      receiver := .idle
      received := s.received ++ [msg] }

def step (s : Shared) : Move → Option Shared
  | .callSend msg => match s.sender with
    | .idle => some { s with sender := .checkFull msg }
    | _ => none
  | .send => sendStep s
  | .callReceive => match s.receiver with
    | .idle => some { s with receiver := .checkEmpty }
    | _ => none
  | .receive => receiveStep s

/-- Both parties idle on a queue that `initialize_ipc_queues` set up. -/
def start (header : SharedMemoryHeader) (d : Direction) : Shared :=
  ⟨(initializeIpcQueues header).2.queue d, .idle, .idle, [], []⟩

/-! ### The update of `count` -/

/-- Between the read and the write of `count++`. -/
def Sender.updating : Sender → Bool
  | .storeCount _ _ => true
  | _ => false

/-- About to read `count` for `count++`. -/
def Sender.entering : Sender → Bool
  | .loadCount _ => true
  | _ => false

/-- Between the read and the write of `count--`. -/
def Receiver.updating : Receiver → Bool
  | .storeCount _ _ => true
  | _ => false

/-- About to read `count` for `count--`. -/
def Receiver.entering : Receiver → Bool
  | .loadCount _ => true
  | _ => false

/-- The mover does not enter its update of `count` inside the other's. -/
def exclusive (s : Shared) : Move → Bool
  | .send => !(s.sender.entering && s.receiver.updating)
  | .receive => !(s.receiver.entering && s.sender.updating)
  | _ => true

/-- Every move is allowed. -/
def any (_ : Shared) (_ : Move) : Bool := true

/-- The states reached from an initialised queue by allowed moves. -/
abbrev Reachable (allowed : Shared → Move → Bool) (header : SharedMemoryHeader) (d : Direction) :
    Shared → Prop :=
  System.Reach (fun s a t => step s a = some t) (fun s a => allowed s a = true) (start header d)

/-- What the queue should show between calls: `count` is what was sent less
what was received, within the capacity, and the messages came out as they
went in. -/
def Agrees (s : Shared) : Prop :=
  s.queue.count.toNat + s.received.length = s.sent.length ∧
    s.queue.count ≤ s.queue.capacity ∧ s.received <+: s.sent

/-! ### No interleaving faults -/

/-- The indices stay in the ring, those read into a register included. -/
structure Bounded (s : Shared) : Prop where
  capacity : s.queue.capacity = 256
  producer : s.queue.producerIndex.toNat < ipcQueueSize
  consumer : s.queue.consumerIndex.toNat < ipcQueueSize
  sender : ∀ msg i, s.sender = .copy msg i → i.toNat < ipcQueueSize
  receiver : ∀ i, s.receiver = .copy i → i.toNat < ipcQueueSize

/-- A ring index stays one. -/
theorem next_lt (i : UInt32) : ((i + 1) % 256).toNat < ipcQueueSize := by
  rw [UInt32.toNat_mod]
  exact mod_ipcQueueSize_lt _

/-- In a call, the sender can move and keeps the bounds. -/
theorem Bounded.send {s : Shared} (h : Bounded s) (hs : s.sender ≠ .idle) :
    ∃ t, sendStep s = some t ∧ Bounded t := by
  obtain ⟨q, sender, receiver, sent, received⟩ := s
  cases sender with
  | idle => exact absurd rfl hs
  | checkFull msg =>
    simp only [sendStep]
    split
    · exact ⟨_, rfl, { h with sender := nofun }⟩
    · exact ⟨_, rfl, { h with sender := nofun }⟩
  | loadSlot msg =>
    refine ⟨_, rfl, { h with sender := fun _ i hi => ?_ }⟩
    exact (Sender.copy.inj hi).2 ▸ h.producer
  | copy msg i =>
    simp only [sendStep, slotOf_ok (h.sender msg i rfl)]
    exact ⟨_, rfl, { h with sender := nofun }⟩
  | loadProducer msg => exact ⟨_, rfl, { h with sender := nofun }⟩
  | storeProducer msg i =>
    simp only [sendStep, IpcQueue.next_ok h.capacity]
    exact ⟨_, rfl, { h with producer := next_lt i, sender := nofun }⟩
  | loadCount msg => exact ⟨_, rfl, { h with sender := nofun }⟩
  | storeCount msg n => exact ⟨_, rfl, { h with sender := nofun }⟩

/-- In a call, the receiver can move and keeps the bounds. -/
theorem Bounded.receive {s : Shared} (h : Bounded s) (hs : s.receiver ≠ .idle) :
    ∃ t, receiveStep s = some t ∧ Bounded t := by
  obtain ⟨q, sender, receiver, sent, received⟩ := s
  cases receiver with
  | idle => exact absurd rfl hs
  | checkEmpty =>
    simp only [receiveStep]
    split
    · exact ⟨_, rfl, { h with receiver := nofun }⟩
    · exact ⟨_, rfl, { h with receiver := nofun }⟩
  | loadSlot =>
    refine ⟨_, rfl, { h with receiver := fun i hi => ?_ }⟩
    exact Receiver.copy.inj hi ▸ h.consumer
  | copy i =>
    simp only [receiveStep, slotOf_ok (h.receiver i rfl)]
    exact ⟨_, rfl, { h with receiver := nofun }⟩
  | loadConsumer msg => exact ⟨_, rfl, { h with receiver := nofun }⟩
  | storeConsumer msg i =>
    simp only [receiveStep, IpcQueue.next_ok h.capacity]
    exact ⟨_, rfl, { h with consumer := next_lt i, receiver := nofun }⟩
  | loadCount msg => exact ⟨_, rfl, { h with receiver := nofun }⟩
  | storeCount msg n => exact ⟨_, rfl, { h with receiver := nofun }⟩

theorem Bounded.step {s t : Shared} (h : Bounded s) {a : Move} (hs : step s a = some t) :
    Bounded t := by
  cases a with
  | callSend msg =>
    obtain ⟨q, sender, receiver, sent, received⟩ := s
    cases sender with
    | idle =>
      simp only [Interleave.step, Option.some.injEq] at hs
      exact hs ▸ { h with sender := nofun }
    | _ => simp [Interleave.step] at hs
  | send =>
    have hne : s.sender ≠ .idle := fun he => by simp [Interleave.step, sendStep, he] at hs
    obtain ⟨u, hu, hb⟩ := h.send hne
    exact Option.some.inj (hu.symm.trans hs) ▸ hb
  | callReceive =>
    obtain ⟨q, sender, receiver, sent, received⟩ := s
    cases receiver with
    | idle =>
      simp only [Interleave.step, Option.some.injEq] at hs
      exact hs ▸ { h with receiver := nofun }
    | _ => simp [Interleave.step] at hs
  | receive =>
    have hne : s.receiver ≠ .idle := fun he => by simp [Interleave.step, receiveStep, he] at hs
    obtain ⟨u, hu, hb⟩ := h.receive hne
    exact Option.some.inj (hu.symm.trans hs) ▸ hb

theorem start_eq (header : SharedMemoryHeader) (d : Direction) :
    ∃ q : IpcQueue, start header d = ⟨q.initialized, .idle, .idle, [], []⟩ := by
  cases d with
  | kernelToDaemon => exact ⟨_, rfl⟩
  | daemonToKernel => exact ⟨_, rfl⟩

theorem start_bounded (header : SharedMemoryHeader) (d : Direction) : Bounded (start header d) := by
  obtain ⟨q, hq⟩ := start_eq header d
  rw [hq]
  exact {
    capacity := rfl
    producer := Nat.zero_lt_succ 255
    consumer := Nat.zero_lt_succ 255
    sender := nofun
    receiver := nofun }

/-- **Whatever the interleaving, a party in a call can finish it**: no slot
index leaves the array and no modulus is zero. -/
theorem never_faults (header : SharedMemoryHeader) (d : Direction) {s : Shared}
    (h : Reachable any header d s) :
    (s.sender ≠ .idle → (sendStep s).isSome) ∧ (s.receiver ≠ .idle → (receiveStep s).isSome) := by
  have hb : Bounded s := h.invariant (start_bounded header d) fun _ _ _ hI _ hst => hI.step hst
  constructor
  · intro hs
    obtain ⟨t, ht, -⟩ := hb.send hs
    rw [ht]; rfl
  · intro hs
    obtain ⟨t, ht, -⟩ := hb.receive hs
    rw [ht]; rfl

/-! ### A party alone -/

/-- The sender's steps, taken without the receiver's, are `ipc_send_message`. -/
theorem sender_alone (s : Shared) (hs : s.sender = .idle) (msg : IpcMessage) {status : BootStatus}
    {q : IpcQueue} (h : ipcSendMessage s.queue msg = .ok (status, q)) :
    System.run step any s
        (.callSend msg :: List.replicate (if ipcQueueFull s.queue then 1 else 7) .send) =
      some { s with
        queue := q
        sent := if status = .success then s.sent ++ [msg] else s.sent } := by
  obtain ⟨q0, sender, receiver, sent, received⟩ := s
  simp only at hs h ⊢
  subst hs
  unfold ipcSendMessage at h
  by_cases hf : ipcQueueFull q0 = true
  · simp only [hf, ↓reduceIte, Except.ok.injEq, Prod.mk.injEq] at h
    obtain ⟨rfl, rfl⟩ := h
    simp [System.run, any, step, sendStep, hf]
  · rw [if_neg hf] at h
    cases hi : slotOf q0.producerIndex with
    | error e => simp [hi, bind, Except.bind] at h
    | ok k =>
      cases hn : q0.next q0.producerIndex with
      | error e => simp [hi, hn, bind, Except.bind] at h
      | ok next =>
        simp only [hi, hn, bind, Except.bind, Except.ok.injEq, Prod.mk.injEq] at h
        obtain ⟨rfl, rfl⟩ := h
        simp only [IpcQueue.next] at hn
        simp [System.run, any, List.replicate, step, sendStep, hf, hi, IpcQueue.next, hn]

/-- The receiver's steps, taken without the sender's, are
`ipc_receive_message`. -/
theorem receiver_alone (s : Shared) (hs : s.receiver = .idle) (buf : IpcMessage) {status : BootStatus}
    {msg : IpcMessage} {q : IpcQueue} (h : ipcReceiveMessage s.queue buf = .ok (status, msg, q)) :
    System.run step any s
        (.callReceive :: List.replicate (if ipcQueueEmpty s.queue then 1 else 7) .receive) =
      some { s with
        queue := q
        received := if status = .success then s.received ++ [msg] else s.received } := by
  obtain ⟨q0, sender, receiver, sent, received⟩ := s
  simp only at hs h ⊢
  subst hs
  unfold ipcReceiveMessage at h
  by_cases he : ipcQueueEmpty q0 = true
  · simp only [he, ↓reduceIte, Except.ok.injEq, Prod.mk.injEq] at h
    obtain ⟨rfl, rfl, rfl⟩ := h
    simp [System.run, any, step, receiveStep, he]
  · rw [if_neg he] at h
    cases hi : slotOf q0.consumerIndex with
    | error e => simp [hi, bind, Except.bind] at h
    | ok k =>
      cases hn : q0.next q0.consumerIndex with
      | error e => simp [hi, hn, bind, Except.bind] at h
      | ok next =>
        simp only [hi, hn, bind, Except.bind, Except.ok.injEq, Prod.mk.injEq] at h
        obtain ⟨rfl, rfl, rfl⟩ := h
        simp [System.run, any, List.replicate, step, receiveStep, he, hi, hn]

/-! ### The invariant of exclusive updates -/

/-- Positions a party's index runs ahead of its finished calls. -/
def Sender.ahead : Sender → ℕ
  | .loadCount _ => 1
  | .storeCount _ _ => 1
  | _ => 0

def Receiver.ahead : Receiver → ℕ
  | .loadCount _ => 1
  | .storeCount _ _ => 1
  | _ => 0

/-- The slot of stream position `p`. -/
def Shared.slot (s : Shared) (p : ℕ) : IpcMessage := s.queue.messages (Fin.ofNat ipcQueueSize p)

/-- What the sender knows at each control point: past the full check there is
room, and its message is in the slot from the copy on. -/
def SenderInv (s : Shared) : Prop :=
  match s.sender with
  | .idle => True
  | .checkFull _ => True
  | .loadSlot _ => s.queue.count.toNat < ipcQueueSize
  | .copy _ i => s.queue.count.toNat < ipcQueueSize ∧ i = s.queue.producerIndex
  | .loadProducer msg => s.queue.count.toNat < ipcQueueSize ∧ s.slot s.sent.length = msg
  | .storeProducer msg i =>
    s.queue.count.toNat < ipcQueueSize ∧ s.slot s.sent.length = msg ∧ i = s.queue.producerIndex
  | .loadCount msg => s.queue.count.toNat < ipcQueueSize ∧ s.slot s.sent.length = msg
  | .storeCount msg n =>
    s.queue.count.toNat < ipcQueueSize ∧ s.slot s.sent.length = msg ∧ n = s.queue.count

/-- What the receiver knows: past the empty check there is a message, and from
the copy on it holds the oldest one. -/
def ReceiverInv (s : Shared) : Prop :=
  match s.receiver with
  | .idle => True
  | .checkEmpty => True
  | .loadSlot => s.queue.count.toNat ≠ 0
  | .copy i => s.queue.count.toNat ≠ 0 ∧ i = s.queue.consumerIndex
  | .loadConsumer msg => s.queue.count.toNat ≠ 0 ∧ s.slot s.received.length = msg
  | .storeConsumer msg i =>
    s.queue.count.toNat ≠ 0 ∧ s.slot s.received.length = msg ∧ i = s.queue.consumerIndex
  | .loadCount msg => s.queue.count.toNat ≠ 0 ∧ s.slot s.received.length = msg
  | .storeCount msg n =>
    s.queue.count.toNat ≠ 0 ∧ s.slot s.received.length = msg ∧ n = s.queue.count

/-- The invariant: what was sent is what was received, then the `count` slots
from the oldest unread position on. -/
structure Inv (s : Shared) : Prop where
  capacity : s.queue.capacity = 256
  count : s.queue.count.toNat ≤ ipcQueueSize
  producer : s.queue.producerIndex.toNat = (s.sent.length + s.sender.ahead) % ipcQueueSize
  consumer : s.queue.consumerIndex.toNat = (s.received.length + s.receiver.ahead) % ipcQueueSize
  slots : s.sent = s.received ++ Ring.window s.queue.messages s.received.length s.queue.count.toNat
  sender : SenderInv s
  receiver : ReceiverInv s
  alone : ¬ (s.sender.updating = true ∧ s.receiver.updating = true)

theorem start_inv (header : SharedMemoryHeader) (d : Direction) : Inv (start header d) := by
  obtain ⟨q, hq⟩ := start_eq header d
  rw [hq]
  exact {
    capacity := rfl
    count := Nat.zero_le _
    producer := rfl
    consumer := rfl
    slots := rfl
    sender := trivial
    receiver := trivial
    alone := nofun }

variable {s t : Shared}

/-- What the receiver knows survives a step of the sender that keeps the
oldest unread slot and does not change `count` inside `count--`. -/
theorem ReceiverInv.frame (h : ReceiverInv s) (hr : t.receiver = s.receiver)
    (hi : t.queue.consumerIndex = s.queue.consumerIndex)
    (hc : s.queue.count.toNat ≠ 0 → t.queue.count.toNat ≠ 0)
    (hm : s.queue.count.toNat ≠ 0 → t.slot t.received.length = s.slot s.received.length)
    (hu : s.receiver.updating = true → t.queue.count = s.queue.count) : ReceiverInv t := by
  unfold ReceiverInv at *
  rw [hr]
  cases hs : s.receiver with
  | idle => trivial
  | checkEmpty => trivial
  | loadSlot => rw [hs] at h; exact hc h
  | copy i => rw [hs] at h; exact ⟨hc h.1, h.2.trans hi.symm⟩
  | loadConsumer msg => rw [hs] at h; exact ⟨hc h.1, (hm h.1).trans h.2⟩
  | storeConsumer msg i => rw [hs] at h; exact ⟨hc h.1, (hm h.1).trans h.2.1, h.2.2.trans hi.symm⟩
  | loadCount msg => rw [hs] at h; exact ⟨hc h.1, (hm h.1).trans h.2⟩
  | storeCount msg n =>
    rw [hs] at h hu
    exact ⟨hc h.1, (hm h.1).trans h.2.1, h.2.2.trans (hu rfl).symm⟩

/-- What the sender knows survives a step of the receiver that frees a slot
and does not change `count` inside `count++`. -/
theorem SenderInv.frame (h : SenderInv s) (hr : t.sender = s.sender)
    (hi : t.queue.producerIndex = s.queue.producerIndex)
    (hc : t.queue.count.toNat ≤ s.queue.count.toNat)
    (hm : t.slot t.sent.length = s.slot s.sent.length)
    (hu : s.sender.updating = true → t.queue.count = s.queue.count) : SenderInv t := by
  unfold SenderInv at *
  rw [hr]
  cases hs : s.sender with
  | idle => trivial
  | checkFull msg => trivial
  | loadSlot msg => rw [hs] at h; exact lt_of_le_of_lt hc h
  | copy msg i => rw [hs] at h; exact ⟨lt_of_le_of_lt hc h.1, h.2.trans hi.symm⟩
  | loadProducer msg => rw [hs] at h; exact ⟨lt_of_le_of_lt hc h.1, hm.trans h.2⟩
  | storeProducer msg i =>
    rw [hs] at h
    exact ⟨lt_of_le_of_lt hc h.1, hm.trans h.2.1, h.2.2.trans hi.symm⟩
  | loadCount msg => rw [hs] at h; exact ⟨lt_of_le_of_lt hc h.1, hm.trans h.2⟩
  | storeCount msg n =>
    rw [hs] at h hu
    exact ⟨lt_of_le_of_lt hc h.1, hm.trans h.2.1, h.2.2.trans (hu rfl).symm⟩

namespace Inv

theorem length (h : Inv s) : s.sent.length = s.received.length + s.queue.count.toNat := by
  conv_lhs => rw [h.slots]
  simp

theorem producer_lt (h : Inv s) : s.queue.producerIndex.toNat < ipcQueueSize :=
  h.producer ▸ mod_ipcQueueSize_lt _

theorem consumer_lt (h : Inv s) : s.queue.consumerIndex.toNat < ipcQueueSize :=
  h.consumer ▸ mod_ipcQueueSize_lt _

/-- The copy hits the slot behind the window, which no unread message
occupies. -/
theorem send_copy (h : Inv s) {msg : IpcMessage} {i : UInt32} (hat : s.sender = .copy msg i)
    (hs : sendStep s = some t) : Inv t := by
  obtain ⟨q, sender, receiver, sent, received⟩ := s
  obtain rfl : sender = .copy msg i := hat
  obtain ⟨hc, rfl⟩ : q.count.toNat < ipcQueueSize ∧ i = q.producerIndex := h.sender
  have hlen : sent.length = received.length + q.count.toNat := h.length
  have hprod : q.producerIndex.toNat = (sent.length + 0) % ipcQueueSize := h.producer
  have hslot : Fin.ofNat ipcQueueSize q.producerIndex.toNat =
      Fin.ofNat ipcQueueSize (received.length + q.count.toNat) := by
    apply Fin.ext
    simp only [Fin.ofNat, hprod, hlen, Nat.add_zero, Nat.mod_mod]
  simp only [sendStep, slotOf_ok h.producer_lt, hslot, Option.some.injEq] at hs
  subst hs
  refine { h with slots := ?_, sender := ⟨hc, ?_⟩, receiver := ?_ }
  · show sent = received ++ Ring.window (Function.update q.messages _ msg) _ _
    rw [Ring.window_update_behind _ _ hc]
    exact h.slots
  · simp only [Shared.slot, hlen, Function.update_self]
  · -- the receiver reads the first slot of the window
    refine h.receiver.frame rfl rfl (fun h' => h') (fun h' => ?_) (fun _ => rfl)
    have hne := Ring.ofNat_ne (n := ipcQueueSize) (c := received.length) (Nat.pos_of_ne_zero h') hc
    exact Function.update_of_ne hne _ _

/-- The producer index runs one ahead of the calls finished. -/
theorem send_storeProducer (h : Inv s) {msg : IpcMessage} {i : UInt32}
    (hat : s.sender = .storeProducer msg i) (hs : sendStep s = some t) : Inv t := by
  obtain ⟨q, sender, receiver, sent, received⟩ := s
  obtain rfl : sender = .storeProducer msg i := hat
  obtain ⟨hc, hm, rfl⟩ : q.count.toNat < ipcQueueSize ∧ _ ∧ i = q.producerIndex := h.sender
  have hprod : q.producerIndex.toNat = (sent.length + 0) % ipcQueueSize := h.producer
  simp only [sendStep, IpcQueue.next_ok h.capacity, Option.some.injEq] at hs
  subst hs
  refine { h with
    producer := ?_
    sender := ⟨hc, hm⟩
    receiver := h.receiver.frame rfl rfl id (fun _ => rfl) (fun _ => rfl) }
  show ((q.producerIndex + 1) % 256).toNat = (sent.length + 1) % ipcQueueSize
  rw [succ_mod_toNat h.producer_lt, hprod, Nat.add_zero, Nat.mod_add_mod]

/-- The end of `count++`, outside `count--`: the message sent joins the
window. -/
theorem send_storeCount (h : Inv s) {msg : IpcMessage} {n : UInt32}
    (hat : s.sender = .storeCount msg n) (hs : sendStep s = some t) : Inv t := by
  obtain ⟨q, sender, receiver, sent, received⟩ := s
  obtain rfl : sender = .storeCount msg n := hat
  obtain ⟨hc, hm, rfl⟩ : q.count.toNat < ipcQueueSize ∧ _ = msg ∧ n = q.count := h.sender
  have hlen : sent.length = received.length + q.count.toNat := h.length
  have hru : receiver.updating = false := by
    simpa [Sender.updating] using h.alone
  simp only [sendStep, Option.some.injEq] at hs
  subst hs
  refine { h with
    count := (succ_toNat hc).trans_le hc
    producer := ?_
    slots := ?_
    sender := trivial
    receiver := ?_
    alone := fun h' => Bool.noConfusion h'.1 }
  · simpa [Sender.ahead] using h.producer
  · show sent ++ [msg] = received ++ Ring.window q.messages received.length (q.count + 1).toNat
    rw [succ_toNat hc, Ring.window_succ_last, ← List.append_assoc, ← hlen, ← hm]
    exact congrArg (· ++ _) h.slots
  · refine h.receiver.frame rfl rfl (fun _ => ?_) (fun _ => rfl) (fun h' => ?_)
    · exact (succ_toNat hc).trans_ne (Nat.succ_ne_zero _)
    · exact Bool.noConfusion (hru.symm.trans h')

/-- A step of the sender keeps the invariant. -/
theorem send (h : Inv s) (hx : exclusive s .send = true) (hs : sendStep s = some t) : Inv t := by
  cases hat : s.sender with
  | idle => simp [sendStep, hat] at hs
  | copy msg i => exact h.send_copy hat hs
  | storeProducer msg i => exact h.send_storeProducer hat hs
  | storeCount msg n => exact h.send_storeCount hat hs
  | checkFull msg =>
    obtain ⟨q, sender, receiver, sent, received⟩ := s
    obtain rfl : sender = .checkFull msg := hat
    have hcap : q.capacity = 256 := h.capacity
    simp only [sendStep] at hs
    by_cases hf : ipcQueueFull q = true
    · rw [if_pos hf, Option.some.injEq] at hs
      subst hs
      exact { h with sender := trivial }
    · rw [if_neg hf, Option.some.injEq] at hs
      subst hs
      refine { h with sender := ?_ }
      simpa [ipcQueueFull, hcap, UInt32.le_iff_toNat_le, SenderInv] using hf
  | loadSlot msg =>
    obtain ⟨q, sender, receiver, sent, received⟩ := s
    obtain rfl : sender = .loadSlot msg := hat
    simp only [sendStep, Option.some.injEq] at hs
    subst hs
    exact { h with sender := ⟨h.sender, rfl⟩ }
  | loadProducer msg =>
    obtain ⟨q, sender, receiver, sent, received⟩ := s
    obtain rfl : sender = .loadProducer msg := hat
    simp only [sendStep, Option.some.injEq] at hs
    subst hs
    exact { h with sender := ⟨h.sender.1, h.sender.2, rfl⟩ }
  | loadCount msg =>
    obtain ⟨q, sender, receiver, sent, received⟩ := s
    obtain rfl : sender = .loadCount msg := hat
    have hru : receiver.updating = false := by
      simpa [exclusive, Sender.entering] using hx
    simp only [sendStep, Option.some.injEq] at hs
    subst hs
    exact { h with
      sender := ⟨h.sender.1, h.sender.2, rfl⟩
      alone := fun h' => Bool.noConfusion (hru.symm.trans h'.2) }

/-- The copy takes the first slot of the window. -/
theorem receive_copy (h : Inv s) {i : UInt32} (hat : s.receiver = .copy i)
    (hs : receiveStep s = some t) : Inv t := by
  obtain ⟨q, sender, receiver, sent, received⟩ := s
  obtain rfl : receiver = .copy i := hat
  obtain ⟨hc, rfl⟩ : q.count.toNat ≠ 0 ∧ i = q.consumerIndex := h.receiver
  have hcons : q.consumerIndex.toNat = (received.length + 0) % ipcQueueSize := h.consumer
  have hslot : Fin.ofNat ipcQueueSize q.consumerIndex.toNat =
      Fin.ofNat ipcQueueSize received.length := by
    apply Fin.ext
    simp only [Fin.ofNat, hcons, Nat.add_zero, Nat.mod_mod]
  simp only [receiveStep, slotOf_ok h.consumer_lt, hslot, Option.some.injEq] at hs
  subst hs
  exact { h with receiver := ⟨hc, rfl⟩ }

/-- The consumer index runs one ahead of the calls finished. -/
theorem receive_storeConsumer (h : Inv s) {msg : IpcMessage} {i : UInt32}
    (hat : s.receiver = .storeConsumer msg i) (hs : receiveStep s = some t) : Inv t := by
  obtain ⟨q, sender, receiver, sent, received⟩ := s
  obtain rfl : receiver = .storeConsumer msg i := hat
  obtain ⟨hc, hm, rfl⟩ : q.count.toNat ≠ 0 ∧ _ ∧ i = q.consumerIndex := h.receiver
  have hcons : q.consumerIndex.toNat = (received.length + 0) % ipcQueueSize := h.consumer
  simp only [receiveStep, IpcQueue.next_ok h.capacity, Option.some.injEq] at hs
  subst hs
  refine { h with
    consumer := ?_
    sender := h.sender.frame rfl rfl le_rfl rfl (fun _ => rfl)
    receiver := ⟨hc, hm⟩ }
  show ((q.consumerIndex + 1) % 256).toNat = (received.length + 1) % ipcQueueSize
  rw [succ_mod_toNat h.consumer_lt, hcons, Nat.add_zero, Nat.mod_add_mod]

/-- The end of `count--`, outside `count++`: the message received leaves the
window. -/
theorem receive_storeCount (h : Inv s) {msg : IpcMessage} {n : UInt32}
    (hat : s.receiver = .storeCount msg n) (hs : receiveStep s = some t) : Inv t := by
  obtain ⟨q, sender, receiver, sent, received⟩ := s
  obtain rfl : receiver = .storeCount msg n := hat
  obtain ⟨hc, hm, rfl⟩ : q.count.toNat ≠ 0 ∧ _ = msg ∧ n = q.count := h.receiver
  have hsu : sender.updating = false := by
    simpa [Receiver.updating] using h.alone
  have hpred : (q.count - 1).toNat = q.count.toNat - 1 := pred_toNat hc
  have hle : q.count.toNat ≤ ipcQueueSize := h.count
  simp only [receiveStep, Option.some.injEq] at hs
  subst hs
  refine { h with
    count := hpred.trans_le ((Nat.sub_le _ _).trans hle)
    consumer := ?_
    slots := ?_
    sender := ?_
    receiver := trivial
    alone := fun h' => Bool.noConfusion h'.2 }
  · simpa [Receiver.ahead] using h.consumer
  · -- the oldest unread slot is the message received
    show sent = received ++ [msg] ++
      Ring.window q.messages (received ++ [msg]).length (q.count - 1).toNat
    have hw := Ring.window_succ q.messages received.length (q.count.toNat - 1)
    rw [Nat.sub_add_cancel (Nat.pos_of_ne_zero hc)] at hw
    rw [hpred, List.append_assoc, List.length_append, List.length_singleton, ← hm]
    exact h.slots.trans (congrArg (received ++ ·) hw)
  · refine h.sender.frame rfl rfl ?_ rfl (fun h' => ?_)
    · exact hpred.trans_le (Nat.sub_le _ _)
    · exact Bool.noConfusion (hsu.symm.trans h')

/-- A step of the receiver keeps the invariant. -/
theorem receive (h : Inv s) (hx : exclusive s .receive = true) (hs : receiveStep s = some t) :
    Inv t := by
  cases hat : s.receiver with
  | idle => simp [receiveStep, hat] at hs
  | copy i => exact h.receive_copy hat hs
  | storeConsumer msg i => exact h.receive_storeConsumer hat hs
  | storeCount msg n => exact h.receive_storeCount hat hs
  | checkEmpty =>
    obtain ⟨q, sender, receiver, sent, received⟩ := s
    obtain rfl : receiver = .checkEmpty := hat
    simp only [receiveStep] at hs
    by_cases he : ipcQueueEmpty q = true
    · rw [if_pos he, Option.some.injEq] at hs
      subst hs
      exact { h with receiver := trivial }
    · rw [if_neg he, Option.some.injEq] at hs
      subst hs
      exact { h with receiver := fun h' => he ((ipcQueueEmpty_iff q).mpr h') }
  | loadSlot =>
    obtain ⟨q, sender, receiver, sent, received⟩ := s
    obtain rfl : receiver = .loadSlot := hat
    simp only [receiveStep, Option.some.injEq] at hs
    subst hs
    exact { h with receiver := ⟨h.receiver, rfl⟩ }
  | loadConsumer msg =>
    obtain ⟨q, sender, receiver, sent, received⟩ := s
    obtain rfl : receiver = .loadConsumer msg := hat
    simp only [receiveStep, Option.some.injEq] at hs
    subst hs
    exact { h with receiver := ⟨h.receiver.1, h.receiver.2, rfl⟩ }
  | loadCount msg =>
    obtain ⟨q, sender, receiver, sent, received⟩ := s
    obtain rfl : receiver = .loadCount msg := hat
    have hsu : sender.updating = false := by
      simpa [exclusive, Receiver.entering] using hx
    simp only [receiveStep, Option.some.injEq] at hs
    subst hs
    exact { h with
      receiver := ⟨h.receiver.1, h.receiver.2, rfl⟩
      alone := fun h' => Bool.noConfusion (hsu.symm.trans h'.1) }

/-- **Every exclusive move keeps the invariant.** -/
theorem step (h : Inv s) {a : Move} (hx : exclusive s a = true) (hs : step s a = some t) : Inv t := by
  cases a with
  | callSend msg =>
    obtain ⟨q, sender, receiver, sent, received⟩ := s
    cases sender with
    | idle =>
      simp only [Interleave.step, Option.some.injEq] at hs
      subst hs
      exact { h with sender := trivial }
    | _ => simp [Interleave.step] at hs
  | send => exact h.send hx hs
  | callReceive =>
    obtain ⟨q, sender, receiver, sent, received⟩ := s
    cases receiver with
    | idle =>
      simp only [Interleave.step, Option.some.injEq] at hs
      subst hs
      exact { h with receiver := trivial }
    | _ => simp [Interleave.step] at hs
  | receive => exact h.receive hx hs

theorem agrees (h : Inv s) : Agrees s := by
  refine ⟨?_, ?_, ⟨_, h.slots.symm⟩⟩
  · rw [h.length, Nat.add_comm]
  · rw [h.capacity, UInt32.le_iff_toNat_le]
    exact h.count

end Inv

/-- **With exclusive updates of `count` nothing is lost.** In every state
reached by moves that never start an update of `count` inside the other
party's, and with both parties between calls, `count` is what was sent less
what was received, within the capacity, and the messages received are a
prefix of those sent. -/
theorem agrees_of_exclusive (header : SharedMemoryHeader) (d : Direction) {s : Shared}
    (h : Reachable exclusive header d s) (_ : s.sender = .idle) (_ : s.receiver = .idle) : Agrees s :=
  (h.invariant (start_inv header d) fun _ _ _ hI hx hst => hI.step hx hst).agrees

/-- One call of each party, the receiver's entered inside the sender's. -/
def oneMessage : List Move :=
  .callSend .zero :: List.replicate 5 .send ++ .callReceive :: List.replicate 2 .send ++
    List.replicate 7 .receive

theorem agrees_of_exclusive_oneMessage :
    ∃ s, System.run step exclusive (start .zero .kernelToDaemon) oneMessage = some s ∧
      s.sent = [.zero] ∧ s.received = [.zero] ∧ Agrees s :=
  ⟨_, rfl, rfl, rfl, agrees_of_exclusive .zero .kernelToDaemon
    (System.Reach.run oneMessage .init rfl) rfl rfl⟩

/-- Two sends and a receive: the receiver's whole call falls between the read
and the write of the second send's `count++`. -/
def lostUpdate : List Move :=
  .callSend .zero :: List.replicate 7 .send ++ .callSend .zero :: List.replicate 6 .send ++
    .callReceive :: List.replicate 7 .receive ++ [.send]

/-- The two updates of `count` overlap, and one of them is lost: two messages
sent, one received, `count` is two. -/
theorem count_update_lost : ¬ ∀ (header : SharedMemoryHeader) (d : Direction) (s : Shared),
    Reachable any header d s → s.sender = .idle → s.receiver = .idle → Agrees s := by
  intro h
  have hr : ∃ s, System.run step any (start .zero .kernelToDaemon) lostUpdate = some s ∧
      s.sender = .idle ∧ s.receiver = .idle ∧ s.queue.count.toNat = 2 ∧ s.sent.length = 2 ∧
      s.received.length = 1 := ⟨_, rfl, rfl, rfl, rfl, rfl, rfl⟩
  obtain ⟨s, hrun, hs, hr, hc, h2, h1⟩ := hr
  have hcount := (h .zero .kernelToDaemon s (System.Reach.run lostUpdate .init hrun) hs hr).1
  omega

end Interleave
end Dos25
