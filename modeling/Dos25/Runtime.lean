/-
# `runtime.c`: the shared region and its two ring queues

`setup_shared_memory`, `initialize_ipc_queues` and
`preserve_runtime_services` on the memory behind `shared_buffer`, and the
queue operations `ipc_send_message` and `ipc_receive_message`. A queue is
passed by value and returned, so the NULL guards have no counterpart. What C
leaves undefined, a slot index outside the array or a modulus of zero, is a
`Fault`. The fields an operation reads and writes, in program order, are
listed beside it.

A queue that `initialize_ipc_queues` set up stays well formed (`WF`), and on a
well-formed queue the two operations are those of a bounded list
(`ipcSendMessage_spec`, `ipcReceiveMessage_spec`).

Key definitions: `ipcSendMessage`, `ipcReceiveMessage`, `IpcQueue.WF`,
`IpcQueue.contents`.
-/
import Dos25.Boot
import Dos25.Lib.Ring

namespace Dos25

open Layout

/-- Undefined behaviour of a queue access. -/
inductive Fault
  | slotIndex (i : UInt32)
  | modulusZero
  deriving DecidableEq, Repr

/-- A read or a write of the field `φ`. -/
inductive Access (φ : Type)
  | read (f : φ)
  | write (f : φ)
  deriving DecidableEq, Repr

def Access.map {φ ψ : Type} (g : φ → ψ) : Access φ → Access ψ
  | .read f => .read (g f)
  | .write f => .write (g f)

/-- The field an access touches. -/
def Access.field {φ : Type} : Access φ → φ
  | .read f => f
  | .write f => f

/-- The fields of `struct ipc_queue`; `message i` is all of `messages[i]`. -/
inductive QueueField
  | producerIndex
  | consumerIndex
  | count
  | capacity
  | message (i : UInt32)
  deriving DecidableEq, Repr

/-- The fields of `struct shared_memory_header`. -/
inductive HeaderField
  | magic
  | version
  | size
  | sequence
  | status
  | kernelToDaemon (f : QueueField)
  | daemonToKernel (f : QueueField)
  | rtServices
  | rtServicesPhys
  | messagesSent
  | messagesReceived
  | errors
  deriving DecidableEq, Repr

/-- A slot lies in its array. -/
def QueueField.SlotLt : QueueField → Prop
  | .message i => i.toNat < ipcQueueSize
  | _ => True

def HeaderField.SlotLt : HeaderField → Prop
  | .kernelToDaemon f => f.SlotLt
  | .daemonToKernel f => f.SlotLt
  | _ => True

def HeaderField.ofQueue : Direction → QueueField → HeaderField
  | .kernelToDaemon => .kernelToDaemon
  | .daemonToKernel => .daemonToKernel

/-! ### The queue operations -/

/-- `&queue->messages[i]`. -/
def slotOf (i : UInt32) : Except Fault (Fin ipcQueueSize) :=
  if h : i.toNat < ipcQueueSize then .ok ⟨i.toNat, h⟩ else .error (.slotIndex i)

/-- `(index + 1) % queue->capacity`. -/
def IpcQueue.next (queue : IpcQueue) (index : UInt32) : Except Fault UInt32 :=
  if queue.capacity = 0 then .error .modulusZero else .ok ((index + 1) % queue.capacity)

def ipcQueueEmpty (queue : IpcQueue) : Bool := queue.count == 0

def ipcQueueFull (queue : IpcQueue) : Bool := queue.capacity ≤ queue.count

def ipcSendMessage (queue : IpcQueue) (msg : IpcMessage) : Except Fault (BootStatus × IpcQueue) :=
  if ipcQueueFull queue then .ok (.errorIo, queue)
  else do
    let i ← slotOf queue.producerIndex
    let next ← queue.next queue.producerIndex
    .ok (.success, { queue with
      messages := Function.update queue.messages i msg
      producerIndex := next
      count := queue.count + 1 })

def ipcSendMessageAccesses (queue : IpcQueue) : List (Access QueueField) :=
  [.read .count, .read .capacity] ++
    if ipcQueueFull queue then []
    else [.read .producerIndex, .write (.message queue.producerIndex), .read .producerIndex,
      .read .capacity, .write .producerIndex, .read .count, .write .count]

/-- `msg` is what the caller's buffer held before. -/
def ipcReceiveMessage (queue : IpcQueue) (msg : IpcMessage) :
    Except Fault (BootStatus × IpcMessage × IpcQueue) :=
  if ipcQueueEmpty queue then .ok (.errorNotFound, msg, queue)
  else do
    let i ← slotOf queue.consumerIndex
    let next ← queue.next queue.consumerIndex
    .ok (.success, queue.messages i, { queue with
      consumerIndex := next
      count := queue.count - 1 })

def ipcReceiveMessageAccesses (queue : IpcQueue) : List (Access QueueField) :=
  [.read .count] ++
    if ipcQueueEmpty queue then []
    else [.read .consumerIndex, .read (.message queue.consumerIndex), .read .consumerIndex,
      .read .capacity, .write .consumerIndex, .read .count, .write .count]

/-! ### Setting the region up -/

/-- What `SetMem(header, SHARED_MEM_SIZE, 0)` leaves in the field at byte
`off`. No field straddles the end of the region. -/
def cleared {α : Type} [OfNat α 0] (off : ℕ) (v : α) : α := if off < sharedMemSize then 0 else v

def IpcMessage.clear (base : ℕ) (m : IpcMessage) : IpcMessage where
  type := cleared (base + offset ipcMessageFields 0) m.type
  source := cleared (base + offset ipcMessageFields 1) m.source
  target := cleared (base + offset ipcMessageFields 2) m.target
  timestamp := cleared (base + offset ipcMessageFields 3) m.timestamp
  size := cleared (base + offset ipcMessageFields 4) m.size
  sequence := cleared (base + offset ipcMessageFields 5) m.sequence
  data j := cleared (base + offset ipcMessageFields 6 + j) (m.data j)

def IpcQueue.clear (base : ℕ) (q : IpcQueue) : IpcQueue where
  producerIndex := cleared (base + offset ipcQueueFields 0) q.producerIndex
  consumerIndex := cleared (base + offset ipcQueueFields 1) q.consumerIndex
  count := cleared (base + offset ipcQueueFields 2) q.count
  capacity := cleared (base + offset ipcQueueFields 3) q.capacity
  messages i := (q.messages i).clear (base + offset ipcQueueFields 4 + i * ipcMessageTy.size)

def SharedMemoryHeader.clear (h : SharedMemoryHeader) : SharedMemoryHeader where
  magic := cleared (offset sharedMemoryHeaderFields 0) h.magic
  version := cleared (offset sharedMemoryHeaderFields 1) h.version
  size := cleared (offset sharedMemoryHeaderFields 2) h.size
  sequence := cleared (offset sharedMemoryHeaderFields 3) h.sequence
  status := cleared (offset sharedMemoryHeaderFields 4) h.status
  kernelToDaemon := h.kernelToDaemon.clear (offset sharedMemoryHeaderFields 5)
  daemonToKernel := h.daemonToKernel.clear (offset sharedMemoryHeaderFields 6)
  rtServices := cleared (offset sharedMemoryHeaderFields 7) h.rtServices
  rtServicesPhys := cleared (offset sharedMemoryHeaderFields 8) h.rtServicesPhys
  messagesSent := cleared (offset sharedMemoryHeaderFields 9) h.messagesSent
  messagesReceived := cleared (offset sharedMemoryHeaderFields 10) h.messagesReceived
  errors := cleared (offset sharedMemoryHeaderFields 11) h.errors

/-- The queue fields `initialize_ipc_queues` sets one by one. -/
def IpcQueue.initialized (q : IpcQueue) : IpcQueue :=
  { q with producerIndex := 0, consumerIndex := 0, count := 0, capacity := 256 }

/-- `header` is what the memory behind `shared_buffer` held before. -/
def initializeIpcQueues (header : SharedMemoryHeader) : BootStatus × SharedMemoryHeader :=
  let header := header.clear
  (.success, { header with
    magic := sharedMemMagic
    version := dos25RuntimeVersion
    size := UInt32.ofNat sharedMemSize
    sequence := 0
    status := 0
    kernelToDaemon := header.kernelToDaemon.initialized
    daemonToKernel := header.daemonToKernel.initialized
    messagesSent := 0
    messagesReceived := 0
    errors := 0 })

/-- The writes after `SetMem`. -/
def initializeIpcQueuesAccesses : List (Access HeaderField) :=
  [.write .magic, .write .version, .write .size, .write .sequence, .write .status] ++
    ([.producerIndex, .consumerIndex, .count, .capacity].map fun f => .write (.kernelToDaemon f)) ++
    ([.producerIndex, .consumerIndex, .count, .capacity].map fun f => .write (.daemonToKernel f)) ++
    [.write .messagesSent, .write .messagesReceived, .write .errors]

/-- What `AllocatePages` answers. -/
structure PageAllocation where
  status : EfiStatus
  address : UInt64

/-- `memory` is what the allocated pages, and what lies behind them, hold. -/
def setupSharedMemory (alloc : PageAllocation) (params : BootParams) (memory : SharedMemoryHeader) :
    BootStatus × BootParams × SharedMemoryHeader :=
  if efiError alloc.status then (.errorMemory, params, memory)
  else
    let (status, memory) := initializeIpcQueues memory
    (status, { params with
      sharedBuffer := alloc.address
      sharedBufferSize := UInt64.ofNat sharedMemSize
      sharedHeader := alloc.address }, memory)

/-- `runtimeServices` is the address `ST->RuntimeServices`. -/
def preserveRuntimeServices (runtimeServices : UInt64) (params : BootParams)
    (memory : SharedMemoryHeader) : BootStatus × BootParams × SharedMemoryHeader :=
  let params := { params with rtServices := runtimeServices, rtServicesPhys := runtimeServices }
  let memory := if params.sharedHeader ≠ 0 then
      { memory with rtServices := runtimeServices, rtServicesPhys := runtimeServices }
    else memory
  (.success, params, memory)

def preserveRuntimeServicesAccesses (params : BootParams) : List (Access HeaderField) :=
  if params.sharedHeader ≠ 0 then [.write .rtServices, .write .rtServicesPhys] else []

/-! ### Well-formed queues -/

/-- The invariant of a queue `initialize_ipc_queues` set up. -/
structure IpcQueue.WF (q : IpcQueue) : Prop where
  capacity : q.capacity = 256
  consumer : q.consumerIndex.toNat < ipcQueueSize
  count : q.count.toNat ≤ ipcQueueSize
  producer : q.producerIndex.toNat = (q.consumerIndex.toNat + q.count.toNat) % ipcQueueSize

/-- The messages a queue holds, oldest first. -/
def IpcQueue.contents (q : IpcQueue) : List IpcMessage :=
  Ring.window q.messages q.consumerIndex.toNat q.count.toNat

@[simp] theorem IpcQueue.contents_length (q : IpcQueue) : q.contents.length = q.count.toNat :=
  Ring.window_length _ _ _

theorem IpcQueue.WF.contents_length_le {q : IpcQueue} (h : q.WF) :
    q.contents.length ≤ ipcQueueSize := q.contents_length.trans_le h.count

theorem IpcQueue.initialized_wf (q : IpcQueue) : q.initialized.WF :=
  ⟨rfl, by simp [initialized], by simp [initialized], by simp [initialized]⟩

@[simp] theorem IpcQueue.initialized_contents (q : IpcQueue) : q.initialized.contents = [] := rfl

/-- Both queues of a header are well formed. -/
def SharedMemoryHeader.WF (h : SharedMemoryHeader) : Prop := ∀ d, (h.queue d).WF

theorem initializeIpcQueues_wf (h : SharedMemoryHeader) : (initializeIpcQueues h).2.WF
  | .kernelToDaemon => IpcQueue.initialized_wf _
  | .daemonToKernel => IpcQueue.initialized_wf _

theorem initializeIpcQueues_contents (h : SharedMemoryHeader) :
    ∀ d, ((initializeIpcQueues h).2.queue d).contents = []
  | .kernelToDaemon => IpcQueue.initialized_contents _
  | .daemonToKernel => IpcQueue.initialized_contents _

/-- The queue after a successful send. -/
def IpcQueue.pushed (q : IpcQueue) (m : IpcMessage) : IpcQueue :=
  { q with
    messages := Function.update q.messages (Fin.ofNat ipcQueueSize q.producerIndex.toNat) m
    producerIndex := (q.producerIndex + 1) % 256
    count := q.count + 1 }

/-- The queue after a successful receive. -/
def IpcQueue.popped (q : IpcQueue) : IpcQueue :=
  { q with
    consumerIndex := (q.consumerIndex + 1) % 256
    count := q.count - 1 }

/-- Nothing below the ring size wraps. -/
theorem succ_toNat {x : UInt32} (h : x.toNat < ipcQueueSize) : (x + 1).toNat = x.toNat + 1 := by
  change x.toNat < 256 at h
  rw [UInt32.toNat_add]
  exact Nat.mod_eq_of_lt (by simp only [UInt32.toNat_one]; omega)

theorem pred_toNat {x : UInt32} (h : x.toNat ≠ 0) : (x - 1).toNat = x.toNat - 1 :=
  UInt32.toNat_sub_of_le _ _ (by rw [UInt32.le_iff_toNat_le, UInt32.toNat_one]; omega)

/-- A slot number. -/
theorem mod_ipcQueueSize_lt (n : ℕ) : n % ipcQueueSize < ipcQueueSize := Nat.mod_lt _ (by decide)

/-- A ring index moves on by one, around the ring. -/
theorem succ_mod_toNat {i : UInt32} (h : i.toNat < ipcQueueSize) :
    ((i + 1) % 256).toNat = (i.toNat + 1) % ipcQueueSize := by
  rw [UInt32.toNat_mod, succ_toNat h]
  rfl

theorem slotOf_ok {i : UInt32} (h : i.toNat < ipcQueueSize) :
    slotOf i = .ok (Fin.ofNat ipcQueueSize i.toNat) := by
  unfold slotOf
  rw [dif_pos h]
  congr 1
  exact Fin.ext (Nat.mod_eq_of_lt h).symm

theorem IpcQueue.next_ok {q : IpcQueue} (h : q.capacity = 256) (i : UInt32) :
    q.next i = .ok ((i + 1) % 256) := by
  unfold next
  rw [if_neg (by rw [h]; decide), h]

namespace IpcQueue.WF

variable {q : IpcQueue}

theorem producer_lt (h : q.WF) : q.producerIndex.toNat < ipcQueueSize :=
  h.producer ▸ mod_ipcQueueSize_lt _

theorem full_iff (h : q.WF) : ipcQueueFull q = true ↔ q.count.toNat = ipcQueueSize := by
  have hc := h.count
  simp only [ipcQueueFull, h.capacity, decide_eq_true_eq, UInt32.le_iff_toNat_le]
  exact ⟨fun h' => le_antisymm hc h', fun h' => h'.ge⟩

theorem pushed (h : q.WF) (hc : q.count.toNat < ipcQueueSize) (m : IpcMessage) :
    (q.pushed m).WF where
  capacity := h.capacity
  consumer := h.consumer
  count := (succ_toNat hc).trans_le hc
  producer := by
    show ((q.producerIndex + 1) % 256).toNat =
      (q.consumerIndex.toNat + (q.count + 1).toNat) % ipcQueueSize
    rw [succ_mod_toNat h.producer_lt, h.producer, succ_toNat hc, Nat.mod_add_mod, Nat.add_assoc]

theorem popped (h : q.WF) (hc : q.count.toNat ≠ 0) : q.popped.WF where
  capacity := h.capacity
  consumer := (succ_mod_toNat h.consumer).trans_lt (mod_ipcQueueSize_lt _)
  count := by
    have := h.count
    rw [show q.popped.count.toNat = q.count.toNat - 1 from pred_toNat hc]
    omega
  producer := by
    show q.producerIndex.toNat =
      (((q.consumerIndex + 1) % 256).toNat + (q.count - 1).toNat) % ipcQueueSize
    rw [succ_mod_toNat h.consumer, pred_toNat hc, h.producer, Nat.mod_add_mod]
    congr 1
    omega

end IpcQueue.WF

theorem ipcQueueEmpty_iff (q : IpcQueue) : ipcQueueEmpty q = true ↔ q.count.toNat = 0 := by
  simp only [ipcQueueEmpty, beq_iff_eq, ← UInt32.toNat_inj, UInt32.toNat_zero]

/-- A send on a queue with room appends. -/
theorem IpcQueue.WF.pushed_contents {q : IpcQueue} (h : q.WF) (hc : q.count.toNat < ipcQueueSize)
    (m : IpcMessage) : (q.pushed m).contents = q.contents ++ [m] := by
  have hp : Fin.ofNat ipcQueueSize q.producerIndex.toNat =
      Fin.ofNat ipcQueueSize (q.consumerIndex.toNat + q.count.toNat) := by
    apply Fin.ext
    simp only [Fin.ofNat, h.producer, Nat.mod_mod]
  show Ring.window (Function.update q.messages _ m) q.consumerIndex.toNat (q.count + 1).toNat = _
  rw [hp, succ_toNat hc, Ring.window_update _ _ hc]
  rfl

theorem IpcQueue.WF.pushed_length {q : IpcQueue} (h : q.WF) (hc : q.count.toNat < ipcQueueSize)
    (m : IpcMessage) : (q.pushed m).contents.length = q.contents.length + 1 := by
  rw [h.pushed_contents hc, List.length_append, List.length_singleton]

/-- A receive on a queue that is not empty takes the oldest message. -/
theorem IpcQueue.WF.contents_cons {q : IpcQueue} (h : q.WF) (hc : q.count.toNat ≠ 0) :
    q.contents = q.messages (Fin.ofNat ipcQueueSize q.consumerIndex.toNat) :: q.popped.contents := by
  obtain ⟨k, hk⟩ := Nat.exists_eq_succ_of_ne_zero hc
  have hpop : q.popped.contents = Ring.window q.messages (q.consumerIndex.toNat + 1) k := by
    show Ring.window q.messages ((q.consumerIndex + 1) % 256).toNat (q.count - 1).toNat = _
    rw [succ_mod_toNat h.consumer, pred_toNat hc, hk, Ring.window_mod]
    rfl
  rw [contents, hk, Ring.window_succ, hpop]

/-- **A send on a well-formed queue**: it appends, or finds the queue full and
leaves it alone. -/
theorem ipcSendMessage_spec {q : IpcQueue} (h : q.WF) (m : IpcMessage) :
    ipcSendMessage q m =
      .ok (if q.contents.length < ipcQueueSize then (.success, q.pushed m) else (.errorIo, q)) := by
  have hc := h.count
  unfold ipcSendMessage
  rw [IpcQueue.contents_length]
  by_cases hf : q.count.toNat = ipcQueueSize
  · rw [if_pos (h.full_iff.mpr hf), if_neg (by omega)]
  · rw [if_neg (fun h' => hf (h.full_iff.mp h')), if_pos (by omega), slotOf_ok h.producer_lt,
      IpcQueue.next_ok h.capacity]
    rfl

/-- **A receive on a well-formed queue**: it takes the oldest message, or
finds none and leaves queue and buffer alone. -/
theorem ipcReceiveMessage_spec {q : IpcQueue} (h : q.WF) (buf : IpcMessage) :
    ipcReceiveMessage q buf = .ok (match q.contents with
      | [] => (.errorNotFound, buf, q)
      | m :: _ => (.success, m, q.popped)) := by
  rw [ipcReceiveMessage]
  by_cases he : q.count.toNat = 0
  · have hn : q.contents = [] := List.eq_nil_of_length_eq_zero (by simpa using he)
    rw [if_pos ((ipcQueueEmpty_iff q).mpr he), hn]
  · rw [if_neg (fun h' => he ((ipcQueueEmpty_iff q).mp h')), h.contents_cons he,
      slotOf_ok h.consumer, IpcQueue.next_ok h.capacity]
    rfl

/-- The slot a well-formed queue is sent to lies in the array. -/
theorem IpcQueue.WF.send_slotLt {q : IpcQueue} (h : q.WF) {a : Access QueueField}
    (ha : a ∈ ipcSendMessageAccesses q) : a.field.SlotLt := by
  have hp := h.producer_lt
  unfold ipcSendMessageAccesses at ha
  split_ifs at ha
  · simp only [List.append_nil, List.mem_cons, List.not_mem_nil, or_false] at ha
    rcases ha with rfl | rfl <;> trivial
  · simp only [List.cons_append, List.nil_append, List.mem_cons, List.not_mem_nil, or_false] at ha
    rcases ha with rfl | rfl | rfl | rfl | rfl | rfl | rfl | rfl | rfl <;>
      first | exact trivial | exact hp

/-- The slot a well-formed queue is received from lies in the array. -/
theorem IpcQueue.WF.receive_slotLt {q : IpcQueue} (h : q.WF) {a : Access QueueField}
    (ha : a ∈ ipcReceiveMessageAccesses q) : a.field.SlotLt := by
  have hc := h.consumer
  unfold ipcReceiveMessageAccesses at ha
  split_ifs at ha
  · simp only [List.append_nil, List.mem_cons, List.not_mem_nil, or_false] at ha
    rcases ha with rfl
    trivial
  · simp only [List.cons_append, List.nil_append, List.mem_cons, List.not_mem_nil, or_false] at ha
    rcases ha with rfl | rfl | rfl | rfl | rfl | rfl | rfl | rfl <;>
      first | exact trivial | exact hc

/-- Slots in their arrays, as accesses of the header. -/
theorem ofQueue_slotLt (d : Direction) {accesses : List (Access QueueField)}
    (h : ∀ a ∈ accesses, a.field.SlotLt) :
    ∀ a ∈ accesses.map (Access.map (HeaderField.ofQueue d)), a.field.SlotLt := by
  intro a ha
  obtain ⟨b, hb, rfl⟩ := List.mem_map.mp ha
  have := h b hb
  cases d <;> cases b <;> exact this

end Dos25
