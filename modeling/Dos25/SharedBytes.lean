/-
# The shared region in memory

Kernel and daemon share bytes: each finds the header at its address and its
fields at their offsets. Here the operations of `runtime.c` work on these
bytes, one load or store for each access. A message is copied as an object,
with the four bytes of padding between `target` and `timestamp`.

The header that the bytes show changes as the operations on headers say,
whatever the padding holds, and no other byte changes (`sendAt_spec`,
`receiveAt_spec`, `initializeIpcQueuesAt_spec`).

Key definitions: `SharedMemoryHeader.load`, `ipcSendMessageAt`,
`ipcReceiveMessageAt`, `initializeIpcQueuesAt`.
-/
import Dos25.Lib.AddressSpace
import Dos25.Lib.System
import Dos25.Runtime

namespace Dos25

open AddressSpace Layout

/-! ### Objects in memory -/

def IpcMessage.load (m : Mem) (a : ℕ) : IpcMessage where
  type := word32.load m (a + offset ipcMessageFields 0)
  source := word32.load m (a + offset ipcMessageFields 1)
  target := word32.load m (a + offset ipcMessageFields 2)
  timestamp := word64.load m (a + offset ipcMessageFields 3)
  size := word32.load m (a + offset ipcMessageFields 4)
  sequence := word32.load m (a + offset ipcMessageFields 5)
  data j := m (a + offset ipcMessageFields 6 + j)

/-- Where `messages[i]` of the queue at `q` lies. -/
def slotAddress (q i : ℕ) : ℕ := q + offset ipcQueueFields 4 + i * ipcMessageTy.size

def IpcQueue.load (m : Mem) (q : ℕ) : IpcQueue where
  producerIndex := word32.load m (q + offset ipcQueueFields 0)
  consumerIndex := word32.load m (q + offset ipcQueueFields 1)
  count := word32.load m (q + offset ipcQueueFields 2)
  capacity := word32.load m (q + offset ipcQueueFields 3)
  messages i := .load m (slotAddress q i)

def SharedMemoryHeader.load (m : Mem) (a : ℕ) : SharedMemoryHeader where
  magic := word64.load m (a + offset sharedMemoryHeaderFields 0)
  version := word32.load m (a + offset sharedMemoryHeaderFields 1)
  size := word32.load m (a + offset sharedMemoryHeaderFields 2)
  sequence := word32.load m (a + offset sharedMemoryHeaderFields 3)
  status := word32.load m (a + offset sharedMemoryHeaderFields 4)
  kernelToDaemon := .load m (a + offset sharedMemoryHeaderFields 5)
  daemonToKernel := .load m (a + offset sharedMemoryHeaderFields 6)
  rtServices := word64.load m (a + offset sharedMemoryHeaderFields 7)
  rtServicesPhys := word64.load m (a + offset sharedMemoryHeaderFields 8)
  messagesSent := word64.load m (a + offset sharedMemoryHeaderFields 9)
  messagesReceived := word64.load m (a + offset sharedMemoryHeaderFields 10)
  errors := word64.load m (a + offset sharedMemoryHeaderFields 11)

/-- The parts of a message object. -/
def IpcMessage.parts (msg : IpcMessage) (padding : Fin 4 → UInt8) : List (List UInt8) :=
  [word32.encode msg.type, word32.encode msg.source, word32.encode msg.target, List.ofFn padding,
    word64.encode msg.timestamp, word32.encode msg.size, word32.encode msg.sequence,
    List.ofFn msg.data]

/-- The bytes of a message object. -/
def IpcMessage.bytes (msg : IpcMessage) (padding : Fin 4 → UInt8) : List UInt8 :=
  (msg.parts padding).flatten

/-! ### The operations -/

def ipcQueueEmptyAt (m : Mem) (q : ℕ) : Bool := word32.load m (q + offset ipcQueueFields 2) == 0

def ipcQueueFullAt (m : Mem) (q : ℕ) : Bool :=
  word32.load m (q + offset ipcQueueFields 3) ≤ word32.load m (q + offset ipcQueueFields 2)

/-- `(index + 1) % queue->capacity`. -/
def nextAt (m : Mem) (q : ℕ) (index : UInt32) : Except Fault UInt32 :=
  if word32.load m (q + offset ipcQueueFields 3) = 0 then .error .modulusZero
  else .ok ((index + 1) % word32.load m (q + offset ipcQueueFields 3))

/-- `msg` is the object that is copied. -/
def ipcSendMessageAt (m : Mem) (q : ℕ) (msg : List UInt8) : Except Fault (BootStatus × Mem) :=
  if ipcQueueFullAt m q then .ok (.errorIo, m)
  else do
    let i ← slotOf (word32.load m (q + offset ipcQueueFields 0))
    let m := write m (slotAddress q i) msg
    let next ← nextAt m q (word32.load m (q + offset ipcQueueFields 0))
    let m := word32.store m (q + offset ipcQueueFields 0) next
    let count := word32.load m (q + offset ipcQueueFields 2)
    .ok (.success, word32.store m (q + offset ipcQueueFields 2) (count + 1))

/-- `msg` is what the caller's object held before. -/
def ipcReceiveMessageAt (m : Mem) (q : ℕ) (msg : IpcMessage) :
    Except Fault (BootStatus × IpcMessage × Mem) :=
  if ipcQueueEmptyAt m q then .ok (.errorNotFound, msg, m)
  else do
    let i ← slotOf (word32.load m (q + offset ipcQueueFields 1))
    let msg := IpcMessage.load m (slotAddress q i)
    let next ← nextAt m q (word32.load m (q + offset ipcQueueFields 1))
    let m := word32.store m (q + offset ipcQueueFields 1) next
    let count := word32.load m (q + offset ipcQueueFields 2)
    .ok (.success, msg, word32.store m (q + offset ipcQueueFields 2) (count - 1))

/-- The queue fields `initialize_ipc_queues` sets one by one. -/
def initializeQueueAt (m : Mem) (q : ℕ) : Mem :=
  let m := word32.store m (q + offset ipcQueueFields 0) 0
  let m := word32.store m (q + offset ipcQueueFields 1) 0
  let m := word32.store m (q + offset ipcQueueFields 2) 0
  word32.store m (q + offset ipcQueueFields 3) 256

def initializeIpcQueuesAt (m : Mem) (a : ℕ) : BootStatus × Mem :=
  let m := fill m a sharedMemSize 0
  let m := word64.store m (a + offset sharedMemoryHeaderFields 0) sharedMemMagic
  let m := word32.store m (a + offset sharedMemoryHeaderFields 1) dos25RuntimeVersion
  let m := word32.store m (a + offset sharedMemoryHeaderFields 2) (UInt32.ofNat sharedMemSize)
  let m := word32.store m (a + offset sharedMemoryHeaderFields 3) 0
  let m := word32.store m (a + offset sharedMemoryHeaderFields 4) 0
  let m := initializeQueueAt m (a + offset sharedMemoryHeaderFields 5)
  let m := initializeQueueAt m (a + offset sharedMemoryHeaderFields 6)
  let m := word64.store m (a + offset sharedMemoryHeaderFields 9) 0
  let m := word64.store m (a + offset sharedMemoryHeaderFields 10) 0
  (.success, word64.store m (a + offset sharedMemoryHeaderFields 11) 0)

/-! ### Loads after stores -/

section

variable {m m' : Mem} {a : ℕ}

theorem IpcMessage.load_congr (h : AgreeOn ⟨a, ipcMessageTy.size⟩ m m') :
    IpcMessage.load m a = .load m' a := by
  apply IpcMessage.ext
  case data =>
    funext j
    have hsize : offset ipcMessageFields 6 + ipcMaxDataSize ≤ ipcMessageTy.size := by decide
    exact h _ ⟨by dsimp only; omega, by dsimp only; omega⟩
  case timestamp => exact word64.load_congr_field h (by decide)
  all_goals exact word32.load_congr_field h (by decide)

theorem slotAddress_le {i : ℕ} (h : i < ipcQueueSize) (q : ℕ) :
    slotAddress q i + ipcMessageTy.size ≤ q + ipcQueueTy.size := by
  have hoff : offset ipcQueueFields 4 = 16 := by decide
  have hsize : ipcQueueTy.size = 16 + 256 * 4128 := by decide
  have hi : i < 256 := h
  rw [slotAddress, hoff, hsize, ipcMessageTy_size]
  omega

theorem IpcQueue.load_congr (h : AgreeOn ⟨a, ipcQueueTy.size⟩ m m') :
    IpcQueue.load m a = .load m' a := by
  apply IpcQueue.ext
  case messages =>
    funext i
    have hle := slotAddress_le i.isLt a
    exact IpcMessage.load_congr (h.mono (by simp only [slotAddress]; omega) hle)
  all_goals exact word32.load_congr_field h (by decide)

end

/-! ### A message in its slot -/

theorem IpcMessage.bytes_length (msg : IpcMessage) (padding : Fin 4 → UInt8) :
    (msg.bytes padding).length = ipcMessageTy.size := by
  simp only [IpcMessage.bytes, IpcMessage.parts, List.length_flatten, List.map_cons, List.map_nil,
    word32.encode_length, word64.encode_length, List.length_ofFn]
  decide

/-- The bytes of a message are read back as the message. -/
theorem IpcMessage.load_write_bytes (m : Mem) (a : ℕ) (msg : IpcMessage)
    (padding : Fin 4 → UInt8) : IpcMessage.load (write m a (msg.bytes padding)) a = msg := by
  apply IpcMessage.ext
  case type => exact word32.load_write_flatten m a (msg.parts padding) (i := 0) rfl rfl
  case source => exact word32.load_write_flatten m a (msg.parts padding) (i := 1) rfl rfl
  case target => exact word32.load_write_flatten m a (msg.parts padding) (i := 2) rfl rfl
  case timestamp => exact word64.load_write_flatten m a (msg.parts padding) (i := 4) rfl rfl
  case size => exact word32.load_write_flatten m a (msg.parts padding) (i := 5) rfl rfl
  case sequence => exact word32.load_write_flatten m a (msg.parts padding) (i := 6) rfl rfl
  case data =>
    funext j
    have h := bytesAt_write_flatten m a (msg.parts padding) (i := 7) rfl
      (o := offset ipcMessageFields 6) rfl
    rw [List.length_ofFn] at h
    exact bytesAt_eq_ofFn h j

/-! ### Stores to a queue -/

/-- The four words of a queue. -/
def IpcQueue.setWord (queue : IpcQueue) (v : UInt32) : Fin 4 → IpcQueue
  | 0 => { queue with producerIndex := v }
  | 1 => { queue with consumerIndex := v }
  | 2 => { queue with count := v }
  | 3 => { queue with capacity := v }

section

variable {m m' : Mem} {q : ℕ}

/-- The messages lie behind the words. -/
theorem IpcQueue.load_messages {o k : ℕ} (h : AgreeOff ⟨q + o, k⟩ m m')
    (hle : o + k ≤ offset ipcQueueFields 4) :
    (IpcQueue.load m' q).messages = (IpcQueue.load m q).messages := by
  funext i
  refine (IpcMessage.load_congr (h.agreeOn (.inr ?_))).symm
  simp only [slotAddress]
  omega

theorem IpcQueue.load_storeWord (m : Mem) (q : ℕ) (v : UInt32) (k : Fin 4) :
    IpcQueue.load (word32.store m (q + offset ipcQueueFields k) v) q =
      (IpcQueue.load m q).setWord v k := by
  have h := word32.agreeOff_store m (q + offset ipcQueueFields k) v
  have hsame := word32.load_store m (q + offset ipcQueueFields k) v
  have hbehind : ∀ k : Fin 4, offset ipcQueueFields k + word32.size ≤ offset ipcQueueFields 4 := by
    decide
  have hapart : ∀ j k : Fin 4, j ≠ k →
      offset ipcQueueFields j + word32.size ≤ offset ipcQueueFields k ∨
        offset ipcQueueFields k + word32.size ≤ offset ipcQueueFields j := by
    decide
  have hmessages := IpcQueue.load_messages h (hbehind k)
  generalize word32.store m (q + offset ipcQueueFields k) v = m' at h hsame hmessages ⊢
  have hother : ∀ j : Fin 4, j ≠ k → word32.load m' (q + offset ipcQueueFields j) =
      word32.load m (q + offset ipcQueueFields j) :=
    fun j hj => (word32.load_congr (h.field (hapart j k hj))).symm
  have hcases : k = 0 ∨ k = 1 ∨ k = 2 ∨ k = 3 := by omega
  obtain rfl | rfl | rfl | rfl := hcases
  · exact IpcQueue.ext hsame (hother 1 (by decide)) (hother 2 (by decide)) (hother 3 (by decide))
      hmessages
  · exact IpcQueue.ext (hother 0 (by decide)) hsame (hother 2 (by decide)) (hother 3 (by decide))
      hmessages
  · exact IpcQueue.ext (hother 0 (by decide)) (hother 1 (by decide)) hsame (hother 3 (by decide))
      hmessages
  · exact IpcQueue.ext (hother 0 (by decide)) (hother 1 (by decide)) (hother 2 (by decide)) hsame
      hmessages

/-- A message copied to a slot. -/
theorem IpcQueue.load_write_slot (m : Mem) (q : ℕ) (i : Fin ipcQueueSize) (msg : IpcMessage)
    (padding : Fin 4 → UInt8) :
    IpcQueue.load (write m (slotAddress q i) (msg.bytes padding)) q =
      { IpcQueue.load m q with
        messages := Function.update (IpcQueue.load m q).messages i msg } := by
  have h := agreeOff_write m (slotAddress q i) (msg.bytes padding)
  rw [IpcMessage.bytes_length] at h
  have hword : ∀ {o : ℕ}, o + 4 ≤ offset ipcQueueFields 4 →
      word32.load (write m (slotAddress q i) (msg.bytes padding)) (q + o) = word32.load m (q + o) := by
    intro o ho
    refine (word32.load_congr (h.agreeOn (.inl ?_))).symm
    simp only [slotAddress, word32]
    omega
  apply IpcQueue.ext
  case messages =>
    funext j
    show IpcMessage.load _ (slotAddress q j) =
      Function.update (IpcQueue.load m q).messages i msg j
    by_cases hij : j = i
    · subst hij
      rw [Function.update_self, IpcMessage.load_write_bytes]
    · rw [Function.update_of_ne hij]
      refine (IpcMessage.load_congr (h.agreeOn ?_)).symm
      have hne : j.val ≠ i.val := fun he => hij (Fin.ext he)
      simp only [slotAddress, ipcMessageTy_size]
      omega
  all_goals exact hword (by decide)

end

/-! ### The queue operations -/

/-- The object at `q` shows `queue`, and nothing else has changed since `m`. -/
structure ShowsQueue (q : ℕ) (m m' : Mem) (queue : IpcQueue) : Prop where
  shows : IpcQueue.load m' q = queue
  others : AgreeOff ⟨q, ipcQueueTy.size⟩ m m'

namespace ShowsQueue

variable {q : ℕ} {m m' : Mem} {queue : IpcQueue}

theorem storeWord (h : ShowsQueue q m m' queue) (v : UInt32) (k : Fin 4) :
    ShowsQueue q m (word32.store m' (q + offset ipcQueueFields k) v) (queue.setWord v k) where
  shows := by rw [IpcQueue.load_storeWord, h.shows]
  others := by
    have hinside : ∀ k : Fin 4, offset ipcQueueFields k + word32.size ≤ ipcQueueTy.size := by decide
    exact word32.agreeOff_store_field h.others v (hinside k)

theorem write_slot (h : ShowsQueue q m m' queue) (i : Fin ipcQueueSize) (msg : IpcMessage)
    (padding : Fin 4 → UInt8) :
    ShowsQueue q m (write m' (slotAddress q i) (msg.bytes padding))
      { queue with messages := Function.update queue.messages i msg } where
  shows := by rw [IpcQueue.load_write_slot, h.shows]
  others := by
    have hwrite := agreeOff_write m' (slotAddress q i) (msg.bytes padding)
    rw [IpcMessage.bytes_length] at hwrite
    have hle := slotAddress_le i.isLt q
    exact h.others.trans (hwrite.mono (by simp only [slotAddress]; omega) hle)

end ShowsQueue

section

variable (m : Mem) (q : ℕ)

theorem load_producerIndex :
    word32.load m (q + offset ipcQueueFields 0) = (IpcQueue.load m q).producerIndex := rfl

theorem load_consumerIndex :
    word32.load m (q + offset ipcQueueFields 1) = (IpcQueue.load m q).consumerIndex := rfl

theorem load_count : word32.load m (q + offset ipcQueueFields 2) = (IpcQueue.load m q).count := rfl

theorem nextAt_eq (index : UInt32) : nextAt m q index = (IpcQueue.load m q).next index := rfl

/-- **A send on the bytes** is the send on the queue they show. -/
theorem sendAt_spec (msg : IpcMessage) (padding : Fin 4 → UInt8) :
    System.Matches (fun p p' => p.1 = p'.1 ∧ ShowsQueue q m p.2 p'.2)
      (ipcSendMessageAt m q (msg.bytes padding)) (ipcSendMessage (.load m q) msg) := by
  have h0 : ShowsQueue q m m (.load m q) := ⟨rfl, .refl _ _⟩
  have hfull : ipcQueueFullAt m q = ipcQueueFull (.load m q) := rfl
  rw [ipcSendMessageAt, ipcSendMessage, hfull]
  split_ifs
  · exact .ok ⟨rfl, h0⟩
  · refine (System.Matches.refl _).bind fun i _ hi => ?_
    subst hi
    have h1 := h0.write_slot i msg padding
    simp only [load_producerIndex, load_count, nextAt_eq, h1.shows]
    refine (System.Matches.refl _).bind fun next _ hnext => ?_
    subst hnext
    have h2 := h1.storeWord next 0
    have hcount : (IpcQueue.load (word32.store _ (q + offset ipcQueueFields 0) next) q).count =
        (IpcQueue.load m q).count := (congrArg IpcQueue.count h2.shows :)
    rw [hcount]
    exact .ok ⟨rfl, h2.storeWord ((IpcQueue.load m q).count + 1) 2⟩

/-- **A receive on the bytes** is the receive on the queue they show. -/
theorem receiveAt_spec (msg : IpcMessage) :
    System.Matches (fun p p' => p.1 = p'.1 ∧ p.2.1 = p'.2.1 ∧ ShowsQueue q m p.2.2 p'.2.2)
      (ipcReceiveMessageAt m q msg) (ipcReceiveMessage (.load m q) msg) := by
  have h0 : ShowsQueue q m m (.load m q) := ⟨rfl, .refl _ _⟩
  have hempty : ipcQueueEmptyAt m q = ipcQueueEmpty (.load m q) := rfl
  rw [ipcReceiveMessageAt, ipcReceiveMessage, hempty]
  split_ifs
  · exact .ok ⟨rfl, rfl, h0⟩
  · refine (System.Matches.refl _).bind fun i _ hi => ?_
    subst hi
    simp only [load_consumerIndex, load_count, nextAt_eq]
    refine (System.Matches.refl _).bind fun next _ hnext => ?_
    subst hnext
    have h1 := h0.storeWord next 1
    have hcount : (IpcQueue.load (word32.store m (q + offset ipcQueueFields 1) next) q).count =
        (IpcQueue.load m q).count := (congrArg IpcQueue.count h1.shows :)
    rw [hcount]
    exact .ok ⟨rfl, rfl, h1.storeWord ((IpcQueue.load m q).count - 1) 2⟩

theorem initializeQueueAt_spec :
    ShowsQueue q m (initializeQueueAt m q) (IpcQueue.load m q).initialized := by
  have h0 : ShowsQueue q m m (.load m q) := ⟨rfl, .refl _ _⟩
  exact (((h0.storeWord 0 0).storeWord 0 1).storeWord 0 2).storeWord 256 3

end

/-! ### Fields of the header -/

section

variable {α : Type} [OfNat α 0] (c : Scalar α) (m : Mem) (a : ℕ) {o o' : ℕ}

/-- A store to a field of the header outside the queue is not seen in it. -/
theorem IpcQueue.load_store_field (v : α)
    (h : o' + ipcQueueTy.size ≤ o ∨ o + c.size ≤ o') :
    IpcQueue.load (c.store m (a + o) v) (a + o') = .load m (a + o') :=
  (IpcQueue.load_congr ((c.agreeOff_store m (a + o) v).field h)).symm

/-- Nor is what is set in a queue seen outside it. -/
theorem load_initializeQueue_field
    (h : o' + c.size ≤ o ∨ o + ipcQueueTy.size ≤ o') :
    c.load (initializeQueueAt m (a + o)) (a + o') = c.load m (a + o') :=
  (c.load_congr ((initializeQueueAt_spec m (a + o)).others.field h)).symm

theorem IpcQueue.load_initializeQueue_field
    (h : o' + ipcQueueTy.size ≤ o ∨ o + ipcQueueTy.size ≤ o') :
    IpcQueue.load (initializeQueueAt m (a + o)) (a + o') = .load m (a + o') :=
  (IpcQueue.load_congr ((initializeQueueAt_spec m (a + o)).others.field h)).symm

/-! ### Setting the region up -/

/-- `SetMem` on a field that does not straddle the end of the region. -/
theorem load_cleared (h : o + c.size ≤ sharedMemSize ∨ sharedMemSize ≤ o) :
    c.load (fill m a sharedMemSize 0) (a + o) = cleared o (c.load m (a + o)) := by
  by_cases ho : o < sharedMemSize
  · have hend : o + c.size ≤ sharedMemSize := h.resolve_right (Nat.not_le.mpr ho)
    rw [cleared, if_pos ho]
    exact c.load_fill m (Nat.le_add_right a o) (by omega)
  · rw [cleared, if_neg ho]
    exact (c.load_congr ((agreeOff_fill m a sharedMemSize 0).agreeOn (.inr
      (Nat.add_le_add_left (Nat.le_of_not_lt ho) a)))).symm

end

section

variable (m : Mem) (a : ℕ)

/-- An aligned word does not straddle the end. -/
theorem word32_cleared {base o : ℕ} (h : base % 8 = 0) (ho : o % 4 = 0) :
    word32.load (fill m a sharedMemSize 0) (a + base + o) =
      cleared (base + o) (word32.load m (a + base + o)) := by
  have hend : sharedMemSize = 2097152 := rfl
  rw [Nat.add_assoc]
  exact load_cleared word32 m a (by simp only [word32]; omega)

theorem IpcMessage.load_cleared {base : ℕ} (h : base % 8 = 0) :
    IpcMessage.load (fill m a sharedMemSize 0) (a + base) =
      (IpcMessage.load m (a + base)).clear base := by
  apply IpcMessage.ext
  case timestamp =>
    have hend : sharedMemSize = 2097152 := rfl
    have ho : offset ipcMessageFields 3 = 16 := by decide
    simp only [IpcMessage.load, IpcMessage.clear, Nat.add_assoc a]
    exact Dos25.load_cleared word64 m a (by simp only [word64]; omega)
  case data =>
    funext j
    simp only [IpcMessage.load, IpcMessage.clear, cleared, fill]
    congr 1
    simp only [eq_iff_iff]
    omega
  all_goals exact word32_cleared m a h (by decide)

theorem IpcQueue.load_cleared {base : ℕ} (h : base % 8 = 0) :
    IpcQueue.load (fill m a sharedMemSize 0) (a + base) = (IpcQueue.load m (a + base)).clear base := by
  apply IpcQueue.ext
  case messages =>
    funext i
    have hoff : offset ipcQueueFields 4 = 16 := by decide
    have hslot : slotAddress (a + base) i =
        a + (base + offset ipcQueueFields 4 + i * ipcMessageTy.size) := by
      simp only [slotAddress]
      omega
    simp only [IpcQueue.load, IpcQueue.clear, hslot]
    exact IpcMessage.load_cleared m a (by rw [hoff, ipcMessageTy_size]; omega)
  all_goals exact word32_cleared m a h (by decide)

theorem SharedMemoryHeader.load_cleared :
    SharedMemoryHeader.load (fill m a sharedMemSize 0) a = (SharedMemoryHeader.load m a).clear := by
  apply SharedMemoryHeader.ext
  case version | size | sequence | status => exact Dos25.load_cleared word32 m a (by decide)
  case kernelToDaemon | daemonToKernel => exact IpcQueue.load_cleared m a (by decide)
  all_goals exact Dos25.load_cleared word64 m a (by decide)

end

/-! ### The header -/

/-- Where the queue lies in a header. -/
def queueOffset : Direction → ℕ
  | .kernelToDaemon => offset sharedMemoryHeaderFields 5
  | .daemonToKernel => offset sharedMemoryHeaderFields 6

/-- A queue lies in its header. -/
theorem agreeOff_queue {a : ℕ} {m m' m'' : Mem}
    (h : AgreeOff ⟨a, sharedMemoryHeaderTy.size⟩ m m') (d : Direction)
    (hq : AgreeOff ⟨a + queueOffset d, ipcQueueTy.size⟩ m' m'') :
    AgreeOff ⟨a, sharedMemoryHeaderTy.size⟩ m m'' := by
  have hend : queueOffset d + ipcQueueTy.size ≤ sharedMemoryHeaderTy.size := by
    cases d <;> decide
  exact h.trans (hq.mono (Nat.le_add_right a _) (by dsimp only; omega))

/-- The object at `a` shows `header`, and nothing else has changed since `m`. -/
structure ShowsHeader (a : ℕ) (m m' : Mem) (header : SharedMemoryHeader) : Prop where
  shows : SharedMemoryHeader.load m' a = header
  others : AgreeOff ⟨a, sharedMemoryHeaderTy.size⟩ m m'

namespace ShowsHeader

variable {a : ℕ} {m m' m'' : Mem} {header : SharedMemoryHeader}

theorem queue (h : ShowsHeader a m m' header) (d : Direction) :
    IpcQueue.load m' (a + queueOffset d) = header.queue d := by
  rw [← h.shows]
  cases d <;> rfl

/-- An operation on one of the queues. -/
theorem setQueue (h : ShowsHeader a m m' header) (d : Direction) {queue : IpcQueue}
    (hq : ShowsQueue (a + queueOffset d) m' m'' queue) :
    ShowsHeader a m m'' (header.setQueue d queue) where
  shows := by
    have ho := hq.others
    rw [← h.shows]
    cases d with
    | kernelToDaemon =>
      apply SharedMemoryHeader.ext
      case kernelToDaemon => exact hq.shows
      case daemonToKernel => exact (IpcQueue.load_congr (ho.field (by decide))).symm
      case version | size | sequence | status =>
        exact (word32.load_congr (ho.field (by decide))).symm
      all_goals exact (word64.load_congr (ho.field (by decide))).symm
    | daemonToKernel =>
      apply SharedMemoryHeader.ext
      case daemonToKernel => exact hq.shows
      case kernelToDaemon => exact (IpcQueue.load_congr (ho.field (by decide))).symm
      case version | size | sequence | status =>
        exact (word32.load_congr (ho.field (by decide))).symm
      all_goals exact (word64.load_congr (ho.field (by decide))).symm
  others := agreeOff_queue h.others d hq.others

theorem storeRuntimeServices (h : ShowsHeader a m m' header) (v v' : UInt64) :
    ShowsHeader a m (word64.store (word64.store m' (a + offset sharedMemoryHeaderFields 7) v)
      (a + offset sharedMemoryHeaderFields 8) v') { header with rtServices := v, rtServicesPhys := v' } where
  shows := by
    simp (disch := decide) only [← h.shows, SharedMemoryHeader.load, Scalar.load_store,
      Scalar.load_store_field, IpcQueue.load_store_field]
  others := word64.agreeOff_store_field (word64.agreeOff_store_field h.others v (by decide)) v'
    (by decide)

theorem storeMessagesSent (h : ShowsHeader a m m' header) (v : UInt64) :
    ShowsHeader a m (word64.store m' (a + offset sharedMemoryHeaderFields 9) v)
      { header with messagesSent := v } where
  shows := by
    simp (disch := decide) only [← h.shows, SharedMemoryHeader.load, Scalar.load_store,
      Scalar.load_store_field, IpcQueue.load_store_field]
  others := word64.agreeOff_store_field h.others v (by decide)

theorem storeMessagesReceived (h : ShowsHeader a m m' header) (v : UInt64) :
    ShowsHeader a m (word64.store m' (a + offset sharedMemoryHeaderFields 10) v)
      { header with messagesReceived := v } where
  shows := by
    simp (disch := decide) only [← h.shows, SharedMemoryHeader.load, Scalar.load_store,
      Scalar.load_store_field, IpcQueue.load_store_field]
  others := word64.agreeOff_store_field h.others v (by decide)

theorem storeErrors (h : ShowsHeader a m m' header) (v : UInt64) :
    ShowsHeader a m (word64.store m' (a + offset sharedMemoryHeaderFields 11) v)
      { header with errors := v } where
  shows := by
    simp (disch := decide) only [← h.shows, SharedMemoryHeader.load, Scalar.load_store,
      Scalar.load_store_field, IpcQueue.load_store_field]
  others := word64.agreeOff_store_field h.others v (by decide)

end ShowsHeader

/-- **`initialize_ipc_queues` on the bytes** sets the header they show up as it
does on headers. -/
theorem initializeIpcQueuesAt_spec (m : Mem) (a : ℕ) :
    ShowsHeader a m (initializeIpcQueuesAt m a).2 (initializeIpcQueues (.load m a)).2 := by
  have hcleared := SharedMemoryHeader.load_cleared m a
  have hqueue := initializeQueueAt_spec
  have hfill : AgreeOff ⟨a, sharedMemoryHeaderTy.size⟩ m (fill m a sharedMemSize 0) :=
    (agreeOff_fill m a sharedMemSize 0).mono (Nat.le_refl a)
      (Nat.add_le_add_left (show sharedMemSize ≤ sharedMemoryHeaderTy.size by decide) a)
  simp only [initializeIpcQueues, initializeIpcQueuesAt, ← hcleared]
  generalize fill m a sharedMemSize 0 = m0 at hfill ⊢
  constructor
  · -- each field holds what was stored last
    simp (disch := decide) only [SharedMemoryHeader.load, Scalar.load_store, Scalar.load_store_field,
      IpcQueue.load_store_field, load_initializeQueue_field, IpcQueue.load_initializeQueue_field,
      fun m q => (hqueue m q).shows]
  · have h0 := word64.agreeOff_store_field hfill sharedMemMagic
      (o := offset sharedMemoryHeaderFields 0) (by decide)
    have h1 := word32.agreeOff_store_field h0 dos25RuntimeVersion
      (o := offset sharedMemoryHeaderFields 1) (by decide)
    have h2 := word32.agreeOff_store_field h1 (UInt32.ofNat sharedMemSize)
      (o := offset sharedMemoryHeaderFields 2) (by decide)
    have h3 := word32.agreeOff_store_field h2 0 (o := offset sharedMemoryHeaderFields 3) (by decide)
    have h4 := word32.agreeOff_store_field h3 0 (o := offset sharedMemoryHeaderFields 4) (by decide)
    have h5 := agreeOff_queue h4 .kernelToDaemon (hqueue _ _).others
    have h6 := agreeOff_queue h5 .daemonToKernel (hqueue _ _).others
    have h9 := word64.agreeOff_store_field h6 0 (o := offset sharedMemoryHeaderFields 9) (by decide)
    have h10 := word64.agreeOff_store_field h9 0 (o := offset sharedMemoryHeaderFields 10) (by decide)
    exact word64.agreeOff_store_field h10 0 (by decide)

end Dos25
