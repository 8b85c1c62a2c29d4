/-
# What `start_runtime_daemon` verifies, and what its loop needs

The shared region is written by another party. `start_runtime_daemon` checks
its magic number and nothing else before it starts the loop, so here both
queues hold arbitrary indices, counts and capacities. A run then reads the
slots along `walk` from the consumer index and writes those along `walk` from
the producer index, and its accesses are defined exactly when the slots it
gets to lie in the array and no modulus is zero (`SafeToServe`,
`startRuntimeDaemon_defined_iff`). The magic number implies none of this
(`magic_not_enough`); indices below the array's size and the capacity
`initialize_ipc_queues` sets do (`SafeToServe.of_bounds`).

Key definitions: `Defined`, `walk`, `IpcQueue.pending`, `SafeToServe`.
Key theorems: `messageLoop_defined_iff`, `startRuntimeDaemon_defined_iff`.
-/
import Dos25.DaemonLoop

namespace Dos25

/-- Every access on the way to the result is defined. -/
def Defined {α : Type} (x : Except Fault α) : Prop := ∃ a, x = .ok a

theorem defined_ok {α : Type} (a : α) : Defined (.ok a : Except Fault α) := ⟨a, rfl⟩

theorem not_defined_error {α : Type} (f : Fault) : ¬ Defined (.error f : Except Fault α) := by
  rintro ⟨a, h⟩
  cases h

/-- A result that is computed further. -/
theorem defined_bind_ok {α β : Type} {x : Except Fault α} {a : α} (h : x = .ok a)
    (g : α → Except Fault β) : Defined (x >>= g) ↔ Defined (g a) := by
  rw [h]
  rfl

/-- A fault is not computed further. -/
theorem not_defined_bind {α β : Type} {x : Except Fault α} (h : ¬ Defined x)
    (g : α → Except Fault β) : ¬ Defined (x >>= g) := by
  cases x with
  | error f => exact not_defined_error f
  | ok a => exact absurd (defined_ok a) h

/-! ### Queues with arbitrary fields -/

/-- The index after `j` advances. -/
def walk (capacity i : UInt32) : ℕ → UInt32
  | 0 => i
  | j + 1 => walk capacity ((i + 1) % capacity) j

namespace IpcQueue

/-- `messages[i]`, around the array. -/
def slot (q : IpcQueue) (i : UInt32) : IpcMessage := q.messages (Fin.ofNat ipcQueueSize i.toNat)

/-- The requests a receiver finds, as many as the queue counts. -/
def pending (q : IpcQueue) : List IpcMessage :=
  (List.range q.count.toNat).map fun j => q.slot (walk q.capacity q.consumerIndex j)

/-- The queue after a receive. -/
def taken (q : IpcQueue) : IpcQueue :=
  { q with
    consumerIndex := (q.consumerIndex + 1) % q.capacity
    count := q.count - 1 }

/-- The queue after a send, which a full queue refuses. -/
def offered (q : IpcQueue) (m : IpcMessage) : IpcQueue :=
  if ipcQueueFull q then q
  else { q with
    messages := Function.update q.messages (Fin.ofNat ipcQueueSize q.producerIndex.toNat) m
    producerIndex := (q.producerIndex + 1) % q.capacity
    count := q.count + 1 }

/-- The next `n` receives are defined. -/
def ReadsSafe (q : IpcQueue) (n : ℕ) : Prop :=
  ∀ j < n, q.capacity ≠ 0 ∧ (walk q.capacity q.consumerIndex j).toNat < ipcQueueSize

/-- The next `n` sends are defined. Those that find the queue full touch no
slot. -/
def WritesSafe (q : IpcQueue) (n : ℕ) : Prop :=
  ∀ j < n, q.count.toNat + j < q.capacity.toNat →
    (walk q.capacity q.producerIndex j).toNat < ipcQueueSize

variable (q : IpcQueue)

theorem full_iff_le : ipcQueueFull q = true ↔ q.capacity.toNat ≤ q.count.toNat := by
  unfold ipcQueueFull
  rw [decide_eq_true_eq, UInt32.le_iff_toNat_le]

theorem pending_eq_nil (h : q.count.toNat = 0) : q.pending = [] := by
  unfold pending
  rw [h]
  rfl

/-- The requests found are the next one and those behind it. -/
theorem pending_cons (h : q.count.toNat ≠ 0) :
    q.pending = q.slot q.consumerIndex :: q.taken.pending := by
  obtain ⟨n, hn⟩ := Nat.exists_eq_succ_of_ne_zero h
  have ht : q.taken.count.toNat = n := by
    show (q.count - 1).toNat = n
    rw [pred_toNat h, hn]
    rfl
  unfold pending
  rw [hn, ht, List.range_succ_eq_map, List.map_cons, List.map_map]
  rfl

theorem readsSafe_zero : q.ReadsSafe 0 := fun _ h => absurd h (Nat.not_lt_zero _)

theorem writesSafe_zero : q.WritesSafe 0 := fun _ h => absurd h (Nat.not_lt_zero _)

theorem readsSafe_succ (n : ℕ) : q.ReadsSafe (n + 1) ↔
    (q.capacity ≠ 0 ∧ q.consumerIndex.toNat < ipcQueueSize) ∧ q.taken.ReadsSafe n := by
  constructor
  · intro h
    exact ⟨h 0 n.succ_pos, fun j hj => h (j + 1) (Nat.succ_lt_succ hj)⟩
  · rintro ⟨h0, h⟩ j hj
    cases j with
    | zero => exact h0
    | succ j => exact h j (Nat.lt_of_succ_lt_succ hj)

/-- A full queue stays full. -/
theorem writesSafe_full (h : ipcQueueFull q = true) (n : ℕ) : q.WritesSafe n := by
  intro j _ hj
  have := (q.full_iff_le).mp h
  omega

theorem writesSafe_succ (m : IpcMessage) (n : ℕ) : q.WritesSafe (n + 1) ↔
    (q.count.toNat < q.capacity.toNat → q.producerIndex.toNat < ipcQueueSize) ∧
      (q.offered m).WritesSafe n := by
  by_cases hf : ipcQueueFull q = true
  · have hle := (q.full_iff_le).mp hf
    unfold offered
    rw [if_pos hf]
    exact iff_of_true (q.writesSafe_full hf _) ⟨fun h => absurd h (by omega), q.writesSafe_full hf n⟩
  · have hlt : q.count.toNat < q.capacity.toNat := by
      rw [full_iff_le] at hf
      omega
    have hsucc : (q.count + 1).toNat = q.count.toNat + 1 := by
      have := q.capacity.toNat_lt
      rw [UInt32.toNat_add]
      exact Nat.mod_eq_of_lt (by simp only [UInt32.toNat_one]; omega)
    unfold offered
    rw [if_neg hf]
    constructor
    · intro h
      refine ⟨fun _ => h 0 n.succ_pos hlt, fun j hj hc => h (j + 1) (Nat.succ_lt_succ hj) ?_⟩
      change (q.count + 1).toNat + j < q.capacity.toNat at hc
      omega
    · rintro ⟨h0, h⟩ j hj hc
      cases j with
      | zero => exact h0 hlt
      | succ j =>
        refine h j (Nat.lt_of_succ_lt_succ hj) ?_
        show (q.count + 1).toNat + j < q.capacity.toNat
        omega

end IpcQueue

theorem slotOf_not_defined {i : UInt32} (h : ¬ i.toNat < ipcQueueSize) : ¬ Defined (slotOf i) := by
  unfold slotOf
  rw [dif_neg h]
  exact not_defined_error _

theorem IpcQueue.next_not_defined {q : IpcQueue} (h : q.capacity = 0) (i : UInt32) :
    ¬ Defined (q.next i) := by
  unfold next
  rw [if_pos h]
  exact not_defined_error _

/-- A receive on a queue that counts messages. -/
theorem ipcReceiveMessage_taken {q : IpcQueue} (h : q.count.toNat ≠ 0) (hc : q.capacity ≠ 0)
    (hi : q.consumerIndex.toNat < ipcQueueSize) (buf : IpcMessage) :
    ipcReceiveMessage q buf = .ok (.success, q.slot q.consumerIndex, q.taken) := by
  unfold ipcReceiveMessage
  rw [if_neg (fun h' => h ((ipcQueueEmpty_iff q).mp h')), slotOf_ok hi,
    IpcQueue.next, if_neg hc]
  rfl

theorem ipcReceiveMessage_not_defined {q : IpcQueue} (h : q.count.toNat ≠ 0)
    (hs : ¬ (q.capacity ≠ 0 ∧ q.consumerIndex.toNat < ipcQueueSize)) (buf : IpcMessage) :
    ¬ Defined (ipcReceiveMessage q buf) := by
  unfold ipcReceiveMessage
  rw [if_neg (fun h' => h ((ipcQueueEmpty_iff q).mp h'))]
  by_cases hi : q.consumerIndex.toNat < ipcQueueSize
  · have hc : q.capacity = 0 := by
      by_contra hc
      exact hs ⟨hc, hi⟩
    rw [defined_bind_ok (slotOf_ok hi)]
    exact not_defined_bind (IpcQueue.next_not_defined hc _) _
  · exact not_defined_bind (slotOf_not_defined hi) _

/-- A send is defined unless it gets to a slot outside the array. -/
theorem ipcSendMessage_offered {q : IpcQueue}
    (hs : q.count.toNat < q.capacity.toNat → q.producerIndex.toNat < ipcQueueSize) (m : IpcMessage) :
    ∃ status, ipcSendMessage q m = .ok (status, q.offered m) := by
  unfold ipcSendMessage
  rw [IpcQueue.offered]
  by_cases hf : ipcQueueFull q = true
  · rw [if_pos hf, if_pos hf]
    exact ⟨_, rfl⟩
  · have hlt : q.count.toNat < q.capacity.toNat := by
      rw [IpcQueue.full_iff_le] at hf
      omega
    have hc : q.capacity ≠ 0 := by
      intro hc
      rw [hc, UInt32.toNat_zero] at hlt
      exact Nat.not_lt_zero _ hlt
    rw [if_neg hf, if_neg hf, slotOf_ok (hs hlt), IpcQueue.next, if_neg hc]
    exact ⟨_, rfl⟩

theorem ipcSendMessage_not_defined {q : IpcQueue}
    (hs : ¬ (q.count.toNat < q.capacity.toNat → q.producerIndex.toNat < ipcQueueSize))
    (m : IpcMessage) : ¬ Defined (ipcSendMessage q m) := by
  obtain ⟨hlt, hi⟩ := Classical.not_imp.mp hs
  have hf : ¬ ipcQueueFull q = true := by
    rw [IpcQueue.full_iff_le]
    omega
  unfold ipcSendMessage
  rw [if_neg hf]
  exact not_defined_bind (slotOf_not_defined hi) _

/-! ### The loop on arbitrary queues -/

/-- The condition for `left` passes over arbitrary queues: the receives of the
requests they get to, and the sends of the responses to the answerable ones. -/
def SafeToServe (left : ℕ) (kernelToDaemon daemonToKernel : IpcQueue) : Prop :=
  let requests := toServe left kernelToDaemon.pending
  kernelToDaemon.ReadsSafe requests.length ∧
    daemonToKernel.WritesSafe (requests.filter (·.answerable)).length

/-- The queue of responses after a pass over `r`, whose response is `m`. -/
def IpcQueue.answered (q : IpcQueue) (r m : IpcMessage) : IpcQueue :=
  if r.answerable then q.offered m else q

/-- The condition for one pass over `r`. -/
def PassSafe (kernelToDaemon daemonToKernel : IpcQueue) (r : IpcMessage) : Prop :=
  (kernelToDaemon.capacity ≠ 0 ∧ kernelToDaemon.consumerIndex.toNat < ipcQueueSize) ∧
    (r.answerable = true → daemonToKernel.count.toNat < daemonToKernel.capacity.toNat →
      daemonToKernel.producerIndex.toNat < ipcQueueSize)

theorem safeToServe_nil {left : ℕ} {k d : IpcQueue} (h : toServe left k.pending = []) :
    SafeToServe left k d := by
  unfold SafeToServe
  rw [h]
  exact ⟨k.readsSafe_zero, d.writesSafe_zero⟩

/-- A pass over the next request, then the rest. -/
theorem safeToServe_cons {left n : ℕ} {k d : IpcQueue} {r : IpcMessage} (m : IpcMessage)
    (h : toServe left k.pending = r :: toServe n k.taken.pending) :
    SafeToServe left k d ↔ PassSafe k d r ∧ SafeToServe n k.taken (d.answered r m) := by
  simp only [SafeToServe, PassSafe, IpcQueue.answered, h, List.length_cons,
    IpcQueue.readsSafe_succ, List.filter_cons]
  by_cases ha : r.answerable = true
  · simp only [ha, if_true, List.length_cons, IpcQueue.writesSafe_succ d m, forall_const]
    tauto
  · simp only [ha, Bool.false_eq_true, if_false, IsEmpty.forall_iff, and_true]
    tauto

/-- What a defined send of a response leaves. -/
theorem sendResponse_defined (status : BootStatus) {d : Daemon} (hs : status = .success →
      d.shm.daemonToKernel.count.toNat < d.shm.daemonToKernel.capacity.toNat →
      d.shm.daemonToKernel.producerIndex.toNat < ipcQueueSize) :
    ∃ d', sendResponse status d = .ok d' ∧ d'.shm.kernelToDaemon = d.shm.kernelToDaemon ∧
      d'.shm.daemonToKernel = (if status = .success then d.shm.daemonToKernel.offered d.response
        else d.shm.daemonToKernel) ∧ d'.running = d.running := by
  rw [sendResponse]
  by_cases h : status = .success
  · obtain ⟨sent, he⟩ := ipcSendMessage_offered (hs h) d.response
    rw [if_pos h, if_pos h, he]
    simp only [bind, Except.bind]
    split_ifs
    · exact ⟨_, rfl, rfl, rfl, rfl⟩
    · exact ⟨_, rfl, rfl, rfl, rfl⟩
  · rw [if_neg h, if_neg h]
    exact ⟨_, rfl, rfl, rfl, rfl⟩

theorem sendResponse_not_defined {d : Daemon} (hs : ¬ (
      d.shm.daemonToKernel.count.toNat < d.shm.daemonToKernel.capacity.toNat →
      d.shm.daemonToKernel.producerIndex.toNat < ipcQueueSize)) :
    ¬ Defined (sendResponse .success d) := by
  unfold sendResponse
  rw [if_pos rfl]
  exact not_defined_bind (ipcSendMessage_not_defined hs _) _

section

variable (fw : RuntimeServices) (stack : StackLocals) {d : Daemon}

/-- A pass that finds no request breaks. -/
theorem messageLoopBody_break (h : d.shm.kernelToDaemon.count.toNat = 0) :
    ∃ d', messageLoopBody fw stack d = .ok (false, d') := by
  unfold messageLoopBody
  rw [ipcReceiveMessage, if_pos ((ipcQueueEmpty_iff _).mpr h)]
  exact ⟨_, rfl⟩

/-- A pass that is defined takes the request and moves both queues on. -/
theorem messageLoopBody_defined (h : d.shm.kernelToDaemon.count.toNat ≠ 0) {r : IpcMessage}
    (hreq : d.shm.kernelToDaemon.slot d.shm.kernelToDaemon.consumerIndex = r)
    (hs : PassSafe d.shm.kernelToDaemon d.shm.daemonToKernel r) :
    ∃ d', messageLoopBody fw stack d = .ok (true, d') ∧
      d'.shm.kernelToDaemon = d.shm.kernelToDaemon.taken ∧
      d'.shm.daemonToKernel = d.shm.daemonToKernel.answered r
        (processMessage fw stack d.calls d.running r d.response).1.response ∧
      d'.running = (d.running && r.type != ipcMsgShutdown) := by
  have hiff : (processMessage fw stack d.calls d.running r d.response).1.status = .success ↔
      r.answerable = true := by
    rw [processMessage_status]
    cases r.answerable <;> simp
  obtain ⟨d1, he, hk, hd, hr1⟩ := sendResponse_defined
    (processMessage fw stack d.calls d.running r d.response).1.status
    (d := d.handled fw stack r d.shm.kernelToDaemon.taken) (fun h' => hs.2 (hiff.mp h'))
  rw [messageLoopBody_received fw stack
    (hreq ▸ ipcReceiveMessage_taken h hs.1.1 hs.1.2 d.request), he]
  refine ⟨d1.counted, rfl, hk, hd.trans ?_,
    hr1.trans (processMessage_running fw stack d.calls d.running r d.response)⟩
  simp only [hiff, IpcQueue.answered, Daemon.handled]

theorem messageLoopBody_not_defined (h : d.shm.kernelToDaemon.count.toNat ≠ 0) {r : IpcMessage}
    (hreq : d.shm.kernelToDaemon.slot d.shm.kernelToDaemon.consumerIndex = r)
    (hs : ¬ PassSafe d.shm.kernelToDaemon d.shm.daemonToKernel r) :
    ¬ Defined (messageLoopBody fw stack d) := by
  by_cases hr : d.shm.kernelToDaemon.capacity ≠ 0 ∧
      d.shm.kernelToDaemon.consumerIndex.toNat < ipcQueueSize
  · obtain ⟨ha, hw⟩ := Classical.not_imp.mp (fun h' => hs ⟨hr, h'⟩)
    have hst := processMessage_status fw stack d.calls d.running r d.response
    rw [if_pos ha] at hst
    rw [messageLoopBody_received fw stack (hreq ▸ ipcReceiveMessage_taken h hr.1 hr.2 d.request), hst]
    exact not_defined_bind
      (sendResponse_not_defined (d := d.handled fw stack r d.shm.kernelToDaemon.taken) hw) _
  · rw [messageLoopBody]
    exact not_defined_bind (ipcReceiveMessage_not_defined h hr _) _

end

/-- Behind a shutdown no pass is left, behind any other request `left` are. -/
theorem toServe_pending {q : IpcQueue} (h : q.count.toNat ≠ 0) {r : IpcMessage}
    (hreq : q.slot q.consumerIndex = r) (left : ℕ) :
    toServe (left + 1) q.pending =
      r :: toServe (if r.type = ipcMsgShutdown then 0 else left) q.taken.pending := by
  rw [q.pending_cons h, hreq, toServe]
  split_ifs <;> rfl

/-- **The loop on arbitrary queues**: its accesses are defined exactly when
`SafeToServe` says so. -/
theorem messageLoop_defined_iff (fw : RuntimeServices) (locals : ℕ → StackLocals) :
    ∀ (left : ℕ) {d : Daemon}, d.running = true →
      (Defined (messageLoop fw locals left d) ↔
        SafeToServe left d.shm.kernelToDaemon d.shm.daemonToKernel)
  | 0, d, _ => iff_of_true (defined_ok d) (safeToServe_nil rfl)
  | left + 1, d, hr => by
    unfold messageLoop
    rw [if_pos hr]
    by_cases h : d.shm.kernelToDaemon.count.toNat = 0
    · obtain ⟨d', he⟩ := messageLoopBody_break fw (locals left) h
      rw [he]
      exact iff_of_true (defined_ok d') (safeToServe_nil (by rw [IpcQueue.pending_eq_nil _ h]; rfl))
    · obtain ⟨r, hreq⟩ : ∃ r,
          d.shm.kernelToDaemon.slot d.shm.kernelToDaemon.consumerIndex = r := ⟨_, rfl⟩
      rw [safeToServe_cons (processMessage fw (locals left) d.calls d.running r d.response).1.response
        (toServe_pending h hreq left)]
      by_cases hs : PassSafe d.shm.kernelToDaemon d.shm.daemonToKernel r
      · obtain ⟨d1, he, hk, hd, hrun⟩ := messageLoopBody_defined fw (locals left) h hreq hs
        rw [and_iff_right hs, defined_bind_ok he, ← hk, ← hd]
        simp only [↓reduceIte]
        by_cases ht : r.type = ipcMsgShutdown
        · have hd1 : d1.running = false := by rw [hrun, ht, bne_self_eq_false, Bool.and_false]
          rw [if_pos ht, messageLoop_stopped fw locals left hd1]
          exact iff_of_true (defined_ok d1) (safeToServe_nil rfl)
        · have hd1 : d1.running = true := by
            rw [hrun, hr]
            simpa using ht
          rw [if_neg ht]
          exact messageLoop_defined_iff fw locals left hd1
      · have hbody := messageLoopBody_not_defined fw (locals left) h hreq hs
        exact iff_of_false (not_defined_bind hbody _) fun h' => hs h'.1

/-! ### The daemon's start -/

theorem startRuntimeDaemon_eq (fw : RuntimeServices) (stack : Stack) {shm : SharedMemoryHeader}
    (hm : shm.magic = sharedMemMagic) :
    startRuntimeDaemon (some shm) (some fw) stack = daemonMessageLoop (some shm) (some fw) stack := by
  rw [startRuntimeDaemon, if_neg (not_not.mpr hm)]

theorem daemonMessageLoop_defined_iff (fw : RuntimeServices) (stack : Stack)
    (shm : SharedMemoryHeader) : Defined (daemonMessageLoop (some shm) (some fw) stack) ↔
      SafeToServe maxMessages shm.kernelToDaemon shm.daemonToKernel := by
  have hloop := messageLoop_defined_iff fw stack.locals maxMessages (d := .start shm stack) rfl
  rw [daemonMessageLoop, runDaemon]
  by_cases h : Defined (messageLoop fw stack.locals maxMessages (.start shm stack))
  · obtain ⟨d, he⟩ := h
    rw [he]
    exact iff_of_true (defined_ok _) (hloop.mp ⟨d, he⟩)
  · exact iff_of_false (not_defined_bind (not_defined_bind h _) _) (fun h' => h (hloop.mpr h'))

theorem walk_lt {i : UInt32} (h : i.toNat < ipcQueueSize) :
    ∀ j, (walk 256 i j).toNat < ipcQueueSize
  | 0 => h
  | j + 1 => walk_lt ((succ_mod_toNat h).trans_lt (mod_ipcQueueSize_lt _)) j

/-- With the capacity `initialize_ipc_queues` sets and the two indices used
below the array's size, nothing else in the queues matters. -/
theorem SafeToServe.of_bounds {k d : IpcQueue} (hk : k.capacity = 256)
    (hi : k.consumerIndex.toNat < ipcQueueSize) (hd : d.capacity = 256)
    (hp : d.producerIndex.toNat < ipcQueueSize) (left : ℕ) : SafeToServe left k d := by
  refine ⟨fun j _ => ⟨by rw [hk]; decide, ?_⟩, fun j _ _ => ?_⟩
  · rw [hk]
    exact walk_lt hi j
  · rw [hd]
    exact walk_lt hp j

/-- **Which regions are safe to start on.** On a region with the magic number,
every access of the run that `start_runtime_daemon` starts is defined if and
only if the slots the run gets to, from the consumer index of
`kernel_to_daemon` and the producer index of `daemon_to_kernel`, lie in the
arrays and the modulus of every receive is not zero. -/
theorem startRuntimeDaemon_defined_iff (fw : RuntimeServices) (stack : Stack)
    {shm : SharedMemoryHeader} (hm : shm.magic = sharedMemMagic) :
    Defined (startRuntimeDaemon (some shm) (some fw) stack) ↔
      SafeToServe maxMessages shm.kernelToDaemon shm.daemonToKernel := by
  rw [startRuntimeDaemon_eq fw stack hm]
  exact daemonMessageLoop_defined_iff fw stack shm

theorem startRuntimeDaemon_defined_iff_getTime :
    Defined (startRuntimeDaemon (some (oneRequest { IpcMessage.zero with type := ipcMsgGetTime }))
      (some .idle) .zero) :=
  (startRuntimeDaemon_defined_iff .idle .zero rfl).mpr (.of_bounds rfl (by decide) rfl (by decide) _)

/-- A region with the magic number whose one request lies in slot 256. -/
def damaged : SharedMemoryHeader :=
  let shm := (initializeIpcQueues .zero).2
  { shm with kernelToDaemon := { shm.kernelToDaemon with consumerIndex := 256, count := 1 } }

/-- The region passes the check and the first receive reads past the array. -/
theorem magic_not_enough :
    ¬ ∀ (fw : RuntimeServices) (stack : Stack) (shm : SharedMemoryHeader),
      shm.magic = sharedMemMagic → Defined (startRuntimeDaemon (some shm) (some fw) stack) := by
  intro h
  have hd := h .idle .zero damaged rfl
  rw [startRuntimeDaemon_eq _ _ rfl, daemonMessageLoop_defined_iff] at hd
  exact absurd (hd.1 0 (by decide)).2 (by decide)

end Dos25
