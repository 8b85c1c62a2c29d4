/-
# The bytes of the shared region that the operations touch

`setup_shared_memory` allocates `SHARED_MEM_SIZE` bytes and places a
`shared_memory_header` there. A `Region` records every span of bytes, relative
to `shared_buffer`, that a run of the runtime's operations reads or writes.
The header is 16480 bytes longer than the region, so its last four slots and
its five trailing fields lie outside (`HeaderField.inside_iff`), and
`initialize_ipc_queues` already writes three of these: once a region is set up
no run stays inside it, while every run stays inside the header
(`run_inside_iff`).

Key definitions: `HeaderField.span`, `Region`, `RegionOp.exec`, `Region.run`.
-/
import Dos25.DaemonLoop
import Dos25.Lib.Span
import Dos25.Lib.System

namespace Dos25

open Layout

/-! ### Where the fields lie -/

/-- The bytes of a field of the queue at byte `base`. -/
def QueueField.span (base : ℕ) : QueueField → Span
  | producerIndex => ⟨base + offset ipcQueueFields 0, u32.size⟩
  | consumerIndex => ⟨base + offset ipcQueueFields 1, u32.size⟩
  | count => ⟨base + offset ipcQueueFields 2, u32.size⟩
  | capacity => ⟨base + offset ipcQueueFields 3, u32.size⟩
  | message i => ⟨base + offset ipcQueueFields 4 + i.toNat * ipcMessageTy.size, ipcMessageTy.size⟩

/-- The bytes of a field of the header, relative to `shared_buffer`. -/
def HeaderField.span : HeaderField → Span
  | magic => ⟨offset sharedMemoryHeaderFields 0, u64.size⟩
  | version => ⟨offset sharedMemoryHeaderFields 1, u32.size⟩
  | size => ⟨offset sharedMemoryHeaderFields 2, u32.size⟩
  | sequence => ⟨offset sharedMemoryHeaderFields 3, u32.size⟩
  | status => ⟨offset sharedMemoryHeaderFields 4, u32.size⟩
  | kernelToDaemon f => f.span (offset sharedMemoryHeaderFields 5)
  | daemonToKernel f => f.span (offset sharedMemoryHeaderFields 6)
  | rtServices => ⟨offset sharedMemoryHeaderFields 7, u64.size⟩
  | rtServicesPhys => ⟨offset sharedMemoryHeaderFields 8, u64.size⟩
  | messagesSent => ⟨offset sharedMemoryHeaderFields 9, u64.size⟩
  | messagesReceived => ⟨offset sharedMemoryHeaderFields 10, u64.size⟩
  | errors => ⟨offset sharedMemoryHeaderFields 11, u64.size⟩

theorem QueueField.size_pos (base : ℕ) (f : QueueField) : 0 < (f.span base).size := by
  cases f with
  | message i => exact (by decide : 0 < ipcMessageTy.size)
  | _ => exact (by decide : 0 < u32.size)

theorem HeaderField.size_pos (f : HeaderField) : 0 < f.span.size := by
  cases f with
  | kernelToDaemon f => exact f.size_pos _
  | daemonToKernel f => exact f.size_pos _
  | _ => decide

/-- A queue field whose slot lies in the array lies in the queue. -/
theorem QueueField.end_le (base : ℕ) {f : QueueField} (h : f.SlotLt) :
    (f.span base).start + (f.span base).size ≤ base + ipcQueueTy.size := by
  have hfield : ∀ {i : ℕ} {t : Ty}, ipcQueueFields[i]? = some t →
      base + offset ipcQueueFields i + t.size ≤ base + ipcQueueTy.size := by
    intro i t ht
    have hle := offset_add_size_le ht (by decide : ∀ t ∈ ipcQueueFields, 0 < t.align)
    rw [Nat.add_assoc]
    exact Nat.add_le_add_left hle base
  cases f with
  | producerIndex => exact hfield (i := 0) rfl
  | consumerIndex => exact hfield (i := 1) rfl
  | count => exact hfield (i := 2) rfl
  | capacity => exact hfield (i := 3) rfl
  | message i =>
    have harray : base + offset ipcQueueFields 4 + (ipcMessageTy.array ipcQueueSize).size ≤
        base + ipcQueueTy.size := hfield rfl
    have helem : i.toNat * ipcMessageTy.size + ipcMessageTy.size ≤
        (ipcMessageTy.array ipcQueueSize).size := ipcMessageTy.elem_le h
    simp only [span]
    omega

/-- A field whose slot lies in its array lies in the header. -/
theorem HeaderField.inside_header {f : HeaderField} (h : f.SlotLt) :
    f.span.Inside sharedMemoryHeaderTy.size := by
  have hfield : ∀ {i : ℕ} {t : Ty}, sharedMemoryHeaderFields[i]? = some t →
      offset sharedMemoryHeaderFields i + t.size ≤ sharedMemoryHeaderTy.size := fun ht =>
    offset_add_size_le ht (by decide : ∀ t ∈ sharedMemoryHeaderFields, 0 < t.align)
  apply Span.inside_of_le
  cases f with
  | kernelToDaemon f => exact (QueueField.end_le _ h).trans (hfield rfl)
  | daemonToKernel f => exact (QueueField.end_le _ h).trans (hfield rfl)
  | magic => exact hfield (i := 0) rfl
  | version => exact hfield (i := 1) rfl
  | size => exact hfield (i := 2) rfl
  | sequence => exact hfield (i := 3) rfl
  | status => exact hfield (i := 4) rfl
  | rtServices => exact hfield (i := 7) rfl
  | rtServicesPhys => exact hfield (i := 8) rfl
  | messagesSent => exact hfield (i := 9) rfl
  | messagesReceived => exact hfield (i := 10) rfl
  | errors => exact hfield (i := 11) rfl

/-- The fields that lie in the region: all up to slot 251 of
`daemon_to_kernel`. -/
def HeaderField.Fits : HeaderField → Prop
  | daemonToKernel (.message i) => i.toNat < 252
  | rtServices => False
  | rtServicesPhys => False
  | messagesSent => False
  | messagesReceived => False
  | errors => False
  | _ => True

/-- **What fits in the region**: not the last four slots of `daemon_to_kernel`
and nothing behind them. -/
theorem HeaderField.inside_iff {f : HeaderField} (h : f.SlotLt) :
    f.span.Inside sharedMemSize ↔ f.Fits := by
  rw [Span.inside_iff _ f.size_pos]
  cases f with
  | kernelToDaemon f =>
    refine iff_of_true ((QueueField.end_le _ h).trans (by decide)) ?_
    trivial
  | daemonToKernel f =>
    cases f with
    | message i =>
      have hbase : offset sharedMemoryHeaderFields 6 + offset ipcQueueFields 4 = 1056824 := by decide
      have hsize : sharedMemSize = 2097152 := by decide
      show offset sharedMemoryHeaderFields 6 + offset ipcQueueFields 4 +
        i.toNat * ipcMessageTy.size + ipcMessageTy.size ≤ sharedMemSize ↔ i.toNat < 252
      rw [hbase, ipcMessageTy_size, hsize]
      omega
    | _ => exact iff_of_true (by decide) trivial
  | magic | version | size | sequence | status => exact iff_of_true (by decide) trivial
  | rtServices | rtServicesPhys | messagesSent | messagesReceived | errors =>
    exact iff_of_false (by decide) id

/-! ### Runs -/

/-- The boot parameters, the memory behind `shared_buffer`, and the bytes of
it touched so far. -/
structure Region where
  params : BootParams
  memory : SharedMemoryHeader
  touched : List Span

inductive RegionOp
  | initializeQueues
  | preserve (runtimeServices : UInt64)
  | send (d : Direction) (msg : IpcMessage)
  | receive (d : Direction) (buffer : IpcMessage)
  | daemon (fw : RuntimeServices) (stack : Stack)

/-- The bytes of a list of accesses. -/
def spans (accesses : List (Access HeaderField)) : List Span := accesses.map (·.field.span)

/-- The bytes `initialize_ipc_queues` touches: those of `SetMem`, and the
fields it sets. -/
def initializeSpans : List Span := ⟨0, sharedMemSize⟩ :: spans initializeIpcQueuesAccesses

def RegionOp.exec (r : Region) : RegionOp → Except Fault Region
  | initializeQueues => .ok { r with
      memory := (initializeIpcQueues r.memory).2
      touched := r.touched ++ initializeSpans }
  | preserve runtimeServices =>
    let (_, params, memory) := preserveRuntimeServices runtimeServices r.params r.memory
    .ok ⟨params, memory, r.touched ++ spans (preserveRuntimeServicesAccesses r.params)⟩
  | send d msg => do
    let (_, queue) ← ipcSendMessage (r.memory.queue d) msg
    .ok { r with
      memory := r.memory.setQueue d queue
      touched := r.touched ++
        spans ((ipcSendMessageAccesses (r.memory.queue d)).map (.map (.ofQueue d))) }
  | receive d buffer => do
    let (_, _, queue) ← ipcReceiveMessage (r.memory.queue d) buffer
    .ok { r with
      memory := r.memory.setQueue d queue
      touched := r.touched ++
        spans ((ipcReceiveMessageAccesses (r.memory.queue d)).map (.map (.ofQueue d))) }
  | daemon fw stack => do
    match ← daemonMessageLoop (some r.memory) (some fw) stack with
    | (_, some d) => .ok { r with memory := d.shm, touched := r.touched ++ spans d.accesses }
    | (_, none) => .ok r

/-- `setup_shared_memory`, which touches the region once it is allocated. -/
def Region.setup (alloc : PageAllocation) (params : BootParams) (memory : SharedMemoryHeader) :
    BootStatus × Region :=
  let (status, params, memory) := setupSharedMemory alloc params memory
  (status, ⟨params, memory, if efiError alloc.status then [] else initializeSpans⟩)

/-- The setup and, if it succeeds, the operations `ops`. -/
def Region.run (alloc : PageAllocation) (params : BootParams) (memory : SharedMemoryHeader)
    (ops : List RegionOp) : Except Fault Region :=
  let (status, r) := Region.setup alloc params memory
  if status = .success then ops.foldlM RegionOp.exec r else .ok r

/-- The invariant of a region that was set up. -/
structure Region.Kept (r : Region) : Prop where
  wf : r.memory.WF
  inside : ∀ s ∈ r.touched, s.Inside sharedMemoryHeaderTy.size
  counter : HeaderField.messagesSent.span ∈ r.touched

theorem spans_inside {accesses : List (Access HeaderField)} (h : ∀ a ∈ accesses, a.field.SlotLt) :
    ∀ s ∈ spans accesses, s.Inside sharedMemoryHeaderTy.size := by
  intro s hs
  obtain ⟨a, ha, rfl⟩ := List.mem_map.mp hs
  exact HeaderField.inside_header (h a ha)

theorem initializeSpans_inside : ∀ s ∈ initializeSpans, s.Inside sharedMemoryHeaderTy.size := by
  intro s hs
  rcases List.mem_cons.mp hs with rfl | hs
  · exact Span.inside_of_le _ (by decide)
  · refine spans_inside ?_ s hs
    simp [initializeIpcQueuesAccesses, Access.field, HeaderField.SlotLt, QueueField.SlotLt]

theorem initializeSpans_counter : HeaderField.messagesSent.span ∈ initializeSpans := by
  have h : Access.write HeaderField.messagesSent ∈ initializeIpcQueuesAccesses := by decide
  exact List.mem_cons_of_mem _ (List.mem_map_of_mem h)

/-- An operation on a region touches more of it. -/
theorem Region.Kept.touch {r : Region} (h : r.Kept) {params : BootParams}
    {memory : SharedMemoryHeader} {new : List Span} (hm : memory.WF)
    (hn : ∀ s ∈ new, s.Inside sharedMemoryHeaderTy.size) :
    Kept ⟨params, memory, r.touched ++ new⟩ where
  wf := hm
  inside := List.forall_mem_append.mpr ⟨h.inside, hn⟩
  counter := List.mem_append_left _ h.counter

theorem SharedMemoryHeader.WF.setQueue {h : SharedMemoryHeader} (hw : h.WF) {q : IpcQueue} :
    ∀ d : Direction, q.WF → (h.setQueue d q).WF
  | .kernelToDaemon, hq => .of hq (hw .daemonToKernel)
  | .daemonToKernel, hq => .of (hw .kernelToDaemon) hq

theorem preserveRuntimeServices_wf (runtimeServices : UInt64) (params : BootParams)
    {memory : SharedMemoryHeader} (h : memory.WF) :
    (preserveRuntimeServices runtimeServices params memory).2.2.WF := by
  unfold preserveRuntimeServices
  dsimp only
  split_ifs
  · exact .of (h .kernelToDaemon) (h .daemonToKernel)
  · exact h

/-- What the bytes of a send or a receive on a well-formed queue need. -/
theorem queueSpans_inside (d : Direction) {accesses : List (Access QueueField)}
    (h : ∀ a ∈ accesses, a.field.SlotLt) :
    ∀ s ∈ spans (accesses.map (.map (.ofQueue d))), s.Inside sharedMemoryHeaderTy.size :=
  spans_inside (ofQueue_slotLt d h)

/-- **Every operation can be carried out and stays inside the header.** -/
theorem Region.Kept.exec {r : Region} (h : r.Kept) : ∀ op : RegionOp,
    ∃ r', op.exec r = .ok r' ∧ r'.Kept
  | .initializeQueues => ⟨_, rfl, h.touch (initializeIpcQueues_wf _) initializeSpans_inside⟩
  | .preserve runtimeServices => by
    refine ⟨_, rfl, h.touch (preserveRuntimeServices_wf runtimeServices _ h.wf) (spans_inside ?_)⟩
    unfold preserveRuntimeServicesAccesses
    split_ifs <;> simp [Access.field, HeaderField.SlotLt]
  | .send d msg => by
    have hq := h.wf d
    have htouch := queueSpans_inside d fun a ha => hq.send_slotLt ha
    rw [RegionOp.exec, ipcSendMessage_spec hq]
    by_cases hl : (r.memory.queue d).contents.length < ipcQueueSize
    · rw [if_pos hl]
      exact ⟨_, rfl, h.touch (h.wf.setQueue d (hq.pushed (by simpa using hl) msg)) htouch⟩
    · rw [if_neg hl]
      exact ⟨_, rfl, h.touch (h.wf.setQueue d hq) htouch⟩
  | .receive d buffer => by
    have hq := h.wf d
    have htouch := queueSpans_inside d fun a ha => hq.receive_slotLt ha
    rw [RegionOp.exec, ipcReceiveMessage_spec hq]
    by_cases he : (r.memory.queue d).count.toNat = 0
    · rw [List.eq_nil_of_length_eq_zero ((IpcQueue.contents_length _).trans he)]
      exact ⟨_, rfl, h.touch (h.wf.setQueue d hq) htouch⟩
    · rw [hq.contents_cons he]
      exact ⟨_, rfl, h.touch (h.wf.setQueue d (hq.popped he)) htouch⟩
  | .daemon fw stack => by
    obtain ⟨d, responses, he, hran⟩ := daemonMessageLoop_spec fw stack h.wf
    rw [RegionOp.exec, he]
    refine ⟨_, rfl, h.touch hran.wf (spans_inside fun a ha => ?_)⟩
    exact (hran.touched a ha).resolve_left List.not_mem_nil

/-- A run whose allocation succeeds. -/
theorem Region.run_kept {alloc : PageAllocation} (ha : ¬ efiError alloc.status = true)
    (params : BootParams) (memory : SharedMemoryHeader) (ops : List RegionOp) :
    ∃ r, Region.run alloc params memory ops = .ok r ∧ r.Kept := by
  have hstart : Kept ⟨{ params with
      sharedBuffer := alloc.address
      sharedBufferSize := UInt64.ofNat sharedMemSize
      sharedHeader := alloc.address }, (initializeIpcQueues memory).2, initializeSpans⟩ :=
    ⟨initializeIpcQueues_wf memory, initializeSpans_inside, initializeSpans_counter⟩
  simp only [Region.run, Region.setup, setupSharedMemory, if_neg ha]
  exact System.foldlM_invariant (fun _ h op => h.exec op) ops hstart

/-- A run that keeps its counters behind the region does not stay inside it. -/
theorem Region.Kept.escapes {r : Region} (h : r.Kept) :
    ¬ ∀ s ∈ r.touched, s.Inside sharedMemSize :=
  fun hs => (HeaderField.inside_iff (f := .messagesSent) trivial).mp (hs _ h.counter)

/-- **Which runs stay inside the region.** Every run of the setup and then any
operations can be carried out, its slots lie in their arrays and its bytes in
the header; and they all lie in the `SHARED_MEM_SIZE` bytes allocated if and
only if the allocation failed, so that there is no region to touch. -/
theorem run_inside_iff (alloc : PageAllocation) (params : BootParams) (memory : SharedMemoryHeader)
    (ops : List RegionOp) : ∃ r, Region.run alloc params memory ops = .ok r ∧
      (∀ s ∈ r.touched, s.Inside sharedMemoryHeaderTy.size) ∧
      ((∀ s ∈ r.touched, s.Inside sharedMemSize) ↔ efiError alloc.status = true) := by
  by_cases ha : efiError alloc.status = true
  · refine ⟨⟨params, memory, []⟩, ?_, ?_, iff_of_true ?_ ha⟩
    · simp [Region.run, Region.setup, setupSharedMemory, ha]
    · exact fun _ hs => absurd hs List.not_mem_nil
    · exact fun _ hs => absurd hs List.not_mem_nil
  · obtain ⟨r, hr, hk⟩ := Region.run_kept ha params memory ops
    exact ⟨r, hr, hk.inside, iff_of_false hk.escapes ha⟩

/-- A send, a daemon run and a receive, in a region set up at 1 MiB. -/
theorem getTime_run_escapes :
    ¬ ∀ r, Region.run ⟨0, 0x100000⟩ .zero .zero
        [.preserve 0x1000, .send .kernelToDaemon { IpcMessage.zero with type := ipcMsgGetTime },
          .daemon .idle .zero, .receive .daemonToKernel .zero] = .ok r →
      ∀ s ∈ r.touched, s.Inside sharedMemSize := by
  intro h
  have ha : ¬ efiError (⟨0, 0x100000⟩ : PageAllocation).status = true := by decide
  obtain ⟨r, hr, hk⟩ := Region.run_kept ha .zero .zero _
  exact hk.escapes (h r hr)

end Dos25
