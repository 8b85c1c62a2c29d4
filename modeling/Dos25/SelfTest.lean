/-
# `ipc_test.c`: the self test before the handoff

`run_ipc_tests` works on the live queues: it sends a `GET_TIME` and a
`RESET_SYSTEM` message to the daemon, and its receive from what it takes to be
an empty queue takes the oldest response there is. Nothing is put back, and
`jump_to_kernel` starts the daemon on what is left. So the queues keep their
contents exactly when the test gives up before its first send
(`runIpcTests_frame_iff`); on a freshly initialised region the daemon calls
`ResetSystem` for a message nobody but the test sent
(`self_test_resets`).

Key definitions: `runIpcTests`, `jumpToKernel`.
-/
import Dos25.Turns

namespace Dos25

open Bytes

/-! ### The code -/

/-- `DOS25_RESET_SHUTDOWN`. -/
def dos25ResetShutdown : UInt32 := 2

/-- The first message of the test, and the one `jump_to_kernel` sends. -/
def getTimeMessage : IpcMessage :=
  { IpcMessage.zero with type := ipcMsgGetTime, source := 0, target := 1, size := 0, sequence := 1 }

/-- The second message of the test. -/
def resetSystemMessage : IpcMessage :=
  { IpcMessage.zero with
    type := ipcMsgResetSystem
    source := 0
    target := 1
    size := 4
    sequence := 2
    data := write IpcMessage.zero.data 0 (encode 4 dos25ResetShutdown.toNat) }

/-- `response` is what the local of that name holds. -/
def testIpcCommunication (sharedMem : SharedMemoryHeader) (response : IpcMessage) :
    Except Fault (BootStatus × SharedMemoryHeader) := do
  let (status, queue) ← ipcSendMessage sharedMem.kernelToDaemon getTimeMessage
  let sharedMem := { sharedMem with kernelToDaemon := queue }
  if status ≠ .success then .ok (status, sharedMem)
  else do
    let (status, queue) ← ipcSendMessage sharedMem.kernelToDaemon resetSystemMessage
    let sharedMem := { sharedMem with kernelToDaemon := queue }
    if status ≠ .success then .ok (status, sharedMem)
    else do
      -- the test prints what it receives and reports success in any case
      let (_, _, queue) ← ipcReceiveMessage sharedMem.daemonToKernel response
      .ok (.success, { sharedMem with daemonToKernel := queue })

def testSharedMemory (sharedMem : SharedMemoryHeader) : BootStatus :=
  if sharedMem.magic ≠ sharedMemMagic then .error
  else if sharedMem.version ≠ dos25RuntimeVersion then .error
  else if sharedMem.size ≠ UInt32.ofNat sharedMemSize then .error
  else if sharedMem.kernelToDaemon.capacity ≠ UInt32.ofNat ipcQueueSize ∨
      sharedMem.daemonToKernel.capacity ≠ UInt32.ofNat ipcQueueSize then .error
  else .success

/-- `sharedHeader` is what `params->shared_header` points to; `none` is NULL. -/
def runIpcTests (sharedHeader : Option SharedMemoryHeader) (response : IpcMessage) :
    Except Fault (BootStatus × Option SharedMemoryHeader) :=
  match sharedHeader with
  | none => .ok (.error, none)
  | some sharedMem =>
    if testSharedMemory sharedMem ≠ .success then .ok (testSharedMemory sharedMem, some sharedMem)
    else do
      let (status, sharedMem) ← testIpcCommunication sharedMem response
      .ok (status, some sharedMem)

/-- A test message is sent, with or without success, and the daemon started.
`sharedMem` is what `params->shared_header` points to; here it is not NULL. -/
def jumpToKernel (sharedMem : SharedMemoryHeader) (rtServices : Option RuntimeServices)
    (stack : Stack) : Except Fault (BootStatus × Option Daemon) := do
  let (_, queue) ← ipcSendMessage sharedMem.kernelToDaemon getTimeMessage
  let (_, daemon) ← startRuntimeDaemon (some { sharedMem with kernelToDaemon := queue }) rtServices
    stack
  .ok (.success, daemon)

/-! ### What the test does to the queues -/

section

variable {shm : SharedMemoryHeader} (response : IpcMessage)

/-- No room: the first send fails. -/
theorem testIpcCommunication_full (h : shm.WF)
    (hl : shm.kernelToDaemon.contents.length = ipcQueueSize) :
    testIpcCommunication shm response = .ok (.errorIo, shm) := by
  have hk : shm.kernelToDaemon.WF := h .kernelToDaemon
  rw [testIpcCommunication, ipcSendMessage_spec hk, if_neg (by omega)]
  rfl

/-- Room for one: the `GET_TIME` message stays behind. -/
theorem testIpcCommunication_one (h : shm.WF)
    (hl : shm.kernelToDaemon.contents.length + 1 = ipcQueueSize) :
    testIpcCommunication shm response =
      .ok (.errorIo, { shm with kernelToDaemon := shm.kernelToDaemon.pushed getTimeMessage }) := by
  have hk : shm.kernelToDaemon.WF := h .kernelToDaemon
  have hc : shm.kernelToDaemon.count.toNat < ipcQueueSize := by
    rw [← IpcQueue.contents_length]
    omega
  have hlength := hk.pushed_length hc getTimeMessage
  rw [testIpcCommunication, ipcSendMessage_spec hk, if_pos (by omega)]
  show (ipcSendMessage (shm.kernelToDaemon.pushed getTimeMessage) resetSystemMessage >>= _) = _
  rw [ipcSendMessage_spec (hk.pushed hc _), if_neg (by omega)]
  rfl

/-- Room for both: both messages stay behind, and a response is gone. -/
theorem testIpcCommunication_two (h : shm.WF)
    (hl : shm.kernelToDaemon.contents.length + 2 ≤ ipcQueueSize) :
    ∃ queue : IpcQueue, queue.WF ∧ queue.contents = shm.daemonToKernel.contents.tail ∧
      testIpcCommunication shm response = .ok (.success, { shm with
        kernelToDaemon := (shm.kernelToDaemon.pushed getTimeMessage).pushed resetSystemMessage
        daemonToKernel := queue }) := by
  have hk : shm.kernelToDaemon.WF := h .kernelToDaemon
  have hd : shm.daemonToKernel.WF := h .daemonToKernel
  have hc : shm.kernelToDaemon.count.toNat < ipcQueueSize := by
    rw [← IpcQueue.contents_length]
    omega
  have hlength := hk.pushed_length hc getTimeMessage
  have hsent : testIpcCommunication shm response =
      ipcReceiveMessage shm.daemonToKernel response >>= fun received => .ok (.success, { shm with
        kernelToDaemon := (shm.kernelToDaemon.pushed getTimeMessage).pushed resetSystemMessage
        daemonToKernel := received.2.2 }) := by
    rw [testIpcCommunication, ipcSendMessage_spec hk, if_pos (by omega)]
    show (ipcSendMessage (shm.kernelToDaemon.pushed getTimeMessage) resetSystemMessage >>= _) = _
    rw [ipcSendMessage_spec (hk.pushed hc _), if_pos (by omega)]
    rfl
  rw [hsent, ipcReceiveMessage_spec hd]
  cases hq : shm.daemonToKernel.contents with
  | nil => exact ⟨_, hd, hq, rfl⟩
  | cons m rest =>
    have hne : shm.daemonToKernel.count.toNat ≠ 0 := by
      rw [← IpcQueue.contents_length, hq]
      simp
    have hcons := hd.contents_cons hne
    rw [hq, List.cons.injEq] at hcons
    exact ⟨_, hd.popped hne, hcons.2.symm, rfl⟩

/-- **What the self test leaves behind** on a header it accepts: as many of its
two messages as there is room for and, if both were sent, one response less. -/
theorem runIpcTests_spec (h : shm.WF) (ht : testSharedMemory shm = .success) :
    ∃ status shm', runIpcTests (some shm) response = .ok (status, some shm') ∧
      shm'.WF ∧ shm'.magic = shm.magic ∧
      shm'.kernelToDaemon.contents = shm.kernelToDaemon.contents ++
        [getTimeMessage, resetSystemMessage].take
          (ipcQueueSize - shm.kernelToDaemon.contents.length) ∧
      shm'.daemonToKernel.contents =
        if shm.kernelToDaemon.contents.length + 2 ≤ ipcQueueSize then
          shm.daemonToKernel.contents.tail
        else shm.daemonToKernel.contents := by
  have hk : shm.kernelToDaemon.WF := h .kernelToDaemon
  have hd : shm.daemonToKernel.WF := h .daemonToKernel
  have hle : shm.kernelToDaemon.contents.length ≤ ipcQueueSize := hk.contents_length_le
  have hrun : ∀ {status shm'}, testIpcCommunication shm response = .ok (status, shm') →
      runIpcTests (some shm) response = .ok (status, some shm') := by
    intro status shm' he
    rw [runIpcTests, if_neg (by simp [ht]), he]
    rfl
  rcases Nat.lt_or_ge (shm.kernelToDaemon.contents.length + 1) ipcQueueSize with hlt | hge
  · have hc : shm.kernelToDaemon.count.toNat < ipcQueueSize := by
      rw [← IpcQueue.contents_length]
      omega
    have hc' : (shm.kernelToDaemon.pushed getTimeMessage).count.toNat < ipcQueueSize := by
      rwa [← IpcQueue.contents_length, hk.pushed_length hc]
    obtain ⟨queue, hq, htail, he⟩ := testIpcCommunication_two response h hlt
    refine ⟨_, _, hrun he, .of ((hk.pushed hc _).pushed hc' _) hq, rfl, ?_, ?_⟩
    · rw [List.take_of_length_le (by simp only [List.length_cons, List.length_nil]; omega)]
      show ((shm.kernelToDaemon.pushed getTimeMessage).pushed resetSystemMessage).contents = _
      rw [(hk.pushed hc _).pushed_contents hc', hk.pushed_contents hc, List.append_assoc]
      rfl
    · rw [if_pos (Nat.succ_le_of_lt hlt)]
      exact htail
  · rcases Nat.eq_or_lt_of_le hle with hfull | hone
    · refine ⟨_, _, hrun (testIpcCommunication_full response h hfull), h, rfl, ?_, ?_⟩
      · rw [hfull, Nat.sub_self, List.take_zero, List.append_nil]
      · rw [if_neg (by omega)]
    · have hc : shm.kernelToDaemon.count.toNat < ipcQueueSize := by
        rwa [← IpcQueue.contents_length]
      have hroom : ipcQueueSize - shm.kernelToDaemon.contents.length = 1 := by omega
      refine ⟨_, _, hrun (testIpcCommunication_one response h (by omega)),
        .of (hk.pushed hc _) hd, rfl, ?_, ?_⟩
      · rw [hroom]
        exact hk.pushed_contents hc _
      · rw [if_neg (by omega)]

end

/-- **When the self test leaves no trace.** On well-formed queues the contents
of both are as before, and the daemon `jump_to_kernel` starts runs as it would
have without the test, if and only if the test rejects the header or finds no
room for its first message. -/
theorem runIpcTests_frame_iff {shm : SharedMemoryHeader} (h : shm.WF) (response : IpcMessage) :
    ∃ status shm', runIpcTests (some shm) response = .ok (status, some shm') ∧
      (((∀ q, (shm'.queue q).contents = (shm.queue q).contents) ∧
          ∀ fw stack, jumpToKernel shm' fw stack = jumpToKernel shm fw stack) ↔
        testSharedMemory shm ≠ .success ∨
          shm.kernelToDaemon.contents.length = ipcQueueSize) := by
  by_cases ht : testSharedMemory shm = .success
  · rcases eq_or_ne shm.kernelToDaemon.contents.length ipcQueueSize with hfull | hroom
    · refine ⟨.errorIo, shm, ?_, fun _ => .inr hfull, fun _ => ⟨fun _ => rfl, fun _ _ => rfl⟩⟩
      rw [runIpcTests, if_neg (by simp [ht]), testIpcCommunication_full response h hfull]
      rfl
    · obtain ⟨status, shm', he, -, -, hrequests, -⟩ := runIpcTests_spec response h ht
      refine ⟨status, shm', he, ?_, ?_⟩
      · rintro ⟨hsame, -⟩
        have hcontents : shm'.kernelToDaemon.contents = shm.kernelToDaemon.contents :=
          hsame .kernelToDaemon
        have hle : shm.kernelToDaemon.contents.length ≤ ipcQueueSize :=
          (h .kernelToDaemon).contents_length_le
        have hlength := congrArg List.length (hrequests.symm.trans hcontents)
        rw [List.length_append, List.length_take, List.length_cons, List.length_singleton] at hlength
        omega
      · rintro (hreject | hfull)
        · exact absurd ht hreject
        · exact absurd hfull hroom
  · refine ⟨testSharedMemory shm, shm, ?_, fun _ => .inl ht, fun _ => ⟨fun _ => rfl, fun _ _ => rfl⟩⟩
    rw [runIpcTests, if_pos ht]

/-- A queue that is full. -/
theorem runIpcTests_frame_iff_full :
    ∃ status shm', runIpcTests (some (queued (List.replicate 256 getTimeMessage))) .zero =
        .ok (status, some shm') ∧
      shm'.kernelToDaemon.contents = List.replicate 256 getTimeMessage := by
  obtain ⟨hwf, hcontents⟩ := queued_spec (List.replicate 256 getTimeMessage)
    List.length_replicate.le
  obtain ⟨status, shm', he, hiff⟩ := runIpcTests_frame_iff hwf .zero
  refine ⟨status, shm', he, ?_⟩
  have hsame : shm'.kernelToDaemon.contents =
      (queued (List.replicate 256 getTimeMessage)).kernelToDaemon.contents :=
    (hiff.mpr (.inr (by rw [hcontents, List.length_replicate]))).1 .kernelToDaemon
  rw [hsame, hcontents]

/-- The message `jump_to_kernel` sends finds room. -/
theorem ipcSendMessage_handover {shm : SharedMemoryHeader} (h : shm.WF)
    (hl : shm.kernelToDaemon.contents.length < ipcQueueSize) :
    ipcSendMessage shm.kernelToDaemon getTimeMessage =
      .ok (.success, shm.kernelToDaemon.pushed getTimeMessage) := by
  have hk : shm.kernelToDaemon.WF := h .kernelToDaemon
  rw [ipcSendMessage_spec hk, if_pos hl]

/-- `jump_to_kernel` on a header the daemon accepts, with room for its message. -/
theorem jumpToKernel_eq (fw : RuntimeServices) (stack : Stack) {shm : SharedMemoryHeader}
    (h : shm.WF) (hm : shm.magic = sharedMemMagic)
    (hl : shm.kernelToDaemon.contents.length < ipcQueueSize) :
    jumpToKernel shm (some fw) stack = (daemonMessageLoop
      (some { shm with kernelToDaemon := shm.kernelToDaemon.pushed getTimeMessage })
      (some fw) stack).map fun p => (.success, p.2) := by
  rw [jumpToKernel, ipcSendMessage_handover h hl]
  show (startRuntimeDaemon (some { shm with
    kernelToDaemon := shm.kernelToDaemon.pushed getTimeMessage }) (some fw) stack >>= _) = _
  rw [startRuntimeDaemon, if_neg (not_not.mpr hm)]
  cases daemonMessageLoop _ (some fw) stack <;> rfl

theorem jumpToKernel_spec (fw : RuntimeServices) (stack : Stack) {shm : SharedMemoryHeader}
    (h : shm.WF) (hm : shm.magic = sharedMemMagic)
    (hl : shm.kernelToDaemon.contents.length < ipcQueueSize) :
    ∃ d, jumpToKernel shm (some fw) stack = .ok (.success, some d) ∧
      d.calls = (toServe maxMessages
        (shm.kernelToDaemon.contents ++ [getTimeMessage])).filterMap (·.firmwareCall) := by
  have hk : shm.kernelToDaemon.WF := h .kernelToDaemon
  have hc : shm.kernelToDaemon.count.toNat < ipcQueueSize := by rwa [← IpcQueue.contents_length]
  let sent : SharedMemoryHeader :=
    { shm with kernelToDaemon := shm.kernelToDaemon.pushed getTimeMessage }
  have hwf : sent.WF := .of (hk.pushed hc _) (h .daemonToKernel)
  obtain ⟨d, he, hran⟩ := daemonMessageLoop_turns fw stack hwf
  refine ⟨d, ?_, ?_⟩
  · rw [jumpToKernel_eq fw stack h hm hl, he]
    rfl
  · have hcontents : sent.kernelToDaemon.contents =
        shm.kernelToDaemon.contents ++ [getTimeMessage] := hk.pushed_contents hc _
    rw [← hcontents]
    exact hran.calls

/-- An initialised region with one response the kernel has not taken yet. -/
def onePending : SharedMemoryHeader :=
  let shm := (initializeIpcQueues .zero).2
  { shm with daemonToKernel := shm.daemonToKernel.pushed .zero }

/-- The pending response is gone, two requests nobody made are queued, and the
daemon resets the machine for one of them. -/
theorem self_test_resets :
    ∃ (shm' : SharedMemoryHeader) (d : Daemon), onePending.WF ∧
      onePending.kernelToDaemon.contents = [] ∧ onePending.daemonToKernel.contents ≠ [] ∧
      runIpcTests (some onePending) .zero = .ok (.success, some shm') ∧
      shm'.kernelToDaemon.contents = [getTimeMessage, resetSystemMessage] ∧
      shm'.daemonToKernel.contents = [] ∧
      jumpToKernel shm' (some .idle) .zero = .ok (.success, some d) ∧
      d.calls = [.getTime, .resetSystem dos25ResetShutdown, .getTime] := by
  have hwf : onePending.WF :=
    .of (IpcQueue.initialized_wf _) ((IpcQueue.initialized_wf _).pushed (by decide) .zero)
  have hk : onePending.kernelToDaemon.WF := hwf .kernelToDaemon
  have hpending : onePending.daemonToKernel.contents = [.zero] :=
    (IpcQueue.initialized_wf _).pushed_contents (by decide) _
  obtain ⟨queue, hqueue, htail, he⟩ := testIpcCommunication_two .zero hwf (by decide)
  have hrequests : ((onePending.kernelToDaemon.pushed getTimeMessage).pushed
      resetSystemMessage).contents = [getTimeMessage, resetSystemMessage] := by
    rw [(hk.pushed (by decide) _).pushed_contents (by decide), hk.pushed_contents (by decide)]
    rfl
  have hwf' := (hk.pushed (by decide) getTimeMessage).pushed (by decide) resetSystemMessage
  let tested : SharedMemoryHeader := { onePending with
    kernelToDaemon := (onePending.kernelToDaemon.pushed getTimeMessage).pushed resetSystemMessage
    daemonToKernel := queue }
  have htested : tested.WF := .of hwf' hqueue
  obtain ⟨d, hjump, hcalls⟩ := jumpToKernel_spec .idle .zero htested rfl <| by
    show tested.kernelToDaemon.contents.length < ipcQueueSize
    rw [hrequests]
    decide
  refine ⟨tested, d, hwf, rfl, by simp [hpending], ?_, hrequests, ?_, hjump, ?_⟩
  · rw [runIpcTests, if_neg (by decide), he]
    rfl
  · rw [hpending] at htail
    exact htail
  · rw [hcalls, hrequests]
    rfl

end Dos25
