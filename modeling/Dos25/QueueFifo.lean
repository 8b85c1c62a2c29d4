/-
# The ring queue refines a bounded FIFO

Calls of `ipc_send_message` and `ipc_receive_message`, each run to its end, on
a queue `initialize_ipc_queues` set up. The abstract queue is `Fifo` with
`IPC_QUEUE_SIZE` places; its answers are read as the status a call returns
and the message buffer it leaves (`QueueCall.reading`). One call commutes with
the abstraction `IpcQueue.contents` (`exec_spec`), so a run of any length does
(`runCalls_spec`), and it never faults.

Key theorem: `queue_refines_fifo`.
-/
import Dos25.Runtime
import Dos25.Lib.Fifo

namespace Dos25

/-- A call on one queue. A receive is given its caller's buffer. -/
inductive QueueCall
  | send (msg : IpcMessage)
  | receive (msg : IpcMessage)

namespace QueueCall

/-- The message argument before the call. -/
def buffer : QueueCall → IpcMessage
  | send msg => msg
  | receive msg => msg

/-- The status returned, the message argument afterwards, the queue. -/
def exec (q : IpcQueue) : QueueCall → Except Fault ((BootStatus × IpcMessage) × IpcQueue)
  | send msg => do
    let (status, q) ← ipcSendMessage q msg
    .ok ((status, msg), q)
  | receive msg => do
    let (status, msg, q) ← ipcReceiveMessage q msg
    .ok ((status, msg), q)

/-- The call as the FIFO sees it. -/
def toFifo : QueueCall → Fifo.Call IpcMessage
  | send msg => .push msg
  | receive _ => .pop

/-- What the FIFO's answer means for the caller. -/
def reading (c : QueueCall) : Fifo.Answer IpcMessage → BootStatus × IpcMessage
  | .accepted => (.success, c.buffer)
  | .refused => (.errorIo, c.buffer)
  | .took m => (.success, m)
  | .empty => (.errorNotFound, c.buffer)

end QueueCall

/-- Calls in order: what each returned, and the queue after the last. -/
def runCalls (q : IpcQueue) :
    List QueueCall → Except Fault (List (BootStatus × IpcMessage) × IpcQueue)
  | [] => .ok ([], q)
  | c :: cs => do
    let (r, q) ← c.exec q
    let (rs, q) ← runCalls q cs
    .ok (r :: rs, q)

/-- One call is one step of the FIFO. -/
theorem exec_spec {q : IpcQueue} (h : q.WF) (c : QueueCall) :
    ∃ q', c.exec q = .ok (c.reading (Fifo.step ipcQueueSize q.contents c.toFifo).1, q') ∧ q'.WF ∧
      q'.contents = (Fifo.step ipcQueueSize q.contents c.toFifo).2 := by
  cases c with
  | send msg =>
    simp only [QueueCall.exec, ipcSendMessage_spec h, QueueCall.toFifo, Fifo.step]
    by_cases hl : q.contents.length < ipcQueueSize
    · have hc : q.count.toNat < ipcQueueSize := by simpa using hl
      simp only [if_pos hl]
      exact ⟨q.pushed msg, rfl, h.pushed hc msg, h.pushed_contents hc msg⟩
    · simp only [if_neg hl]
      exact ⟨q, rfl, h, rfl⟩
  | receive msg =>
    simp only [QueueCall.exec, ipcReceiveMessage_spec h, QueueCall.toFifo, Fifo.step]
    by_cases he : q.count.toNat = 0
    · have hn : q.contents = [] := List.eq_nil_of_length_eq_zero (by simpa using he)
      simp only [hn]
      exact ⟨q, rfl, h, hn⟩
    · simp only [h.contents_cons he]
      exact ⟨q.popped, rfl, h.popped he, rfl⟩

/-- A run of calls is a run of the FIFO. -/
theorem runCalls_spec : ∀ (cs : List QueueCall) {q : IpcQueue}, q.WF →
    ∃ q', runCalls q cs = .ok (List.zipWith QueueCall.reading cs
        (Fifo.run ipcQueueSize q.contents (cs.map QueueCall.toFifo)).1, q') ∧ q'.WF ∧
      q'.contents = (Fifo.run ipcQueueSize q.contents (cs.map QueueCall.toFifo)).2
  | [], q, h => ⟨q, rfl, h, rfl⟩
  | c :: cs, q, h => by
    obtain ⟨q1, he, h1, hc⟩ := exec_spec h c
    obtain ⟨q2, hr, h2, hc2⟩ := runCalls_spec cs h1
    refine ⟨q2, ?_, h2, ?_⟩
    · simp only [runCalls, he, bind, Except.bind, hr, List.map_cons, Fifo.run,
        List.zipWith_cons_cons, hc]
    · simp only [hc2, hc, List.map_cons, Fifo.run]

/-- What a queue that holds `held` does next. -/
structure Holds (q : IpcQueue) (held : List IpcMessage) : Prop where
  contents : q.contents = held
  count : q.count.toNat = held.length
  bound : held.length ≤ ipcQueueSize
  /-- A send with room appends exactly its message, in a slot no unread
  message occupies. -/
  sendRoom : ∀ msg, held.length < ipcQueueSize →
    (∃ q', ipcSendMessage q msg = .ok (.success, q') ∧ q'.contents = held ++ [msg] ∧
      q'.count.toNat = held.length + 1) ∧
    ∀ i < held.length, q.producerIndex.toNat ≠ (q.consumerIndex.toNat + i) % ipcQueueSize
  /-- A send on a full queue changes nothing. -/
  sendFull : ∀ msg, held.length = ipcQueueSize → ipcSendMessage q msg = .ok (.errorIo, q)
  /-- A receive takes the oldest message and only it. -/
  receiveSome : ∀ buf oldest rest, held = oldest :: rest →
    ∃ q', ipcReceiveMessage q buf = .ok (.success, oldest, q') ∧ q'.contents = rest ∧
      q'.count.toNat + 1 = held.length
  /-- A receive on an empty queue changes neither queue nor buffer. -/
  receiveNone : ∀ buf, held = [] → ipcReceiveMessage q buf = .ok (.errorNotFound, buf, q)

theorem IpcQueue.WF.holds {q : IpcQueue} (h : q.WF) : Holds q q.contents where
  contents := rfl
  count := q.contents_length.symm
  bound := h.contents_length_le
  sendRoom msg hl := by
    have hc : q.count.toNat < ipcQueueSize := by simpa using hl
    refine ⟨⟨q.pushed msg, ?_, h.pushed_contents hc msg, ?_⟩, fun i hi => ?_⟩
    · rw [ipcSendMessage_spec h, if_pos hl]
    · rw [IpcQueue.contents_length]
      exact succ_toNat hc
    · rw [IpcQueue.contents_length] at hi
      have := Ring.ofNat_ne (n := ipcQueueSize) (c := q.consumerIndex.toNat) hi hc
      rw [h.producer]
      exact fun he => this (Fin.ext he.symm)
  sendFull msg hl := by
    rw [ipcSendMessage_spec h, if_neg (by omega)]
  receiveSome buf oldest rest hh := by
    have he : q.count.toNat ≠ 0 := by
      rw [← q.contents_length, hh]; simp
    have hcons := h.contents_cons he
    rw [hh, List.cons.injEq] at hcons
    refine ⟨q.popped, ?_, hcons.2.symm, ?_⟩
    · rw [ipcReceiveMessage_spec h, hh]
    · rw [hh, hcons.2, List.length_cons, IpcQueue.contents_length]
  receiveNone buf hh := by
    rw [ipcReceiveMessage_spec h, hh]

/-- **The ring queue refines a bounded FIFO.** From either initialised queue,
any run of calls returns what a FIFO of 256 places returns, ends in a queue
that holds what the FIFO holds, and has handed out, in order, the messages
accepted less those still held. -/
theorem queue_refines_fifo (header : SharedMemoryHeader) (d : Direction) (calls : List QueueCall) :
    ∃ q answers held, Fifo.run ipcQueueSize [] (calls.map QueueCall.toFifo) = (answers, held) ∧
      runCalls ((initializeIpcQueues header).2.queue d) calls =
        .ok (List.zipWith QueueCall.reading calls answers, q) ∧
      Fifo.accepted (calls.map QueueCall.toFifo) answers = Fifo.taken answers ++ held ∧
      Holds q held := by
  obtain ⟨q, hr, h, hc⟩ := runCalls_spec calls (initializeIpcQueues_wf header d)
  rw [initializeIpcQueues_contents] at hr hc
  refine ⟨q, _, _, rfl, hr, ?_, hc ▸ h.holds⟩
  simpa using Fifo.run_conserves ipcQueueSize (calls.map QueueCall.toFifo) []

end Dos25
