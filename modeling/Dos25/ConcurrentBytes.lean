/-
# Kernel and daemon on one memory

The runs of `Concurrent`, with the header in memory: the kernel and the daemon
know its address, and whatever one of them does to it the other finds by
loading bytes. Every run does on the bytes what it does on the header they
show: it faults alike, the same messages come through, and no byte outside the
header changes (`shared_bytes_follow`). So what holds of every run of
`Concurrent` holds of two programs that share nothing but these bytes.

Key definitions: `DaemonAt`, `daemonStepAt`, `SharedRun`, `SharedOp.exec`,
`Concurrent.inMemory`.
-/
import Dos25.Concurrent
import Dos25.SharedBytes

namespace Dos25

open AddressSpace Layout

/-! ### The operations -/

/-- A run of `daemon_message_loop` and the memory it works on. -/
structure DaemonAt where
  memory : Mem
  running : Bool
  request : IpcMessage
  response : IpcMessage
  calls : List FirmwareCall

/-- The word at field `k` counts one more. -/
def incrementAt (m : Mem) (a k : ℕ) : Mem :=
  word64.store m (a + offset sharedMemoryHeaderFields k)
    (word64.load m (a + offset sharedMemoryHeaderFields k) + 1)

/-- The next step of the loop, on the header at `a`. `padding` is what the
response object holds between its fields. -/
def daemonStepAt (fw : RuntimeServices) (locals : ℕ → StackLocals) (a : ℕ)
    (padding : Fin 4 → UInt8) : Control → DaemonAt → Except Fault (Control × DaemonAt)
  | .looping 0, d => .ok (.finished, d)
  | .looping (left + 1), d =>
    if d.running then do
      let (status, request, memory) ←
        ipcReceiveMessageAt d.memory (a + queueOffset .kernelToDaemon) d.request
      let d := { d with memory := memory, request := request }
      if status = .success then .ok (.processing left, d) else .ok (.finished, d)
    else .ok (.finished, d)
  | .processing left, d =>
    let (handled, running) := processMessage fw (locals left) d.calls d.running d.request d.response
    .ok (.sending left handled.status, { d with
      running := running
      response := handled.response
      calls := handled.calls })
  | .sending left status, d =>
    if status = .success then do
      let (status, memory) ←
        ipcSendMessageAt d.memory (a + queueOffset .daemonToKernel) (d.response.bytes padding)
      .ok (.countingResponse left status, { d with memory := memory })
    else .ok (.countingResponse left status, d)
  | .countingResponse left status, d =>
    if status = .success then .ok (.countingRequest left, { d with memory := incrementAt d.memory a 9 })
    else .ok (.countingRequest left, { d with memory := incrementAt d.memory a 11 })
  | .countingRequest left, d => .ok (.looping left, { d with memory := incrementAt d.memory a 10 })
  | .finished, d => .ok (.finished, d)

/-- The daemon and its place in the loop, the firmware and stack of its run,
and the messages of the kernel's successful sends and receives. -/
structure SharedRun where
  daemon : DaemonAt
  control : Control
  fw : RuntimeServices
  locals : ℕ → StackLocals
  sent : List IpcMessage
  received : List IpcMessage

inductive SharedOp
  | kernelSend (msg : IpcMessage) (padding : Fin 4 → UInt8)
  | kernelReceive (buffer : IpcMessage)
  | daemonStart (fw : RuntimeServices) (stack : Stack)
  | daemonStep (padding : Fin 4 → UInt8)

/-- The operation on the header. -/
def SharedOp.op : SharedOp → ConcurrentOp
  | kernelSend msg _ => .kernelSend msg
  | kernelReceive buffer => .kernelReceive buffer
  | daemonStart fw stack => .daemonStart fw stack
  | daemonStep _ => .daemonStep

def SharedOp.exec (a : ℕ) (r : SharedRun) : SharedOp → Except Fault SharedRun
  | kernelSend msg padding => do
    let (status, memory) ←
      ipcSendMessageAt r.daemon.memory (a + queueOffset .kernelToDaemon) (msg.bytes padding)
    .ok { r with
      daemon.memory := memory
      sent := if status = .success then r.sent ++ [msg] else r.sent }
  | kernelReceive buffer => do
    let (status, msg, memory) ←
      ipcReceiveMessageAt r.daemon.memory (a + queueOffset .daemonToKernel) buffer
    .ok { r with
      daemon.memory := memory
      received := if status = .success then r.received ++ [msg] else r.received }
  | daemonStart fw stack =>
    .ok { r with
      daemon := ⟨r.daemon.memory, true, stack.request, stack.response, []⟩
      control := .looping maxMessages
      fw := fw
      locals := stack.locals }
  | daemonStep padding => do
    let (control, d) ← daemonStepAt r.fw r.locals a padding r.control r.daemon
    .ok { r with daemon := d, control := control }

/-! ### The refinement -/

/-- The daemon's own part, on the memory `m`. -/
def Daemon.inMemory (d : Daemon) (m : Mem) : DaemonAt :=
  ⟨m, d.running, d.request, d.response, d.calls⟩

/-- The state, with its header in the memory `m`. -/
def Concurrent.inMemory (s : Concurrent) (m : Mem) : SharedRun :=
  ⟨s.daemon.inMemory m, s.control, s.fw, s.locals, s.sent, s.received⟩

/-- The run on the memory, which was `m0` at first, is the state `s` with its
header at `a`. -/
def SharedRun.Follows (a : ℕ) (m0 : Mem) (r : SharedRun) (s : Concurrent) : Prop :=
  ∃ m, ShowsHeader a m0 m s.daemon.shm ∧ r = s.inMemory m

namespace ShowsHeader

variable {a : ℕ} {m m' : Mem} {header : SharedMemoryHeader} (h : ShowsHeader a m m' header)

include h

theorem countSent : ShowsHeader a m (incrementAt m' a 9)
    { header with messagesSent := header.messagesSent + 1 } := by
  have hload : word64.load m' (a + offset sharedMemoryHeaderFields 9) = header.messagesSent :=
    (congrArg SharedMemoryHeader.messagesSent h.shows :)
  rw [incrementAt, hload]
  exact h.storeMessagesSent _

theorem countReceived : ShowsHeader a m (incrementAt m' a 10)
    { header with messagesReceived := header.messagesReceived + 1 } := by
  have hload : word64.load m' (a + offset sharedMemoryHeaderFields 10) = header.messagesReceived :=
    (congrArg SharedMemoryHeader.messagesReceived h.shows :)
  rw [incrementAt, hload]
  exact h.storeMessagesReceived _

theorem countError : ShowsHeader a m (incrementAt m' a 11)
    { header with errors := header.errors + 1 } := by
  have hload : word64.load m' (a + offset sharedMemoryHeaderFields 11) = header.errors :=
    (congrArg SharedMemoryHeader.errors h.shows :)
  rw [incrementAt, hload]
  exact h.storeErrors _

/-- A send to the queue of the header. -/
theorem send (d : Direction) (msg : IpcMessage) (padding : Fin 4 → UInt8) :
    System.Matches (fun p p' => p.1 = p'.1 ∧ ShowsHeader a m p.2 (header.setQueue d p'.2))
      (ipcSendMessageAt m' (a + queueOffset d) (msg.bytes padding))
      (ipcSendMessage (header.queue d) msg) := by
  have hs := sendAt_spec m' (a + queueOffset d) msg padding
  rw [h.queue] at hs
  exact hs.mono fun _ _ hp => ⟨hp.1, h.setQueue d hp.2⟩

/-- A receive from it. -/
theorem receive (d : Direction) (buffer : IpcMessage) :
    System.Matches (fun p p' => p.1 = p'.1 ∧ p.2.1 = p'.2.1 ∧
        ShowsHeader a m p.2.2 (header.setQueue d p'.2.2))
      (ipcReceiveMessageAt m' (a + queueOffset d) buffer)
      (ipcReceiveMessage (header.queue d) buffer) := by
  have hs := receiveAt_spec m' (a + queueOffset d) buffer
  rw [h.queue] at hs
  exact hs.mono fun _ _ hp => ⟨hp.1, hp.2.1, h.setQueue d hp.2.2⟩

end ShowsHeader

/-- A step of the daemon. -/
theorem daemonStepAt_follows (fw : RuntimeServices) (locals : ℕ → StackLocals) {a : ℕ}
    {m0 m : Mem} (padding : Fin 4 → UInt8) (control : Control) {d : Daemon}
    (h : ShowsHeader a m0 m d.shm) :
    System.Matches (fun p p' => p.1 = p'.1 ∧ ∃ m, ShowsHeader a m0 m p'.2.shm ∧ p.2 = p'.2.inMemory m)
      (daemonStepAt fw locals a padding control (d.inMemory m)) (daemonStep fw locals control d) := by
  cases control with
  | looping left =>
    cases left with
    | zero => exact .ok ⟨rfl, m, h, rfl⟩
    | succ left =>
      rw [daemonStepAt, daemonStep]
      by_cases hr : d.running = true
      · rw [if_pos (show (d.inMemory m).running = true from hr), if_pos hr]
        refine (h.receive .kernelToDaemon d.request).bind fun p p' hp => ?_
        obtain ⟨status, request, m⟩ := p
        obtain ⟨status', request', queue⟩ := p'
        obtain ⟨rfl, rfl, hq⟩ := hp
        dsimp only
        by_cases hs : status = .success
        · rw [if_pos hs, if_pos hs]
          exact .ok ⟨rfl, m, hq, rfl⟩
        · rw [if_neg hs, if_neg hs]
          exact .ok ⟨rfl, m, hq, rfl⟩
      · rw [if_neg (show ¬ (d.inMemory m).running = true from hr), if_neg hr]
        exact .ok ⟨rfl, m, h, rfl⟩
  | processing left => exact .ok ⟨rfl, m, h, rfl⟩
  | sending left status =>
    rw [daemonStepAt, daemonStep]
    by_cases hs : status = .success
    · rw [if_pos hs, if_pos hs]
      refine (h.send .daemonToKernel d.response padding).bind fun p p' hp => ?_
      obtain ⟨status, m⟩ := p
      obtain ⟨status', queue⟩ := p'
      obtain ⟨rfl, hq⟩ := hp
      exact .ok ⟨rfl, m, hq, rfl⟩
    · rw [if_neg hs, if_neg hs]
      exact .ok ⟨rfl, m, h, rfl⟩
  | countingResponse left status =>
    rw [daemonStepAt, daemonStep]
    by_cases hs : status = .success
    · rw [if_pos hs, if_pos hs]
      exact .ok ⟨rfl, _, h.countSent, rfl⟩
    · rw [if_neg hs, if_neg hs]
      exact .ok ⟨rfl, _, h.countError, rfl⟩
  | countingRequest left => exact .ok ⟨rfl, _, h.countReceived, rfl⟩
  | finished => exact .ok ⟨rfl, m, h, rfl⟩

/-- Every operation. -/
theorem SharedRun.Follows.exec {a : ℕ} {m0 : Mem} {r : SharedRun} {s : Concurrent}
    (h : r.Follows a m0 s) (op : SharedOp) :
    System.Matches (SharedRun.Follows a m0) (op.exec a r) (op.op.exec s) := by
  obtain ⟨m, h, rfl⟩ := h
  cases op with
  | kernelSend msg padding =>
    refine (h.send .kernelToDaemon msg padding).bind fun p p' hp => ?_
    obtain ⟨status, m⟩ := p
    obtain ⟨status', queue⟩ := p'
    obtain ⟨rfl, hq⟩ := hp
    exact .ok ⟨m, hq, rfl⟩
  | kernelReceive buffer =>
    refine (h.receive .daemonToKernel buffer).bind fun p p' hp => ?_
    obtain ⟨status, msg, m⟩ := p
    obtain ⟨status', msg', queue⟩ := p'
    obtain ⟨rfl, rfl, hq⟩ := hp
    exact .ok ⟨m, hq, rfl⟩
  | daemonStart fw stack => exact .ok ⟨m, h, rfl⟩
  | daemonStep padding =>
    refine (daemonStepAt_follows s.fw s.locals padding s.control h).bind fun p p' hp => ?_
    obtain ⟨control, d⟩ := p'
    obtain ⟨hcontrol, m, hd, hp⟩ := hp
    obtain rfl : p = (control, d.inMemory m) := Prod.ext hcontrol hp
    exact .ok ⟨m, hd, rfl⟩

/-- An initialised region in memory, before the first run. -/
def SharedRun.start (a : ℕ) (m : Mem) : SharedRun :=
  ⟨⟨(initializeIpcQueuesAt m a).2, true, Stack.zero.request, Stack.zero.response, []⟩, .finished,
    .idle, Stack.zero.locals, [], []⟩

/-- **Kernel and daemon on one memory.** Wherever the region lies and whatever
the memory and the padding of the messages hold: an initialisation and any
operations after it fault on the bytes as on the header, or end with the same
messages sent and received and the daemon in the same state, the bytes showing
the header, and every byte outside it as it was. -/
theorem shared_bytes_follow (a : ℕ) (m : Mem) (ops : List SharedOp) :
    System.Matches (SharedRun.Follows a m) (ops.foldlM (SharedOp.exec a) (.start a m))
      ((ops.map (·.op)).foldlM ConcurrentOp.exec (.start (.load m a))) :=
  System.Matches.foldlM (fun _ _ op h => h.exec op) ops
    ⟨_, initializeIpcQueuesAt_spec m a, rfl⟩

end Dos25
