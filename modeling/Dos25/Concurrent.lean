/-
# The kernel beside a running daemon

`daemon_message_loop` one step at a time, with complete sends and receives of
the kernel between any two of its steps, and any number of runs. A step is the
loop's condition with the receive, `process_message`, the send of the
response, or one of the two counts; a queue operation is one step, as where no
two of them overlap (`Interleave`).

Left alone, the daemon computes `messageLoop` (`daemonSteps_eq_messageLoop`).
Beside a kernel, every request is queued, in hand or handled, and at most one
is in hand; the statistics are behind by what the daemon is about to count
(`Interleaved`, `interleaved_books`). A kernel that waits for responses
before it asks too much gets every one of them, in order
(`interleaved_window`).

Key definitions: `Control`, `daemonStep`, `Concurrent`, `ConcurrentOp.exec`,
`Interleaved`.
-/
import Dos25.Turns
import Dos25.Lib.System

namespace Dos25

/-! ### The loop, step by step -/

/-- Where the daemon stands in `daemon_message_loop`, with `left` passes left
behind the current one. -/
inductive Control
  | looping (left : ℕ)
  | processing (left : ℕ)
  | sending (left : ℕ) (status : BootStatus)
  | countingResponse (left : ℕ) (status : BootStatus)
  | countingRequest (left : ℕ)
  | finished
  deriving DecidableEq

/-- The next step of the loop. -/
def daemonStep (fw : RuntimeServices) (locals : ℕ → StackLocals) :
    Control → Daemon → Except Fault (Control × Daemon)
  | .looping 0, d => .ok (.finished, d)
  | .looping (left + 1), d =>
    if d.running then do
      let (status, request, queue) ← ipcReceiveMessage d.shm.kernelToDaemon d.request
      let d := { d with
        shm.kernelToDaemon := queue
        request := request
        accesses := d.accesses ++
          (ipcReceiveMessageAccesses d.shm.kernelToDaemon).map (.map .kernelToDaemon) }
      if status = .success then .ok (.processing left, { d with served := d.served ++ [request] })
      else .ok (.finished, d)
    else .ok (.finished, d)
  | .processing left, d =>
    let (handled, running) := processMessage fw (locals left) d.calls d.running d.request d.response
    .ok (.sending left handled.status, { d with
      running := running
      response := handled.response
      calls := handled.calls })
  | .sending left status, d =>
    if status = .success then do
      let (status, queue) ← ipcSendMessage d.shm.daemonToKernel d.response
      .ok (.countingResponse left status, { d with
        shm.daemonToKernel := queue
        accesses := d.accesses ++
          (ipcSendMessageAccesses d.shm.daemonToKernel).map (.map .daemonToKernel) })
    else .ok (.countingResponse left status, d)
  | .countingResponse left status, d =>
    if status = .success then
      .ok (.countingRequest left, { d with
        shm.messagesSent := d.shm.messagesSent + 1
        accesses := d.accesses ++ [.read .messagesSent, .write .messagesSent] })
    else
      .ok (.countingRequest left, { d with
        shm.errors := d.shm.errors + 1
        accesses := d.accesses ++ [.read .errors, .write .errors] })
  | .countingRequest left, d =>
    .ok (.looping left, { d with
      shm.messagesReceived := d.shm.messagesReceived + 1
      accesses := d.accesses ++ [.read .messagesReceived, .write .messagesReceived] })
  | .finished, d => .ok (.finished, d)

/-- So many steps of the daemon, with nobody between them. -/
def daemonSteps (fw : RuntimeServices) (locals : ℕ → StackLocals) :
    ℕ → Control → Daemon → Except Fault (Control × Daemon)
  | 0, control, d => .ok (control, d)
  | n + 1, control, d => do
    let (control, d) ← daemonStep fw locals control d
    daemonSteps fw locals n control d

/-- The steps to the end of the run, at most. -/
def Control.remaining : Control → ℕ
  | looping left => 5 * left + 1
  | processing left => 5 * left + 5
  | sending left _ => 5 * left + 4
  | countingResponse left _ => 5 * left + 3
  | countingRequest left => 5 * left + 2
  | finished => 0

/-- What the daemon is about to add to `messages_sent`. -/
def Control.sentDue : Control → UInt64
  | countingResponse _ status => if status = .success then 1 else 0
  | _ => 0

/-- What the daemon is about to add to `errors`. -/
def Control.errorsDue : Control → UInt64
  | countingResponse _ status => if status = .success then 0 else 1
  | _ => 0

/-- What the daemon is about to add to `messages_received`. -/
def Control.receivedDue : Control → UInt64
  | looping _ => 0
  | finished => 0
  | _ => 1

section

variable (fw : RuntimeServices) (locals : ℕ → StackLocals)

theorem daemonSteps_finished (n : ℕ) (d : Daemon) :
    daemonSteps fw locals n .finished d = .ok (.finished, d) := by
  induction n with
  | zero => rfl
  | succ n ih => exact ih

theorem daemonSteps_succ (n : ℕ) {control control' : Control} {d d' : Daemon}
    (h : daemonStep fw locals control d = .ok (control', d')) :
    daemonSteps fw locals (n + 1) control d = daemonSteps fw locals n control' d' := by
  rw [daemonSteps, h]
  rfl

/-- The daemon that has taken the request `r`, which left `queue`. -/
def Daemon.took (d : Daemon) (r : IpcMessage) (queue : IpcQueue) : Daemon :=
  { d with
    shm.kernelToDaemon := queue
    request := r
    accesses := d.accesses ++
      (ipcReceiveMessageAccesses d.shm.kernelToDaemon).map (.map .kernelToDaemon)
    served := d.served ++ [r] }

theorem daemonStep_took (left : ℕ) {d : Daemon} {r : IpcMessage} {queue : IpcQueue}
    (hr : d.running = true)
    (h : ipcReceiveMessage d.shm.kernelToDaemon d.request = .ok (.success, r, queue)) :
    daemonStep fw locals (.looping (left + 1)) d = .ok (.processing left, d.took r queue) := by
  rw [daemonStep, if_pos hr, h]
  rfl

/-- The send of a response and the count of it are `sendResponse`. -/
theorem daemonSteps_sending (n left : ℕ) (status : BootStatus) (d : Daemon) :
    daemonSteps fw locals (n + 2) (.sending left status) d =
      sendResponse status d >>= fun d' => daemonSteps fw locals n (.countingRequest left) d' := by
  by_cases hs : status = .success
  · rw [daemonSteps, daemonStep, sendResponse, if_pos hs, if_pos hs]
    cases ipcSendMessage d.shm.daemonToKernel d.response with
    | error fault => rfl
    | ok sent =>
      obtain ⟨status', queue⟩ := sent
      show daemonSteps fw locals (n + 1) (.countingResponse left status') _ = _
      by_cases hs' : status' = .success
      · rw [daemonSteps_succ fw locals n (by rw [daemonStep, if_pos hs'])]
        subst hs'
        rfl
      · rw [daemonSteps_succ fw locals n (by rw [daemonStep, if_neg hs'])]
        show _ = (if status' = .success then Except.ok _ else Except.ok _) >>= _
        rw [if_neg hs']
        rfl
  · rw [daemonSteps_succ fw locals (n + 1) (by rw [daemonStep, if_neg hs]),
      daemonSteps_succ fw locals n (by rw [daemonStep, if_neg hs]), sendResponse, if_neg hs]
    rfl

/-- The steps that follow the receive are the rest of the pass. -/
theorem daemonSteps_pass (n left : ℕ) {d : Daemon} {r : IpcMessage} {queue : IpcQueue}
    (hr : d.running = true)
    (h : ipcReceiveMessage d.shm.kernelToDaemon d.request = .ok (.success, r, queue)) :
    daemonSteps fw locals (n + 5) (.looping (left + 1)) d =
      messageLoopBody fw (locals left) d >>= fun p =>
        daemonSteps fw locals n (.looping left) p.2 := by
  have hprocess : daemonStep fw locals (.processing left) (d.took r queue) =
      .ok (.sending left (processMessage fw (locals left) d.calls d.running r d.response).1.status,
        d.handled fw (locals left) r queue) := rfl
  rw [daemonSteps_succ fw locals _ (daemonStep_took fw locals left hr h),
    daemonSteps_succ fw locals _ hprocess, daemonSteps_sending,
    messageLoopBody_received fw (locals left) h]
  cases sendResponse _ (d.handled fw (locals left) r queue) with
  | error fault => rfl
  | ok d' => rfl

/-- **Left alone, the daemon computes `messageLoop`**: with enough steps for
the passes left, its run ends where the loop's does, or faults as it does. -/
theorem daemonSteps_eq_messageLoop (left n : ℕ) (d : Daemon) (hn : 5 * left + 1 ≤ n) :
    daemonSteps fw locals n (.looping left) d =
      (messageLoop fw locals left d).map fun d' => (.finished, d') := by
  induction left generalizing n d with
  | zero =>
    obtain ⟨n, rfl⟩ := Nat.exists_eq_add_of_le' hn
    exact daemonSteps_finished fw locals n d
  | succ left ih =>
    obtain ⟨n, rfl⟩ := Nat.exists_eq_add_of_le' (show 6 ≤ n by omega)
    by_cases hr : d.running = true
    · rw [messageLoop, if_pos hr]
      cases he : ipcReceiveMessage d.shm.kernelToDaemon d.request with
      | error fault =>
        rw [daemonSteps, daemonStep, if_pos hr, messageLoopBody, he]
        rfl
      | ok received =>
        obtain ⟨status, r, queue⟩ := received
        by_cases hs : status = .success
        · subst hs
          rw [daemonSteps_pass fw locals (n + 1) left hr he,
            messageLoopBody_received fw (locals left) he]
          cases sendResponse _ (d.handled fw (locals left) r queue) with
          | error fault => rfl
          | ok d' => exact ih (n + 1) d'.counted (by omega)
        · -- nothing to take: the daemon stops, as the loop breaks
          rw [daemonSteps, daemonStep, if_pos hr, messageLoopBody, he]
          show (if status = .success then Except.ok _ else Except.ok _) >>= _ = _
          rw [if_neg hs]
          show _ = Except.map _ ((if status = .success then _ else Except.ok _) >>= _)
          rw [if_neg hs]
          exact daemonSteps_finished fw locals _ _
    · rw [daemonSteps_succ fw locals _ (by rw [daemonStep, if_neg hr]), daemonSteps_finished,
        messageLoop, if_neg hr]
      rfl

/-! ### A step on well-formed queues -/

/-- Nothing to take: the run is over. -/
theorem daemonStep_idle (left : ℕ) {d : Daemon} (hr : d.running = true)
    (h : d.shm.kernelToDaemon.WF) (hn : d.shm.kernelToDaemon.contents = []) :
    ∃ accesses, daemonStep fw locals (.looping (left + 1)) d =
      .ok (.finished, { d with accesses := accesses }) := by
  rw [daemonStep, if_pos hr, ipcReceiveMessage_spec h, hn]
  exact ⟨_, rfl⟩

/-- The send succeeds for a response to send that finds room. -/
theorem daemonStep_sending (left : ℕ) (status : BootStatus) {d : Daemon}
    (h : d.shm.daemonToKernel.WF) : ∃ status' queue accesses,
      daemonStep fw locals (.sending left status) d = .ok (.countingResponse left status',
        { d with shm.daemonToKernel := queue, accesses := accesses }) ∧
      queue.WF ∧
      queue.contents = d.shm.daemonToKernel.contents ++
        (if status' = .success then [d.response] else []) ∧
      (status' = .success ↔
        status = .success ∧ d.shm.daemonToKernel.contents.length < ipcQueueSize) := by
  rw [daemonStep]
  by_cases hs : status = .success
  · rw [if_pos hs, ipcSendMessage_spec h]
    by_cases hl : d.shm.daemonToKernel.contents.length < ipcQueueSize
    · have hc : d.shm.daemonToKernel.count.toNat < ipcQueueSize := by simpa using hl
      rw [if_pos hl]
      exact ⟨_, _, _, rfl, h.pushed hc _, h.pushed_contents hc _, fun _ => ⟨hs, hl⟩, fun _ => rfl⟩
    · rw [if_neg hl]
      exact ⟨_, _, _, rfl, h, (List.append_nil _).symm, nofun, fun h' => absurd h'.2 hl⟩
  · rw [if_neg hs]
    refine ⟨_, _, _, rfl, h, ?_, fun h' => absurd h' hs, fun h' => absurd h'.1 hs⟩
    rw [if_neg hs, List.append_nil]

/-- One of the two statistics moves on. -/
theorem daemonStep_countingResponse (left : ℕ) (status : BootStatus) (d : Daemon) :
    ∃ accesses, daemonStep fw locals (.countingResponse left status) d =
      .ok (.countingRequest left, { d with
        shm.messagesSent := d.shm.messagesSent + (Control.countingResponse left status).sentDue
        shm.errors := d.shm.errors + (Control.countingResponse left status).errorsDue
        accesses := accesses }) := by
  rw [daemonStep, Control.sentDue, Control.errorsDue]
  by_cases hs : status = .success
  · rw [if_pos hs, if_pos hs, if_pos hs, UInt64.add_zero]
    exact ⟨_, rfl⟩
  · rw [if_neg hs, if_neg hs, if_neg hs, UInt64.add_zero]
    exact ⟨_, rfl⟩

end

/-- **`daemon_message_loop` is its steps**, taken one after the other: on every
region, well formed or not, it ends or faults as 26 of them do. -/
theorem daemonMessageLoop_eq_steps (fw : RuntimeServices) (stack : Stack) (shm : SharedMemoryHeader) :
    daemonMessageLoop (some shm) (some fw) stack =
      (daemonSteps fw stack.locals 26 (.looping maxMessages) (.start shm stack)).map
        fun p => (.success, some p.2.printStatistics) := by
  rw [daemonSteps_eq_messageLoop fw stack.locals maxMessages 26 _ (Nat.le_refl _), daemonMessageLoop,
    runDaemon]
  cases messageLoop fw stack.locals maxMessages (.start shm stack) with
  | error fault => rfl
  | ok d => rfl

/-! ### The kernel beside it -/

/-- The daemon, with its place in the loop and the firmware and stack of its
run; the messages of the kernel's successful sends and receives; the requests
the daemon is done with, of all runs; and how many runs and steps it made. -/
structure Concurrent where
  daemon : Daemon
  control : Control
  fw : RuntimeServices
  locals : ℕ → StackLocals
  sent : List IpcMessage
  received : List IpcMessage
  handled : List IpcMessage
  runs : ℕ
  steps : ℕ

inductive ConcurrentOp
  | kernelSend (msg : IpcMessage)
  | kernelReceive (buffer : IpcMessage)
  | daemonStart (fw : RuntimeServices) (stack : Stack)
  | daemonStep

def ConcurrentOp.exec (s : Concurrent) : ConcurrentOp → Except Fault Concurrent
  | kernelSend msg => do
    let (status, queue) ← ipcSendMessage s.daemon.shm.kernelToDaemon msg
    .ok { s with
      daemon.shm.kernelToDaemon := queue
      sent := if status = .success then s.sent ++ [msg] else s.sent }
  | kernelReceive buffer => do
    let (status, msg, queue) ← ipcReceiveMessage s.daemon.shm.daemonToKernel buffer
    .ok { s with
      daemon.shm.daemonToKernel := queue
      received := if status = .success then s.received ++ [msg] else s.received }
  | daemonStart fw stack =>
    .ok { s with
      daemon := .start s.daemon.shm stack
      control := .looping maxMessages
      fw := fw
      locals := stack.locals
      runs := s.runs + 1 }
  | daemonStep => do
    let (control, d) ← Dos25.daemonStep s.fw s.locals s.control s.daemon
    .ok { s with
      daemon := d
      control := control
      -- the response is sent now, or never
      handled := match s.control with
        | .sending _ _ => s.handled ++ [s.daemon.request]
        | _ => s.handled
      steps := s.steps + 1 }

/-- A run starts when the one before is over, and steps until it is over. -/
def ConcurrentOp.allowed (s : Concurrent) : ConcurrentOp → Prop
  | kernelSend _ => True
  | kernelReceive _ => True
  | daemonStart _ _ => s.control = .finished
  | daemonStep => s.control ≠ .finished

/-- As `allowed`, and the kernel sends only while it waits for the responses to
fewer answerable requests than a queue holds. -/
def ConcurrentOp.windowed (s : Concurrent) (op : ConcurrentOp) : Prop :=
  op.allowed s ∧ match op with
    | kernelSend _ => (s.sent.filter (·.answerable)).length < s.received.length + ipcQueueSize
    | _ => True

/-- An initialised region, before the first run. -/
def Concurrent.start (header : SharedMemoryHeader) : Concurrent :=
  ⟨.start (initializeIpcQueues header).2 .zero, .finished, .idle, Stack.zero.locals, [], [], [], 0, 0⟩

/-- The states that runs from an initialised region reach. -/
abbrev Concurrent.Reachable (ok : Concurrent → ConcurrentOp → Prop) (header : SharedMemoryHeader) :
    Concurrent → Prop :=
  System.Reach (fun s op t => op.exec s = .ok t) ok (.start header)

/-! ### The invariant -/

/-- The request received and not yet done with. -/
def Concurrent.inHand (s : Concurrent) : List IpcMessage :=
  match s.control with
  | .processing _ => [s.daemon.request]
  | .sending _ _ => [s.daemon.request]
  | _ => []

/-- The requests of this run that `process_message` has seen. -/
def Concurrent.processed (s : Concurrent) : List IpcMessage :=
  match s.control with
  | .processing _ => s.daemon.served.dropLast
  | _ => s.daemon.served

/-- The passes left behind the current one. -/
def Control.left : Control → ℕ
  | looping left => left
  | processing left => left
  | sending left _ => left
  | countingResponse left _ => left
  | countingRequest left => left
  | finished => 0

/-- The invariant of kernel and daemon. -/
structure Interleaved (s : Concurrent) : Prop where
  wf : s.daemon.shm.WF
  requests : s.sent = s.handled ++ s.inHand ++ s.daemon.shm.kernelToDaemon.contents
  responses : ((s.received ++ s.daemon.shm.daemonToKernel.contents).map (·.key)).Sublist
    ((s.handled.filter (·.answerable)).map (·.key))
  prepared : ∀ left status, s.control = .sending left status →
    (status = .success ↔ s.daemon.request.answerable = true) ∧
      s.daemon.response.key = s.daemon.request.key
  sent : UInt64.ofNat (s.received ++ s.daemon.shm.daemonToKernel.contents).length =
    s.daemon.shm.messagesSent + s.control.sentDue
  total : UInt64.ofNat s.handled.length =
    s.daemon.shm.messagesSent + s.control.sentDue + (s.daemon.shm.errors + s.control.errorsDue)
  taken : UInt64.ofNat (s.handled ++ s.inHand).length =
    s.daemon.shm.messagesReceived + s.control.receivedDue
  calls : s.daemon.calls = s.processed.filterMap (·.firmwareCall)
  running : s.daemon.running = true → ∀ r ∈ s.processed, r.type ≠ ipcMsgShutdown
  unprocessed : ∀ left, s.control = .processing left →
    s.daemon.running = true ∧ s.daemon.served = s.processed ++ [s.daemon.request]
  passes : s.daemon.served.length + s.control.left ≤ maxMessages
  served : toServe maxMessages s.daemon.served = s.daemon.served
  bounded : s.steps + s.control.remaining ≤ (5 * maxMessages + 1) * s.runs

/-- No more than the passes left, and no shutdown before the last: a run takes
them all. -/
theorem toServe_eq_self : ∀ {left : ℕ} {l : List IpcMessage}, l.length ≤ left →
    (∀ r ∈ l.dropLast, r.type ≠ ipcMsgShutdown) → toServe left l = l
  | _, [], _, _ => by rw [toServe_eq_take_min, List.take_nil]
  | 0, r :: rest, hl, _ => absurd hl (Nat.not_succ_le_zero _)
  | left + 1, [r], _, _ => by
    rw [toServe, toServe_eq_take_min, List.take_nil, ite_self]
  | left + 1, r :: r' :: rest, hl, h => by
    rw [List.dropLast_cons_cons, List.forall_mem_cons] at h
    rw [toServe, if_neg h.1, toServe_eq_self (Nat.le_of_succ_le_succ hl) h.2]

theorem Concurrent.start_interleaved (header : SharedMemoryHeader) : Interleaved (.start header) where
  wf := initializeIpcQueues_wf header
  requests := rfl
  responses := .slnil
  prepared := nofun
  sent := rfl
  total := rfl
  taken := rfl
  calls := rfl
  running _ := nofun
  unprocessed := nofun
  passes := Nat.zero_le _
  served := rfl
  bounded := Nat.le_refl _

/-- No more answerable requests than a queue holds wait for their responses,
and each one handled has got its response. -/
structure Complete (s : Concurrent) : Prop where
  window : (s.sent.filter (·.answerable)).length ≤ s.received.length + ipcQueueSize
  answered : (s.received ++ s.daemon.shm.daemonToKernel.contents).length =
    (s.handled.filter (·.answerable)).length

theorem Concurrent.start_complete (header : SharedMemoryHeader) : Complete (.start header) :=
  ⟨Nat.zero_le _, rfl⟩

namespace Interleaved

variable {s : Concurrent}

theorem kernelSend (h : Interleaved s) (msg : IpcMessage) :
    ∃ t, (ConcurrentOp.kernelSend msg).exec s = .ok t ∧ Interleaved t ∧
      ((ConcurrentOp.kernelSend msg).windowed s → Complete s → Complete t) := by
  have hk : s.daemon.shm.kernelToDaemon.WF := h.wf .kernelToDaemon
  rw [ConcurrentOp.exec, ipcSendMessage_spec hk]
  by_cases hl : s.daemon.shm.kernelToDaemon.contents.length < ipcQueueSize
  · have hc : s.daemon.shm.kernelToDaemon.count.toNat < ipcQueueSize := by simpa using hl
    rw [if_pos hl]
    refine ⟨_, rfl, { h with wf := .of (hk.pushed hc msg) (h.wf .daemonToKernel), requests := ?_ },
      fun hw hs => ⟨?_, hs.answered⟩⟩
    · show s.sent ++ [msg] =
        s.handled ++ s.inHand ++ (s.daemon.shm.kernelToDaemon.pushed msg).contents
      rw [hk.pushed_contents hc, h.requests, List.append_assoc _ _ [msg]]
    · have hroom : (s.sent.filter (·.answerable)).length < s.received.length + ipcQueueSize := hw.2
      have hone : ([msg].filter (·.answerable)).length ≤ 1 := List.length_filter_le _ _
      show ((s.sent ++ [msg]).filter (·.answerable)).length ≤ s.received.length + ipcQueueSize
      rw [List.filter_append, List.length_append]
      omega
  · rw [if_neg hl]
    exact ⟨_, rfl, { h with wf := h.wf }, fun _ hs => ⟨hs.window, hs.answered⟩⟩

theorem kernelReceive (h : Interleaved s) (buffer : IpcMessage) :
    ∃ t, (ConcurrentOp.kernelReceive buffer).exec s = .ok t ∧ Interleaved t ∧
      (Complete s → Complete t) := by
  have hd : s.daemon.shm.daemonToKernel.WF := h.wf .daemonToKernel
  rw [ConcurrentOp.exec, ipcReceiveMessage_spec hd]
  by_cases he : s.daemon.shm.daemonToKernel.count.toNat = 0
  · have hn : s.daemon.shm.daemonToKernel.contents = [] :=
      List.eq_nil_of_length_eq_zero (by simpa using he)
    rw [hn]
    exact ⟨_, rfl, { h with wf := h.wf }, fun hs => ⟨hs.window, hs.answered⟩⟩
  · have hcons := hd.contents_cons he
    -- the oldest response moves from the queue to the kernel
    have hmoved : s.received ++ s.daemon.shm.daemonToKernel.contents =
        s.received ++ [s.daemon.shm.daemonToKernel.messages
          (Fin.ofNat ipcQueueSize s.daemon.shm.daemonToKernel.consumerIndex.toNat)] ++
          s.daemon.shm.daemonToKernel.popped.contents := by
      rw [hcons, List.append_assoc, List.singleton_append]
    rw [hcons]
    refine ⟨_, rfl, { h with
      wf := .of (h.wf .kernelToDaemon) (hd.popped he)
      responses := ?_
      sent := ?_ }, fun hs => ⟨?_, ?_⟩⟩
    · exact hmoved ▸ h.responses
    · exact hmoved ▸ h.sent
    · show (s.sent.filter (·.answerable)).length ≤ (s.received ++ [_]).length + ipcQueueSize
      have hwindow := hs.window
      rw [List.length_append]
      omega
    · exact hmoved ▸ hs.answered

theorem daemonStart (h : Interleaved s) (hc : s.control = .finished) (fw : RuntimeServices)
    (stack : Stack) : ∃ t, (ConcurrentOp.daemonStart fw stack).exec s = .ok t ∧ Interleaved t ∧
      (Complete s → Complete t) := by
  obtain ⟨d, control, _, _, sent, received, handled, runs, steps⟩ := s
  subst hc
  refine ⟨_, rfl, {
    wf := h.wf
    requests := h.requests
    responses := h.responses
    prepared := nofun
    sent := h.sent
    total := h.total
    taken := h.taken
    calls := rfl
    running := fun _ => nofun
    unprocessed := nofun
    passes := Nat.le_refl _
    served := rfl
    bounded := ?_ }, fun hs => ⟨hs.window, hs.answered⟩⟩
  have hbounded := h.bounded
  show steps + (5 * maxMessages + 1) ≤ (5 * maxMessages + 1) * (runs + 1)
  rw [Nat.mul_succ]
  exact Nat.add_le_add_right hbounded _

/-! ### One lemma for each control point -/

section

variable {d : Daemon} {fw : RuntimeServices} {locals : ℕ → StackLocals}
  {sent received handled : List IpcMessage} {runs steps left : ℕ}

/-- The loop ends. -/
theorem stopped (h : Interleaved ⟨d, .looping left, fw, locals, sent, received, handled, runs, steps⟩)
    (accesses : List (Access HeaderField)) :
    Interleaved ⟨{ d with accesses := accesses }, .finished, fw, locals, sent, received, handled, runs,
      steps + 1⟩ where
  wf := h.wf
  requests := h.requests
  responses := h.responses
  prepared := nofun
  sent := h.sent
  total := h.total
  taken := h.taken
  calls := h.calls
  running := h.running
  unprocessed := nofun
  passes := (Nat.le_add_right _ _).trans h.passes
  served := h.served
  bounded := by
    have hbounded := h.bounded
    simp only [Control.remaining] at hbounded ⊢
    omega

/-- A request is taken. -/
theorem took (h : Interleaved
      ⟨d, .looping (left + 1), fw, locals, sent, received, handled, runs, steps⟩)
    (hr : d.running = true) {r : IpcMessage} {queue : IpcQueue} (hq : queue.WF)
    (hcons : d.shm.kernelToDaemon.contents = r :: queue.contents) :
    Interleaved ⟨d.took r queue, .processing left, fw, locals, sent, received, handled, runs,
      steps + 1⟩ := by
  have hpasses : d.served.length + (left + 1) ≤ maxMessages := h.passes
  have hopen : ∀ r ∈ d.served, r.type ≠ ipcMsgShutdown := h.running hr
  have hdrop : (d.served ++ [r]).dropLast = d.served := List.dropLast_concat
  refine {
    wf := .of hq (h.wf .daemonToKernel)
    requests := ?_
    responses := h.responses
    prepared := nofun
    sent := h.sent
    total := h.total
    taken := ?_
    calls := ?_
    running := fun _ => ?_
    unprocessed := ?_
    passes := ?_
    served := ?_
    bounded := ?_ }
  · have hrequests : sent = handled ++ [] ++ d.shm.kernelToDaemon.contents := h.requests
    show sent = handled ++ [r] ++ queue.contents
    rw [hrequests, hcons, List.append_nil, List.append_assoc, List.singleton_append]
  · have htaken : UInt64.ofNat (handled ++ []).length = d.shm.messagesReceived + 0 := h.taken
    show UInt64.ofNat (handled ++ [r]).length = d.shm.messagesReceived + 1
    rw [List.append_nil, UInt64.add_zero] at htaken
    rw [List.length_append, UInt64.ofNat_add, htaken]
    rfl
  · show d.calls = (d.served ++ [r]).dropLast.filterMap (·.firmwareCall)
    rw [hdrop]
    exact h.calls
  · show ∀ r' ∈ (d.served ++ [r]).dropLast, r'.type ≠ ipcMsgShutdown
    rw [hdrop]
    exact hopen
  · rintro _ -
    refine ⟨hr, ?_⟩
    show d.served ++ [r] = (d.served ++ [r]).dropLast ++ [r]
    rw [hdrop]
  · show (d.served ++ [r]).length + left ≤ maxMessages
    rw [List.length_append, List.length_singleton]
    omega
  · refine toServe_eq_self ?_ ?_
    · show (d.served ++ [r]).length ≤ maxMessages
      rw [List.length_append, List.length_singleton]
      omega
    · show ∀ r' ∈ (d.served ++ [r]).dropLast, r'.type ≠ ipcMsgShutdown
      rw [hdrop]
      exact hopen
  · have hbounded := h.bounded
    simp only [Control.remaining] at hbounded ⊢
    omega

/-- The request is processed. -/
theorem processing (h : Interleaved
      ⟨d, .processing left, fw, locals, sent, received, handled, runs, steps⟩) :
    Interleaved ⟨{ d with
        running := (processMessage fw (locals left) d.calls d.running d.request d.response).2
        response := (processMessage fw (locals left) d.calls d.running d.request d.response).1.response
        calls := (processMessage fw (locals left) d.calls d.running d.request d.response).1.calls },
      .sending left (processMessage fw (locals left) d.calls d.running d.request d.response).1.status,
      fw, locals, sent, received, handled, runs, steps + 1⟩ := by
  obtain ⟨hr, hserved⟩ := h.unprocessed left rfl
  refine {
    wf := h.wf
    requests := h.requests
    responses := h.responses
    prepared := ?_
    sent := h.sent
    total := h.total
    taken := h.taken
    calls := ?_
    running := fun hrun => ?_
    unprocessed := nofun
    passes := h.passes
    served := h.served
    bounded := ?_ }
  · intro left' status hs
    obtain ⟨-, rfl⟩ := Control.sending.inj hs
    refine ⟨?_, processMessage_key fw (locals left) d.calls d.running d.request d.response⟩
    show (processMessage fw (locals left) d.calls d.running d.request d.response).1.status = .success ↔
      d.request.answerable = true
    rw [processMessage_status]
    cases d.request.answerable <;> simp
  · show (processMessage fw (locals left) d.calls d.running d.request d.response).1.calls =
      d.served.filterMap (·.firmwareCall)
    have hcalls : d.calls = d.served.dropLast.filterMap (·.firmwareCall) := h.calls
    have hlast : d.served = d.served.dropLast ++ [d.request] := hserved
    rw [processMessage_calls, hlast, List.filterMap_append, ← hcalls, filterMap_firmwareCall_cons,
      List.filterMap_nil, List.append_nil]
  · have hrun' : (processMessage fw (locals left) d.calls d.running d.request d.response).2 = true :=
      hrun
    rw [processMessage_running, Bool.and_eq_true, bne_iff_ne] at hrun'
    have hopen : ∀ r ∈ d.served.dropLast, r.type ≠ ipcMsgShutdown := h.running hr
    have hlast : d.served = d.served.dropLast ++ [d.request] := hserved
    show ∀ r ∈ d.served, r.type ≠ ipcMsgShutdown
    rw [hlast, List.forall_mem_append, List.forall_mem_singleton]
    exact ⟨hopen, hrun'.2⟩
  · have hbounded := h.bounded
    simp only [Control.remaining] at hbounded ⊢
    omega

/-- The response is sent with success, as `answers` has it, or it is not. -/
theorem sentOff {status : BootStatus}
    (h : Interleaved ⟨d, .sending left status, fw, locals, sent, received, handled, runs, steps⟩)
    {status' : BootStatus} {queue : IpcQueue} (accesses : List (Access HeaderField)) (hq : queue.WF)
    (hc : queue.contents = d.shm.daemonToKernel.contents ++
      if status' = .success then [d.response] else [])
    (hs : status' = .success → d.request.answerable = true) :
    Interleaved ⟨{ d with shm.daemonToKernel := queue, accesses := accesses },
      .countingResponse left status', fw, locals, sent, received, handled ++ [d.request], runs,
      steps + 1⟩ := by
  have hkey : d.response.key = d.request.key := (h.prepared left status rfl).2
  have hresponses : ((received ++ d.shm.daemonToKernel.contents).map (·.key)).Sublist
    ((handled.filter (·.answerable)).map (·.key)) := h.responses
  have hsent : UInt64.ofNat (received ++ d.shm.daemonToKernel.contents).length =
    d.shm.messagesSent + 0 := h.sent
  have htotal : UInt64.ofNat handled.length =
    d.shm.messagesSent + 0 + (d.shm.errors + 0) := h.total
  rw [UInt64.add_zero] at hsent
  rw [UInt64.add_zero, UInt64.add_zero] at htotal
  refine {
    wf := .of (h.wf .kernelToDaemon) hq
    requests := ?_
    responses := ?_
    prepared := nofun
    sent := ?_
    total := ?_
    taken := ?_
    calls := h.calls
    running := h.running
    unprocessed := nofun
    passes := h.passes
    served := h.served
    bounded := ?_ }
  · have hrequests : sent = handled ++ [d.request] ++ d.shm.kernelToDaemon.contents := h.requests
    show sent = handled ++ [d.request] ++ [] ++ d.shm.kernelToDaemon.contents
    rw [List.append_nil, hrequests]
  · have hanswer : ((if status' = .success then [d.response] else []).map (·.key)).Sublist
        (([d.request].filter (·.answerable)).map (·.key)) := by
      by_cases hok : status' = .success
      · rw [if_pos hok, List.filter_singleton, hs hok, cond_true, List.map_singleton,
          List.map_singleton, hkey]
      · rw [if_neg hok]
        exact List.nil_sublist _
    show ((received ++ queue.contents).map (·.key)).Sublist
      (((handled ++ [d.request]).filter (·.answerable)).map (·.key))
    have happend := hresponses.append hanswer
    simpa only [hc, List.map_append, List.filter_append, List.append_assoc] using happend
  · show UInt64.ofNat (received ++ queue.contents).length =
      d.shm.messagesSent + if status' = .success then 1 else 0
    rw [hc, ← List.append_assoc, List.length_append, UInt64.ofNat_add, hsent]
    split_ifs <;> rfl
  · show UInt64.ofNat (handled ++ [d.request]).length =
      d.shm.messagesSent + (if status' = .success then 1 else 0) +
        (d.shm.errors + if status' = .success then 0 else 1)
    rw [List.length_append, UInt64.ofNat_add, htotal, List.length_singleton]
    by_cases hok : status' = .success
    · rw [if_pos hok, if_pos hok, UInt64.add_zero]
      show d.shm.messagesSent + d.shm.errors + 1 = _
      ac_rfl
    · rw [if_neg hok, if_neg hok, UInt64.add_zero]
      exact UInt64.add_assoc _ _ _
  · have htaken : UInt64.ofNat (handled ++ [d.request]).length =
        d.shm.messagesReceived + 1 := h.taken
    show UInt64.ofNat (handled ++ [d.request] ++ []).length = d.shm.messagesReceived + 1
    rw [List.append_nil]
    exact htaken
  · have hbounded := h.bounded
    simp only [Control.remaining] at hbounded ⊢
    omega

/-- A response whose request is within the window finds room. -/
theorem sentOff_complete {status : BootStatus}
    (h : Interleaved ⟨d, .sending left status, fw, locals, sent, received, handled, runs, steps⟩)
    {status' : BootStatus} {queue : IpcQueue} (accesses : List (Access HeaderField))
    (hc : queue.contents = d.shm.daemonToKernel.contents ++
      if status' = .success then [d.response] else [])
    (hiff : status' = .success ↔
      status = .success ∧ d.shm.daemonToKernel.contents.length < ipcQueueSize)
    (hs : Complete ⟨d, .sending left status, fw, locals, sent, received, handled, runs, steps⟩) :
    Complete ⟨{ d with shm.daemonToKernel := queue, accesses := accesses },
      .countingResponse left status', fw, locals, sent, received, handled ++ [d.request], runs,
      steps + 1⟩ := by
  have hstatus : status = .success ↔ d.request.answerable = true := (h.prepared left status rfl).1
  have hanswered : (received ++ d.shm.daemonToKernel.contents).length =
    (handled.filter (·.answerable)).length := hs.answered
  refine ⟨hs.window, ?_⟩
  show (received ++ queue.contents).length = ((handled ++ [d.request]).filter (·.answerable)).length
  rw [hc, ← List.append_assoc, List.length_append, hanswered, List.filter_append, List.length_append,
    List.filter_singleton]
  congr 1
  cases ha : d.request.answerable with
  | false =>
    rw [if_neg fun hok => Bool.false_ne_true (ha.symm.trans (hstatus.mp (hiff.mp hok).1))]
    rfl
  | true =>
    -- this request and those the responses are for are among those sent
    have hrequests : sent = handled ++ [d.request] ++ d.shm.kernelToDaemon.contents := h.requests
    have hwindow : (sent.filter (·.answerable)).length ≤ received.length + ipcQueueSize := hs.window
    rw [hrequests, List.filter_append, List.filter_append, List.filter_singleton, ha, cond_true,
      List.length_append, List.length_append, List.length_singleton] at hwindow
    rw [List.length_append] at hanswered
    rw [if_pos (hiff.mpr ⟨hstatus.mpr ha, by omega⟩)]
    rfl

/-- `messages_sent++`, or `errors++`. -/
theorem countedResponse {status : BootStatus}
    (h : Interleaved
      ⟨d, .countingResponse left status, fw, locals, sent, received, handled, runs, steps⟩)
    (accesses : List (Access HeaderField)) :
    Interleaved ⟨{ d with
        shm.messagesSent := d.shm.messagesSent + (Control.countingResponse left status).sentDue
        shm.errors := d.shm.errors + (Control.countingResponse left status).errorsDue
        accesses := accesses },
      .countingRequest left, fw, locals, sent, received, handled, runs, steps + 1⟩ where
  wf := h.wf
  requests := h.requests
  responses := h.responses
  prepared := nofun
  sent := h.sent.trans (UInt64.add_zero _).symm
  total := h.total.trans <| by
    show _ = _ + 0 + (_ + 0)
    rw [UInt64.add_zero, UInt64.add_zero]
  taken := h.taken
  calls := h.calls
  running := h.running
  unprocessed := nofun
  passes := h.passes
  served := h.served
  bounded := by
    have hbounded := h.bounded
    simp only [Control.remaining] at hbounded ⊢
    omega

/-- `messages_received++`. -/
theorem countedRequest
    (h : Interleaved ⟨d, .countingRequest left, fw, locals, sent, received, handled, runs, steps⟩)
    (accesses : List (Access HeaderField)) :
    Interleaved ⟨{ d with
        shm.messagesReceived := d.shm.messagesReceived + 1
        accesses := accesses },
      .looping left, fw, locals, sent, received, handled, runs, steps + 1⟩ where
  wf := h.wf
  requests := h.requests
  responses := h.responses
  prepared := nofun
  sent := h.sent
  total := h.total
  taken := h.taken.trans (UInt64.add_zero _).symm
  calls := h.calls
  running := h.running
  unprocessed := nofun
  passes := h.passes
  served := h.served
  bounded := by
    have hbounded := h.bounded
    simp only [Control.remaining] at hbounded ⊢
    omega

end

/-- A step of the daemon as an operation. -/
theorem exec_daemonStep {control : Control} {d : Daemon}
    (h : Dos25.daemonStep s.fw s.locals s.control s.daemon = .ok (control, d)) :
    ConcurrentOp.daemonStep.exec s = .ok { s with
      daemon := d
      control := control
      handled := match s.control with
        | .sending _ _ => s.handled ++ [s.daemon.request]
        | _ => s.handled
      steps := s.steps + 1 } := by
  rw [ConcurrentOp.exec, h]
  rfl

/-- **A step of the daemon can be taken and keeps the invariant.** -/
theorem daemonStep (h : Interleaved s) (hc : s.control ≠ .finished) :
    ∃ t, ConcurrentOp.daemonStep.exec s = .ok t ∧ Interleaved t ∧ (Complete s → Complete t) := by
  obtain ⟨d, control, fw, locals, sent, received, handled, runs, steps⟩ := s
  have hk : d.shm.kernelToDaemon.WF := h.wf .kernelToDaemon
  have hd : d.shm.daemonToKernel.WF := h.wf .daemonToKernel
  cases control with
  | looping left =>
    cases left with
    | zero => exact ⟨_, rfl, h.stopped d.accesses, fun hs => ⟨hs.window, hs.answered⟩⟩
    | succ left =>
      by_cases hr : d.running = true
      · cases hcontents : d.shm.kernelToDaemon.contents with
        | nil =>
          obtain ⟨accesses, he⟩ := daemonStep_idle fw locals left hr hk hcontents
          exact ⟨_, exec_daemonStep he, h.stopped accesses, fun hs => ⟨hs.window, hs.answered⟩⟩
        | cons r rest =>
          have hne : d.shm.kernelToDaemon.count.toNat ≠ 0 := by
            rw [← IpcQueue.contents_length, hcontents]
            exact Nat.succ_ne_zero _
          have hcons := hk.contents_cons hne
          rw [hcontents, List.cons.injEq] at hcons
          have hreceive := ipcReceiveMessage_spec hk d.request
          rw [hcontents] at hreceive
          exact ⟨_, exec_daemonStep (daemonStep_took fw locals left hr hreceive),
            h.took hr (hk.popped hne) (by rw [hcontents, hcons.2]),
            fun hs => ⟨hs.window, hs.answered⟩⟩
      · exact ⟨_, exec_daemonStep (if_neg hr), h.stopped d.accesses,
          fun hs => ⟨hs.window, hs.answered⟩⟩
  | processing left => exact ⟨_, rfl, h.processing, fun hs => ⟨hs.window, hs.answered⟩⟩
  | sending left status =>
    obtain ⟨status', queue, accesses, he, hq, hcontents, hiff⟩ :=
      daemonStep_sending fw locals left status hd
    refine ⟨_, exec_daemonStep he, h.sentOff accesses hq hcontents fun hs => ?_,
      h.sentOff_complete accesses hcontents hiff⟩
    exact (h.prepared left status rfl).1.mp (hiff.mp hs).1
  | countingResponse left status =>
    obtain ⟨accesses, he⟩ := daemonStep_countingResponse fw locals left status d
    exact ⟨_, exec_daemonStep he, h.countedResponse accesses, fun hs => ⟨hs.window, hs.answered⟩⟩
  | countingRequest left =>
    exact ⟨_, rfl, h.countedRequest _, fun hs => ⟨hs.window, hs.answered⟩⟩
  | finished => exact absurd rfl hc

/-- **Every allowed operation can be carried out and keeps the invariant**, and
no response is lost while the kernel keeps to its window. -/
theorem exec (h : Interleaved s) : ∀ op : ConcurrentOp, op.allowed s →
    ∃ t, op.exec s = .ok t ∧ Interleaved t ∧ (op.windowed s → Complete s → Complete t)
  | .kernelSend msg, _ => h.kernelSend msg
  | .kernelReceive buffer, _ => by
    obtain ⟨t, he, hi, hc⟩ := h.kernelReceive buffer
    exact ⟨t, he, hi, fun _ => hc⟩
  | .daemonStart fw stack, ha => by
    obtain ⟨t, he, hi, hc⟩ := h.daemonStart ha fw stack
    exact ⟨t, he, hi, fun _ => hc⟩
  | .daemonStep, ha => by
    obtain ⟨t, he, hi, hc⟩ := h.daemonStep ha
    exact ⟨t, he, hi, fun _ => hc⟩

end Interleaved

theorem Concurrent.Reachable.interleaved {header : SharedMemoryHeader} {s : Concurrent}
    (h : Concurrent.Reachable ConcurrentOp.allowed header s) : Interleaved s := by
  refine System.Reach.invariant (I := Interleaved) (Concurrent.start_interleaved header) ?_ h
  intro s op t hI ha hst
  obtain ⟨u, hu, hU, -⟩ := hI.exec op ha
  exact Except.ok.inj (hu.symm.trans hst) ▸ hU

theorem Concurrent.Reachable.complete {header : SharedMemoryHeader} {s : Concurrent}
    (h : Concurrent.Reachable ConcurrentOp.windowed header s) : Interleaved s ∧ Complete s := by
  refine System.Reach.invariant (I := fun s => Interleaved s ∧ Complete s)
    ⟨Concurrent.start_interleaved header, Concurrent.start_complete header⟩ ?_ h
  rintro s op t ⟨hI, hC⟩ hw hst
  obtain ⟨u, hu, hU, hUC⟩ := hI.exec op hw.1
  exact Except.ok.inj (hu.symm.trans hst) ▸ ⟨hU, hUC hw hC⟩

/-- **The books balance at every step.** Every message the kernel sent with
success is handled, in the daemon's hand or queued, in that order; the
responses, those received and then those queued, are by key a subsequence of
the answerable requests handled; the statistics are those of the responses
and requests, less what the daemon is about to count; and no allowed
operation faults. -/
theorem interleaved_books (header : SharedMemoryHeader) {s : Concurrent}
    (h : Concurrent.Reachable ConcurrentOp.allowed header s) :
    s.sent = s.handled ++ s.inHand ++ s.daemon.shm.kernelToDaemon.contents ∧
      ((s.received ++ s.daemon.shm.daemonToKernel.contents).map (·.key)).Sublist
        ((s.handled.filter (·.answerable)).map (·.key)) ∧
      UInt64.ofNat (s.received ++ s.daemon.shm.daemonToKernel.contents).length =
        s.daemon.shm.messagesSent + s.control.sentDue ∧
      UInt64.ofNat s.handled.length =
        s.daemon.shm.messagesSent + s.control.sentDue + (s.daemon.shm.errors + s.control.errorsDue) ∧
      UInt64.ofNat (s.handled ++ s.inHand).length =
        s.daemon.shm.messagesReceived + s.control.receivedDue ∧
      ∀ op : ConcurrentOp, op.allowed s → ∃ t, op.exec s = .ok t := by
  have hi := h.interleaved
  refine ⟨hi.requests, hi.responses, hi.sent, hi.total, hi.taken, fun op ha => ?_⟩
  obtain ⟨t, ht, -⟩ := hi.exec op ha
  exact ⟨t, ht⟩

/-- **A run of the daemon, whatever the kernel does.** Its firmware calls are
those of the requests it has processed, one each and in order; it has taken no
more than five, and none behind a shutdown; and no run has more than 26
steps. -/
theorem interleaved_run (header : SharedMemoryHeader) {s : Concurrent}
    (h : Concurrent.Reachable ConcurrentOp.allowed header s) :
    s.daemon.calls = s.processed.filterMap (·.firmwareCall) ∧
      toServe maxMessages s.daemon.served = s.daemon.served ∧
      s.steps + s.control.remaining ≤ 26 * s.runs := by
  have hi := h.interleaved
  exact ⟨hi.calls, hi.served, hi.bounded⟩

/-- **A kernel within its window gets every response.** If it sends only while
fewer answerable requests than a queue holds wait for their responses, the
responses received and then those queued are, by key, those of the answerable
requests handled, one each and in order; and `errors` counts the requests that
are not answerable. -/
theorem interleaved_window (header : SharedMemoryHeader) {s : Concurrent}
    (h : Concurrent.Reachable ConcurrentOp.windowed header s) :
    (s.received ++ s.daemon.shm.daemonToKernel.contents).map (·.key) =
        (s.handled.filter (·.answerable)).map (·.key) ∧
      s.received.map (·.key) <+: (s.sent.filter (·.answerable)).map (·.key) ∧
      s.daemon.shm.errors + s.control.errorsDue =
        UInt64.ofNat (s.handled.filter fun r => !r.answerable).length := by
  obtain ⟨hi, hc⟩ := h.complete
  have heq : (s.received ++ s.daemon.shm.daemonToKernel.contents).map (·.key) =
      (s.handled.filter (·.answerable)).map (·.key) :=
    hi.responses.eq_of_length (by rw [List.length_map, List.length_map, hc.answered])
  refine ⟨heq, ?_, ?_⟩
  · have hreceived : s.received.map (·.key) <+: (s.handled.filter (·.answerable)).map (·.key) := by
      rw [← heq, List.map_append]
      exact List.prefix_append _ _
    refine hreceived.trans ?_
    rw [hi.requests, List.append_assoc, List.filter_append, List.map_append]
    exact List.prefix_append _ _
  · have htotal := hi.total
    rw [← hi.sent, hc.answered, List.length_eq_length_filter_add (·.answerable),
      UInt64.ofNat_add] at htotal
    exact (UInt64.add_right_inj _).mp htotal.symm

/-- A `GET_TIME` request whose response the kernel has received before the
daemon counts it. -/
theorem Concurrent.exists_uncounted : ∃ s, Concurrent.Reachable ConcurrentOp.windowed .zero s ∧
    s.control = .countingResponse 4 .success ∧ s.received.length = 1 ∧
    s.daemon.shm.messagesSent = 0 ∧ s.daemon.calls = [.getTime] ∧ s.steps = 3 := by
  let ask : IpcMessage := { IpcMessage.zero with type := ipcMsgGetTime }
  have h : Concurrent.Reachable ConcurrentOp.windowed .zero (.start .zero) := .init
  have h1 := h.step (a := .kernelSend ask) ⟨by trivial, by decide⟩ rfl
  have h2 := h1.step (a := .daemonStart .idle .zero) ⟨by rfl, by trivial⟩ rfl
  have h3 := h2.step (a := .daemonStep) ⟨by nofun, by trivial⟩ rfl
  have h4 := h3.step (a := .daemonStep) ⟨by nofun, by trivial⟩ rfl
  have h5 := h4.step (a := .daemonStep) ⟨by nofun, by trivial⟩ rfl
  have h6 := h5.step (a := .kernelReceive .zero) ⟨by trivial, by trivial⟩ rfl
  exact ⟨_, h6, rfl, rfl, rfl, rfl, rfl⟩

theorem interleaved_books_uncounted : ∃ s : Concurrent, s.received.length = 1 ∧
    s.daemon.shm.messagesSent = 0 ∧
    UInt64.ofNat (s.received ++ s.daemon.shm.daemonToKernel.contents).length =
      s.daemon.shm.messagesSent + s.control.sentDue := by
  obtain ⟨s, h, -, hreceived, hsent, -⟩ := Concurrent.exists_uncounted
  exact ⟨s, hreceived, hsent, (interleaved_books .zero (h.mono fun _ _ ha => ha.1)).2.2.1⟩

theorem interleaved_run_uncounted : ∃ s : Concurrent, s.daemon.calls = [.getTime] ∧ s.steps = 3 ∧
    s.daemon.calls = s.processed.filterMap (·.firmwareCall) := by
  obtain ⟨s, h, -, -, -, hcalls, hsteps⟩ := Concurrent.exists_uncounted
  exact ⟨s, hcalls, hsteps, (interleaved_run .zero (h.mono fun _ _ ha => ha.1)).1⟩

theorem interleaved_window_uncounted : ∃ s : Concurrent, s.received.length = 1 ∧
    s.received.map (·.key) <+: (s.sent.filter (·.answerable)).map (·.key) := by
  obtain ⟨s, h, -, hreceived, -⟩ := Concurrent.exists_uncounted
  exact ⟨s, hreceived, (interleaved_window .zero h).2.1⟩

end Dos25
