/-
# A `ResetSystem` that does not return

`handle_reset_system` goes on behind its call of `ResetSystem`, "though we
shouldn't reach here for reset": `Daemon` models the calls that do come back.
Here the firmware decides for each call (`Firmware`). Where it resets the
machine the loop ends in the call, with the request taken and its response
neither sent nor counted.

What a run does can still be read off the queue before it starts: the first
request that resets the machine, if there is one among those it would take, ends it
(`Firmware.firstReset`). Up to that request the run is as on a firmware that
returns (`messageLoopOrReset_stops`), and without one it is the same run
(`messageLoopOrReset_returns`).

Key definitions: `Firmware`, `Ending`, `messageLoopOrReset`,
`jumpToKernelOrReset`.
-/
import Dos25.SelfTest

namespace Dos25

/-! ### The code -/

/-- Runtime services that may reset the machine. -/
structure Firmware extends RuntimeServices where
  /-- Whether `ResetSystem` does, given the calls before and the type. It
  returns the status of `resetSystem` otherwise. -/
  resets : List FirmwareCall → UInt32 → Bool

/-- Code that may call `ResetSystem` returns, or the machine is reset and the
daemon has got so far. -/
inductive Ending (α : Type)
  | returned (a : α)
  | reset (d : Daemon)

def Ending.map {α β : Type} (f : α → β) : Ending α → Ending β
  | .returned a => .returned (f a)
  | .reset d => .reset d

/-- `process_message` does not come back from `r`. -/
def Firmware.stops (fw : Firmware) (calls : List FirmwareCall) (r : IpcMessage) : Bool :=
  r.type == ipcMsgResetSystem && decide (4 ≤ r.size) && fw.resets calls r.resetType

/-- The daemon in the call for `r`, whose receive left `queue`: the response
has its header, but no status yet. -/
def Daemon.resetBy (d : Daemon) (r : IpcMessage) (queue : IpcQueue) : Daemon :=
  { d with
    shm.kernelToDaemon := queue
    request := r
    response := r.prepared.reply r 4
    served := d.served ++ [r]
    calls := d.calls ++ [.resetSystem r.resetType]
    accesses := d.accesses ++
      (ipcReceiveMessageAccesses d.shm.kernelToDaemon).map (.map .kernelToDaemon) }

/-- The loop of `messageLoop`, on such a machine. -/
def messageLoopOrReset (fw : Firmware) (locals : ℕ → StackLocals) :
    ℕ → Daemon → Except Fault (Ending Daemon)
  | 0, d => .ok (.returned d)
  | left + 1, d =>
    if d.running then do
      let (status, r, queue) ← ipcReceiveMessage d.shm.kernelToDaemon d.request
      if status = .success ∧ fw.stops d.calls r then .ok (.reset (d.resetBy r queue))
      else do
        -- the pass as a whole, its receive included
        let (continues, d) ← messageLoopBody fw.toRuntimeServices (locals left) d
        if continues then messageLoopOrReset fw locals left d else .ok (.returned d)
    else .ok (.returned d)

def daemonMessageLoopOrReset (sharedMem : Option SharedMemoryHeader) (rtServices : Option Firmware)
    (stack : Stack) : Except Fault (Ending (BootStatus × Option Daemon)) :=
  match sharedMem, rtServices with
  | some shm, some fw => do
    let ending ← messageLoopOrReset fw stack.locals maxMessages (.start shm stack)
    .ok (ending.map fun d => (.success, some d.printStatistics))
  | _, _ => .ok (.returned (.error, none))

def startRuntimeDaemonOrReset (sharedHeader : Option SharedMemoryHeader)
    (rtServices : Option Firmware) (stack : Stack) :
    Except Fault (Ending (BootStatus × Option Daemon)) :=
  match sharedHeader, rtServices with
  | some shm, some fw =>
    if shm.magic ≠ sharedMemMagic then .ok (.returned (.error, none))
    else daemonMessageLoopOrReset (some shm) (some fw) stack
  | _, _ => .ok (.returned (.error, none))

def jumpToKernelOrReset (sharedMem : SharedMemoryHeader) (rtServices : Option Firmware)
    (stack : Stack) : Except Fault (Ending (BootStatus × Option Daemon)) := do
  let (_, queue) ← ipcSendMessage sharedMem.kernelToDaemon getTimeMessage
  let ending ← startRuntimeDaemonOrReset (some { sharedMem with kernelToDaemon := queue }) rtServices
    stack
  .ok (ending.map fun p => (.success, p.2))

/-! ### Which request ends the run -/

/-- The first of the requests that resets the machine, and those before it. -/
def Firmware.firstReset (fw : Firmware) :
    List FirmwareCall → List IpcMessage → Option (List IpcMessage × IpcMessage)
  | _, [] => none
  | calls, r :: rest =>
    if fw.stops calls r then some ([], r)
    else (fw.firstReset (calls ++ r.firmwareCall.toList) rest).map fun p => (r :: p.1, p.2)

/-- A shutdown is no reset. -/
theorem Firmware.stops_shutdown (fw : Firmware) (calls : List FirmwareCall) {r : IpcMessage}
    (h : r.type = ipcMsgShutdown) : fw.stops calls r = false := by
  simp [stops, h, ipcMsgShutdown, ipcMsgResetSystem]

section

variable (fw : Firmware) (locals : ℕ → StackLocals) (left : ℕ) {d : Daemon}

theorem messageLoopOrReset_stopped (h : d.running = false) :
    messageLoopOrReset fw locals left d = .ok (.returned d) := by
  cases left with
  | zero => rfl
  | succ left => rw [messageLoopOrReset, h, if_neg Bool.false_ne_true]

/-- Nothing to take. -/
theorem messageLoopOrReset_nil (h : d.shm.WF) (hr : d.running = true)
    (hc : d.shm.kernelToDaemon.contents = []) :
    messageLoopOrReset fw locals (left + 1) d =
      (messageLoop fw.toRuntimeServices locals (left + 1) d).map .returned := by
  have hk : d.shm.kernelToDaemon.WF := h .kernelToDaemon
  obtain ⟨d', he, -⟩ := messageLoopBody_nil fw.toRuntimeServices (locals left) h hc
  rw [messageLoopOrReset, if_pos hr, messageLoop, if_pos hr, ipcReceiveMessage_spec hk, hc, he]
  rfl

variable {r : IpcMessage} {rest : List IpcMessage}

theorem messageLoopOrReset_cons (h : d.shm.WF) (hr : d.running = true)
    (hc : d.shm.kernelToDaemon.contents = r :: rest) :
    messageLoopOrReset fw locals (left + 1) d =
      if fw.stops d.calls r then .ok (.reset (d.resetBy r d.shm.kernelToDaemon.popped))
      else messageLoopBody fw.toRuntimeServices (locals left) d >>= fun p =>
        if p.1 then messageLoopOrReset fw locals left p.2 else .ok (.returned p.2) := by
  have hk : d.shm.kernelToDaemon.WF := h .kernelToDaemon
  rw [messageLoopOrReset, if_pos hr, ipcReceiveMessage_spec hk, hc]
  show (if BootStatus.success = .success ∧ fw.stops d.calls r = true then _ else _) = _
  by_cases hs : fw.stops d.calls r = true
  · rw [if_pos ⟨rfl, hs⟩, if_pos hs]
  · rw [if_neg fun h' => hs h'.2, if_neg hs]

/-- A pass that comes back is a pass of both loops. -/
theorem messageLoopOrReset_pass (h : d.shm.WF) (hr : d.running = true)
    (hc : d.shm.kernelToDaemon.contents = r :: rest) (hs : fw.stops d.calls r = false) :
    ∃ d1, Pass fw.toRuntimeServices (locals left) d r d1 ∧
      d1.shm.kernelToDaemon.contents = rest ∧
      messageLoopOrReset fw locals (left + 1) d = messageLoopOrReset fw locals left d1 ∧
      messageLoop fw.toRuntimeServices locals (left + 1) d =
        messageLoop fw.toRuntimeServices locals left d1 := by
  obtain ⟨d1, he, hp⟩ := messageLoopBody_cons fw.toRuntimeServices (locals left) h hc
  have hrequests := hp.requests
  rw [hc, List.cons.injEq] at hrequests
  refine ⟨d1, hp, hrequests.2.symm, ?_, ?_⟩
  · rw [messageLoopOrReset_cons fw locals left h hr hc, hs, if_neg Bool.false_ne_true, he]
    rfl
  · rw [messageLoop, if_pos hr, he]
    rfl

end

section

variable (fw : Firmware) (locals : ℕ → StackLocals)

/-- **Where no request resets the machine**, the run is that of the loop. -/
theorem messageLoopOrReset_returns : ∀ (left : ℕ) {d : Daemon}, d.shm.WF → d.running = true →
    fw.firstReset d.calls (toServe left d.shm.kernelToDaemon.contents) = none →
    messageLoopOrReset fw locals left d =
      (messageLoop fw.toRuntimeServices locals left d).map .returned
  | 0, _, _, _, _ => rfl
  | left + 1, d, h, hr, hn => by
    cases hc : d.shm.kernelToDaemon.contents with
    | nil => exact messageLoopOrReset_nil fw locals left h hr hc
    | cons r rest =>
      rw [hc, toServe] at hn
      by_cases ht : r.type = ipcMsgShutdown
      · -- the shutdown ends both loops
        obtain ⟨d1, hp, -, hgo, hloop⟩ := messageLoopOrReset_pass fw locals left h hr hc
          (fw.stops_shutdown d.calls ht)
        have hstop : d1.running = false := by
          rw [hp.running, ht, bne_self_eq_false, Bool.and_false]
        rw [hgo, hloop, messageLoopOrReset_stopped fw locals left hstop,
          messageLoop_stopped fw.toRuntimeServices locals left hstop]
        rfl
      · rw [if_neg ht, Firmware.firstReset] at hn
        cases hs : fw.stops d.calls r with
        | true =>
          rw [hs, if_pos rfl] at hn
          exact absurd hn (Option.some_ne_none _)
        | false =>
          obtain ⟨d1, hp, hrest, hgo, hloop⟩ := messageLoopOrReset_pass fw locals left h hr hc hs
          have hrun : d1.running = true := by rw [hp.running, hr]; simpa using ht
          rw [hs, if_neg Bool.false_ne_true, Option.map_eq_none_iff, ← hp.calls_eq, ← hrest] at hn
          rw [hgo, hloop]
          exact messageLoopOrReset_returns left hp.wf hrun hn

/-- **Where `r` resets the machine**, the requests before it are served as by
the loop, and the run ends in the call for `r`. -/
theorem messageLoopOrReset_stops : ∀ (left : ℕ) {d : Daemon}, d.shm.WF → d.running = true →
    ∀ {before : List IpcMessage} {r : IpcMessage},
    fw.firstReset d.calls (toServe left d.shm.kernelToDaemon.contents) = some (before, r) →
    ∃ d1 responses queue, Ran d before responses d1 ∧
      d1.calls = d.calls ++ before.filterMap (·.firmwareCall) ∧
      d1.shm.kernelToDaemon.contents = r :: queue.contents ∧
      messageLoopOrReset fw locals left d = .ok (.reset (d1.resetBy r queue))
  | 0, _, _, _, _, _, hf => absurd hf.symm (Option.some_ne_none _)
  | left + 1, d, h, hr, before, r, hf => by
    cases hc : d.shm.kernelToDaemon.contents with
    | nil =>
      rw [hc] at hf
      exact absurd hf.symm (Option.some_ne_none _)
    | cons r' rest =>
      have hk : d.shm.kernelToDaemon.WF := h .kernelToDaemon
      cases hs : fw.stops d.calls r' with
      | true =>
        -- the run ends in this pass, before which it has done nothing
        have hne : d.shm.kernelToDaemon.count.toNat ≠ 0 := by
          rw [← IpcQueue.contents_length, hc]
          simp
        have ht : r'.type ≠ ipcMsgShutdown := by
          intro ht
          rw [fw.stops_shutdown d.calls ht] at hs
          exact Bool.false_ne_true hs
        rw [hc, toServe, if_neg ht, Firmware.firstReset, hs, if_pos rfl] at hf
        obtain ⟨rfl, rfl⟩ := Prod.mk.inj (Option.some.inj hf)
        refine ⟨d, [], d.shm.kernelToDaemon.popped, .nil h (.refl d), ?_, ?_, ?_⟩
        · rw [List.filterMap_nil, List.append_nil]
        · have hcons := hk.contents_cons hne
          rw [hc, List.cons.injEq] at hcons
          rw [hc, hcons.2]
        · rw [messageLoopOrReset_cons fw locals left h hr hc, hs, if_pos rfl]
      | false =>
        obtain ⟨d1, hp, hrest, hgo, -⟩ := messageLoopOrReset_pass fw locals left h hr hc hs
        rw [hc, toServe] at hf
        by_cases ht : r'.type = ipcMsgShutdown
        · -- nothing behind the shutdown is taken
          rw [if_pos ht, Firmware.firstReset, hs, if_neg Bool.false_ne_true] at hf
          exact absurd hf.symm (Option.some_ne_none _)
        · rw [if_neg ht, Firmware.firstReset, hs, if_neg Bool.false_ne_true, ← hp.calls_eq,
            ← hrest] at hf
          obtain ⟨⟨before', r''⟩, hfirst, he⟩ := Option.map_eq_some_iff.mp hf
          obtain ⟨rfl, rfl⟩ := Prod.mk.inj he
          have hrun : d1.running = true := by rw [hp.running, hr]; simpa using ht
          obtain ⟨d2, responses, queue, hran, hcalls, hcontents, hend⟩ :=
            messageLoopOrReset_stops left hp.wf hrun hfirst
          refine ⟨d2, _, queue, hp.cons hran, ?_, hcontents, hgo.trans hend⟩
          rw [hcalls, hp.calls_eq, filterMap_firmwareCall_cons, List.append_assoc]

end

section

variable (fw : Firmware) (stack : Stack) {shm : SharedMemoryHeader} (h : shm.WF)

include h

/-- A run that returns. -/
theorem daemonMessageLoopOrReset_returns
    (hn : fw.firstReset [] (toServe maxMessages shm.kernelToDaemon.contents) = none) :
    daemonMessageLoopOrReset (some shm) (some fw) stack =
      (daemonMessageLoop (some shm) (some fw.toRuntimeServices) stack).map .returned := by
  rw [daemonMessageLoopOrReset, daemonMessageLoop, runDaemon,
    messageLoopOrReset_returns fw stack.locals maxMessages (d := .start shm stack) h rfl hn]
  cases messageLoop fw.toRuntimeServices stack.locals maxMessages (.start shm stack) <;> rfl

/-- A run that does not. -/
theorem daemonMessageLoopOrReset_stops {before : List IpcMessage} {r : IpcMessage}
    (hs : fw.firstReset [] (toServe maxMessages shm.kernelToDaemon.contents) = some (before, r)) :
    ∃ d responses queue, Ran (.start shm stack) before responses d ∧
      d.calls = before.filterMap (·.firmwareCall) ∧
      d.shm.kernelToDaemon.contents = r :: queue.contents ∧
      daemonMessageLoopOrReset (some shm) (some fw) stack = .ok (.reset (d.resetBy r queue)) := by
  obtain ⟨d, responses, queue, hran, hcalls, hrest, hloop⟩ :=
    messageLoopOrReset_stops fw stack.locals maxMessages (d := .start shm stack) h rfl hs
  refine ⟨d, responses, queue, hran, hcalls, hrest, ?_⟩
  rw [daemonMessageLoopOrReset, hloop]
  rfl

end

/-- **A run on a machine that `ResetSystem` may reset.** On well-formed queues
the first request it would take whose call resets the machine ends the run, and without
one the run is that of `daemonMessageLoop`. In the call, the requests before it
are served as ever: their firmware calls are made, each response sent is that
of an answerable one, in order, and the statistics count them. The request in
hand is neither answered nor counted, and those behind it still wait. -/
theorem daemonMessageLoopOrReset_run (fw : Firmware) (stack : Stack) {shm : SharedMemoryHeader}
    (h : shm.WF) :
    (fw.firstReset [] (toServe maxMessages shm.kernelToDaemon.contents) = none →
      daemonMessageLoopOrReset (some shm) (some fw) stack =
        (daemonMessageLoop (some shm) (some fw.toRuntimeServices) stack).map .returned) ∧
    ∀ before r, fw.firstReset [] (toServe maxMessages shm.kernelToDaemon.contents) =
        some (before, r) →
      ∃ d responses, daemonMessageLoopOrReset (some shm) (some fw) stack = .ok (.reset d) ∧
        d.served = before ++ [r] ∧
        d.calls = before.filterMap (·.firmwareCall) ++ [.resetSystem r.resetType] ∧
        shm.kernelToDaemon.contents = before ++ r :: d.shm.kernelToDaemon.contents ∧
        d.shm.daemonToKernel.contents = shm.daemonToKernel.contents ++ responses ∧
        (responses.map (·.key)).Sublist ((before.filter (·.answerable)).map (·.key)) ∧
        d.shm.messagesSent = shm.messagesSent + UInt64.ofNat responses.length ∧
        d.shm.messagesReceived = shm.messagesReceived + UInt64.ofNat before.length ∧
        d.shm.errors = shm.errors + UInt64.ofNat (before.length - responses.length) := by
  refine ⟨daemonMessageLoopOrReset_returns fw stack h, fun before r hs => ?_⟩
  obtain ⟨d, responses, queue, hran, hcalls, hrest, hrun⟩ :=
    daemonMessageLoopOrReset_stops fw stack h hs
  refine ⟨d.resetBy r queue, responses, hrun, congrArg (· ++ [r]) hran.served,
    congrArg (· ++ [FirmwareCall.resetSystem r.resetType]) hcalls, ?_, hran.appended, hran.keys, hran.sent,
    hran.received, hran.errors⟩
  show shm.kernelToDaemon.contents = before ++ r :: queue.contents
  rw [← hrest]
  exact hran.taken

/-- A firmware that shuts down when asked, and two requests behind that one. -/
theorem daemonMessageLoopOrReset_run_shutdown :
    ∃ d, daemonMessageLoopOrReset
        (some (queued [getTimeMessage, resetSystemMessage, getTimeMessage, getTimeMessage]))
        (some { RuntimeServices.idle with resets := fun _ t => t == dos25ResetShutdown }) .zero =
          .ok (.reset d) ∧
      d.calls = [.getTime, .resetSystem dos25ResetShutdown] ∧
      d.shm.kernelToDaemon.contents = [getTimeMessage, getTimeMessage] := by
  obtain ⟨hwf, hcontents⟩ := queued_spec
    [getTimeMessage, resetSystemMessage, getTimeMessage, getTimeMessage] (by decide)
  have hrun := (daemonMessageLoopOrReset_run
    { RuntimeServices.idle with resets := fun _ t => t == dos25ResetShutdown } .zero hwf).2
    [getTimeMessage] resetSystemMessage
  rw [hcontents] at hrun
  obtain ⟨d, -, he, -, hcalls, hrest, -⟩ := hrun rfl
  exact ⟨d, he, hcalls, (List.cons.inj (List.cons.inj hrest).2).2.symm⟩

/-! ### The handover -/

section

variable {shm : SharedMemoryHeader} (stack : Stack) (h : shm.WF)

include h

theorem jumpToKernelOrReset_eq (hm : shm.magic = sharedMemMagic)
    (hl : shm.kernelToDaemon.contents.length < ipcQueueSize) (fw : Firmware) :
    jumpToKernelOrReset shm (some fw) stack = (daemonMessageLoopOrReset
      (some { shm with kernelToDaemon := shm.kernelToDaemon.pushed getTimeMessage })
      (some fw) stack).map fun ending => ending.map fun p => (.success, p.2) := by
  rw [jumpToKernelOrReset, ipcSendMessage_handover h hl]
  show (startRuntimeDaemonOrReset (some { shm with
    kernelToDaemon := shm.kernelToDaemon.pushed getTimeMessage }) (some fw) stack >>= _) = _
  rw [startRuntimeDaemonOrReset, if_neg (not_not.mpr hm)]
  cases daemonMessageLoopOrReset _ (some fw) stack <;> rfl

/-- Without runtime services no daemon is started. -/
theorem jumpToKernelOrReset_none :
    jumpToKernelOrReset shm none stack = .ok (.returned (.success, none)) := by
  have hk : shm.kernelToDaemon.WF := h .kernelToDaemon
  rw [jumpToKernelOrReset, ipcSendMessage_spec hk]
  split_ifs <;> rfl

end

end Dos25
