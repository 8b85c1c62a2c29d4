/-
# `main.c`: the whole boot

`efi_main` initialises the boot parameters, runs the self test of the queues,
whose failure is only printed, and hands over to `jump_to_kernel`, which starts
the daemon. What the firmware answers, what the pages and the stack hold and
what the runtime services do are all parameters (`Platform`). The self test and
the daemon work on the pages at `shared_header`; an address of zero is a fault.
That region is written by these operations alone: neither the firmware nor the
kernel's pages use what lies behind the granted pages (`BootMemory` is about
kernel's pages that do).

Two things can go wrong before that: the division of `get_memory_map_simple`,
and the stores to the end of the header, which lies in no page that was granted
(`Platform.Sound`). Otherwise `efi_main` returns `EFI_ABORTED` where the
initialisation fails; where it succeeds, the daemon serves the self test's
messages, and the second of them asks for `ResetSystem`. There the boot ends,
unless that call returns: then the daemon goes on, and `efi_main` returns
`EFI_SUCCESS` (`efiMain_run`).

Key definitions: `Platform`, `BootRun`, `efiMain`, `SharedMemoryHeader.Fresh`,
`Booted`, `ShutDown`.
-/
import Dos25.BootInit
import Dos25.Reset

namespace Dos25

/-- `EFI_ABORTED`. -/
def efiAborted : EfiStatus := 0x8000000000000015

/-- The machine that calls `efi_main`. -/
structure Platform where
  bootServices : BootServices
  /-- The address `ST->RuntimeServices`, and the services there. -/
  runtimeServices : UInt64
  firmware : Firmware
  graphics : Graphics
  /-- What the stack holds where `boot_params` and the messages of the self
  test and the daemon come to lie. -/
  params : BootParams
  testResponse : IpcMessage
  stack : Stack
  /-- What the shared pages, and what lies behind them, hold. -/
  memory : SharedMemoryHeader
  /-- Whether the header's bytes behind the granted pages can be read and
  written. -/
  endMapped : Bool

/-- What a boot leaves: the status, the parameters, the daemon's run if it was
started, and how many keys were read. -/
structure BootRun where
  status : EfiStatus
  params : BootParams
  graphics : Graphics
  daemon : Option Daemon
  keys : ℕ

/-- A fault of a queue access, a division by zero, or an access to the address
zero or behind the granted pages. -/
inductive BootFault
  | queue (fault : Fault)
  | divisionByZero
  | nullHeader
  | headerEnd
  deriving DecidableEq, Repr

/-- Lifts a fault of the queues. -/
def queueFault {α : Type} : Except Fault α → Except BootFault α
  | .ok a => .ok a
  | .error e => .error (.queue e)

/-- One key is read. -/
def waitForKeypress (keys : ℕ) : ℕ := keys + 1

/-- The fault of `boot_params_init`, if there is one. Each run that gets behind
`AllocatePages` writes to the end of the header: `initialize_ipc_queues` sets
the statistics there. -/
def Platform.initFault (m : Platform) : Option BootFault :=
  if getMemoryMapSimpleFaults m.bootServices then some .divisionByZero
  else if getMemoryMapSimple m.bootServices ≠ .success then none
  else if efiError m.bootServices.sharedPages.status then none
  else if m.endMapped then none
  else some .headerEnd

/-- What `jump_to_kernel` returns decides; it has waited for a key too. -/
def BootRun.afterHandover (params : BootParams) (graphics : Graphics)
    (p : BootStatus × Option Daemon) : BootRun :=
  let keys := waitForKeypress 0
  if p.1 ≠ .success then ⟨efiAborted, params, graphics, p.2, waitForKeypress keys⟩
  else ⟨0, params, graphics, p.2, keys⟩

/-- `.reset` is a boot that ends in a call of `ResetSystem`. -/
def efiMain (m : Platform) : Except BootFault (Ending BootRun) :=
  match m.initFault with
  | some fault => .error fault
  | none =>
    let (status, params, memory, graphics) :=
      bootParamsInit m.bootServices m.runtimeServices m.graphics m.params m.memory
    if status ≠ .success then
      .ok (.returned ⟨efiAborted, params, graphics, none, waitForKeypress 0⟩)
    else do
      -- a failure of the self test is only printed
      let (_, header) ← queueFault
        (runIpcTests (if params.sharedHeader ≠ 0 then some memory else none) m.testResponse)
      match header with
      | none => .error .nullHeader
      | some sharedMem => do
        let ending ← queueFault (jumpToKernelOrReset sharedMem
          (if params.rtServices ≠ 0 then some m.firmware else none) m.stack)
        .ok (ending.map (.afterHandover params graphics))

/-! ### The shared region after the initialisation -/

/-- The initialised region, with the address of the runtime services. -/
def initialRegion (runtimeServices : UInt64) (memory : SharedMemoryHeader) : SharedMemoryHeader :=
  { (initializeIpcQueues memory).2 with
    rtServices := runtimeServices
    rtServicesPhys := runtimeServices }

section

variable {bs : BootServices} {runtimeServices : UInt64} {g : Graphics} {params : BootParams}
  {memory : SharedMemoryHeader}

/-- The pages hold an initialised region with the address of the runtime
services. -/
theorem bootParamsInit_memory (h : bs.Succeeds) (ha : bs.sharedPages.address ≠ 0) :
    (bootParamsInit bs runtimeServices g params memory).2.2.1 =
      initialRegion runtimeServices memory := by
  have hmapped : getMemoryMapSimple bs = .success := if_neg (not_not.mpr h.getMemoryMap)
  simp [initialRegion, bootParamsInit, hmapped, setupSharedMemory_ok h.sharedPages,
    preserveRuntimeServices, loadKernel, h.kernelPages, ha]

/-- A header that was set up and that nobody has used yet. -/
structure SharedMemoryHeader.Fresh (h : SharedMemoryHeader) : Prop where
  wf : h.WF
  requests : h.kernelToDaemon.contents = []
  responses : h.daemonToKernel.contents = []
  magic : h.magic = sharedMemMagic
  version : h.version = dos25RuntimeVersion
  size : h.size = UInt32.ofNat sharedMemSize
  messagesSent : h.messagesSent = 0
  messagesReceived : h.messagesReceived = 0
  errors : h.errors = 0

theorem initialRegion_fresh (runtimeServices : UInt64) (memory : SharedMemoryHeader) :
    (initialRegion runtimeServices memory).Fresh where
  wf := .of (IpcQueue.initialized_wf _) (IpcQueue.initialized_wf _)
  requests := IpcQueue.initialized_contents _
  responses := IpcQueue.initialized_contents _
  magic := rfl
  version := rfl
  size := rfl
  messagesSent := rfl
  messagesReceived := rfl
  errors := rfl

/-- The self test accepts it. -/
theorem SharedMemoryHeader.Fresh.intact {h : SharedMemoryHeader} (hf : h.Fresh) :
    testSharedMemory h = .success := by
  have hk : h.kernelToDaemon.capacity = 256 := (hf.wf .kernelToDaemon).capacity
  have hd : h.daemonToKernel.capacity = 256 := (hf.wf .daemonToKernel).capacity
  simp [testSharedMemory, hf.magic, hf.version, hf.size, hk, hd, ipcQueueSize]

end

/-- The region after the self test: its two messages are queued, and the
statistics are still zero. -/
structure SharedMemoryHeader.Tested (h : SharedMemoryHeader) : Prop where
  wf : h.WF
  magic : h.magic = sharedMemMagic
  requests : h.kernelToDaemon.contents = [getTimeMessage, resetSystemMessage]
  responses : h.daemonToKernel.contents = []
  messagesSent : h.messagesSent = 0
  messagesReceived : h.messagesReceived = 0
  errors : h.errors = 0

theorem SharedMemoryHeader.Fresh.tested {h : SharedMemoryHeader} (hf : h.Fresh)
    (response : IpcMessage) : ∃ shm : SharedMemoryHeader,
      runIpcTests (some h) response = .ok (.success, some shm) ∧ shm.Tested := by
  have hk : h.kernelToDaemon.WF := hf.wf .kernelToDaemon
  have hlen : h.kernelToDaemon.contents.length = 0 := by rw [hf.requests, List.length_nil]
  have h0 : h.kernelToDaemon.count.toNat < ipcQueueSize := by
    rw [← IpcQueue.contents_length, hlen]
    decide
  have hwf := hk.pushed h0 getTimeMessage
  have h1 : (h.kernelToDaemon.pushed getTimeMessage).count.toNat < ipcQueueSize := by
    rw [← IpcQueue.contents_length, hk.pushed_length h0, hlen]
    decide
  obtain ⟨queue, hq, htail, he⟩ := testIpcCommunication_two response hf.wf (by rw [hlen]; decide)
  refine ⟨{ h with
      kernelToDaemon := (h.kernelToDaemon.pushed getTimeMessage).pushed resetSystemMessage
      daemonToKernel := queue }, ?_, {
    wf := .of (hwf.pushed h1 resetSystemMessage) hq
    magic := hf.magic
    requests := ?_
    responses := ?_
    messagesSent := hf.messagesSent
    messagesReceived := hf.messagesReceived
    errors := hf.errors }⟩
  · rw [runIpcTests, if_neg (by simp [hf.intact]), he]
    rfl
  · rw [hwf.pushed_contents h1, hk.pushed_contents h0, hf.requests]
    rfl
  · rw [htail, hf.responses]
    rfl

/-! ### The handover -/

/-- What the daemon of a boot has done when it returns. -/
structure Booted (d : Daemon) : Prop where
  served : d.served = [getTimeMessage, resetSystemMessage, getTimeMessage]
  calls : d.calls = [.getTime, .resetSystem dos25ResetShutdown, .getTime]
  requests : d.shm.kernelToDaemon.contents = []
  responses : d.shm.daemonToKernel.contents.map (·.key) =
    [getTimeMessage.key, resetSystemMessage.key, getTimeMessage.key]
  sent : d.shm.messagesSent = 3
  received : d.shm.messagesReceived = 3
  errors : d.shm.errors = 0

/-- What it has done when the machine shuts down: the second message is in
hand, the third still waits. -/
structure ShutDown (d : Daemon) : Prop where
  served : d.served = [getTimeMessage, resetSystemMessage]
  calls : d.calls = [.getTime, .resetSystem dos25ResetShutdown]
  requests : d.shm.kernelToDaemon.contents = [getTimeMessage]
  responses : d.shm.daemonToKernel.contents.map (·.key) = [getTimeMessage.key]
  sent : d.shm.messagesSent = 1
  received : d.shm.messagesReceived = 1
  errors : d.shm.errors = 0

/-- The messages a boot's daemon finds. -/
def bootMessages : List IpcMessage := [getTimeMessage, resetSystemMessage, getTimeMessage]

/-- Only the call for the second can end the boot. -/
theorem Firmware.firstReset_boot (fw : Firmware) :
    fw.firstReset [] (toServe maxMessages bootMessages) =
      if fw.resets [.getTime] dos25ResetShutdown then some ([getTimeMessage], resetSystemMessage)
      else none := by
  have hfirst : fw.stops [] getTimeMessage = false := rfl
  have hsecond : fw.stops [.getTime] resetSystemMessage =
      fw.resets [.getTime] dos25ResetShutdown := rfl
  have hthird : ∀ calls, fw.stops calls getTimeMessage = false := fun _ => rfl
  have hcall : ([] : List FirmwareCall) ++ getTimeMessage.firmwareCall.toList = [.getTime] := rfl
  have hserve : toServe maxMessages bootMessages = bootMessages := rfl
  rw [hserve, bootMessages, firstReset, hfirst, if_neg Bool.false_ne_true, hcall, firstReset, hsecond]
  cases fw.resets [.getTime] dos25ResetShutdown with
  | true => rfl
  | false => rw [if_neg Bool.false_ne_true, firstReset, hthird]; rfl

namespace SharedMemoryHeader.Tested

variable {shm : SharedMemoryHeader} (h : shm.Tested) (stack : Stack)

include h

theorem length_lt : shm.kernelToDaemon.contents.length < ipcQueueSize := by
  rw [h.requests]
  decide

/-- The region as `jump_to_kernel` hands it to the daemon. -/
theorem handedOver : SharedMemoryHeader.WF { shm with
      kernelToDaemon := shm.kernelToDaemon.pushed getTimeMessage } ∧
    (shm.kernelToDaemon.pushed getTimeMessage).contents = bootMessages := by
  have hk : shm.kernelToDaemon.WF := h.wf .kernelToDaemon
  have hc : shm.kernelToDaemon.count.toNat < ipcQueueSize := by
    rw [← IpcQueue.contents_length]
    exact h.length_lt
  refine ⟨.of (hk.pushed hc _) (h.wf .daemonToKernel), ?_⟩
  rw [hk.pushed_contents hc, h.requests]
  rfl

/-- The responses and the statistics show every request served, where all of
them could be answered. -/
theorem counted {served responses : List IpcMessage} {d : Daemon}
    (hran : Ran (.start { shm with
      kernelToDaemon := shm.kernelToDaemon.pushed getTimeMessage } stack) served responses d)
    (ha : served.filter (·.answerable) = served) (hl : served.length ≤ ipcQueueSize) :
    d.shm.daemonToKernel.contents.map (·.key) = served.map (·.key) ∧
      d.shm.messagesSent = UInt64.ofNat served.length ∧
      d.shm.messagesReceived = UInt64.ofNat served.length ∧ d.shm.errors = 0 := by
  have hroom : shm.daemonToKernel.contents.length + served.length ≤ ipcQueueSize := by
    rwa [h.responses, List.length_nil, Nat.zero_add]
  have hkeys : responses.map (·.key) = served.map (·.key) := by
    rw [hran.room hroom, ha]
  have hlen : responses.length = served.length := by
    rw [← List.length_map (·.key), hkeys, List.length_map]
  have happended : d.shm.daemonToKernel.contents = shm.daemonToKernel.contents ++ responses :=
    hran.appended
  have hsent : d.shm.messagesSent = shm.messagesSent + UInt64.ofNat responses.length := hran.sent
  have hreceived : d.shm.messagesReceived =
      shm.messagesReceived + UInt64.ofNat served.length := hran.received
  have herrors : d.shm.errors =
      shm.errors + UInt64.ofNat (served.length - responses.length) := hran.errors
  refine ⟨?_, ?_, ?_, ?_⟩
  · rw [happended, h.responses, List.nil_append, hkeys]
  · rw [hsent, h.messagesSent, hlen, UInt64.zero_add]
  · rw [hreceived, h.messagesReceived, UInt64.zero_add]
  · rw [herrors, h.errors, hlen, Nat.sub_self]
    rfl

/-- Where `ResetSystem` returns, the daemon serves all three messages. -/
theorem booted (fw : RuntimeServices) :
    ∃ d, jumpToKernel shm (some fw) stack = .ok (.success, some d) ∧ Booted d := by
  obtain ⟨hwf, hcontents⟩ := h.handedOver
  let sent : SharedMemoryHeader :=
    { shm with kernelToDaemon := shm.kernelToDaemon.pushed getTimeMessage }
  have hserve : toServe maxMessages sent.kernelToDaemon.contents = bootMessages := by
    rw [hcontents]
    rfl
  obtain ⟨d, responses, hrun, hran⟩ := daemonMessageLoop_spec fw stack hwf
  obtain ⟨d', hrun', hturns⟩ := daemonMessageLoop_turns fw stack hwf
  obtain rfl : d = d' := by
    rw [hrun] at hrun'
    exact Option.some.inj (Prod.mk.inj (Except.ok.inj hrun')).2
  have hran : Ran (.start sent stack) bootMessages responses d := hserve ▸ hran
  obtain ⟨hresponses, hsent, hreceived, herrors⟩ := h.counted stack hran rfl (by decide)
  refine ⟨d, ?_, {
    served := hran.served
    calls := ?_
    requests := ?_
    responses := hresponses
    sent := hsent
    received := hreceived
    errors := herrors }⟩
  · rw [jumpToKernel_eq fw stack h.wf h.magic h.length_lt, hrun]
    rfl
  · have hcalls : d.calls = (toServe maxMessages sent.kernelToDaemon.contents).filterMap
        (·.firmwareCall) := hturns.calls
    rw [hcalls, hserve]
    rfl
  · have htaken : sent.kernelToDaemon.contents = _ := hran.taken
    rw [hcontents] at htaken
    exact (List.append_cancel_left ((List.append_nil _).trans htaken)).symm

/-- So does it on a firmware that lets this call return. -/
theorem returns {fw : Firmware} (hr : fw.resets [.getTime] dos25ResetShutdown = false) :
    ∃ d, jumpToKernelOrReset shm (some fw) stack = .ok (.returned (.success, some d)) ∧
      Booted d := by
  obtain ⟨hwf, hcontents⟩ := h.handedOver
  obtain ⟨d, hjump, hbooted⟩ := h.booted stack fw.toRuntimeServices
  have hnone : fw.firstReset [] (toServe maxMessages
      (shm.kernelToDaemon.pushed getTimeMessage).contents) = none := by
    rw [hcontents, fw.firstReset_boot, hr]
    rfl
  refine ⟨d, ?_, hbooted⟩
  rw [jumpToKernel_eq fw.toRuntimeServices stack h.wf h.magic h.length_lt] at hjump
  rw [jumpToKernelOrReset_eq stack h.wf h.magic h.length_lt,
    daemonMessageLoopOrReset_returns fw stack hwf hnone]
  cases hloop : daemonMessageLoop _ (some fw.toRuntimeServices) stack with
  | error fault =>
    rw [hloop] at hjump
    exact absurd hjump nofun
  | ok p =>
    rw [hloop] at hjump
    exact congrArg (Except.map Ending.returned) hjump

/-- Where it does not, the boot ends there. -/
theorem shutsDown {fw : Firmware} (hr : fw.resets [.getTime] dos25ResetShutdown = true) :
    ∃ d, jumpToKernelOrReset shm (some fw) stack = .ok (.reset d) ∧ ShutDown d := by
  obtain ⟨hwf, hcontents⟩ := h.handedOver
  have hsome : fw.firstReset [] (toServe maxMessages
      (shm.kernelToDaemon.pushed getTimeMessage).contents) =
        some ([getTimeMessage], resetSystemMessage) := by
    rw [hcontents, fw.firstReset_boot, hr]
    rfl
  obtain ⟨d, responses, queue, hran, hcalls, hrest, hrun⟩ :=
    daemonMessageLoopOrReset_stops fw stack hwf hsome
  obtain ⟨hresponses, hsent, hreceived, herrors⟩ := h.counted stack hran rfl (by decide)
  refine ⟨d.resetBy resetSystemMessage queue, ?_, {
    served := congrArg (· ++ [resetSystemMessage]) hran.served
    calls := congrArg (· ++ [FirmwareCall.resetSystem dos25ResetShutdown]) hcalls
    requests := ?_
    responses := hresponses
    sent := hsent
    received := hreceived
    errors := herrors }⟩
  · rw [jumpToKernelOrReset_eq stack h.wf h.magic h.length_lt, hrun]
    rfl
  · have htaken : (shm.kernelToDaemon.pushed getTimeMessage).contents =
        getTimeMessage :: d.shm.kernelToDaemon.contents := hran.taken
    rw [hcontents, hrest] at htaken
    exact (List.cons.inj (List.cons.inj htaken).2).2.symm

end SharedMemoryHeader.Tested

/-! ### The boot -/

/-- The firmware says how long a descriptor is, and the end of the header is
memory, as far as the boot gets. -/
structure Platform.Sound (m : Platform) : Prop where
  descSize : m.bootServices.getMemoryMap = efiBufferTooSmall → m.bootServices.descSize ≠ 0
  endMapped : m.bootServices.getMemoryMap = efiBufferTooSmall →
    efiError m.bootServices.sharedPages.status = false → m.endMapped = true

theorem Platform.initFault_eq_none_iff (m : Platform) : m.initFault = none ↔ m.Sound := by
  by_cases hmap : m.bootServices.getMemoryMap = efiBufferTooSmall
  · have hmapped : getMemoryMapSimple m.bootServices = .success := if_neg (not_not.mpr hmap)
    have hfault : m.initFault = none ↔ m.bootServices.descSize ≠ 0 ∧
        (efiError m.bootServices.sharedPages.status = false → m.endMapped = true) := by
      by_cases hsize : m.bootServices.descSize = 0
      · simp [initFault, getMemoryMapSimpleFaults, hmapped, hsize]
      · cases hpages : efiError m.bootServices.sharedPages.status <;>
          simp [initFault, getMemoryMapSimpleFaults, hmapped, hsize, hpages]
    rw [hfault]
    exact ⟨fun h => ⟨fun _ => h.1, fun _ => h.2⟩, fun h => ⟨h.descSize hmap, h.endMapped hmap⟩⟩
  · have hfailed : getMemoryMapSimple m.bootServices = .error := if_pos hmap
    refine iff_of_true ?_ ⟨fun h => absurd h hmap, fun h => absurd h hmap⟩
    simp [initFault, getMemoryMapSimpleFaults, hfailed]

/-- How a boot without a fault ends. -/
structure Platform.Ends (m : Platform) (ending : Ending BootRun) : Prop where
  failed : ¬ m.bootServices.Succeeds → ∃ r, ending = .returned r ∧
    r.status = efiAborted ∧ r.daemon = none ∧ r.keys = 1
  alone : m.bootServices.Succeeds → m.runtimeServices = 0 → ∃ r, ending = .returned r ∧
    r.status = 0 ∧ r.params = m.params.initialised m.bootServices m.runtimeServices ∧
    r.daemon = none ∧ r.keys = 1
  shutDown : m.bootServices.Succeeds → m.runtimeServices ≠ 0 →
    m.firmware.resets [.getTime] dos25ResetShutdown = true →
    ∃ d, ending = .reset d ∧ ShutDown d
  booted : m.bootServices.Succeeds → m.runtimeServices ≠ 0 →
    m.firmware.resets [.getTime] dos25ResetShutdown = false → ∃ r d, ending = .returned r ∧
    r.status = 0 ∧ r.params = m.params.initialised m.bootServices m.runtimeServices ∧
    r.daemon = some d ∧ Booted d ∧ r.keys = 1

/-- What `efi_main` leaves with `EFI_SUCCESS`. -/
def Platform.bootRun (m : Platform) (daemon : Option Daemon) : BootRun :=
  ⟨0, m.params.initialised m.bootServices m.runtimeServices,
    (bootParamsInit m.bootServices m.runtimeServices m.graphics m.params m.memory).2.2.2, daemon, 1⟩

/-- After a successful initialisation the handover decides. -/
theorem efiMain_succeeds {m : Platform} (hf : m.initFault = none) (h : m.bootServices.Succeeds)
    (ha : m.bootServices.sharedPages.address ≠ 0) : ∃ shm : SharedMemoryHeader, shm.Tested ∧
      ∀ ending : Ending (Option Daemon), jumpToKernelOrReset shm
          (if m.runtimeServices ≠ 0 then some m.firmware else none) m.stack =
            .ok (ending.map fun daemon => (.success, daemon)) →
        efiMain m = .ok (ending.map m.bootRun) := by
  obtain ⟨shm, htest, htested⟩ :=
    (initialRegion_fresh m.runtimeServices m.memory).tested m.testResponse
  have hheader : (m.params.initialised m.bootServices m.runtimeServices).sharedHeader ≠ 0 := ha
  have hrt : (m.params.initialised m.bootServices m.runtimeServices).rtServices =
      m.runtimeServices := rfl
  refine ⟨shm, htested, fun ending hjump => ?_⟩
  simp only [efiMain, hf, bootParamsInit_status h, bootParamsInit_success h,
    bootParamsInit_memory h ha, if_pos hheader, htest, hrt]
  rw [if_neg (not_not.mpr rfl)]
  show (queueFault (jumpToKernelOrReset shm
    (if m.runtimeServices ≠ 0 then some m.firmware else none) m.stack) >>= _) = _
  rw [hjump]
  cases ending <;> rfl

/-- A failed initialisation. -/
theorem efiMain_fails {m : Platform} (hf : m.initFault = none) (h : ¬ m.bootServices.Succeeds) :
    ∃ params graphics, efiMain m = .ok (.returned ⟨efiAborted, params, graphics, none, 1⟩) := by
  have hfails : (bootParamsInit m.bootServices m.runtimeServices m.graphics m.params
      m.memory).1 ≠ .success := fun hs => h (succeeds_of_bootParamsInit hs)
  refine ⟨(bootParamsInit m.bootServices m.runtimeServices m.graphics m.params m.memory).2.1,
    (bootParamsInit m.bootServices m.runtimeServices m.graphics m.params m.memory).2.2.2, ?_⟩
  simp only [efiMain, hf, if_pos hfails]
  rfl

theorem efiMain_ends {m : Platform} (hf : m.initFault = none)
    (ha : m.bootServices.sharedPages.address ≠ 0) :
    ∃ ending, efiMain m = .ok ending ∧ m.Ends ending := by
  by_cases h : m.bootServices.Succeeds
  swap
  · obtain ⟨params, graphics, he⟩ := efiMain_fails hf h
    exact ⟨_, he, {
      failed := fun _ => ⟨_, rfl, rfl, rfl, rfl⟩
      alone := fun hs => absurd hs h
      shutDown := fun hs => absurd hs h
      booted := fun hs => absurd hs h }⟩
  obtain ⟨shm, htested, hrun⟩ := efiMain_succeeds hf h ha
  by_cases h0 : m.runtimeServices = 0
  · rw [if_neg (not_not.mpr h0)] at hrun
    exact ⟨_, hrun (.returned none) (jumpToKernelOrReset_none m.stack htested.wf), {
      failed := fun hno => absurd h hno
      alone := fun _ _ => ⟨_, rfl, rfl, rfl, rfl, rfl⟩
      shutDown := fun _ hne => absurd h0 hne
      booted := fun _ hne => absurd h0 hne }⟩
  rw [if_pos h0] at hrun
  cases hr : m.firmware.resets [.getTime] dos25ResetShutdown with
  | true =>
    obtain ⟨d, hjump, hdown⟩ := htested.shutsDown m.stack hr
    exact ⟨_, hrun (.reset d) hjump, {
      failed := fun hno => absurd h hno
      alone := fun _ hz => absurd hz h0
      shutDown := fun _ _ _ => ⟨d, rfl, hdown⟩
      booted := fun _ _ hfalse => absurd (hfalse.symm.trans hr) Bool.false_ne_true }⟩
  | false =>
    obtain ⟨d, hjump, hbooted⟩ := htested.returns m.stack hr
    exact ⟨_, hrun (.returned (some d)) hjump, {
      failed := fun hno => absurd h hno
      alone := fun _ hz => absurd hz h0
      shutDown := fun _ _ htrue => absurd (hr.symm.trans htrue) Bool.false_ne_true
      booted := fun _ _ _ => ⟨_, d, rfl, rfl, rfl, rfl, hbooted, rfl⟩ }⟩

/-- **The whole boot**, whatever the firmware answers and memory and stack
hold, as long as no pages are handed out at address zero. It meets a fault if
and only if the probe of the memory map leaves `desc_size` zero or the end of
the header cannot be accessed. Otherwise, where the initialisation fails,
`efi_main` returns `EFI_ABORTED` after one key, and no daemon was started.
Where it succeeds and there are runtime services, they are called for the time
and then to shut down. If that resets the machine, as it should, `efi_main`
does not return: one response is in its queue, and the message of
`jump_to_kernel` still waits. If it returns, the daemon serves that message
too, and `efi_main` returns `EFI_SUCCESS` after one key, with the parameters of
`initialised` and three untaken responses. -/
theorem efiMain_run (m : Platform) (ha : m.bootServices.sharedPages.address ≠ 0) :
    ((∃ ending, efiMain m = .ok ending) ↔ m.Sound) ∧
      ∀ ending, efiMain m = .ok ending → m.Ends ending := by
  rw [← m.initFault_eq_none_iff]
  cases hf : m.initFault with
  | some fault =>
    have he : efiMain m = .error fault := by rw [efiMain, hf]
    rw [he]
    refine ⟨iff_of_false ?_ (Option.some_ne_none fault), fun ending hok => absurd hok nofun⟩
    rintro ⟨ending, hok⟩
    exact absurd hok nofun
  | none =>
    obtain ⟨ending, he, hends⟩ := efiMain_ends hf ha
    refine ⟨iff_of_true ⟨ending, he⟩ rfl, fun ending' he' => ?_⟩
    rw [he] at he'
    exact Except.ok.inj he' ▸ hends

/-- A platform whose firmware grants everything, and shuts down when asked. -/
def Platform.granting : Platform where
  bootServices := .granting
  runtimeServices := 0x1000
  firmware := { RuntimeServices.idle with resets := fun _ _ => true }
  graphics := ⟨none, none⟩
  params := .zero
  testResponse := .zero
  stack := .zero
  memory := .zero
  endMapped := true

/-- It boots, and shuts down. -/
theorem efiMain_run_granting : ∃ d, efiMain .granting = .ok (.reset d) ∧
    d.calls = [.getTime, .resetSystem dos25ResetShutdown] := by
  have hrun := efiMain_run .granting (by decide)
  obtain ⟨ending, he⟩ := hrun.1.mpr ⟨fun _ => by decide, fun _ _ => rfl⟩
  obtain ⟨d, rfl, hdown⟩ := (hrun.2 ending he).shutDown ⟨rfl, rfl, rfl⟩ (by decide) rfl
  exact ⟨d, he, hdown.calls⟩

end Dos25
