/-
# `daemon.c`: the runtime daemon

The request handlers, `process_message` and `daemon_message_loop` over the
shared-memory header. The firmware is a parameter: what it answers may depend
on every call made before, so any sequence of results is one (`RuntimeServices`).
What the C code leaves uninitialised on its stack is a parameter too
(`Stack`). `Print` writes to the console only and is left out.

A run keeps three histories that the code has no use for: the requests it has
taken, the firmware calls it has made, and the shared-memory fields it has
touched.

Key definitions: `processMessage`, `messageLoop`, `daemonMessageLoop`,
`startRuntimeDaemon`, `IpcMessage.answerable`.
Key theorems: `processMessage_status`, `processMessage_key`.
-/
import Dos25.Runtime
import Dos25.Lib.Bytes

namespace Dos25

open Bytes

/-! ### The firmware -/

/-- `EFI_TIME`, 16 bytes. -/
abbrev EfiTime := Fin 16 → UInt8

/-- A runtime services call with its arguments. The reset status and data and
the all-zero vendor GUID are the same in every call. -/
inductive FirmwareCall
  | resetSystem (resetType : UInt32)
  | getTime
  | setTime (time : EfiTime)
  /-- The name is read up to its terminator, which `terminated` says lies in
  the message. -/
  | getVariable (name : List UInt16) (terminated : Bool) (dataSize : UInt64)

/-- What `GetTime` answers; `none` is a time not written. -/
structure GetTimeResult where
  status : EfiStatus
  time : Option EfiTime

/-- The data bytes `handle_get_variable` offers. -/
def variableDataSize : ℕ := ipcMaxDataSize - 8 - 4

/-- What `GetVariable` answers: `none` is an output not written, `dataSize` is
what `*DataSize` holds afterwards, and no more than the offered buffer is
written. -/
structure GetVariableResult where
  status : EfiStatus
  attributes : Option UInt32
  dataSize : UInt64
  data : List UInt8
  data_le : data.length ≤ variableDataSize

/-- `EFI_RUNTIME_SERVICES`: an answer to each call, given the calls before.
`ResetSystem` is taken to return, as the code behind the call expects; the one
that does not is `Firmware`. -/
structure RuntimeServices where
  resetSystem : List FirmwareCall → UInt32 → EfiStatus
  getTime : List FirmwareCall → GetTimeResult
  setTime : List FirmwareCall → EfiTime → EfiStatus
  getVariable : List FirmwareCall → List UInt16 → Bool → GetVariableResult

/-- What the handlers' uninitialised locals hold. -/
structure StackLocals where
  time : EfiTime
  attributes : UInt32

/-- What the stack of `daemon_message_loop` holds: its two messages, and the
handlers' locals with so many passes left. -/
structure Stack where
  request : IpcMessage
  response : IpcMessage
  locals : ℕ → StackLocals

/-! ### The handlers -/

/-- A handler's status, its response, and the firmware calls made so far. -/
structure Handled where
  status : BootStatus
  response : IpcMessage
  calls : List FirmwareCall

/-- The response header of a handler that serves the request: type, the
daemon's PID as source, the requester as target, and the size. -/
def IpcMessage.reply (response request : IpcMessage) (size : UInt32) : IpcMessage :=
  { response with type := request.type, source := 1, target := request.source, size := size }

/-- `CopyMem(response->data + off, ...)`. -/
def IpcMessage.pack (response : IpcMessage) (off : ℕ) (bytes : List UInt8) : IpcMessage :=
  { response with data := write response.data off bytes }

def handleResetSystem (fw : RuntimeServices) (calls : List FirmwareCall)
    (request response : IpcMessage) : Handled :=
  if request.size < 4 then ⟨.error, { response with type := request.type, size := 0 }, calls⟩
  else
    let resetType := UInt32.ofNat (decode (read request.data 0 4))
    let response := response.reply request 4
    let status := fw.resetSystem calls resetType
    -- only the low half of the status is stored
    ⟨.success, response.pack 0 (encode 4 status.toNat), calls ++ [.resetSystem resetType]⟩

def handleGetTime (fw : RuntimeServices) (stack : StackLocals) (calls : List FirmwareCall)
    (request response : IpcMessage) : Handled :=
  let result := fw.getTime calls
  let time := result.time.getD stack.time
  let response := (response.reply request (8 + 16)).pack 0 (encode 8 result.status.toNat)
  let response := if efiError result.status then response else response.pack 8 (List.ofFn time)
  ⟨.success, response, calls ++ [.getTime]⟩

def handleSetTime (fw : RuntimeServices) (calls : List FirmwareCall)
    (request response : IpcMessage) : Handled :=
  if request.size < 16 then
    let response := { response with type := request.type, size := 8 }
    ⟨.error, response.pack 0 (encode 8 efiInvalidParameter.toNat), calls⟩
  else
    let time : EfiTime := fun i => request.data (i.castLE (by decide))
    let status := fw.setTime calls time
    ⟨.success, (response.reply request 8).pack 0 (encode 8 status.toNat), calls ++ [.setTime time]⟩

/-- The 16-bit characters of the payload. -/
def char16s (data : Fin ipcMaxDataSize → UInt8) : List UInt16 :=
  (List.range (ipcMaxDataSize / 2)).map fun k => UInt16.ofNat (decode (read data (2 * k) 2))

def handleGetVariable (fw : RuntimeServices) (stack : StackLocals) (calls : List FirmwareCall)
    (request response : IpcMessage) : Handled :=
  let name := (char16s request.data).takeWhile (· ≠ 0)
  let terminated := (char16s request.data).contains 0
  let result := fw.getVariable calls name terminated
  let attributes := result.attributes.getD stack.attributes
  let response := response.pack (8 + 4) result.data
  let response := response.reply request (8 + 4 + result.dataSize).toUInt32
  let response := response.pack 0 (encode 8 result.status.toNat)
  let response := response.pack 8 (encode 4 attributes.toNat)
  ⟨.success, response,
    calls ++ [.getVariable name terminated (UInt64.ofNat variableDataSize)]⟩

/-- The response after `SetMem`, with the request's timestamp and sequence
number. -/
def IpcMessage.prepared (request : IpcMessage) : IpcMessage :=
  { IpcMessage.zero with timestamp := request.timestamp, sequence := request.sequence }

/-- The answer to `IPC_MSG_SHUTDOWN`. -/
def handleShutdown (calls : List FirmwareCall) (request response : IpcMessage) : Handled :=
  ⟨.success, { response with type := request.type, size := 0 }, calls⟩

/-- The answer to an unknown type. -/
def handleUnknown (calls : List FirmwareCall) (request response : IpcMessage) : Handled :=
  let response := { response with type := request.type, size := 8 }
  ⟨.error, response.pack 0 (encode 8 efiUnsupported.toNat), calls⟩

/-- The handled request, and `g_daemon_running` afterwards. What `_response`
held before is cleared. -/
def processMessage (fw : RuntimeServices) (stack : StackLocals) (calls : List FirmwareCall)
    (running : Bool) (request _response : IpcMessage) : Handled × Bool :=
  let response := request.prepared
  if request.type = ipcMsgResetSystem then (handleResetSystem fw calls request response, running)
  else if request.type = ipcMsgGetTime then (handleGetTime fw stack calls request response, running)
  else if request.type = ipcMsgSetTime then (handleSetTime fw calls request response, running)
  else if request.type = ipcMsgGetVariable then
    (handleGetVariable fw stack calls request response, running)
  else if request.type = ipcMsgShutdown then (handleShutdown calls request response, false)
  else (handleUnknown calls request response, running)

/-! ### The message loop -/

/-- `MAX_MESSAGES`. -/
def maxMessages : ℕ := 5

/-- A run of `daemon_message_loop`: the shared memory, `g_daemon_running`, the
two message locals, and the histories. -/
structure Daemon where
  shm : SharedMemoryHeader
  running : Bool
  request : IpcMessage
  response : IpcMessage
  served : List IpcMessage
  calls : List FirmwareCall
  accesses : List (Access HeaderField)

/-- The response is sent, or it counts as an error. -/
def sendResponse (status : BootStatus) (d : Daemon) : Except Fault Daemon :=
  let failed (d : Daemon) : Daemon := { d with
    shm.errors := d.shm.errors + 1
    accesses := d.accesses ++ [.read .errors, .write .errors] }
  if status = .success then do
    let (status, queue) ← ipcSendMessage d.shm.daemonToKernel d.response
    let d := { d with
      shm.daemonToKernel := queue
      accesses := d.accesses ++
        (ipcSendMessageAccesses d.shm.daemonToKernel).map (.map .daemonToKernel) }
    if status = .success then
      .ok { d with
        shm.messagesSent := d.shm.messagesSent + 1
        accesses := d.accesses ++ [.read .messagesSent, .write .messagesSent] }
    else .ok (failed d)
  else .ok (failed d)

/-- One pass of the loop; `false` is the `break` on an empty queue. -/
def messageLoopBody (fw : RuntimeServices) (stack : StackLocals) (d : Daemon) :
    Except Fault (Bool × Daemon) := do
  let (status, request, queue) ← ipcReceiveMessage d.shm.kernelToDaemon d.request
  let d := { d with
    shm.kernelToDaemon := queue
    request := request
    accesses := d.accesses ++
      (ipcReceiveMessageAccesses d.shm.kernelToDaemon).map (.map .kernelToDaemon) }
  if status = .success then do
    let (handled, running) := processMessage fw stack d.calls d.running d.request d.response
    let d ← sendResponse handled.status { d with
      running := running
      response := handled.response
      served := d.served ++ [request]
      calls := handled.calls }
    .ok (true, { d with
      shm.messagesReceived := d.shm.messagesReceived + 1
      accesses := d.accesses ++ [.read .messagesReceived, .write .messagesReceived] })
  else .ok (false, d)

/-- The loop with `left` of the `MAX_MESSAGES` passes left: each pass counts
one message or breaks. -/
def messageLoop (fw : RuntimeServices) (locals : ℕ → StackLocals) : ℕ → Daemon → Except Fault Daemon
  | 0, d => .ok d
  | left + 1, d =>
    if d.running then do
      let (continues, d) ← messageLoopBody fw (locals left) d
      if continues then messageLoop fw locals left d else .ok d
    else .ok d

/-- The daemon as it enters the loop. -/
def Daemon.start (shm : SharedMemoryHeader) (stack : Stack) : Daemon :=
  ⟨shm, true, stack.request, stack.response, [], [], []⟩

/-- The statistics are read for printing. -/
def Daemon.printStatistics (d : Daemon) : Daemon :=
  { d with accesses := d.accesses ++ [.read .messagesSent, .read .messagesReceived, .read .errors] }

/-- `daemon_message_loop` on valid pointers. -/
def runDaemon (fw : RuntimeServices) (stack : Stack) (shm : SharedMemoryHeader) :
    Except Fault Daemon := do
  let d ← messageLoop fw stack.locals maxMessages (.start shm stack)
  .ok d.printStatistics

/-- `none` is a NULL pointer. -/
def daemonMessageLoop (sharedMem : Option SharedMemoryHeader) (rtServices : Option RuntimeServices)
    (stack : Stack) : Except Fault (BootStatus × Option Daemon) :=
  match sharedMem, rtServices with
  | some shm, some fw => do
    let d ← runDaemon fw stack shm
    .ok (.success, some d)
  | _, _ => .ok (.error, none)

/-- `sharedHeader` and `rtServices` are what the boot parameters point to. -/
def startRuntimeDaemon (sharedHeader : Option SharedMemoryHeader)
    (rtServices : Option RuntimeServices) (stack : Stack) :
    Except Fault (BootStatus × Option Daemon) :=
  match sharedHeader, rtServices with
  | some shm, some fw =>
    if shm.magic ≠ sharedMemMagic then .ok (.error, none)
    else daemonMessageLoop (some shm) (some fw) stack
  | _, _ => .ok (.error, none)

/-! ### What `process_message` does -/

/-- The requests `process_message` answers with `BOOT_SUCCESS`: a known type
with the payload its handler needs. -/
def IpcMessage.answerable (r : IpcMessage) : Bool :=
  (r.type == ipcMsgResetSystem && 4 ≤ r.size) || r.type == ipcMsgGetTime ||
    (r.type == ipcMsgSetTime && 16 ≤ r.size) || r.type == ipcMsgGetVariable ||
    r.type == ipcMsgShutdown

section

variable (fw : RuntimeServices) (stack : StackLocals) (calls : List FirmwareCall) (running : Bool)
  (request response : IpcMessage)

/-- A property of the outcome, branch by branch of the `switch`. -/
theorem processMessage_cases {P : Handled × Bool → Prop}
    (resetSystem : request.type = ipcMsgResetSystem →
      P (handleResetSystem fw calls request request.prepared, running))
    (getTime : request.type = ipcMsgGetTime →
      P (handleGetTime fw stack calls request request.prepared, running))
    (setTime : request.type = ipcMsgSetTime →
      P (handleSetTime fw calls request request.prepared, running))
    (getVariable : request.type = ipcMsgGetVariable →
      P (handleGetVariable fw stack calls request request.prepared, running))
    (shutdown : request.type = ipcMsgShutdown →
      P (handleShutdown calls request request.prepared, false))
    (unknown : request.type ∉ [ipcMsgResetSystem, ipcMsgGetTime, ipcMsgSetTime, ipcMsgGetVariable,
        ipcMsgShutdown] → P (handleUnknown calls request request.prepared, running)) :
    P (processMessage fw stack calls running request response) := by
  unfold processMessage
  split_ifs with h1 h2 h3 h4 h5
  · exact resetSystem h1
  · exact getTime h2
  · exact setTime h3
  · exact getVariable h4
  · exact shutdown h5
  · exact unknown (by simp [h1, h2, h3, h4, h5])

/-- The status of every branch: an error exactly for an unknown type and an
undersized payload. -/
theorem processMessage_status :
    (processMessage fw stack calls running request response).1.status =
      if request.answerable then .success else .error := by
  refine processMessage_cases (P := fun p => p.1.status = _) fw stack calls running request response
    (fun h => ?_) (fun h => ?_) (fun h => ?_) (fun h => ?_) (fun h => ?_) (fun h => ?_)
  · by_cases hs : request.size < 4
    · simp [handleResetSystem, IpcMessage.answerable, h, hs, UInt32.not_le.mpr hs, ipcMsgResetSystem,
        ipcMsgGetTime, ipcMsgSetTime, ipcMsgGetVariable, ipcMsgShutdown]
    · simp [handleResetSystem, IpcMessage.answerable, h, hs, UInt32.not_lt.mp hs]
  · simp [handleGetTime, IpcMessage.answerable, h]
  · by_cases hs : request.size < 16
    · simp [handleSetTime, IpcMessage.answerable, h, hs, UInt32.not_le.mpr hs, ipcMsgResetSystem,
        ipcMsgGetTime, ipcMsgSetTime, ipcMsgGetVariable, ipcMsgShutdown]
    · simp [handleSetTime, IpcMessage.answerable, h, hs, UInt32.not_lt.mp hs]
  · simp [handleGetVariable, IpcMessage.answerable, h]
  · simp [handleShutdown, IpcMessage.answerable, h]
  · simp only [List.mem_cons, List.not_mem_nil, or_false, not_or] at h
    simp [handleUnknown, IpcMessage.answerable, h]

/-- Type, timestamp and sequence number: what ties a message to its request. -/
def IpcMessage.key (m : IpcMessage) : UInt32 × UInt64 × UInt32 := (m.type, m.timestamp, m.sequence)

/-- Every response, an error's included, carries its request's key. -/
theorem processMessage_key :
    (processMessage fw stack calls running request response).1.response.key = request.key := by
  refine processMessage_cases (P := fun p => p.1.response.key = _) fw stack calls running request
    response (fun _ => ?_) (fun _ => ?_) (fun _ => ?_) (fun _ => rfl) (fun _ => rfl) (fun _ => rfl)
  · unfold handleResetSystem
    split_ifs <;> rfl
  · unfold handleGetTime
    dsimp only
    split_ifs <;> rfl
  · unfold handleSetTime
    split_ifs <;> rfl

/-- Only `IPC_MSG_SHUTDOWN` clears `g_daemon_running`. -/
theorem processMessage_running :
    (processMessage fw stack calls running request response).2 =
      (running && request.type != ipcMsgShutdown) := by
  refine processMessage_cases (P := fun p => p.2 = _) fw stack calls running request response
    (fun h => ?_) (fun h => ?_) (fun h => ?_) (fun h => ?_) (fun h => ?_) (fun h => ?_)
  · simp [h, ipcMsgResetSystem, ipcMsgShutdown]
  · simp [h, ipcMsgGetTime, ipcMsgShutdown]
  · simp [h, ipcMsgSetTime, ipcMsgShutdown]
  · simp [h, ipcMsgGetVariable, ipcMsgShutdown]
  · simp [h]
  · simp only [List.mem_cons, List.not_mem_nil, or_false, not_or] at h
    simp [h]

end

end Dos25
