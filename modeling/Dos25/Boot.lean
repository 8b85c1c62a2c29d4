/-
# The data model of `boot.h`

Constants, the message, the ring queue, the shared-memory header and the
boot parameters, with the source's field names, and the x86-64 layout of the
three structs that live in the shared region (`Layout`). Pointers are 64-bit
addresses, `UINTN` is 64 bits. An array is a function from its indices.
-/
import Dos25.Lib.Layout
import Mathlib.Tactic.Ring

namespace Dos25

/-- `boot_status_t` of `common.h`. -/
inductive BootStatus
  | success
  | error
  | errorMemory
  | errorDisk
  | errorFormat
  | errorNotFound
  | errorIo
  deriving DecidableEq, Repr

/-! ### UEFI status codes -/

/-- `EFI_STATUS`: an error has bit 63 set. -/
abbrev EfiStatus := UInt64

/-- `EFI_ERROR`. -/
def efiError (status : EfiStatus) : Bool := 0x8000000000000000 ≤ status

def efiInvalidParameter : EfiStatus := 0x8000000000000002
def efiUnsupported : EfiStatus := 0x8000000000000003
def efiBufferTooSmall : EfiStatus := 0x8000000000000005

/-! ### Constants -/

def dos25RuntimeVersion : UInt32 := 1

def ipcMsgResetSystem : UInt32 := 0x01
def ipcMsgGetTime : UInt32 := 0x02
def ipcMsgSetTime : UInt32 := 0x03
def ipcMsgGetVariable : UInt32 := 0x04
def ipcMsgSetVariable : UInt32 := 0x05
def ipcMsgShutdown : UInt32 := 0x06

def sharedMemMagic : UInt64 := 0x444F533235534D00

/-- The bytes `setup_shared_memory` allocates. -/
def sharedMemSize : ℕ := 2 * 1024 * 1024

abbrev ipcQueueSize : ℕ := 256
abbrev ipcMaxDataSize : ℕ := 4096

instance : NeZero ipcQueueSize := ⟨by decide⟩

/-! ### The shared region -/

/-- `struct ipc_message`. -/
@[ext]
structure IpcMessage where
  type : UInt32
  source : UInt32
  target : UInt32
  timestamp : UInt64
  size : UInt32
  sequence : UInt32
  data : Fin ipcMaxDataSize → UInt8

/-- A message of zero bytes, as `SetMem` leaves it. -/
def IpcMessage.zero : IpcMessage := ⟨0, 0, 0, 0, 0, 0, fun _ => 0⟩

/-- `struct ipc_queue`. -/
@[ext]
structure IpcQueue where
  producerIndex : UInt32
  consumerIndex : UInt32
  count : UInt32
  capacity : UInt32
  messages : Fin ipcQueueSize → IpcMessage

/-- `struct shared_memory_header`. -/
@[ext]
structure SharedMemoryHeader where
  magic : UInt64
  version : UInt32
  size : UInt32
  sequence : UInt32
  status : UInt32
  kernelToDaemon : IpcQueue
  daemonToKernel : IpcQueue
  rtServices : UInt64
  rtServicesPhys : UInt64
  messagesSent : UInt64
  messagesReceived : UInt64
  errors : UInt64

/-- A region of zero bytes. -/
def SharedMemoryHeader.zero : SharedMemoryHeader :=
  ⟨0, 0, 0, 0, 0, ⟨0, 0, 0, 0, fun _ => .zero⟩, ⟨0, 0, 0, 0, fun _ => .zero⟩, 0, 0, 0, 0, 0⟩

/-- Which of the two queues. -/
inductive Direction
  | kernelToDaemon
  | daemonToKernel
  deriving DecidableEq, Repr

def SharedMemoryHeader.queue (h : SharedMemoryHeader) : Direction → IpcQueue
  | .kernelToDaemon => h.kernelToDaemon
  | .daemonToKernel => h.daemonToKernel

def SharedMemoryHeader.setQueue (h : SharedMemoryHeader) : Direction → IpcQueue → SharedMemoryHeader
  | .kernelToDaemon, q => { h with kernelToDaemon := q }
  | .daemonToKernel, q => { h with daemonToKernel := q }

/-- `struct boot_params_struct`. -/
@[ext]
structure BootParams where
  signature : UInt64
  version : UInt32
  size : UInt32
  memoryMapSize : UInt64
  memoryMapDescSize : UInt64
  memoryMapDescVersion : UInt64
  memoryMapAddr : UInt64
  memoryMapKey : UInt64
  framebufferAddr : UInt64
  framebufferWidth : UInt32
  framebufferHeight : UInt32
  framebufferPitch : UInt32
  framebufferBpp : UInt32
  kernelEntry : UInt64
  kernelSize : UInt64
  kernelBase : UInt64
  acpiRsdpAddr : UInt64
  bootDevice : UInt64
  rtServices : UInt64
  rtServicesPhys : UInt64
  sharedBuffer : UInt64
  sharedBufferSize : UInt64
  sharedHeader : UInt64
  ipcEndpoint : UInt64
  daemonProcessId : UInt32
  daemonStackBase : UInt64
  daemonStackSize : UInt64
  daemonEntryPoint : UInt64
  reserved : Fin 4 → UInt64

/-- Parameters of zero bytes. -/
def BootParams.zero : BootParams :=
  ⟨0, 0, 0, 0, 0, 0, 0, 0, 0, 0, 0, 0, 0, 0, 0, 0, 0, 0, 0, 0, 0, 0, 0, 0, 0, 0, 0, 0, fun _ => 0⟩

/-! ### Layout -/

open Layout

def u32 : Ty := .scalar 4
def u64 : Ty := .scalar 8

/-- `type`, `source`, `target`, `timestamp`, `size`, `sequence`, `data`. -/
def ipcMessageFields : List Ty := [u32, u32, u32, u64, u32, u32, .array (.scalar 1) ipcMaxDataSize]

def ipcMessageTy : Ty := .struct ipcMessageFields

/-- `producer_index`, `consumer_index`, `count`, `capacity`, `messages`. -/
def ipcQueueFields : List Ty := [u32, u32, u32, u32, .array ipcMessageTy ipcQueueSize]

def ipcQueueTy : Ty := .struct ipcQueueFields

/-- `magic`, `version`, `size`, `sequence`, `status`, the two queues,
`rt_services`, `rt_services_phys`, `messages_sent`, `messages_received`,
`errors`. -/
def sharedMemoryHeaderFields : List Ty :=
  [u64, u32, u32, u32, u32, ipcQueueTy, ipcQueueTy, u64, u64, u64, u64, u64]

def sharedMemoryHeaderTy : Ty := .struct sharedMemoryHeaderFields

theorem ipcMessageTy_size : ipcMessageTy.size = 4128 := by decide

/-- The header is 16480 bytes longer than the region it is placed in. -/
theorem sharedMemoryHeaderTy_size : sharedMemoryHeaderTy.size = sharedMemSize + 16480 := by decide

end Dos25
