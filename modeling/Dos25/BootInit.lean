/-
# `boot_params_init`: the parameters handed to the kernel

`efi_main` keeps the boot parameters on its stack, and `boot_params_init` fills
them in five steps without clearing them first. Each step sets the fields it
is about, or none: `get_memory_map_simple` has no parameters to fill, and
`graphics_init` only looks the protocol up. So a successful initialisation sets
the fields of `BootParams.initialised` (`bootParamsInit_success`), and what the
stack held in the others reaches the kernel (`bootParamsInit_determined_iff`).

Key definitions: `bootParamsInit`, `BootParams.initialised`,
`BootParams.SameLeftover`.
-/
import Dos25.Runtime
import Dos25.Graphics

namespace Dos25

open Layout

/-! ### The code -/

/-- `BOOT_PARAMS_SIGNATURE`. -/
def bootParamsSignature : UInt64 := 0x444F533235525420

/-- `struct boot_params_struct`: `signature`, `version`, `size`; the five words
of the memory map; `framebuffer_addr` and the four numbers of its mode; the
three words of the kernel; `acpi_rsdp_addr`, `boot_device`, `rt_services`,
`rt_services_phys`, `shared_buffer`, `shared_buffer_size`, `shared_header`,
`ipc_endpoint`; `daemon_process_id`; the three words of the daemon;
`reserved`. -/
def bootParamsFields : List Ty :=
  [u64, u32, u32] ++ List.replicate 5 u64 ++ [u64, u32, u32, u32, u32] ++ List.replicate 3 u64 ++
    List.replicate 8 u64 ++ [u32] ++ List.replicate 3 u64 ++ [.array u64 4]

def bootParamsTy : Ty := .struct bootParamsFields

example : bootParamsTy.size = 232 := by decide

/-- What boot services answer to the calls of `boot_params_init`. The address
of a page allocation is what the caller's variable holds afterwards. -/
structure BootServices where
  /-- The status of `GetMemoryMap` for a size of zero. -/
  getMemoryMap : EfiStatus
  /-- What `desc_size`, which is not initialised, holds after this call. -/
  descSize : UInt64
  sharedPages : PageAllocation
  /-- The status of `LocateProtocol`, and what `gGOP` holds afterwards. -/
  locateProtocol : EfiStatus × Option Gop
  /-- At the address of 1 MiB. -/
  kernelPages : PageAllocation
  /-- At any address. -/
  kernelAnyPages : PageAllocation

/-- The size of the map and the number of its descriptors are only printed. -/
def getMemoryMapSimple (bs : BootServices) : BootStatus :=
  if bs.getMemoryMap ≠ efiBufferTooSmall then .error else .success

/-- The number printed is `map_size / desc_size`, a fault where `desc_size` is
zero. -/
def getMemoryMapSimpleFaults (bs : BootServices) : Bool :=
  getMemoryMapSimple bs == .success && bs.descSize == 0

def graphicsInit (bs : BootServices) (g : Graphics) (params : BootParams) :
    BootStatus × Graphics × BootParams :=
  let (status, gop) := bs.locateProtocol
  let g := { g with gop := gop }
  if efiError status then (.success, g, params) else (.success, g, params)

/-- The search for `kernel.elf` only prints. -/
def loadKernel (bs : BootServices) (params : BootParams) : BootStatus × BootParams :=
  let alloc := if efiError bs.kernelPages.status then bs.kernelAnyPages else bs.kernelPages
  if efiError alloc.status then (.errorMemory, params)
  else (.success, { params with
    kernelEntry := alloc.address
    kernelSize := 1024 * 1024
    kernelBase := alloc.address })

/-- `runtimeServices` is the address `ST->RuntimeServices`, `memory` what the
shared pages, and what lies behind them, hold. Its two faults are those of
`Platform.initFault`. -/
def bootParamsInit (bs : BootServices) (runtimeServices : UInt64) (g : Graphics)
    (params : BootParams) (memory : SharedMemoryHeader) :
    BootStatus × BootParams × SharedMemoryHeader × Graphics :=
  let params := { params with
    signature := bootParamsSignature
    version := dos25RuntimeVersion
    size := UInt32.ofNat bootParamsTy.size
    daemonProcessId := 1 }
  let status := getMemoryMapSimple bs
  if status ≠ .success then (status, params, memory, g)
  else
    let (status, params, memory) := setupSharedMemory bs.sharedPages params memory
    if status ≠ .success then (status, params, memory, g)
    else
      let (status, params, memory) := preserveRuntimeServices runtimeServices params memory
      if status ≠ .success then (status, params, memory, g)
      else
        -- a failure here would only be printed
        let (_, g, params) := graphicsInit bs g params
        let (status, params) := loadKernel bs params
        if status ≠ .success then (status, params, memory, g)
        else (.success, params, memory, g)

/-! ### The fields that are set -/

/-- The pages the kernel is placed in. -/
def BootServices.kernelAddress (bs : BootServices) : UInt64 :=
  (if efiError bs.kernelPages.status then bs.kernelAnyPages else bs.kernelPages).address

/-- The parameters after a successful initialisation. -/
def BootParams.initialised (bs : BootServices) (runtimeServices : UInt64) (params : BootParams) :
    BootParams :=
  { params with
    signature := bootParamsSignature
    version := dos25RuntimeVersion
    size := UInt32.ofNat bootParamsTy.size
    daemonProcessId := 1
    sharedBuffer := bs.sharedPages.address
    sharedBufferSize := UInt64.ofNat sharedMemSize
    sharedHeader := bs.sharedPages.address
    rtServices := runtimeServices
    rtServicesPhys := runtimeServices
    kernelEntry := bs.kernelAddress
    kernelSize := 1024 * 1024
    kernelBase := bs.kernelAddress }

/-- The firmware's answers alone decide between success and failure. -/
structure BootServices.Succeeds (bs : BootServices) : Prop where
  getMemoryMap : bs.getMemoryMap = efiBufferTooSmall
  sharedPages : efiError bs.sharedPages.status = false
  kernelPages : efiError
    (if efiError bs.kernelPages.status then bs.kernelAnyPages else bs.kernelPages).status = false

section

variable {bs : BootServices} {runtimeServices : UInt64} {g : Graphics} {params : BootParams}
  {memory : SharedMemoryHeader}

theorem setupSharedMemory_ok (h : efiError bs.sharedPages.status = false) :
    setupSharedMemory bs.sharedPages params memory = (.success, { params with
      sharedBuffer := bs.sharedPages.address
      sharedBufferSize := UInt64.ofNat sharedMemSize
      sharedHeader := bs.sharedPages.address }, (initializeIpcQueues memory).2) := by
  rw [setupSharedMemory, h]
  rfl

theorem graphicsInit_params : (graphicsInit bs g params).2.2 = params := by
  unfold graphicsInit
  dsimp only
  split_ifs <;> rfl

theorem succeeds_of_bootParamsInit
    (h : (bootParamsInit bs runtimeServices g params memory).1 = .success) : bs.Succeeds := by
  have hmap : bs.getMemoryMap = efiBufferTooSmall := by
    by_contra hne
    have hfailed : getMemoryMapSimple bs = .error := if_pos hne
    simp [bootParamsInit, hfailed] at h
  have hmapped : getMemoryMapSimple bs = .success := if_neg (not_not.mpr hmap)
  have hpages : efiError bs.sharedPages.status = false := by
    cases he : efiError bs.sharedPages.status with
    | false => rfl
    | true => simp [bootParamsInit, hmapped, setupSharedMemory, he] at h
  refine ⟨hmap, hpages, ?_⟩
  cases hk : efiError (if efiError bs.kernelPages.status then bs.kernelAnyPages
      else bs.kernelPages).status with
  | false => rfl
  | true =>
    simp [bootParamsInit, hmapped, setupSharedMemory_ok hpages, preserveRuntimeServices, loadKernel,
      hk] at h

/-- **A successful initialisation sets these fields** and leaves the others. -/
theorem bootParamsInit_success (h : bs.Succeeds) :
    (bootParamsInit bs runtimeServices g params memory).2.1 =
      params.initialised bs runtimeServices := by
  have hmapped : getMemoryMapSimple bs = .success := if_neg (not_not.mpr h.getMemoryMap)
  have hkernel : ∀ params : BootParams, loadKernel bs params = (.success, { params with
      kernelEntry := bs.kernelAddress
      kernelSize := 1024 * 1024
      kernelBase := bs.kernelAddress }) := by
    intro params
    rw [loadKernel, h.kernelPages]
    rfl
  simp only [bootParamsInit, hmapped, setupSharedMemory_ok h.sharedPages, preserveRuntimeServices,
    graphicsInit_params, hkernel]
  rfl

end

/-! ### What the stack leaves in them -/

/-- The fields no step sets hold the same. -/
structure BootParams.SameLeftover (p p' : BootParams) : Prop where
  memoryMapSize : p.memoryMapSize = p'.memoryMapSize
  memoryMapDescSize : p.memoryMapDescSize = p'.memoryMapDescSize
  memoryMapDescVersion : p.memoryMapDescVersion = p'.memoryMapDescVersion
  memoryMapAddr : p.memoryMapAddr = p'.memoryMapAddr
  memoryMapKey : p.memoryMapKey = p'.memoryMapKey
  framebufferAddr : p.framebufferAddr = p'.framebufferAddr
  framebufferWidth : p.framebufferWidth = p'.framebufferWidth
  framebufferHeight : p.framebufferHeight = p'.framebufferHeight
  framebufferPitch : p.framebufferPitch = p'.framebufferPitch
  framebufferBpp : p.framebufferBpp = p'.framebufferBpp
  acpiRsdpAddr : p.acpiRsdpAddr = p'.acpiRsdpAddr
  bootDevice : p.bootDevice = p'.bootDevice
  ipcEndpoint : p.ipcEndpoint = p'.ipcEndpoint
  daemonStackBase : p.daemonStackBase = p'.daemonStackBase
  daemonStackSize : p.daemonStackSize = p'.daemonStackSize
  daemonEntryPoint : p.daemonEntryPoint = p'.daemonEntryPoint
  reserved : p.reserved = p'.reserved

theorem BootParams.initialised_eq_iff {bs : BootServices} {runtimeServices : UInt64}
    {p p' : BootParams} : p.initialised bs runtimeServices = p'.initialised bs runtimeServices ↔
      p.SameLeftover p' := by
  constructor
  · intro h
    have hf : ∀ {α : Type} (f : BootParams → α),
        f (p.initialised bs runtimeServices) = f (p'.initialised bs runtimeServices) :=
      fun f => congrArg f h
    exact {
      memoryMapSize := hf memoryMapSize
      memoryMapDescSize := hf memoryMapDescSize
      memoryMapDescVersion := hf memoryMapDescVersion
      memoryMapAddr := hf memoryMapAddr
      memoryMapKey := hf memoryMapKey
      framebufferAddr := hf framebufferAddr
      framebufferWidth := hf framebufferWidth
      framebufferHeight := hf framebufferHeight
      framebufferPitch := hf framebufferPitch
      framebufferBpp := hf framebufferBpp
      acpiRsdpAddr := hf acpiRsdpAddr
      bootDevice := hf bootDevice
      ipcEndpoint := hf ipcEndpoint
      daemonStackBase := hf daemonStackBase
      daemonStackSize := hf daemonStackSize
      daemonEntryPoint := hf daemonEntryPoint
      reserved := hf reserved }
  · intro h
    ext1
    case memoryMapSize => exact h.memoryMapSize
    case memoryMapDescSize => exact h.memoryMapDescSize
    case memoryMapDescVersion => exact h.memoryMapDescVersion
    case memoryMapAddr => exact h.memoryMapAddr
    case memoryMapKey => exact h.memoryMapKey
    case framebufferAddr => exact h.framebufferAddr
    case framebufferWidth => exact h.framebufferWidth
    case framebufferHeight => exact h.framebufferHeight
    case framebufferPitch => exact h.framebufferPitch
    case framebufferBpp => exact h.framebufferBpp
    case acpiRsdpAddr => exact h.acpiRsdpAddr
    case bootDevice => exact h.bootDevice
    case ipcEndpoint => exact h.ipcEndpoint
    case daemonStackBase => exact h.daemonStackBase
    case daemonStackSize => exact h.daemonStackSize
    case daemonEntryPoint => exact h.daemonEntryPoint
    case reserved => exact h.reserved
    all_goals rfl

theorem bootParamsInit_status {bs : BootServices} (h : bs.Succeeds) (runtimeServices : UInt64)
    (g : Graphics) (params : BootParams) (memory : SharedMemoryHeader) :
    (bootParamsInit bs runtimeServices g params memory).1 = .success := by
  have hmapped : getMemoryMapSimple bs = .success := if_neg (not_not.mpr h.getMemoryMap)
  simp [bootParamsInit, hmapped, setupSharedMemory_ok h.sharedPages, preserveRuntimeServices,
    loadKernel, h.kernelPages]

/-- **What the parameters depend on.** Where the initialisation succeeds, two
initial contents of the parameters lead to the same parameters if and only if
they agree in the fields of `SameLeftover`. -/
theorem bootParamsInit_determined_iff {bs : BootServices} {runtimeServices : UInt64} {g : Graphics}
    {params : BootParams} {memory : SharedMemoryHeader} (params' : BootParams)
    (hs : (bootParamsInit bs runtimeServices g params memory).1 = .success) :
    (bootParamsInit bs runtimeServices g params' memory).1 = .success ∧
      ((bootParamsInit bs runtimeServices g params memory).2.1 =
          (bootParamsInit bs runtimeServices g params' memory).2.1 ↔
        params.SameLeftover params') := by
  have h := succeeds_of_bootParamsInit hs
  refine ⟨bootParamsInit_status h runtimeServices g params' memory, ?_⟩
  rw [bootParamsInit_success h, bootParamsInit_success h]
  exact BootParams.initialised_eq_iff

/-- Boot services that grant every request, without graphics. -/
def BootServices.granting : BootServices where
  getMemoryMap := efiBufferTooSmall
  descSize := 48
  sharedPages := ⟨0, 0x200000⟩
  locateProtocol := (efiUnsupported, none)
  kernelPages := ⟨0, 0x100000⟩
  kernelAnyPages := ⟨0, 0x100000⟩

/-- Parameters that differ only in a field that is set. -/
theorem bootParamsInit_determined_iff_signature :
    (bootParamsInit .granting 0x1000 ⟨none, none⟩ .zero .zero).2.1 =
      (bootParamsInit .granting 0x1000 ⟨none, none⟩ { BootParams.zero with signature := 1 }
        .zero).2.1 := by
  refine (bootParamsInit_determined_iff { BootParams.zero with signature := 1 } ?_).2.mpr ?_
  · exact bootParamsInit_status ⟨rfl, rfl, rfl⟩ _ _ _ _
  · exact ⟨rfl, rfl, rfl, rfl, rfl, rfl, rfl, rfl, rfl, rfl, rfl, rfl, rfl, rfl, rfl, rfl, rfl⟩

/-- Two stacks that differ where the address of the memory map is kept. -/
theorem memory_map_address_left_over :
    ¬ ∀ (bs : BootServices) (runtimeServices : UInt64) (g : Graphics) (params params' : BootParams)
        (memory : SharedMemoryHeader),
      (bootParamsInit bs runtimeServices g params memory).1 = .success →
      (bootParamsInit bs runtimeServices g params' memory).1 = .success →
      (bootParamsInit bs runtimeServices g params memory).2.1 =
        (bootParamsInit bs runtimeServices g params' memory).2.1 := by
  intro h
  have hs : BootServices.granting.Succeeds := ⟨rfl, rfl, rfl⟩
  have heq := h .granting 0x1000 ⟨none, none⟩ .zero { BootParams.zero with memoryMapAddr := 1 } .zero
    (bootParamsInit_status hs _ _ _ _) (bootParamsInit_status hs _ _ _ _)
  rw [bootParamsInit_success hs, bootParamsInit_success hs, BootParams.initialised_eq_iff] at heq
  exact absurd heq.memoryMapAddr (show (0 : UInt64) ≠ 1 by decide)

end Dos25
