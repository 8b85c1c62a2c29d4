/-
# What the boot leaves in memory

`boot_params_init` on the bytes of the machine: the shared pages are cleared
and set up, the address of the runtime services is stored behind them, where
the header's last fields come to lie, and at last `load_kernel` clears the
mebibyte it was granted for the kernel. The firmware promises pages that are
aligned and not granted twice, but the header's last fields are in no granted
page: they are taken to be in memory that nothing else uses, unless the kernel's
pages lie there. So the region that the self test and the daemon find is always
ready for them, but the kernel finds the runtime services there only where its
own pages do not begin within the five that follow the shared ones
(`boot_memory`).

Key definitions: `bootParamsInitAt`, `BootServices.Places`,
`SharedMemoryHeader.Fresh`.
-/
import Dos25.EfiMain
import Dos25.SharedBytes

namespace Dos25

open AddressSpace Layout

/-! ### The code -/

def setupSharedMemoryAt (alloc : PageAllocation) (params : BootParams) (m : Mem) :
    BootStatus × BootParams × Mem :=
  if efiError alloc.status then (.errorMemory, params, m)
  else
    let params := { params with
      sharedBuffer := alloc.address
      sharedBufferSize := UInt64.ofNat sharedMemSize
      sharedHeader := alloc.address }
    let (status, m) := initializeIpcQueuesAt m params.sharedHeader.toNat
    (status, params, m)

def preserveRuntimeServicesAt (runtimeServices : UInt64) (params : BootParams) (m : Mem) :
    BootStatus × BootParams × Mem :=
  let params := { params with rtServices := runtimeServices, rtServicesPhys := runtimeServices }
  let m := if params.sharedHeader ≠ 0 then
      let m := word64.store m (params.sharedHeader.toNat + offset sharedMemoryHeaderFields 7)
        runtimeServices
      word64.store m (params.sharedHeader.toNat + offset sharedMemoryHeaderFields 8) runtimeServices
    else m
  (.success, params, m)

/-- The bytes `load_kernel` asks for and clears. -/
def kernelSize : ℕ := 1024 * 1024

/-- The search for `kernel.elf` only prints. -/
def loadKernelAt (bs : BootServices) (params : BootParams) (m : Mem) :
    BootStatus × BootParams × Mem :=
  let alloc := if efiError bs.kernelPages.status then bs.kernelAnyPages else bs.kernelPages
  if efiError alloc.status then (.errorMemory, params, m)
  else (.success, { params with
    kernelEntry := alloc.address
    kernelSize := UInt64.ofNat kernelSize
    kernelBase := alloc.address }, fill m alloc.address.toNat kernelSize 0)

/-- As `bootParamsInit`, on the memory of the machine. -/
def bootParamsInitAt (bs : BootServices) (runtimeServices : UInt64) (g : Graphics)
    (params : BootParams) (m : Mem) : BootStatus × BootParams × Mem × Graphics :=
  let params := { params with
    signature := bootParamsSignature
    version := dos25RuntimeVersion
    size := UInt32.ofNat bootParamsTy.size
    daemonProcessId := 1 }
  let status := getMemoryMapSimple bs
  if status ≠ .success then (status, params, m, g)
  else
    let (status, params, m) := setupSharedMemoryAt bs.sharedPages params m
    if status ≠ .success then (status, params, m, g)
    else
      let (status, params, m) := preserveRuntimeServicesAt runtimeServices params m
      if status ≠ .success then (status, params, m, g)
      else
        let (_, g, params) := graphicsInit bs g params
        let (status, params, m) := loadKernelAt bs params m
        if status ≠ .success then (status, params, m, g)
        else (.success, params, m, g)

/-! ### What is left -/

/-- What UEFI promises of granted pages: they begin at a page, and none is
granted twice. -/
structure BootServices.Places (bs : BootServices) : Prop where
  shared_aligned : 4096 ∣ bs.sharedPages.address.toNat
  kernel_aligned : 4096 ∣ bs.kernelAddress.toNat
  disjoint : bs.kernelAddress.toNat + kernelSize ≤ bs.sharedPages.address.toNat ∨
    bs.sharedPages.address.toNat + sharedMemSize ≤ bs.kernelAddress.toNat

section

variable {bs : BootServices} {runtimeServices : UInt64} {g : Graphics} {params : BootParams} {m : Mem}

/-- The memory before `load_kernel`. -/
def preservedMemory (bs : BootServices) (runtimeServices : UInt64) (m : Mem) : Mem :=
  let a := bs.sharedPages.address.toNat
  let m := (initializeIpcQueuesAt m a).2
  let m := word64.store m (a + offset sharedMemoryHeaderFields 7) runtimeServices
  word64.store m (a + offset sharedMemoryHeaderFields 8) runtimeServices

/-- What the caller gets does not depend on where the header is kept. -/
theorem bootParamsInitAt_eq (bs : BootServices) (runtimeServices : UInt64) (g : Graphics)
    (params : BootParams) (m : Mem) (memory : SharedMemoryHeader) :
    (bootParamsInitAt bs runtimeServices g params m).1 =
        (bootParamsInit bs runtimeServices g params memory).1 ∧
      (bootParamsInitAt bs runtimeServices g params m).2.1 =
        (bootParamsInit bs runtimeServices g params memory).2.1 ∧
      (bootParamsInitAt bs runtimeServices g params m).2.2.2 =
        (bootParamsInit bs runtimeServices g params memory).2.2.2 := by
  have hset : ∀ m a, (initializeIpcQueuesAt m a).1 = .success := fun _ _ => rfl
  have hset' : (initializeIpcQueues memory).1 = .success := rfl
  have hsize : UInt64.ofNat kernelSize = 1024 * 1024 := rfl
  cases hmap : getMemoryMapSimple bs with
  | success =>
    cases hshared : efiError bs.sharedPages.status with
    | true =>
      simp [bootParamsInitAt, bootParamsInit, hmap, setupSharedMemoryAt, setupSharedMemory, hshared]
    | false =>
      cases hkernel : efiError
          (if efiError bs.kernelPages.status then bs.kernelAnyPages else bs.kernelPages).status
      all_goals
        simp [bootParamsInitAt, bootParamsInit, hmap, setupSharedMemoryAt, setupSharedMemory, hshared,
          preserveRuntimeServicesAt, preserveRuntimeServices, loadKernelAt, loadKernel, hkernel, hset,
          hset', hsize]
  | _ => simp [bootParamsInitAt, bootParamsInit, hmap]

/-- A successful initialisation clears the kernel's pages last. -/
theorem bootParamsInitAt_memory (h : bs.Succeeds) (ha : bs.sharedPages.address ≠ 0) :
    (bootParamsInitAt bs runtimeServices g params m).2.2.1 =
      fill (preservedMemory bs runtimeServices m) bs.kernelAddress.toNat kernelSize 0 := by
  have hmapped : getMemoryMapSimple bs = .success := if_neg (not_not.mpr h.getMemoryMap)
  have hset : ∀ m a, (initializeIpcQueuesAt m a).1 = .success := fun _ _ => rfl
  simp [bootParamsInitAt, hmapped, setupSharedMemoryAt, h.sharedPages, hset,
    preserveRuntimeServicesAt, ha, loadKernelAt, h.kernelPages, preservedMemory,
    BootServices.kernelAddress]

/-- Before that, the shared pages hold the header of the model. -/
theorem preservedMemory_shows (bs : BootServices) (runtimeServices : UInt64) (m : Mem) :
    ShowsHeader bs.sharedPages.address.toNat m (preservedMemory bs runtimeServices m)
      (initialRegion runtimeServices (.load m bs.sharedPages.address.toNat)) :=
  (initializeIpcQueuesAt_spec m _).storeRuntimeServices runtimeServices runtimeServices

end

/-- The kernel's pages begin in one of the five that follow the shared ones. -/
def BootServices.Covers (bs : BootServices) : Prop :=
  ∃ k < 5, bs.kernelAddress.toNat = bs.sharedPages.address.toNat + sharedMemSize + 4096 * k

namespace BootServices.Places

variable {bs : BootServices} (hp : bs.Places) (m : Mem)

include hp

/-- Clearing the kernel's pages is not seen in the shared ones. -/
theorem load_shared {α : Type} [OfNat α 0] (c : Scalar α) {o : ℕ} (ho : o + c.size ≤ sharedMemSize) :
    c.load (fill m bs.kernelAddress.toNat kernelSize 0) (bs.sharedPages.address.toNat + o) =
      c.load m (bs.sharedPages.address.toNat + o) := by
  refine (c.load_congr ((agreeOff_fill m _ kernelSize 0).agreeOn ?_)).symm
  have hd := hp.disjoint
  dsimp only
  omega

/-- The page where the header ends: the kernel's pages hold all of it or
nothing. -/
theorem covers_cases :
    (bs.Covers ∧ bs.kernelAddress.toNat ≤ bs.sharedPages.address.toNat + 4096 * 516 ∧
      bs.sharedPages.address.toNat + 4096 * 517 ≤ bs.kernelAddress.toNat + kernelSize) ∨
    (¬ bs.Covers ∧ (bs.kernelAddress.toNat + kernelSize ≤ bs.sharedPages.address.toNat + 4096 * 516 ∨
      bs.sharedPages.address.toNat + 4096 * 517 ≤ bs.kernelAddress.toNat)) := by
  obtain ⟨x, hx⟩ := hp.kernel_aligned
  obtain ⟨y, hy⟩ := hp.shared_aligned
  have hd := hp.disjoint
  have hk : kernelSize = 4096 * 256 := rfl
  have hs : sharedMemSize = 4096 * 512 := rfl
  by_cases hc : bs.Covers
  · obtain ⟨k, hk5, hk⟩ := id hc
    exact .inl ⟨hc, by omega, by omega⟩
  · have hne : ∀ k < 5, x ≠ y + 512 + k := by
      rintro k hk5 rfl
      exact hc ⟨k, hk5, by omega⟩
    have h0 := hne 0 (by decide)
    have h1 := hne 1 (by decide)
    have h2 := hne 2 (by decide)
    have h3 := hne 3 (by decide)
    have h4 := hne 4 (by decide)
    exact .inr ⟨hc, by omega⟩

/-- A word of that page. -/
theorem load_behind {o : ℕ} (ho : 4096 * 516 ≤ o) (hend : o + 8 ≤ 4096 * 517) :
    (bs.Covers → word64.load (fill m bs.kernelAddress.toNat kernelSize 0)
      (bs.sharedPages.address.toNat + o) = 0) ∧
    (¬ bs.Covers → word64.load (fill m bs.kernelAddress.toNat kernelSize 0)
      (bs.sharedPages.address.toNat + o) = word64.load m (bs.sharedPages.address.toNat + o)) := by
  rcases hp.covers_cases with ⟨hc, hle, hge⟩ | ⟨hc, hd⟩
  · refine ⟨fun _ => word64.load_fill m (by omega) ?_, fun hno => absurd hc hno⟩
    simp only [word64]
    omega
  · refine ⟨fun hyes => absurd hyes hc, fun _ => ?_⟩
    refine (word64.load_congr ((agreeOff_fill m _ kernelSize 0).agreeOn ?_)).symm
    simp only [word64]
    omega

end BootServices.Places

/-- A queue whose words were set up. -/
theorem IpcQueue.wf_of_words {q : IpcQueue} (hp : q.producerIndex = 0) (hc : q.consumerIndex = 0)
    (hn : q.count = 0) (hcap : q.capacity = 256) : q.WF ∧ q.contents = [] := by
  have hq : q.initialized = q := IpcQueue.ext hp.symm hc.symm hn.symm hcap.symm rfl
  exact hq ▸ ⟨q.initialized_wf, q.initialized_contents⟩

section

variable {bs : BootServices} {runtimeServices : UInt64} {m m0 : Mem} {old : SharedMemoryHeader}

/-- The header stays fresh when the kernel's pages are cleared. -/
theorem fresh_cleared (hp : bs.Places)
    (h : ShowsHeader bs.sharedPages.address.toNat m0 m (initialRegion runtimeServices old)) :
    (SharedMemoryHeader.load (fill m bs.kernelAddress.toNat kernelSize 0)
      bs.sharedPages.address.toNat).Fresh := by
  have hword : ∀ (d : Direction) (k : Fin 4),
      word32.load (fill m bs.kernelAddress.toNat kernelSize 0)
        (bs.sharedPages.address.toNat + queueOffset d + offset ipcQueueFields k) =
      word32.load m (bs.sharedPages.address.toNat + queueOffset d + offset ipcQueueFields k) := by
    intro d k
    have hle : ∀ k : Fin 4, queueOffset d + offset ipcQueueFields k + word32.size ≤ sharedMemSize := by
      cases d <;> decide
    rw [Nat.add_assoc]
    exact hp.load_shared m word32 (hle k)
  have hqueue : ∀ d, (IpcQueue.load (fill m bs.kernelAddress.toNat kernelSize 0)
      (bs.sharedPages.address.toNat + queueOffset d)).WF ∧
      (IpcQueue.load (fill m bs.kernelAddress.toNat kernelSize 0)
        (bs.sharedPages.address.toNat + queueOffset d)).contents = [] := by
    intro d
    have hd := h.queue d
    have hset : ((initialRegion runtimeServices old).queue d).initialized =
        (initialRegion runtimeServices old).queue d := by
      cases d <;> rfl
    rw [← hd] at hset
    exact IpcQueue.wf_of_words
      ((hword d 0).trans (congrArg IpcQueue.producerIndex hset).symm)
      ((hword d 1).trans (congrArg IpcQueue.consumerIndex hset).symm)
      ((hword d 2).trans (congrArg IpcQueue.count hset).symm)
      ((hword d 3).trans (congrArg IpcQueue.capacity hset).symm)
  have hcounter : ∀ {o : ℕ}, 4096 * 516 ≤ o → o + 8 ≤ 4096 * 517 →
      word64.load m (bs.sharedPages.address.toNat + o) = 0 →
      word64.load (fill m bs.kernelAddress.toNat kernelSize 0) (bs.sharedPages.address.toNat + o) =
        0 := by
    intro o ho hend hzero
    have hbehind := hp.load_behind m ho hend
    by_cases hc : bs.Covers
    · exact hbehind.1 hc
    · exact (hbehind.2 hc).trans hzero
  exact {
    wf := .of (hqueue .kernelToDaemon).1 (hqueue .daemonToKernel).1
    requests := (hqueue .kernelToDaemon).2
    responses := (hqueue .daemonToKernel).2
    magic := (hp.load_shared m word64 (by decide)).trans (congrArg (·.magic) h.shows)
    version := (hp.load_shared m word32 (by decide)).trans (congrArg (·.version) h.shows)
    size := (hp.load_shared m word32 (by decide)).trans (congrArg (·.size) h.shows)
    messagesSent := hcounter (by decide) (by decide) (congrArg (·.messagesSent) h.shows)
    messagesReceived := hcounter (by decide) (by decide) (congrArg (·.messagesReceived) h.shows)
    errors := hcounter (by decide) (by decide) (congrArg (·.errors) h.shows) }

end

/-- The self test and the daemon find a fresh header ready. -/
theorem SharedMemoryHeader.Fresh.boots {header : SharedMemoryHeader} (hf : header.Fresh)
    (fw : RuntimeServices) (response : IpcMessage) (stack : Stack) :
    ∃ shm d, runIpcTests (some header) response = .ok (.success, some shm) ∧
      jumpToKernel shm (some fw) stack = .ok (.success, some d) ∧ Booted d := by
  obtain ⟨shm, htest, htested⟩ := hf.tested response
  obtain ⟨d, hjump, hbooted⟩ := htested.booted stack fw
  exact ⟨shm, d, htest, hjump, hbooted⟩

/-- **What the boot leaves in memory.** Where the firmware grants all pages, at
addresses such as UEFI promises and the shared ones not at zero, and whatever the
memory held: the parameters are those of `initialised`, and the header in memory
is fresh, so the self test passes and the daemon, given runtime services whose
`ResetSystem` returns, serves its messages. But the address of the runtime
services is in the header if and only if the kernel's pages do not begin in one
of the five that follow the shared ones; else zero is. Outside the header and
the kernel's pages nothing has changed. -/
theorem boot_memory {bs : BootServices} (h : bs.Succeeds) (hp : bs.Places)
    (ha : bs.sharedPages.address ≠ 0) (runtimeServices : UInt64) (g : Graphics) (params : BootParams)
    (m : Mem) (fw : RuntimeServices) (response : IpcMessage) (stack : Stack) :
    ∃ m' g' header shm d,
      bootParamsInitAt bs runtimeServices g params m =
        (.success, params.initialised bs runtimeServices, m', g') ∧
      SharedMemoryHeader.load m' bs.sharedPages.address.toNat = header ∧ header.Fresh ∧
      runIpcTests (some header) response = .ok (.success, some shm) ∧
      jumpToKernel shm (some fw) stack = .ok (.success, some d) ∧ Booted d ∧
      (bs.Covers → header.rtServices = 0 ∧ header.rtServicesPhys = 0) ∧
      (¬ bs.Covers → header.rtServices = runtimeServices ∧ header.rtServicesPhys = runtimeServices) ∧
      (∀ x, ¬ (⟨bs.sharedPages.address.toNat, sharedMemoryHeaderTy.size⟩ : Span).Contains x →
        ¬ (⟨bs.kernelAddress.toNat, kernelSize⟩ : Span).Contains x → m x = m' x) := by
  obtain ⟨hstatus, hparams, -⟩ := bootParamsInitAt_eq bs runtimeServices g params m .zero
  rw [bootParamsInit_status h] at hstatus
  rw [bootParamsInit_success h] at hparams
  have hshows := preservedMemory_shows bs runtimeServices m
  have hfresh := fresh_cleared hp hshows
  obtain ⟨shm, d, htest, hjump, hbooted⟩ := hfresh.boots fw response stack
  have hrt := hp.load_behind (preservedMemory bs runtimeServices m)
    (o := offset sharedMemoryHeaderFields 7) (by decide) (by decide)
  have hphys := hp.load_behind (preservedMemory bs runtimeServices m)
    (o := offset sharedMemoryHeaderFields 8) (by decide) (by decide)
  refine ⟨_, (bootParamsInitAt bs runtimeServices g params m).2.2.2, _, shm, d, ?_, rfl, hfresh,
    htest, hjump, hbooted, fun hc => ⟨hrt.1 hc, hphys.1 hc⟩, fun hc => ⟨?_, ?_⟩, fun x hx hk => ?_⟩
  · exact Prod.ext hstatus (Prod.ext hparams (Prod.ext (bootParamsInitAt_memory h ha) rfl))
  · exact (hrt.2 hc).trans (congrArg SharedMemoryHeader.rtServices hshows.shows :)
  · exact (hphys.2 hc).trans (congrArg SharedMemoryHeader.rtServicesPhys hshows.shows :)
  · exact (hshows.others x hx).trans (agreeOff_fill _ _ _ 0 x hk)

/-- Firmware that hands out pages upwards from 1 MiB. -/
def BootServices.upwards : BootServices where
  getMemoryMap := efiBufferTooSmall
  descSize := 48
  sharedPages := ⟨0, 0x100000⟩
  locateProtocol := (efiUnsupported, none)
  kernelPages := ⟨0x800000000000000E, 0x100000⟩
  kernelAnyPages := ⟨0, 0x300000⟩

/-- The kernel's pages follow the shared ones, and the header has lost the
address. -/
theorem boot_memory_upwards : ∃ m' g' header,
    bootParamsInitAt .upwards 0x1000 ⟨none, none⟩ .zero (fun _ => 0xFF) =
      (.success, BootParams.zero.initialised .upwards 0x1000, m', g') ∧
    SharedMemoryHeader.load m' 0x100000 = header ∧ header.rtServices = 0 := by
  have hs : BootServices.upwards.Succeeds := ⟨rfl, rfl, rfl⟩
  have hp : BootServices.upwards.Places := ⟨by decide, by decide, by decide⟩
  obtain ⟨m', g', header, _, _, hinit, hheader, -, -, -, -, hcovers, -, -⟩ :=
    boot_memory hs hp (by decide) 0x1000 ⟨none, none⟩ .zero (fun _ => 0xFF) .idle .zero .zero
  exact ⟨m', g', header, hinit, hheader, (hcovers ⟨0, by decide, by decide⟩).1⟩

end Dos25
