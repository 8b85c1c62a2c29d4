/-
# The retry of `memory_exit_boot_services`

`ExitBootServices` refuses a key that is not the current map's. The retry then
frees its buffer and asks for the map again, but the size it asks with is the
one of the first attempt. Where the firmware keeps a memory map as UEFI
describes it (`MemoryServices.Maps`), a size that is large enough makes the
probe with a NULL buffer an invalid call, not one that is too small: so the
retry gets through exactly when the map has grown past the stale size
(`memoryExitBootServices_retry_iff`), and fails when it has shrunk or kept its
size.

Key definitions: `MemoryServices.Maps`, `MemoryState.Current`.
-/
import Dos25.Memory

namespace Dos25

/-- The firmware's memory map: the bytes it takes, and its key. -/
structure MemoryMap where
  size : UInt64
  key : UInt64

/-- The firmware's map is `map`, a function of the calls made, and only pool
calls change it; allocations succeed and add two descriptors at most. -/
structure MemoryServices.Maps (bs : MemoryServices) (map : List BootCall → MemoryMap)
    (descriptorSize : UInt64) (descriptorVersion : UInt32) : Prop where
  tooSmall : ∀ calls size buffer, size < (map calls).size →
    (bs.getMemoryMap calls size buffer).status = efiBufferTooSmall ∧
      (bs.getMemoryMap calls size buffer).size = (map calls).size ∧
      (bs.getMemoryMap calls size buffer).descriptorSize = some descriptorSize
  null : ∀ calls size, (map calls).size ≤ size →
    (bs.getMemoryMap calls size 0).status = efiInvalidParameter
  filled : ∀ calls size buffer, (map calls).size ≤ size → buffer ≠ 0 →
    bs.getMemoryMap calls size buffer =
      ⟨0, (map calls).size, some (map calls).key, some descriptorSize, some descriptorVersion⟩
  granted : ∀ calls size, ∃ buffer, buffer ≠ 0 ∧ bs.allocatePool calls size = ⟨0, some buffer⟩
  exits : ∀ calls key, efiError (bs.exitBootServices calls key) = false ↔ key = (map calls).key
  same_getMemoryMap : ∀ calls size buffer answer,
    map (calls ++ [.getMemoryMap size buffer answer]) = map calls
  same_exit : ∀ calls key status, map (calls ++ [.exitBootServices key status]) = map calls
  grows : ∀ calls size answer, (map (calls ++ [.allocatePool size answer])).size.toNat ≤
    (map calls).size.toNat + 2 * descriptorSize.toNat
  fits : ∀ calls, (map calls).size.toNat + 2 * descriptorSize.toNat < 2 ^ 64

/-- The module holds the current map and its key. -/
structure MemoryState.Current (map : List BootCall → MemoryMap) (m : MemoryState) : Prop where
  memoryMap : m.memoryMap ≠ 0
  size : m.memoryMapSize = (map m.calls).size
  key : m.mapKey = (map m.calls).key

section

variable {bs : MemoryServices} {map : List BootCall → MemoryMap} {descriptorSize : UInt64}
  {descriptorVersion : UInt32} {m : MemoryState}

/-- The probe goes through with a size that is too small only. -/
theorem MemoryServices.Maps.probe_iff (hm : bs.Maps map descriptorSize descriptorVersion) :
    (callGetMemoryMap bs 0 m).1 = efiBufferTooSmall ↔ m.memoryMapSize < (map m.calls).size := by
  constructor
  · intro h
    by_contra hle
    have hnull : (callGetMemoryMap bs 0 m).1 = efiInvalidParameter :=
      hm.null _ _ (UInt64.not_lt.mp hle)
    exact absurd (h.symm.trans hnull) (by decide)
  · intro hlt
    exact (hm.tooSmall _ _ _ hlt).1

/-- What was allocated has room for the map as the allocation left it. -/
theorem MemoryServices.Maps.margin (hm : bs.Maps map descriptorSize descriptorVersion)
    (hlt : m.memoryMapSize < (map m.calls).size) :
    ∃ m', callAllocatePool bs (addMargin (callGetMemoryMap bs 0 m).2) = (0, m') ∧
      m'.memoryMap ≠ 0 ∧ (map m'.calls).size ≤ m'.memoryMapSize := by
  let probed := (callGetMemoryMap bs 0 m).2
  obtain ⟨-, hsize, hdesc⟩ := hm.tooSmall m.calls m.memoryMapSize 0 hlt
  have hmap : map probed.calls = map m.calls := hm.same_getMemoryMap _ _ _ _
  have hprobed : probed.memoryMapSize = (map probed.calls).size := hsize.trans (by rw [hmap])
  have hprobedDesc : probed.descriptorSize = descriptorSize := by
    show Option.getD _ m.descriptorSize = descriptorSize
    rw [hdesc, Option.getD_some]
  obtain ⟨buffer, hne, halloc⟩ := hm.granted probed.calls (addMargin probed).memoryMapSize
  let allocated : MemoryState := { addMargin probed with
    memoryMap := buffer
    calls := probed.calls ++ [.allocatePool (addMargin probed).memoryMapSize ⟨0, some buffer⟩] }
  have hcall : callAllocatePool bs (addMargin probed) = (0, allocated) := by
    show (_, MemoryState.mk _ _ _ _ _ _) = _
    rw [show bs.allocatePool (addMargin probed).calls (addMargin probed).memoryMapSize = _ from halloc]
    rfl
  refine ⟨allocated, hcall, hne, ?_⟩
  have hgrows := hm.grows probed.calls (addMargin probed).memoryMapSize ⟨0, some buffer⟩
  have hfits := hm.fits probed.calls
  have henlarged : allocated.memoryMapSize.toNat =
      (map probed.calls).size.toNat + 2 * descriptorSize.toNat := by
    show (probed.memoryMapSize + 2 * probed.descriptorSize).toNat = _
    rw [hprobed, hprobedDesc, UInt64.toNat_add, UInt64.toNat_mul]
    show ((map probed.calls).size.toNat + 2 * descriptorSize.toNat % 2 ^ 64) % 2 ^ 64 = _
    omega
  rw [UInt64.le_iff_toNat_le, henlarged]
  exact hgrows

/-- **`memory_get_map` on a module with this size** gets the current map if the
size is too small, and fails otherwise. -/
theorem MemoryServices.Maps.memoryGetMap (hm : bs.Maps map descriptorSize descriptorVersion) :
    (m.memoryMapSize < (map m.calls).size →
        (memoryGetMap bs m).1 = .success ∧ (memoryGetMap bs m).2.Current map) ∧
      (¬ m.memoryMapSize < (map m.calls).size → (memoryGetMap bs m).1 ≠ .success) := by
  refine memoryGetMap_cases (P := fun p => (_ → p.1 = .success ∧ p.2.Current map) ∧
    (_ → p.1 ≠ .success)) ?_ ?_ ?_ ?_
  · intro hs
    exact ⟨fun hlt => absurd (hm.probe_iff.mpr hlt) hs, fun _ => nofun⟩
  · rintro hs allocated rfl ha
    obtain ⟨m', hcall, -, -⟩ := hm.margin (hm.probe_iff.mp hs)
    rw [hcall] at ha
    exact absurd ha (show ¬ efiError 0 = true by decide)
  · rintro hs allocated rfl ha hf
    obtain ⟨m', hcall, hne, hle⟩ := hm.margin (hm.probe_iff.mp hs)
    have hfilled := hm.filled m'.calls m'.memoryMapSize m'.memoryMap hle hne
    rw [hcall] at hf
    have hstatus : (bs.getMemoryMap m'.calls m'.memoryMapSize m'.memoryMap).status = 0 := by
      rw [hfilled]
    rw [show (callGetMemoryMap bs m'.memoryMap m').1 = 0 from hstatus] at hf
    exact absurd hf (show ¬ efiError 0 = true by decide)
  · rintro hs allocated rfl ha hf
    have hlt := hm.probe_iff.mp hs
    obtain ⟨m', hcall, hne, hle⟩ := hm.margin hlt
    have hfilled := hm.filled m'.calls m'.memoryMapSize m'.memoryMap hle hne
    refine ⟨fun _ => ⟨rfl, ?_⟩, fun hn => absurd hlt hn⟩
    rw [hcall]
    have hmap : map (callGetMemoryMap bs m'.memoryMap m').2.calls = map m'.calls :=
      hm.same_getMemoryMap _ _ _ _
    refine ⟨hne, ?_, ?_⟩
    · rw [hmap]
      exact congrArg MapAnswer.size hfilled
    · rw [hmap]
      show Option.getD _ m'.mapKey = _
      rw [hfilled]
      rfl

/-- The map's bytes once the exit has failed and the buffer that is held has
been freed. -/
def MemoryState.required (bs : MemoryServices) (map : List BootCall → MemoryMap)
    (m : MemoryState) : UInt64 :=
  (map (releaseMemoryMap bs (callExitBootServices bs m).2).calls).size

theorem releaseMemoryMap_size : (releaseMemoryMap bs m).memoryMapSize = m.memoryMapSize := by
  unfold releaseMemoryMap
  split_ifs <;> rfl

/-- With the current map in the module, the exit succeeds. -/
theorem MemoryServices.Maps.exit_current (hm : bs.Maps map descriptorSize descriptorVersion)
    (h : m.Current map) : efiError (callExitBootServices bs m).1 = false ∧
      (callExitBootServices bs m).2.Current map := by
  refine ⟨(hm.exits m.calls m.mapKey).mpr h.key, h.memoryMap, ?_, ?_⟩
  · show m.memoryMapSize = (map (m.calls ++ [_])).size
    rw [hm.same_exit, h.size]
  · show m.mapKey = (map (m.calls ++ [_])).key
    rw [hm.same_exit, h.key]

/-- The retry, after a first exit that failed. -/
theorem MemoryServices.Maps.retry (hm : bs.Maps map descriptorSize descriptorVersion)
    (hfail : efiError (callExitBootServices bs m).1 = true) :
    (m.memoryMapSize < m.required bs map →
        (memoryExitBootServices bs m).1 = .success ∧ (memoryExitBootServices bs m).2.Current map) ∧
      (¬ m.memoryMapSize < m.required bs map → (memoryExitBootServices bs m).1 ≠ .success) := by
  let released := releaseMemoryMap bs (callExitBootServices bs m).2
  have hsize : released.memoryMapSize = m.memoryMapSize := releaseMemoryMap_size
  have hgot := hm.memoryGetMap (m := released)
  rw [hsize] at hgot
  refine memoryExitBootServices_cases (P := fun p => (_ → p.1 = .success ∧ p.2.Current map) ∧
    (_ → p.1 ≠ .success)) ?_ ?_ ?_
  · intro hok
    rw [hfail] at hok
    cases hok
  · rintro - got rfl hne
    exact ⟨fun hlt => absurd (hgot.1 hlt).1 hne, fun _ => nofun⟩
  · rintro - got rfl hs
    have hlt : m.memoryMapSize < m.required bs map := by
      by_contra hn
      exact hgot.2 hn hs
    obtain ⟨hexit, hcurrent⟩ := hm.exit_current (hgot.1 hlt).2
    rw [hexit]
    exact ⟨fun _ => ⟨rfl, hcurrent⟩, fun hn => absurd hlt hn⟩

/-- **The retry gets through exactly when the map has grown.** Where the first
exit fails, `memory_exit_boot_services` returns `BOOT_SUCCESS` with the
current map and key if and only if the size left over from the first attempt
is below the size required after the old buffer is freed. -/
theorem memoryExitBootServices_retry_iff (hm : bs.Maps map descriptorSize descriptorVersion)
    (hfail : efiError (callExitBootServices bs m).1 = true) :
    ((memoryExitBootServices bs m).1 = .success ∧ (memoryExitBootServices bs m).2.Current map) ↔
      m.memoryMapSize < m.required bs map := by
  obtain ⟨hgrown, hstale⟩ := hm.retry hfail
  constructor
  · intro h
    by_contra hn
    exact hstale hn h.1
  · exact hgrown

end

def BootCall.isAllocatePool : BootCall → Bool
  | .allocatePool .. => true
  | _ => false

def BootCall.isFreePool : BootCall → Bool
  | .freePool .. => true
  | _ => false

/-- A map that takes a descriptor of 48 bytes more with each allocation, up to
a thousand of them, and has a new key with each pool call. -/
def pooledMap (calls : List BootCall) : MemoryMap where
  size := 480 + 48 * UInt64.ofNat (min (calls.countP (·.isAllocatePool)) 1000)
  key := UInt64.ofNat (calls.countP fun c => c.isAllocatePool || c.isFreePool)

def MemoryServices.pooled : MemoryServices where
  getMemoryMap calls size buffer :=
    let current := pooledMap calls
    if size < current.size then ⟨efiBufferTooSmall, current.size, none, some 48, some 1⟩
    else if buffer = 0 then ⟨efiInvalidParameter, size, none, none, none⟩
    else ⟨0, current.size, some current.key, some 48, some 1⟩
  allocatePool calls _ := ⟨0, some (4096 * (pooledMap calls).size)⟩
  freePool _ _ := 0
  exitBootServices calls key := if key = (pooledMap calls).key then 0 else efiInvalidParameter

theorem pooledMap_size (calls : List BootCall) :
    (pooledMap calls).size.toNat = 480 + 48 * min (calls.countP (·.isAllocatePool)) 1000 := by
  let n := min (calls.countP (·.isAllocatePool)) 1000
  have hle : n ≤ 1000 := Nat.min_le_right _ _
  have hn : (UInt64.ofNat n).toNat = n := UInt64.toNat_ofNat_of_lt' (by show n < 2 ^ 64; omega)
  show (480 + 48 * UInt64.ofNat n).toNat = 480 + 48 * n
  rw [UInt64.toNat_add, UInt64.toNat_mul, hn]
  show (480 + 48 * n % 2 ^ 64) % 2 ^ 64 = _
  omega

theorem MemoryServices.pooled_maps : pooled.Maps pooledMap 48 1 where
  tooSmall calls size buffer h := by
    have hanswer : pooled.getMemoryMap calls size buffer =
        ⟨efiBufferTooSmall, (pooledMap calls).size, none, some 48, some 1⟩ := if_pos h
    rw [hanswer]
    exact ⟨rfl, rfl, rfl⟩
  null calls size h := by
    have hanswer : pooled.getMemoryMap calls size 0 = ⟨efiInvalidParameter, size, none, none, none⟩ :=
      (if_neg (UInt64.not_lt.mpr h)).trans (if_pos rfl)
    rw [hanswer]
  filled calls size buffer h hne := (if_neg (UInt64.not_lt.mpr h)).trans (if_neg hne)
  granted calls size := by
    refine ⟨4096 * (pooledMap calls).size, fun hzero => ?_, rfl⟩
    have hbounds : 480 ≤ (pooledMap calls).size.toNat ∧ (pooledMap calls).size.toNat ≤ 48480 := by
      rw [pooledMap_size]
      omega
    have hnat := congrArg UInt64.toNat hzero
    rw [UInt64.toNat_mul, UInt64.toNat_zero, show (4096 : UInt64).toNat = 4096 from rfl] at hnat
    omega
  exits calls key := by
    show efiError (if key = (pooledMap calls).key then 0 else efiInvalidParameter) = false ↔ _
    split_ifs with h
    · exact ⟨fun _ => h, fun _ => by decide⟩
    · exact ⟨fun he => absurd he (show ¬ efiError efiInvalidParameter = false by decide),
        fun he => absurd he h⟩
  same_getMemoryMap calls size buffer answer := by
    simp [pooledMap, BootCall.isAllocatePool, BootCall.isFreePool]
  same_exit calls key status := by
    simp [pooledMap, BootCall.isAllocatePool, BootCall.isFreePool]
  grows calls size answer := by
    have hone : (calls ++ [BootCall.allocatePool size answer]).countP (·.isAllocatePool) =
        calls.countP (·.isAllocatePool) + 1 := List.countP_append
    rw [pooledMap_size, pooledMap_size, hone, show (48 : UInt64).toNat = 48 from rfl]
    omega
  fits calls := by
    rw [pooledMap_size, show (48 : UInt64).toNat = 48 from rfl]
    omega

/-- The module with the first map, and the pool calls others made since. -/
def MemoryState.afterOthers (others : List BootCall) : MemoryState :=
  let m := (memoryGetMap .pooled .zero).2
  { m with calls := m.calls ++ others }

/-- An allocation made since: the map has grown. -/
theorem memoryExitBootServices_retry_iff_grown :
    let m := MemoryState.afterOthers [.allocatePool 64 ⟨0, some 65536⟩]
    efiError (callExitBootServices .pooled m).1 = true ∧
      (memoryExitBootServices .pooled m).1 = .success ∧
      (memoryExitBootServices .pooled m).2.Current pooledMap := by
  intro m
  have hfail : efiError (callExitBootServices .pooled m).1 = true := by decide
  have hgrown : m.memoryMapSize < m.required .pooled pooledMap := by decide
  exact ⟨hfail, (memoryExitBootServices_retry_iff MemoryServices.pooled_maps hfail).mpr hgrown⟩

/-- A buffer freed since: the map has kept its size, and the retry fails. -/
theorem retry_fails_with_stale_size :
    ¬ ∀ bs map descriptorSize descriptorVersion,
      MemoryServices.Maps bs map descriptorSize descriptorVersion → ∀ m : MemoryState,
      (memoryGetMap bs m).1 = .success → ∀ others : List BootCall,
      let held := { (memoryGetMap bs m).2 with calls := (memoryGetMap bs m).2.calls ++ others }
      efiError (callExitBootServices bs held).1 = true →
        (memoryExitBootServices bs held).1 = .success := by
  intro h
  have hsuccess := h .pooled pooledMap 48 1 MemoryServices.pooled_maps .zero (by decide)
    [.freePool 65536 0] (by decide)
  exact absurd hsuccess (by decide)

end Dos25
