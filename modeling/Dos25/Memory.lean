/-
# `memory.c`: the memory map and the exit from boot services

`memory_get_map`, `memory_fill_boot_params` and `memory_exit_boot_services` on
the five globals of the module. The firmware answers each call as it likes,
given the calls before; the calls with their answers are kept as a history,
and what a history leaves allocated, and with which map in it, is read off it
(`buffers`). The module is meant to hold at most one buffer, and to publish
the map that is in it.

`memory_exit_boot_services` frees the buffer it holds before it asks for a new
map. `memory_get_map` called again by itself does not: it overwrites size and
key of the buffer it still holds, or loses that buffer to a second one. As
long as no call comes to that, every state of a run is `Sound`
(`memory_map_sound`).

Key definitions: `memoryGetMap`, `memoryExitBootServices`, `buffers`, `Sound`.
-/
import Dos25.Boot
import Dos25.Lib.System

namespace Dos25

/-! ### The firmware -/

/-- What `GetMemoryMap` answers: `size` is what `*MemoryMapSize` holds
afterwards, `none` is an output not written. -/
structure MapAnswer where
  status : EfiStatus
  size : UInt64
  key : Option UInt64
  descriptorSize : Option UInt64
  descriptorVersion : Option UInt32

/-- What `AllocatePool` answers. -/
structure PoolAnswer where
  status : EfiStatus
  buffer : Option UInt64

/-- A boot services call with its arguments and its answer. -/
inductive BootCall
  | getMemoryMap (size buffer : UInt64) (answer : MapAnswer)
  | allocatePool (size : UInt64) (answer : PoolAnswer)
  | freePool (buffer : UInt64) (status : EfiStatus)
  | exitBootServices (key : UInt64) (status : EfiStatus)

/-- `gBS`: an answer to each call, given the calls before. -/
structure MemoryServices where
  getMemoryMap : List BootCall → UInt64 → UInt64 → MapAnswer
  allocatePool : List BootCall → UInt64 → PoolAnswer
  freePool : List BootCall → UInt64 → EfiStatus
  exitBootServices : List BootCall → UInt64 → EfiStatus

/-! ### The code -/

/-- The globals of the module, and the history. NULL is zero. -/
structure MemoryState where
  memoryMap : UInt64
  memoryMapSize : UInt64
  mapKey : UInt64
  descriptorSize : UInt64
  descriptorVersion : UInt32
  calls : List BootCall

/-- The module as it is loaded. -/
def MemoryState.zero : MemoryState := ⟨0, 0, 0, 0, 0, []⟩

section

variable (bs : MemoryServices)

/-- `gBS->GetMemoryMap(&gMemoryMapSize, buffer, &gMapKey, ...)`. -/
def callGetMemoryMap (buffer : UInt64) (m : MemoryState) : EfiStatus × MemoryState :=
  let answer := bs.getMemoryMap m.calls m.memoryMapSize buffer
  (answer.status, { m with
    memoryMapSize := answer.size
    mapKey := answer.key.getD m.mapKey
    descriptorSize := answer.descriptorSize.getD m.descriptorSize
    descriptorVersion := answer.descriptorVersion.getD m.descriptorVersion
    calls := m.calls ++ [.getMemoryMap m.memoryMapSize buffer answer] })

/-- `gBS->AllocatePool(EfiLoaderData, gMemoryMapSize, (void**)&gMemoryMap)`. -/
def callAllocatePool (m : MemoryState) : EfiStatus × MemoryState :=
  let answer := bs.allocatePool m.calls m.memoryMapSize
  (answer.status, { m with
    memoryMap := answer.buffer.getD m.memoryMap
    calls := m.calls ++ [.allocatePool m.memoryMapSize answer] })

/-- `gBS->FreePool(gMemoryMap)`, and `gMemoryMap = NULL`. -/
def freeMemoryMap (m : MemoryState) : MemoryState :=
  { m with
    memoryMap := 0
    calls := m.calls ++ [.freePool m.memoryMap (bs.freePool m.calls m.memoryMap)] }

/-- `gBS->ExitBootServices(gImageHandle, gMapKey)`. -/
def callExitBootServices (m : MemoryState) : EfiStatus × MemoryState :=
  let status := bs.exitBootServices m.calls m.mapKey
  (status, { m with calls := m.calls ++ [.exitBootServices m.mapKey status] })

/-- `gMemoryMapSize += 2 * gDescriptorSize`. -/
def addMargin (m : MemoryState) : MemoryState :=
  { m with memoryMapSize := m.memoryMapSize + 2 * m.descriptorSize }

def memoryGetMap (m : MemoryState) : BootStatus × MemoryState :=
  let (status, m) := callGetMemoryMap bs 0 m
  if status ≠ efiBufferTooSmall then (.errorMemory, m)
  else
    let (status, m) := callAllocatePool bs (addMargin m)
    if efiError status then (.errorMemory, m)
    else
      let (status, m) := callGetMemoryMap bs m.memoryMap m
      if efiError status then (.errorMemory, freeMemoryMap bs m)
      else (.success, m)

/-- `if (gMemoryMap)` it is freed. -/
def releaseMemoryMap (m : MemoryState) : MemoryState :=
  if m.memoryMap ≠ 0 then freeMemoryMap bs m else m

def memoryExitBootServices (m : MemoryState) : BootStatus × MemoryState :=
  let (status, m) := callExitBootServices bs m
  if efiError status then
    let (got, m) := memoryGetMap bs (releaseMemoryMap bs m)
    if got ≠ .success then (.error, m)
    else
      let (status, m) := callExitBootServices bs m
      if efiError status then (.error, m) else (.success, m)
  else (.success, m)

end

def memoryFillBootParams (m : MemoryState) (params : BootParams) : BootStatus × BootParams :=
  if m.memoryMap = 0 then (.errorMemory, params)
  else (.success, { params with
    memoryMapAddr := m.memoryMap
    memoryMapSize := m.memoryMapSize
    memoryMapDescSize := m.descriptorSize
    memoryMapDescVersion := m.descriptorVersion.toUInt64
    memoryMapKey := m.mapKey })

/-! ### What a history leaves allocated -/

/-- A pool buffer, and the answer of the `GetMemoryMap` call that last filled
it. -/
structure Buffer where
  address : UInt64
  size : UInt64
  filled : Option MapAnswer

/-- One call's effect on the buffers. -/
def Buffer.after (buffers : List Buffer) : BootCall → List Buffer
  | .getMemoryMap _ buffer answer =>
    if efiError answer.status then buffers
    else buffers.map fun b => if b.address = buffer then { b with filled := some answer } else b
  | .allocatePool size answer =>
    if efiError answer.status then buffers
    else match answer.buffer with
      | some address => buffers ++ [⟨address, size, none⟩]
      | none => buffers
  | .freePool buffer status =>
    if efiError status then buffers else buffers.filter (·.address != buffer)
  | .exitBootServices _ _ => buffers

/-- The buffers allocated after a history. -/
def buffers (calls : List BootCall) : List Buffer := calls.foldl Buffer.after []

theorem buffers_snoc (calls : List BootCall) (c : BootCall) :
    buffers (calls ++ [c]) = Buffer.after (buffers calls) c := by
  rw [buffers, List.foldl_append]
  rfl

/-- What the module relies on: a success writes every output, and a map no
larger than the buffer; an allocation that fails leaves its pointer alone; a
buffer that is held can be freed. -/
structure MemoryServices.Conforms (bs : MemoryServices) : Prop where
  written : ∀ calls size buffer, efiError (bs.getMemoryMap calls size buffer).status = false →
    (bs.getMemoryMap calls size buffer).key.isSome = true ∧
      (bs.getMemoryMap calls size buffer).descriptorSize.isSome = true ∧
      (bs.getMemoryMap calls size buffer).descriptorVersion.isSome = true
  fits : ∀ calls size buffer, efiError (bs.getMemoryMap calls size buffer).status = false →
    (bs.getMemoryMap calls size buffer).size ≤ size
  refused : ∀ calls size, efiError (bs.allocatePool calls size).status = true →
    (bs.allocatePool calls size).buffer = none
  granted : ∀ calls size, efiError (bs.allocatePool calls size).status = false →
    ∃ address, (bs.allocatePool calls size).buffer = some address ∧ address ≠ 0
  freed : ∀ calls b, b ∈ buffers calls → efiError (bs.freePool calls b.address) = false

/-- No more than one buffer, now or earlier. -/
def AtMostOne (calls : List BootCall) : Prop := ∀ pre, pre <+: calls → (buffers pre).length ≤ 1

theorem AtMostOne.snoc {calls : List BootCall} {c : BootCall} (h : AtMostOne calls)
    (hc : (buffers (calls ++ [c])).length ≤ 1) : AtMostOne (calls ++ [c]) := by
  intro pre hp
  rcases List.prefix_concat_iff.mp hp with rfl | hp
  · exact hc
  · exact h pre hp

/-- The parameters come from one answer, which fills a buffer at their address
that is large enough. -/
def Published (calls : List BootCall) (params : BootParams) : Prop :=
  ∃ b answer, b ∈ buffers calls ∧ b.address = params.memoryMapAddr ∧
    b.filled = some answer ∧ efiError answer.status = false ∧
    answer.size = params.memoryMapSize ∧ answer.key = some params.memoryMapKey ∧
    answer.descriptorSize = some params.memoryMapDescSize ∧
    answer.descriptorVersion.map UInt32.toUInt64 = some params.memoryMapDescVersion ∧
    params.memoryMapSize ≤ b.size

/-- What is meant to hold of the module in every state. -/
structure Sound (m : MemoryState) : Prop where
  single : AtMostOne m.calls
  published : ∀ params, (memoryFillBootParams m params).1 = .success →
    Published m.calls (memoryFillBootParams m params).2

/-! ### The invariant -/

/-- The globals hold what the answer wrote. -/
structure MapAnswer.Held (answer : MapAnswer) (m : MemoryState) : Prop where
  status : efiError answer.status = false
  size : answer.size = m.memoryMapSize
  key : answer.key = some m.mapKey
  descriptorSize : answer.descriptorSize = some m.descriptorSize
  descriptorVersion : answer.descriptorVersion = some m.descriptorVersion

/-- No map and no buffer. -/
structure MemoryState.Empty (m : MemoryState) : Prop where
  memoryMap : m.memoryMap = 0
  allocated : buffers m.calls = []
  single : AtMostOne m.calls

/-- One buffer, with the map the globals describe. -/
structure MemoryState.Filled (m : MemoryState) : Prop where
  memoryMap : m.memoryMap ≠ 0
  allocated : ∃ size answer, buffers m.calls = [⟨m.memoryMap, size, some answer⟩] ∧
    answer.Held m ∧ m.memoryMapSize ≤ size
  single : AtMostOne m.calls

theorem MemoryState.Filled.sound {m : MemoryState} (h : m.Filled) : Sound m where
  single := h.single
  published params _ := by
    obtain ⟨size, answer, hb, ha, hle⟩ := h.allocated
    have hfill : memoryFillBootParams m params = (.success, { params with
        memoryMapAddr := m.memoryMap
        memoryMapSize := m.memoryMapSize
        memoryMapDescSize := m.descriptorSize
        memoryMapDescVersion := m.descriptorVersion.toUInt64
        memoryMapKey := m.mapKey }) := if_neg h.memoryMap
    rw [hfill]
    refine ⟨⟨m.memoryMap, size, some answer⟩, answer, ?_, rfl, rfl, ha.status, ha.size, ha.key,
      ha.descriptorSize, ?_, hle⟩
    · rw [hb]
      exact List.mem_cons_self
    · rw [ha.descriptorVersion, Option.map_some]

theorem MemoryState.Empty.sound {m : MemoryState} (h : m.Empty) : Sound m where
  single := h.single
  published params hs := by
    rw [memoryFillBootParams, if_pos h.memoryMap] at hs
    cases hs

section

variable {bs : MemoryServices} {m m' : MemoryState} {c : BootCall}

theorem MemoryState.Empty.snoc (h : m.Empty) (hm : m'.memoryMap = 0) (hc : m'.calls = m.calls ++ [c])
    (hb : Buffer.after [] c = []) : m'.Empty := by
  have hnone : buffers (m.calls ++ [c]) = [] := by rw [buffers_snoc, h.allocated, hb]
  refine ⟨hm, hc ▸ hnone, hc ▸ h.single.snoc ?_⟩
  rw [hnone]
  exact Nat.zero_le 1

/-- A call for the map of a module without a buffer leaves it without. -/
theorem MemoryState.Empty.getMemoryMap (h : m.Empty) (buffer : UInt64) :
    (callGetMemoryMap bs buffer m).2.Empty := by
  refine h.snoc h.memoryMap rfl ?_
  rw [Buffer.after]
  split_ifs <;> rfl

theorem MemoryState.Empty.exitBootServices (h : m.Empty) : (callExitBootServices bs m).2.Empty :=
  h.snoc h.memoryMap rfl rfl

/-- The globals described the map before, and do so now. -/
theorem MemoryState.Filled.snoc (h : m.Filled) (hm : m' = { m with calls := m.calls ++ [c] })
    (hb : ∀ b : Buffer, b.address = m.memoryMap → Buffer.after [b] c = [b]) : m'.Filled := by
  obtain ⟨size, answer, hone, ha, hle⟩ := h.allocated
  subst hm
  have hsame : buffers (m.calls ++ [c]) = [⟨m.memoryMap, size, some answer⟩] := by
    rw [buffers_snoc, hone]
    exact hb _ rfl
  refine ⟨h.memoryMap, ⟨size, answer, hsame, ?_, hle⟩, h.single.snoc (by rw [hsame]; exact le_rfl)⟩
  exact ⟨ha.status, ha.size, ha.key, ha.descriptorSize, ha.descriptorVersion⟩

theorem MemoryState.Filled.exitBootServices (h : m.Filled) : (callExitBootServices bs m).2.Filled :=
  h.snoc rfl fun _ _ => rfl

/-- The one buffer is freed and forgotten. -/
theorem freeMemoryMap_empty (hc : bs.Conforms) {b : Buffer} (hone : buffers m.calls = [b])
    (hb : b.address = m.memoryMap) (hs : AtMostOne m.calls) : (freeMemoryMap bs m).Empty := by
  have hfreed : efiError (bs.freePool m.calls m.memoryMap) = false :=
    hb ▸ hc.freed m.calls b (by rw [hone]; exact List.mem_cons_self)
  have hnone : buffers (freeMemoryMap bs m).calls = [] := by
    show buffers (m.calls ++ [_]) = []
    rw [buffers_snoc, hone, Buffer.after, hfreed]
    simp [hb]
  refine ⟨rfl, hnone, hs.snoc ?_⟩
  rw [show buffers (m.calls ++ [_]) = [] from hnone]
  exact Nat.zero_le 1

theorem eq_some_getD {α : Type} {o : Option α} (h : o.isSome = true) (a : α) :
    o = some (o.getD a) := by
  obtain ⟨b, rfl⟩ := Option.isSome_iff_exists.mp h
  rfl

/-- A buffer of the size the globals name, with nothing in it yet. -/
structure MemoryState.Blank (m : MemoryState) : Prop where
  memoryMap : m.memoryMap ≠ 0
  allocated : buffers m.calls = [⟨m.memoryMap, m.memoryMapSize, none⟩]
  single : AtMostOne m.calls

theorem MemoryState.Empty.allocatePool (hc : bs.Conforms) (h : m.Empty) :
    (efiError (callAllocatePool bs m).1 = true → (callAllocatePool bs m).2.Empty) ∧
      (efiError (callAllocatePool bs m).1 = false → (callAllocatePool bs m).2.Blank) := by
  refine ⟨fun he => ?_, fun he => ?_⟩
  · have hnone : (callAllocatePool bs m).2.memoryMap = 0 := by
      show (bs.allocatePool m.calls m.memoryMapSize).buffer.getD m.memoryMap = 0
      rw [hc.refused _ _ he, Option.getD_none, h.memoryMap]
    exact h.snoc hnone rfl (if_pos he)
  · obtain ⟨address, ha, hne⟩ := hc.granted _ _ he
    have hmap : (callAllocatePool bs m).2.memoryMap = address := by
      show (bs.allocatePool m.calls m.memoryMapSize).buffer.getD m.memoryMap = address
      rw [ha, Option.getD_some]
    have hok : ¬ efiError (bs.allocatePool m.calls m.memoryMapSize).status = true := by
      rw [show efiError (bs.allocatePool m.calls m.memoryMapSize).status = false from he]
      exact Bool.false_ne_true
    have hone : buffers (callAllocatePool bs m).2.calls = [⟨address, m.memoryMapSize, none⟩] := by
      show buffers (m.calls ++ [_]) = _
      rw [buffers_snoc, h.allocated, Buffer.after, if_neg hok, ha]
      rfl
    refine ⟨hmap ▸ hne, by rw [hmap]; exact hone, h.single.snoc ?_⟩
    rw [show buffers (m.calls ++ [_]) = [_] from hone]
    exact le_rfl

/-- A map is put into the blank buffer, or the buffer is freed. -/
theorem MemoryState.Blank.getMemoryMap (hc : bs.Conforms) (h : m.Blank) :
    (efiError (callGetMemoryMap bs m.memoryMap m).1 = true →
        (freeMemoryMap bs (callGetMemoryMap bs m.memoryMap m).2).Empty) ∧
      (efiError (callGetMemoryMap bs m.memoryMap m).1 = false →
        (callGetMemoryMap bs m.memoryMap m).2.Filled) := by
  let answer := bs.getMemoryMap m.calls m.memoryMapSize m.memoryMap
  have hbuffers : buffers (callGetMemoryMap bs m.memoryMap m).2.calls =
      Buffer.after [⟨m.memoryMap, m.memoryMapSize, none⟩]
        (.getMemoryMap m.memoryMapSize m.memoryMap answer) := by
    show buffers (m.calls ++ [_]) = _
    rw [buffers_snoc, h.allocated]
  refine ⟨fun he => ?_, fun he => ?_⟩
  · have hsame := hbuffers.trans (if_pos he)
    refine freeMemoryMap_empty hc hsame rfl (h.single.snoc ?_)
    rw [show buffers (m.calls ++ [_]) = [_] from hsame]
    exact le_rfl
  · have hok : ¬ efiError answer.status = true := by
      rw [show efiError answer.status = false from he]
      exact Bool.false_ne_true
    obtain ⟨hkey, hsize, hversion⟩ := hc.written _ _ _ he
    have hfilled : buffers (callGetMemoryMap bs m.memoryMap m).2.calls =
        [⟨m.memoryMap, m.memoryMapSize, some answer⟩] := by
      rw [hbuffers, Buffer.after, if_neg hok]
      simp
    refine ⟨h.memoryMap, ⟨m.memoryMapSize, answer, hfilled, ?_, hc.fits _ _ _ he⟩, h.single.snoc ?_⟩
    · exact ⟨he, rfl, eq_some_getD hkey _, eq_some_getD hsize _, eq_some_getD hversion _⟩
    · rw [show buffers (m.calls ++ [_]) = [_] from hfilled]
      exact le_rfl

/-- A property of the outcome, branch by branch. -/
theorem memoryGetMap_cases {P : BootStatus × MemoryState → Prop}
    (probe : (callGetMemoryMap bs 0 m).1 ≠ efiBufferTooSmall →
      P (.errorMemory, (callGetMemoryMap bs 0 m).2))
    (pool : (callGetMemoryMap bs 0 m).1 = efiBufferTooSmall →
      ∀ allocated, callAllocatePool bs (addMargin (callGetMemoryMap bs 0 m).2) = allocated →
        efiError allocated.1 = true → P (.errorMemory, allocated.2))
    (map : (callGetMemoryMap bs 0 m).1 = efiBufferTooSmall →
      ∀ allocated, callAllocatePool bs (addMargin (callGetMemoryMap bs 0 m).2) = allocated →
        efiError allocated.1 = false →
        efiError (callGetMemoryMap bs allocated.2.memoryMap allocated.2).1 = true →
        P (.errorMemory,
          freeMemoryMap bs (callGetMemoryMap bs allocated.2.memoryMap allocated.2).2))
    (success : (callGetMemoryMap bs 0 m).1 = efiBufferTooSmall →
      ∀ allocated, callAllocatePool bs (addMargin (callGetMemoryMap bs 0 m).2) = allocated →
        efiError allocated.1 = false →
        efiError (callGetMemoryMap bs allocated.2.memoryMap allocated.2).1 = false →
        P (.success, (callGetMemoryMap bs allocated.2.memoryMap allocated.2).2)) :
    P (memoryGetMap bs m) := by
  show P (if (callGetMemoryMap bs 0 m).1 ≠ efiBufferTooSmall then _ else _)
  by_cases hs : (callGetMemoryMap bs 0 m).1 ≠ efiBufferTooSmall
  · rw [if_pos hs]
    exact probe hs
  have hsmall := not_not.mp hs
  let allocated := callAllocatePool bs (addMargin (callGetMemoryMap bs 0 m).2)
  rw [if_neg hs]
  show P (if efiError allocated.1 = true then _ else _)
  cases ha : efiError allocated.1 with
  | true => exact pool hsmall _ rfl ha
  | false =>
    show P (if efiError (callGetMemoryMap bs allocated.2.memoryMap allocated.2).1 = true then _ else _)
    cases hm : efiError (callGetMemoryMap bs allocated.2.memoryMap allocated.2).1 with
    | true => exact map hsmall _ rfl ha hm
    | false => exact success hsmall _ rfl ha hm

/-- **`memory_get_map` without a buffer** ends with the one it fills, or with
none. -/
theorem MemoryState.Empty.memoryGetMap (hc : bs.Conforms) (h : m.Empty) :
    ((memoryGetMap bs m).1 = .success → (memoryGetMap bs m).2.Filled) ∧
      ((memoryGetMap bs m).1 ≠ .success → (memoryGetMap bs m).2.Empty) := by
  have hprobed : (callGetMemoryMap bs 0 m).2.Empty := h.getMemoryMap 0
  have henlarged : (addMargin (callGetMemoryMap bs 0 m).2).Empty :=
    ⟨hprobed.memoryMap, hprobed.allocated, hprobed.single⟩
  refine memoryGetMap_cases (P := fun p => (p.1 = .success → p.2.Filled) ∧
    (p.1 ≠ .success → p.2.Empty)) ?_ ?_ ?_ ?_
  · intro _
    exact ⟨nofun, fun _ => hprobed⟩
  · rintro _ allocated rfl ha
    exact ⟨nofun, fun _ => (henlarged.allocatePool hc).1 ha⟩
  · rintro _ allocated rfl ha hm
    have hblank := (henlarged.allocatePool hc).2 ha
    exact ⟨nofun, fun _ => (hblank.getMemoryMap hc).1 hm⟩
  · rintro _ allocated rfl ha hm
    have hblank := (henlarged.allocatePool hc).2 ha
    exact ⟨fun _ => (hblank.getMemoryMap hc).2 hm, fun h' => absurd rfl h'⟩

theorem memoryExitBootServices_cases {P : BootStatus × MemoryState → Prop}
    (first : efiError (callExitBootServices bs m).1 = false →
      P (.success, (callExitBootServices bs m).2))
    (noMap : efiError (callExitBootServices bs m).1 = true →
      ∀ got, memoryGetMap bs (releaseMemoryMap bs (callExitBootServices bs m).2) = got →
        got.1 ≠ .success → P (.error, got.2))
    (second : efiError (callExitBootServices bs m).1 = true →
      ∀ got, memoryGetMap bs (releaseMemoryMap bs (callExitBootServices bs m).2) = got →
        got.1 = .success →
        P (if efiError (callExitBootServices bs got.2).1 then .error else .success,
          (callExitBootServices bs got.2).2)) :
    P (memoryExitBootServices bs m) := by
  let got := memoryGetMap bs (releaseMemoryMap bs (callExitBootServices bs m).2)
  show P (if efiError (callExitBootServices bs m).1 = true then _ else _)
  cases he : efiError (callExitBootServices bs m).1 with
  | false => exact first he
  | true =>
    show P (if got.1 ≠ .success then _ else _)
    by_cases hg : got.1 = .success
    · rw [if_neg (not_not.mpr hg)]
      have hp := second he got rfl hg
      show P (if efiError (callExitBootServices bs got.2).1 = true then _ else _)
      split_ifs with hs
      · rwa [hs] at hp
      · rwa [Bool.eq_false_of_not_eq_true hs] at hp
    · rw [if_pos hg]
      exact noMap he got rfl hg

/-- **`memory_exit_boot_services`** starts over without a buffer when the first
exit fails. -/
theorem memoryExitBootServices_inv (hc : bs.Conforms) (h : m.Empty ∨ m.Filled) :
    (memoryExitBootServices bs m).2.Empty ∨ (memoryExitBootServices bs m).2.Filled := by
  let exited := (callExitBootServices bs m).2
  have hexited : exited.Empty ∨ exited.Filled := h.imp (·.exitBootServices) (·.exitBootServices)
  have hreleased : (releaseMemoryMap bs exited).Empty := by
    unfold releaseMemoryMap
    rcases hexited with hempty | hfilled
    · rwa [if_neg (not_not.mpr hempty.memoryMap)]
    · obtain ⟨size, answer, hone, -, -⟩ := hfilled.allocated
      rw [if_pos hfilled.memoryMap]
      exact freeMemoryMap_empty hc hone rfl hfilled.single
  have hgot := hreleased.memoryGetMap hc
  refine memoryExitBootServices_cases (P := fun p => p.2.Empty ∨ p.2.Filled) ?_ ?_ ?_
  · intro _
    exact hexited
  · rintro _ got rfl hne
    exact .inl (hgot.2 hne)
  · rintro _ got rfl hs
    exact .inr (hgot.1 hs).exitBootServices

end

/-! ### Runs -/

/-- The two functions a boot calls. -/
inductive MemoryOp
  | getMap
  | exitBootServices
  deriving DecidableEq, Repr

def MemoryOp.run (bs : MemoryServices) : MemoryOp → MemoryState → MemoryState
  | .getMap, m => (memoryGetMap bs m).2
  | .exitBootServices, m => (memoryExitBootServices bs m).2

/-- The size probe ends `memory_get_map` and leaves the globals as they were. -/
structure ProbeKeeps (bs : MemoryServices) (m : MemoryState) : Prop where
  status : (bs.getMemoryMap m.calls m.memoryMapSize 0).status ≠ efiBufferTooSmall
  size : (bs.getMemoryMap m.calls m.memoryMapSize 0).size = m.memoryMapSize
  key : (bs.getMemoryMap m.calls m.memoryMapSize 0).key.getD m.mapKey = m.mapKey
  descriptorSize : (bs.getMemoryMap m.calls m.memoryMapSize 0).descriptorSize.getD
    m.descriptorSize = m.descriptorSize
  descriptorVersion : (bs.getMemoryMap m.calls m.memoryMapSize 0).descriptorVersion.getD
    m.descriptorVersion = m.descriptorVersion

/-- No `memory_get_map` goes past its probe, or overwrites the globals there,
while a buffer is held. -/
def MemoryOp.Allowed (bs : MemoryServices) (m : MemoryState) : MemoryOp → Prop
  | .getMap => m.memoryMap = 0 ∨ ProbeKeeps bs m
  | .exitBootServices => True

theorem MemoryState.Filled.probe {bs : MemoryServices} {m : MemoryState} (h : m.Filled)
    (hk : ProbeKeeps bs m) : (memoryGetMap bs m).2.Filled := by
  refine memoryGetMap_cases (P := fun p => p.2.Filled) (fun _ => ?_)
    (fun hs => absurd hs hk.status) (fun hs => absurd hs hk.status) (fun hs => absurd hs hk.status)
  refine h.snoc (c := .getMemoryMap m.memoryMapSize 0 (bs.getMemoryMap m.calls m.memoryMapSize 0)) ?_
    fun b hb => ?_
  · show MemoryState.mk _ _ _ _ _ _ = _
    rw [hk.size, hk.key, hk.descriptorSize, hk.descriptorVersion]
  · have hne : b.address ≠ 0 := hb ▸ h.memoryMap
    rw [Buffer.after]
    split_ifs
    · rfl
    · simp [hne]

/-- **The memory map stays sound.** In every run of `memory_get_map` and
`memory_exit_boot_services` calls in which each `memory_get_map` finds no
buffer held, or ends in its probe with the globals as they were, every state
reached has had at most one buffer at any time, and publishes a map that one
call put into a buffer still allocated and large enough. -/
theorem memory_map_sound {bs : MemoryServices} (hc : bs.Conforms) {m : MemoryState}
    (h : System.Reach (fun m op m' => m' = MemoryOp.run bs op m) (MemoryOp.Allowed bs) .zero m) :
    Sound m := by
  have hzero : MemoryState.zero.Empty :=
    ⟨rfl, rfl, fun pre hp => by rw [List.prefix_nil.mp hp]; exact Nat.zero_le 1⟩
  have hinv : m.Empty ∨ m.Filled := by
    refine h.invariant (I := fun m => m.Empty ∨ m.Filled) (.inl hzero) ?_
    rintro m op m' hm hok rfl
    cases op with
    | exitBootServices => exact memoryExitBootServices_inv hc hm
    | getMap =>
      rcases hm with hempty | hfilled
      · have hgot := hempty.memoryGetMap hc
        by_cases hs : (memoryGetMap bs m).1 = .success
        · exact .inr (hgot.1 hs)
        · exact .inl (hgot.2 hs)
      · rcases hok with hnull | hkeeps
        · exact absurd hnull hfilled.memoryMap
        · exact .inr (hfilled.probe hkeeps)
  exact hinv.elim (·.sound) (·.sound)

/-- A firmware whose map grows by a descriptor of 48 bytes with every call. -/
def MemoryServices.growing : MemoryServices where
  getMemoryMap calls size buffer :=
    let required := 480 + 48 * UInt64.ofNat calls.length
    if size < required then ⟨efiBufferTooSmall, required, none, some 48, some 1⟩
    else if buffer = 0 then ⟨efiInvalidParameter, size, none, none, none⟩
    else ⟨0, required, some (UInt64.ofNat calls.length), some 48, some 1⟩
  allocatePool calls _ := ⟨0, some (UInt64.ofNat (4096 * (calls.length % 1000 + 1)))⟩
  freePool _ _ := 0
  exitBootServices _ _ := 0

theorem MemoryServices.growing_success {calls : List BootCall} {size buffer : UInt64}
    (h : efiError (growing.getMemoryMap calls size buffer).status = false) :
    480 + 48 * UInt64.ofNat calls.length ≤ size ∧ growing.getMemoryMap calls size buffer =
      ⟨0, 480 + 48 * UInt64.ofNat calls.length, some (UInt64.ofNat calls.length), some 48, some 1⟩ := by
  unfold growing at h ⊢
  dsimp only at h ⊢
  split_ifs at h ⊢ with h1 h2
  · exact absurd h (show ¬ efiError efiBufferTooSmall = false by decide)
  · exact absurd h (show ¬ efiError efiInvalidParameter = false by decide)
  · exact ⟨UInt64.not_lt.mp h1, rfl⟩

theorem MemoryServices.growing_conforms : growing.Conforms where
  written calls size buffer h := by
    rw [(growing_success h).2]
    exact ⟨rfl, rfl, rfl⟩
  fits calls size buffer h := by
    rw [(growing_success h).2]
    exact (growing_success h).1
  refused _ _ h := absurd h (show ¬ efiError 0 = true by decide)
  granted calls _ _ := by
    refine ⟨_, rfl, fun hzero => ?_⟩
    have hnat := congrArg UInt64.toNat hzero
    rw [UInt64.toNat_ofNat_of_lt' (by show _ < 2 ^ 64; omega)] at hnat
    simp at hnat
  freed _ _ _ := show efiError 0 = false by decide

theorem memory_map_sound_getMap :
    Sound (MemoryOp.run .growing .getMap .zero) ∧
      (memoryFillBootParams (MemoryOp.run .growing .getMap .zero) .zero).1 = .success := by
  have hallowed : MemoryOp.Allowed .growing .zero .getMap := .inl rfl
  exact ⟨memory_map_sound MemoryServices.growing_conforms (.step .init hallowed rfl), by decide⟩

/-- `memory_get_map` twice in a row: the first buffer is lost to the second. -/
theorem memory_map_buffer_lost :
    ¬ ∀ bs : MemoryServices, bs.Conforms → ∀ ops : List MemoryOp,
      Sound (ops.foldl (fun m op => op.run bs m) .zero) := by
  intro h
  have hsound := h .growing MemoryServices.growing_conforms [.getMap, .getMap]
  exact absurd (hsound.single _ (List.prefix_refl _)) (by decide)

end Dos25
