/-
# `get_memory_map` of `boot.c`

The full implementation beside `memory_get_map` of `memory.c`. It asks with
locals that start from zero each time, and hands the map over in the boot
parameters. So it does what `memory_get_map` would do if its globals were reset
(`getMemoryMap_eq`), and from what is known of that: where the firmware keeps a
memory map as UEFI describes it, it always gets the current map, whatever was
called before, and an exit with the key it hands over gets through as long as
the map has not changed (`getMemoryMap_exits`). The retry of `memory.c`, which
asks with a stale size, does not.

It never frees a buffer it has handed over. In a run of any number of calls,
each success adds one buffer, with the map it published still in it at the
end, and each failure leaves buffers and parameters as they were
(`get_memory_map_runs`).

Key definitions: `getMemoryMap`, `MemoryServices.Fresh`, `MapRun`.
-/
import Dos25.ExitRetry
import Mathlib.Data.List.Forall2

namespace Dos25

/-! ### The code -/

/-- What the uninitialised locals hold. -/
structure MapLocals where
  mapKey : UInt64
  descSize : UInt64
  descVersion : UInt32

/-- The status, the firmware calls made so far, and the parameters. -/
def getMemoryMap (bs : MemoryServices) (locals : MapLocals) (calls : List BootCall)
    (params : BootParams) : BootStatus × List BootCall × BootParams :=
  let probe := bs.getMemoryMap calls 0 0
  let calls := calls ++ [.getMemoryMap 0 0 probe]
  if probe.status ≠ efiBufferTooSmall then (.error, calls, params)
  else
    let descSize := probe.descriptorSize.getD locals.descSize
    let mapSize := probe.size + 2 * descSize
    let pool := bs.allocatePool calls mapSize
    let map := pool.buffer.getD 0
    let calls := calls ++ [.allocatePool mapSize pool]
    if efiError pool.status then (.errorMemory, calls, params)
    else
      let answer := bs.getMemoryMap calls mapSize map
      let calls := calls ++ [.getMemoryMap mapSize map answer]
      if efiError answer.status then
        (.error, calls ++ [.freePool map (bs.freePool calls map)], params)
      else (.success, calls, { params with
        memoryMapAddr := map
        memoryMapSize := answer.size
        memoryMapDescSize := answer.descriptorSize.getD descSize
        memoryMapDescVersion := (answer.descriptorVersion.getD
          (probe.descriptorVersion.getD locals.descVersion)).toUInt64
        memoryMapKey := answer.key.getD (probe.key.getD locals.mapKey) })

/-! ### Against `memory_get_map` -/

/-- The globals of `memory.c` as the locals start. -/
def MapLocals.start (locals : MapLocals) (calls : List BootCall) : MemoryState :=
  ⟨0, 0, locals.mapKey, locals.descSize, locals.descVersion, calls⟩

/-- The parameters with the map in the globals. -/
def MemoryState.describe (m : MemoryState) (params : BootParams) : BootParams :=
  { params with
    memoryMapAddr := m.memoryMap
    memoryMapSize := m.memoryMapSize
    memoryMapDescSize := m.descriptorSize
    memoryMapDescVersion := m.descriptorVersion.toUInt64
    memoryMapKey := m.mapKey }

theorem memoryFillBootParams_eq {m : MemoryState} (h : m.memoryMap ≠ 0) (params : BootParams) :
    memoryFillBootParams m params = (.success, m.describe params) := if_neg h

section

variable (bs : MemoryServices) (locals : MapLocals) (calls : List BootCall) (params : BootParams)

/-- **The two implementations agree** on globals that start from zero: they make
the same calls and succeed in the same cases, and the parameters then describe
what the globals would hold. -/
theorem getMemoryMap_eq :
    ((getMemoryMap bs locals calls params).1 = .success ↔
      (memoryGetMap bs (locals.start calls)).1 = .success) ∧
    (getMemoryMap bs locals calls params).2.1 = (memoryGetMap bs (locals.start calls)).2.calls ∧
    (getMemoryMap bs locals calls params).2.2 =
      if (memoryGetMap bs (locals.start calls)).1 = .success then
        (memoryGetMap bs (locals.start calls)).2.describe params
      else params := by
  simp only [getMemoryMap, memoryGetMap, callGetMemoryMap, callAllocatePool, addMargin,
    freeMemoryMap, MapLocals.start]
  split_ifs <;> simp_all [MemoryState.describe]

end

/-! ### On a firmware that keeps a map -/

section

variable {bs : MemoryServices} {map : List BootCall → MemoryMap} {descriptorSize : UInt64}
  {descriptorVersion : UInt32} {m : MemoryState}

/-- `memory_get_map` takes the descriptors' size and version from the firmware. -/
theorem memoryGetMap_descriptors (hm : bs.Maps map descriptorSize descriptorVersion)
    (hs : (memoryGetMap bs m).1 = .success) :
    (memoryGetMap bs m).2.descriptorSize = descriptorSize ∧
      (memoryGetMap bs m).2.descriptorVersion = descriptorVersion := by
  revert hs
  refine memoryGetMap_cases (P := fun p => p.1 = .success →
    p.2.descriptorSize = descriptorSize ∧ p.2.descriptorVersion = descriptorVersion) ?_ ?_ ?_ ?_
  · exact fun _ => nofun
  · exact fun _ _ _ _ => nofun
  · exact fun _ _ _ _ _ => nofun
  · rintro hs allocated rfl - - -
    obtain ⟨m', hcall, hne, hle⟩ := hm.margin (hm.probe_iff.mp hs)
    have hfilled := hm.filled m'.calls m'.memoryMapSize m'.memoryMap hle hne
    rw [hcall]
    constructor
    · show Option.getD _ m'.descriptorSize = _
      rw [hfilled]
      rfl
    · show Option.getD _ m'.descriptorVersion = _
      rw [hfilled]
      rfl

/-- The parameters hold the firmware's map after these calls. -/
structure BootParams.Describes (params : BootParams) (map : List BootCall → MemoryMap)
    (descriptorSize : UInt64) (descriptorVersion : UInt32) (calls : List BootCall) : Prop where
  address : params.memoryMapAddr ≠ 0
  size : params.memoryMapSize = (map calls).size
  key : params.memoryMapKey = (map calls).key
  descriptors : params.memoryMapDescSize = descriptorSize
  version : params.memoryMapDescVersion = descriptorVersion.toUInt64

/-- **`get_memory_map` gets the current map**, if that is not empty, whatever was
called before, and whatever its locals and the parameters hold. Whatever is called then,
`ExitBootServices` accepts the key it has handed over if and only if the map
still has it, so at once in any case. -/
theorem getMemoryMap_exits (hm : bs.Maps map descriptorSize descriptorVersion)
    (locals : MapLocals) (calls : List BootCall) (params : BootParams)
    (hpos : 0 < (map calls).size) :
    ∃ calls' params', getMemoryMap bs locals calls params = (.success, calls', params') ∧
      params'.Describes map descriptorSize descriptorVersion calls' ∧
      (∀ others, efiError (bs.exitBootServices (calls' ++ others) params'.memoryMapKey) = false ↔
        (map (calls' ++ others)).key = (map calls').key) ∧
      efiError (bs.exitBootServices calls' params'.memoryMapKey) = false := by
  obtain ⟨hiff, hcalls, hparams⟩ := getMemoryMap_eq bs locals calls params
  obtain ⟨hs, hcurrent⟩ := (hm.memoryGetMap (m := locals.start calls)).1 hpos
  obtain ⟨hdesc, hversion⟩ := memoryGetMap_descriptors hm hs
  rw [if_pos hs] at hparams
  have hkey : (getMemoryMap bs locals calls params).2.2.memoryMapKey =
      (map (getMemoryMap bs locals calls params).2.1).key := by
    rw [hparams, hcalls]
    exact hcurrent.key
  refine ⟨(getMemoryMap bs locals calls params).2.1, (getMemoryMap bs locals calls params).2.2,
    Prod.ext (hiff.mpr hs) rfl, ?_, fun others => ?_, (hm.exits _ _).mpr hkey⟩
  · rw [hparams, hcalls]
    exact ⟨hcurrent.memoryMap, hcurrent.size, hcurrent.key, hdesc,
      congrArg UInt32.toUInt64 hversion⟩
  · rw [hm.exits, hkey, eq_comm]

end

/-- After the calls with which the retry of `memory.c` fails, it gets through. -/
theorem getMemoryMap_exits_pooled :
    let m := MemoryState.afterOthers [.freePool 65536 0]
    (memoryExitBootServices .pooled m).1 ≠ .success ∧
      ∃ calls params, getMemoryMap .pooled ⟨0, 0, 0⟩ m.calls .zero = (.success, calls, params) ∧
        efiError (MemoryServices.pooled.exitBootServices calls params.memoryMapKey) = false := by
  intro m
  have hpos : 0 < (pooledMap m.calls).size := by decide
  obtain ⟨calls, params, he, -, -, hexit⟩ :=
    getMemoryMap_exits MemoryServices.pooled_maps ⟨0, 0, 0⟩ m.calls .zero hpos
  exact ⟨by decide, calls, params, he, hexit⟩

/-! ### Over a run of calls -/

/-- No allocation hands out an address in use. -/
def MemoryServices.Fresh (bs : MemoryServices) : Prop :=
  ∀ calls size address, efiError (bs.allocatePool calls size).status = false →
    (bs.allocatePool calls size).buffer = some address → ∀ b ∈ buffers calls, b.address ≠ address

/-- The buffer is where the parameters say, is large enough, and was last
filled with the map they describe. -/
def Buffer.Holds (b : Buffer) (params : BootParams) : Prop :=
  ∃ answer, b.address = params.memoryMapAddr ∧ b.filled = some answer ∧
    efiError answer.status = false ∧ answer.size = params.memoryMapSize ∧
    answer.key = some params.memoryMapKey ∧ answer.descriptorSize = some params.memoryMapDescSize ∧
    answer.descriptorVersion.map UInt32.toUInt64 = some params.memoryMapDescVersion ∧
    params.memoryMapSize ≤ b.size

theorem Buffer.Holds.published {b : Buffer} {params : BootParams} {calls : List BootCall}
    (h : b.Holds params) (hb : b ∈ buffers calls) : Published calls params := by
  obtain ⟨answer, ha, hrest⟩ := h
  exact ⟨b, answer, hb, ha, hrest⟩

/-- What a call leaves that is about another buffer. -/
theorem map_fill_of_ne {old : List Buffer} {buffer : UInt64} (answer : MapAnswer)
    (h : ∀ b ∈ old, b.address ≠ buffer) :
    (old.map fun b => if b.address = buffer then { b with filled := some answer } else b) =
      old := by
  have hsame : ∀ b ∈ old,
      (if b.address = buffer then { b with filled := some answer } else b) = id b :=
    fun b hb => if_neg (h b hb)
  rw [List.map_congr_left hsame, List.map_id]

section

variable {bs : MemoryServices} {calls : List BootCall} {old : List Buffer} {b : Buffer}

theorem buffers_probe (size : UInt64) (answer : MapAnswer)
    (h : ∀ b ∈ buffers calls, b.address ≠ 0) :
    buffers (calls ++ [.getMemoryMap size 0 answer]) = buffers calls := by
  rw [buffers_snoc, Buffer.after]
  split_ifs
  · rfl
  · exact map_fill_of_ne answer h

theorem buffers_fill (hone : buffers calls = old ++ [b]) (h : ∀ o ∈ old, o.address ≠ b.address)
    (size : UInt64) {answer : MapAnswer} (hok : efiError answer.status = false) :
    buffers (calls ++ [.getMemoryMap size b.address answer]) =
      old ++ [{ b with filled := some answer }] := by
  rw [buffers_snoc, hone, Buffer.after, if_neg (by simp [hok]), List.map_append,
    map_fill_of_ne answer h, List.map_singleton, if_pos rfl]

theorem buffers_free (hone : buffers calls = old ++ [b]) (h : ∀ o ∈ old, o.address ≠ b.address)
    {status : EfiStatus} (hok : efiError status = false) :
    buffers (calls ++ [.freePool b.address status]) = old := by
  have hold : old.filter (·.address != b.address) = old :=
    List.filter_eq_self.mpr fun o ho => bne_iff_ne.mpr (h o ho)
  rw [buffers_snoc, hone, Buffer.after, if_neg (by simp [hok]), List.filter_append, hold]
  simp

/-- What one call does: nothing, or one more buffer, which holds the map that
the parameters now describe. -/
theorem getMemoryMap_step (hc : bs.Conforms) (hf : bs.Fresh) (locals : MapLocals)
    (h0 : ∀ b ∈ buffers calls, b.address ≠ 0) (params : BootParams) :
    ((getMemoryMap bs locals calls params).1 ≠ .success ∧
        buffers (getMemoryMap bs locals calls params).2.1 = buffers calls ∧
        (getMemoryMap bs locals calls params).2.2 = params) ∨
      ((getMemoryMap bs locals calls params).1 = .success ∧ ∃ b : Buffer, b.address ≠ 0 ∧
        buffers (getMemoryMap bs locals calls params).2.1 = buffers calls ++ [b] ∧
        b.Holds (getMemoryMap bs locals calls params).2.2) := by
  obtain ⟨probe, hprobe⟩ : ∃ probe, bs.getMemoryMap calls 0 0 = probe := ⟨_, rfl⟩
  obtain ⟨probed, hprobed⟩ : ∃ probed, calls ++ [.getMemoryMap 0 0 probe] = probed := ⟨_, rfl⟩
  have hb1 : buffers probed = buffers calls := hprobed ▸ buffers_probe 0 probe h0
  simp only [getMemoryMap, hprobe, hprobed]
  by_cases hp : probe.status = efiBufferTooSmall
  swap
  · rw [if_pos hp]
    exact .inl ⟨by simp, hb1, rfl⟩
  rw [if_neg (not_not.mpr hp)]
  obtain ⟨size, hsize⟩ : ∃ size,
      probe.size + 2 * probe.descriptorSize.getD locals.descSize = size := ⟨_, rfl⟩
  obtain ⟨pool, hpool⟩ : ∃ pool, bs.allocatePool probed size = pool := ⟨_, rfl⟩
  simp only [hsize, hpool]
  cases ha : efiError pool.status with
  | true =>
    rw [if_pos rfl]
    refine .inl ⟨by simp, ?_, rfl⟩
    rw [buffers_snoc, hb1, Buffer.after, if_pos ha]
  | false =>
    obtain ⟨address, hsome, hne⟩ := hc.granted probed size (hpool ▸ ha)
    have hfresh := hf probed size address (hpool ▸ ha) hsome
    rw [hb1] at hfresh
    rw [hpool] at hsome
    obtain ⟨granted, hgranted⟩ : ∃ granted, probed ++ [.allocatePool size pool] = granted :=
      ⟨_, rfl⟩
    have hb2 : buffers granted = buffers calls ++ [⟨address, size, none⟩] := by
      rw [← hgranted, buffers_snoc, hb1, Buffer.after, if_neg (by simp [ha]), hsome]
    obtain ⟨answer, hanswer⟩ : ∃ answer, bs.getMemoryMap granted size address = answer := ⟨_, rfl⟩
    simp only [hsome, Option.getD_some, hgranted, hanswer]
    rw [if_neg Bool.false_ne_true]
    cases hm : efiError answer.status with
    | true =>
      -- the new buffer is freed again
      rw [if_pos rfl]
      have hb3 : buffers (granted ++ [.getMemoryMap size address answer]) =
          buffers calls ++ [⟨address, size, none⟩] := by
        rw [buffers_snoc, hb2, Buffer.after, if_pos hm]
      have hfreed : efiError
          (bs.freePool (granted ++ [.getMemoryMap size address answer]) address) = false :=
        hc.freed _ ⟨address, size, none⟩ (by rw [hb3]; simp)
      exact .inl ⟨by simp, buffers_free hb3 hfresh hfreed, rfl⟩
    | false =>
      rw [if_neg Bool.false_ne_true]
      obtain ⟨hkey, hdesc, hversion⟩ := hc.written granted size address (hanswer ▸ hm)
      have hfits := hc.fits granted size address (hanswer ▸ hm)
      rw [hanswer] at hkey hdesc hversion hfits
      refine .inr ⟨rfl, ⟨address, size, some answer⟩, hne, buffers_fill hb2 hfresh size hm, answer,
        rfl, rfl, hm, rfl, eq_some_getD hkey _, eq_some_getD hdesc _, ?_, hfits⟩
      rw [eq_some_getD hversion (probe.descriptorVersion.getD locals.descVersion), Option.map_some,
        Option.getD_some]

end

/-- Calls, parameters, and the parameters as each success left them. -/
structure MapRun where
  calls : List BootCall
  params : BootParams
  published : List BootParams

def MapRun.call (bs : MemoryServices) (s : MapRun) (locals : MapLocals) : MapRun :=
  let (status, calls, params) := getMemoryMap bs locals s.calls s.params
  ⟨calls, params, if status = .success then s.published ++ [params] else s.published⟩

/-- What holds after any number of calls, of which the first found these
calls and parameters. -/
structure MapRun.Kept (calls : List BootCall) (params : BootParams) (s : MapRun) : Prop where
  held : ∃ new, buffers s.calls = buffers calls ++ new ∧ List.Forall₂ Buffer.Holds new s.published
  nonzero : ∀ b ∈ buffers s.calls, b.address ≠ 0
  last : s.params = s.published.getLast?.getD params

theorem MapRun.Kept.call {bs : MemoryServices} (hc : bs.Conforms) (hf : bs.Fresh)
    {calls : List BootCall} {params : BootParams} {s : MapRun} (h : s.Kept calls params)
    (locals : MapLocals) : (s.call bs locals).Kept calls params := by
  obtain ⟨new, hbuffers, hheld⟩ := h.held
  rcases getMemoryMap_step hc hf locals h.nonzero s.params with
    ⟨hs, hb, hp⟩ | ⟨hs, b, hne, hb, hholds⟩
  · have hcall : s.call bs locals = ⟨(getMemoryMap bs locals s.calls s.params).2.1, s.params,
        s.published⟩ := by
      simp only [MapRun.call, hp, if_neg hs]
    rw [hcall]
    exact ⟨⟨new, hb.trans hbuffers, hheld⟩, fun b hm => h.nonzero b (hb ▸ hm), h.last⟩
  · have hcall : s.call bs locals = ⟨(getMemoryMap bs locals s.calls s.params).2.1,
        (getMemoryMap bs locals s.calls s.params).2.2,
        s.published ++ [(getMemoryMap bs locals s.calls s.params).2.2]⟩ := by
      simp only [MapRun.call, if_pos hs]
    rw [hcall]
    refine ⟨⟨new ++ [b], ?_, List.rel_append hheld (.cons hholds .nil)⟩, fun b' hm => ?_, ?_⟩
    · rw [hb, hbuffers, List.append_assoc]
    · rcases List.mem_append.mp (hb ▸ hm) with hold | hnew
      · exact h.nonzero b' hold
      · exact List.mem_singleton.mp hnew ▸ hne
    · rw [List.getLast?_concat]
      rfl

/-- **Every published map is kept.** Any number of `get_memory_map` calls, on a
firmware that conforms and hands out no address in use: the buffers held before
are held as they were, and behind them one for each success, in order, in which
the map that call published still is. A failed call leaves no buffer, and the
parameters are those of the last success. -/
theorem get_memory_map_runs {bs : MemoryServices} (hc : bs.Conforms) (hf : bs.Fresh)
    {calls : List BootCall} (h0 : ∀ b ∈ buffers calls, b.address ≠ 0) (params : BootParams)
    {s : MapRun} (h : System.Reach (fun s locals s' => s' = MapRun.call bs s locals)
      (fun _ _ => True) ⟨calls, params, []⟩ s) :
    (∃ new, buffers s.calls = buffers calls ++ new ∧ List.Forall₂ Buffer.Holds new s.published) ∧
    (∀ p ∈ s.published, Published s.calls p) ∧
    s.params = s.published.getLast?.getD params := by
  have hkept : s.Kept calls params := by
    refine h.invariant (I := MapRun.Kept calls params) ?_ ?_
    · exact ⟨⟨[], (List.append_nil _).symm, .nil⟩, h0, rfl⟩
    · rintro s locals s' hs - rfl
      exact hs.call hc hf locals
  refine ⟨hkept.held, fun p hp => ?_, hkept.last⟩
  obtain ⟨new, hbuffers, hheld⟩ := hkept.held
  obtain ⟨i, hi, rfl⟩ := List.getElem_of_mem hp
  have hi' : i < new.length := hheld.length_eq ▸ hi
  refine (hheld.get hi' hi).published ?_
  rw [hbuffers]
  exact List.mem_append_right _ (List.getElem_mem hi')

/-- The address behind all that are in use. -/
def topAddress (calls : List BootCall) : ℕ :=
  (buffers calls).foldr (fun b top => max b.address.toNat top) 0 + 1

/-- A firmware that grants every request behind the addresses in use, while
there are any, and always has the same map. -/
def MemoryServices.stacking : MemoryServices where
  getMemoryMap _ size buffer :=
    if size < 480 then ⟨efiBufferTooSmall, 480, none, some 48, some 1⟩
    else if buffer = 0 then ⟨efiInvalidParameter, size, none, none, none⟩
    else ⟨0, 480, some 7, some 48, some 1⟩
  allocatePool calls _ :=
    if topAddress calls < 2 ^ 64 then ⟨0, some (UInt64.ofNat (topAddress calls))⟩
    else ⟨efiUnsupported, none⟩
  freePool _ _ := 0
  exitBootServices _ _ := 0

theorem address_lt_topAddress {calls : List BootCall} {b : Buffer} (h : b ∈ buffers calls) :
    b.address.toNat < topAddress calls := by
  unfold topAddress
  generalize buffers calls = held at h ⊢
  induction held with
  | nil => exact absurd h List.not_mem_nil
  | cons a rest ih =>
    rw [List.foldr_cons]
    rcases List.mem_cons.mp h with rfl | hm
    · omega
    · have := ih hm
      omega

theorem MemoryServices.stacking_success {calls : List BootCall} {size buffer : UInt64}
    (h : efiError (stacking.getMemoryMap calls size buffer).status = false) :
    480 ≤ size ∧ stacking.getMemoryMap calls size buffer = ⟨0, 480, some 7, some 48, some 1⟩ := by
  unfold stacking at h ⊢
  dsimp only at h ⊢
  split_ifs at h ⊢ with h1 h2
  · exact absurd h (show ¬ efiError efiBufferTooSmall = false by decide)
  · exact absurd h (show ¬ efiError efiInvalidParameter = false by decide)
  · exact ⟨UInt64.not_lt.mp h1, rfl⟩

theorem MemoryServices.stacking_granted {calls : List BootCall} {size : UInt64}
    (h : efiError (stacking.allocatePool calls size).status = false) :
    topAddress calls < 2 ^ 64 ∧
      (stacking.allocatePool calls size).buffer = some (UInt64.ofNat (topAddress calls)) := by
  unfold stacking at h ⊢
  dsimp only at h ⊢
  split_ifs at h ⊢ with ht
  · exact ⟨ht, rfl⟩
  · exact absurd h (show ¬ efiError efiUnsupported = false by decide)

theorem MemoryServices.stacking_conforms : stacking.Conforms where
  written calls size buffer h := by
    rw [(stacking_success h).2]
    exact ⟨rfl, rfl, rfl⟩
  fits calls size buffer h := by
    rw [(stacking_success h).2]
    exact (stacking_success h).1
  refused calls size h := by
    unfold stacking at h ⊢
    dsimp only at h ⊢
    split_ifs at h ⊢
    · exact absurd h (show ¬ efiError 0 = true by decide)
    · rfl
  granted calls size h := by
    obtain ⟨ht, hb⟩ := stacking_granted h
    refine ⟨_, hb, fun hzero => ?_⟩
    have hnat := congrArg UInt64.toNat hzero
    rw [UInt64.toNat_ofNat_of_lt' ht] at hnat
    exact absurd hnat (Nat.succ_ne_zero _)
  freed _ _ _ := show efiError 0 = false by decide

theorem MemoryServices.stacking_fresh : stacking.Fresh := by
  intro calls size address hok hsome b hb heq
  obtain ⟨ht, hbuffer⟩ := stacking_granted hok
  obtain rfl := Option.some.inj (hbuffer.symm.trans hsome)
  have hlt := address_lt_topAddress hb
  rw [heq, UInt64.toNat_ofNat_of_lt' ht] at hlt
  exact absurd hlt (Nat.lt_irrefl _)

/-- Two calls: both maps are still there. -/
theorem get_memory_map_runs_twice : ∃ s : MapRun,
    s = ((⟨[], .zero, []⟩ : MapRun).call .stacking ⟨0, 0, 0⟩).call .stacking ⟨0, 0, 0⟩ ∧
    (buffers s.calls).length = 2 ∧ ∀ p ∈ s.published, Published s.calls p := by
  have h0 : ∀ b ∈ buffers [], b.address ≠ 0 := fun _ hm => absurd hm List.not_mem_nil
  obtain ⟨-, hpublished, -⟩ := get_memory_map_runs MemoryServices.stacking_conforms
    MemoryServices.stacking_fresh h0 .zero
    (.step (a := ⟨0, 0, 0⟩) (.step (a := ⟨0, 0, 0⟩) .init trivial rfl) trivial rfl)
  exact ⟨_, rfl, by decide, hpublished⟩

end Dos25
