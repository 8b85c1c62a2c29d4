/-
# `graphics.c`: choosing and setting a mode

`graphics_find_best_mode` looks for four preferences in turn, each over all
modes; it returns the lowest mode of the first preference that any mode meets
(`find_best_mode_selects`).

`graphics_initialize_complete` reports success on every path. Where `SetMode`
fails, it returns before the boot parameters are written, and the framebuffer
fields hold what they held before (`framebuffer_fields_consistent_iff`).

Key definitions: `graphicsFindBestMode`, `graphicsInitializeComplete`,
`Lowest`, `Consistent`.
-/
import Dos25.BootInit
import Dos25.Drawing

namespace Dos25

open CountedLoop

/-! ### The code -/

/-- What `gGOP->Mode` points to, but for `MaxMode`. -/
structure ActiveMode where
  mode : UInt32
  info : ModeInfo
  gop : Gop

/-- The graphics firmware: the modes it offers, and what is active after
`SetMode`. -/
structure GopFirmware where
  maxMode : UInt32
  active : ActiveMode
  queryMode : UInt32 → EfiStatus × ModeInfo
  setMode : UInt32 → EfiStatus × ActiveMode

/-- The two counters are the results `*mode_count` and `*current_mode`. -/
def graphicsGetAvailableModes (fw : GopFirmware) (g : Graphics) : BootStatus × UInt32 × UInt32 :=
  match g.gop with
  | none => (.error, 0, 0)
  | some _ => (.success, fw.maxMode, fw.active.mode)

def graphicsQueryMode (fw : GopFirmware) (g : Graphics) (modeNumber : UInt32) :
    BootStatus × Option ModeInfo :=
  match g.gop with
  | none => (.error, none)
  | some _ =>
    let (status, info) := fw.queryMode modeNumber
    if efiError status then (.error, none) else (.success, some info)

/-- `preferences`: width and height, the last for any mode. -/
def preferences : List (UInt32 × UInt32) := [(1024, 768), (800, 600), (640, 480), (0, 0)]

def preference (p : UInt32) : UInt32 × UInt32 := preferences.getD p.toNat (0, 0)

/-- The body of the inner loop; its state is `*best_mode`. -/
def tryMode (fw : GopFirmware) (g : Graphics) (p i bestMode : UInt32) : Flow BootStatus UInt32 :=
  match graphicsQueryMode fw g i with
  | (.success, some info) =>
    if ((preference p).1 = 0 ∧ (preference p).2 = 0) ∨
        (info.horizontalResolution = (preference p).1 ∧ info.verticalResolution = (preference p).2)
    then .leave .success i
    else .next bestMode
  | _ => .next bestMode

/-- `bestMode` is what the caller's variable holds before. -/
def graphicsFindBestMode (fw : GopFirmware) (g : Graphics) (bestMode : UInt32) :
    BootStatus × UInt32 :=
  match g.gop with
  | none => (.success, 0)
  | some _ =>
    let (status, modeCount, currentMode) := graphicsGetAvailableModes fw g
    if status ≠ .success then (status, bestMode)
    else
      match forUp (fun p => forUp (tryMode fw g p) 0 modeCount) 0 4 bestMode with
      | .leave status bestMode => (status, bestMode)
      | .next _ => (.success, currentMode)

def graphicsSetMode (fw : GopFirmware) (g : Graphics) (modeNumber : UInt32) :
    BootStatus × GopFirmware × Graphics :=
  match g.gop with
  | none => (.success, fw, g)
  | some _ =>
    let (status, active) := fw.setMode modeNumber
    let fw := { fw with active := active }
    let g := { g with gop := some active.gop }
    if efiError status then (.error, fw, g)
    else (.success, fw, { g with modeInfo := some active.info })

/-- What `graphics_initialize_complete` leaves. -/
structure GraphicsRun where
  status : BootStatus
  firmware : GopFirmware
  graphics : Graphics
  params : BootParams
  canvas : Canvas

/-- `"DOS25 UEFI Bootloader"`. -/
def bootMessage : List UInt8 :=
  [68, 79, 83, 50, 53, 32, 85, 69, 70, 73, 32, 66, 111, 111, 116, 108, 111, 97, 100, 101, 114]

/-- `bestMode` is what the local variable holds before. -/
def graphicsInitializeComplete (bs : BootServices) (fw : GopFirmware) (g : Graphics)
    (params : BootParams) (bestMode : UInt32) (s : Canvas) : GraphicsRun :=
  let (status, g, params) := graphicsInit bs g params
  if status ≠ .success then ⟨.success, fw, g, params, s⟩
  else
    let (status, bestMode) := graphicsFindBestMode fw g bestMode
    let bestMode := if status ≠ .success then 0 else bestMode
    let (status, fw, g) := graphicsSetMode fw g bestMode
    if status ≠ .success then ⟨.success, fw, g, params, s⟩
    else
      -- a failure here would only be printed
      let (_, params) := graphicsGetFramebufferInfo g params
      let (_, s) := graphicsClearScreen g 0x00000000 s
      let (_, s) := graphicsDrawString g 10 10 bootMessage 0x00FFFFFF s
      ⟨.success, fw, g, params, s⟩

/-! ### The mode selected -/

/-- The firmware offers the mode and answers to `QueryMode` for it. -/
def Queryable (fw : GopFirmware) (i : UInt32) : Prop :=
  i < fw.maxMode ∧ efiError (fw.queryMode i).1 = false

/-- A mode of this size that can be queried. -/
def Sized (fw : GopFirmware) (width height i : UInt32) : Prop :=
  Queryable fw i ∧ (fw.queryMode i).2.horizontalResolution = width ∧
    (fw.queryMode i).2.verticalResolution = height

/-- The lowest mode with a property. -/
structure Lowest (P : UInt32 → Prop) (m : UInt32) : Prop where
  holds : P m
  le : ∀ k, P k → m ≤ k

section Select

variable {fw : GopFirmware} {gop : Gop} {modeInfo : Option ModeInfo} {bestMode : UInt32}

/-- What the preference asks of a mode that can be queried. -/
def Meets (fw : GopFirmware) (p i : UInt32) : Prop :=
  efiError (fw.queryMode i).1 = false ∧ (((preference p).1 = 0 ∧ (preference p).2 = 0) ∨
    ((fw.queryMode i).2.horizontalResolution = (preference p).1 ∧
      (fw.queryMode i).2.verticalResolution = (preference p).2))

theorem tryMode_cases (gop : Gop) (modeInfo : Option ModeInfo) (p i bestMode : UInt32) :
    (∃ r b, (Meets fw p i ∧ r = .success ∧ b = i) ∧
        tryMode fw ⟨some gop, modeInfo⟩ p i bestMode = .leave r b) ∨
      (¬ Meets fw p i ∧ tryMode fw ⟨some gop, modeInfo⟩ p i bestMode = .next bestMode) := by
  unfold tryMode graphicsQueryMode
  by_cases hquery : efiError (fw.queryMode i).1 = true
  · simp only [hquery, if_true]
    exact .inr ⟨fun h => absurd h.1 (by rw [hquery]; decide), trivial⟩
  · have hok : efiError (fw.queryMode i).1 = false := Bool.eq_false_iff.mpr hquery
    simp only [hok]
    by_cases hmatch : ((preference p).1 = 0 ∧ (preference p).2 = 0) ∨
        ((fw.queryMode i).2.horizontalResolution = (preference p).1 ∧
          (fw.queryMode i).2.verticalResolution = (preference p).2)
    · exact .inl ⟨.success, i, ⟨⟨hok, hmatch⟩, rfl, rfl⟩, if_pos hmatch⟩
    · exact .inr ⟨fun h => hmatch h.2, if_neg hmatch⟩

/-- **One preference**: the lowest mode that meets it, or none. -/
theorem tryModes_cases (gop : Gop) (modeInfo : Option ModeInfo) (p bestMode : UInt32) :
    (∃ r b, (Lowest (fun i => i < fw.maxMode ∧ Meets fw p i) b ∧ r = .success) ∧
        forUp (tryMode fw ⟨some gop, modeInfo⟩ p) 0 fw.maxMode bestMode = .leave r b) ∨
      ((∀ i, i < fw.maxMode → ¬ Meets fw p i) ∧
        forUp (tryMode fw ⟨some gop, modeInfo⟩ p) 0 fw.maxMode bestMode = .next bestMode) := by
  rcases forUp_search (fun i b => tryMode_cases gop modeInfo p i b) 0 fw.maxMode bestMode with
    ⟨i, r, b, -, hi, ⟨hmeets, rfl, rfl⟩, hfirst, hrun⟩ | ⟨hnone, hrun⟩
  · refine .inl ⟨.success, b, ⟨⟨⟨hi, hmeets⟩, fun k hk => ?_⟩, rfl⟩, hrun⟩
    by_contra hlt
    exact hfirst k (UInt32.zero_le) (UInt32.not_le.mp hlt) hk.2
  · exact .inr ⟨fun i hi => hnone i UInt32.zero_le hi, hrun⟩

/-- **All preferences**: the first that a mode meets. -/
theorem findBestMode_cases (gop : Gop) (modeInfo : Option ModeInfo) (bestMode : UInt32) :
    (∃ p m, p < 4 ∧ Lowest (fun i => i < fw.maxMode ∧ Meets fw p i) m ∧
        (∀ q, q < p → ∀ i, i < fw.maxMode → ¬ Meets fw q i) ∧
        graphicsFindBestMode fw ⟨some gop, modeInfo⟩ bestMode = (.success, m)) ∨
      ((∀ p, p < 4 → ∀ i, i < fw.maxMode → ¬ Meets fw p i) ∧
        graphicsFindBestMode fw ⟨some gop, modeInfo⟩ bestMode = (.success, fw.active.mode)) := by
  have hrun : graphicsFindBestMode fw ⟨some gop, modeInfo⟩ bestMode =
      match forUp (fun p => forUp (tryMode fw ⟨some gop, modeInfo⟩ p) 0 fw.maxMode) 0 4 bestMode with
      | .leave status bestMode => (status, bestMode)
      | .next _ => (.success, fw.active.mode) := rfl
  rw [hrun]
  rcases forUp_search (fun p b => tryModes_cases gop modeInfo p b) 0 4 bestMode with
    ⟨p, r, m, -, hp, ⟨hlowest, rfl⟩, hfirst, hloop⟩ | ⟨hnone, hloop⟩
  · rw [hloop]
    exact .inl ⟨p, m, hp, hlowest, fun q hq => hfirst q UInt32.zero_le hq, rfl⟩
  · rw [hloop]
    exact .inr ⟨fun p hp => hnone p UInt32.zero_le hp, rfl⟩

/-- What the first three preferences ask for, and the last. -/
theorem meets_sized {p : UInt32} (hp : (preference p).1 ≠ 0) (i : UInt32) :
    i < fw.maxMode ∧ Meets fw p i ↔ Sized fw (preference p).1 (preference p).2 i := by
  unfold Sized Queryable Meets
  rw [or_iff_right fun h => hp h.1, and_assoc]

theorem meets_any (i : UInt32) : i < fw.maxMode ∧ Meets fw 3 i ↔ Queryable fw i := by
  exact ⟨fun h => ⟨h.1, h.2.1⟩, fun h => ⟨h.1, h.2, .inl ⟨rfl, rfl⟩⟩⟩

theorem preference_cases {p : UInt32} (hp : p < 4) : p = 0 ∨ p = 1 ∨ p = 2 ∨ p = 3 := by
  have hlt := UInt32.lt_iff_toNat_lt.mp hp
  simp only [← UInt32.toNat_inj]
  show p.toNat = 0 ∨ p.toNat = 1 ∨ p.toNat = 2 ∨ p.toNat = 3
  have h4 : (4 : UInt32).toNat = 4 := rfl
  omega

end Select

/-- **The mode selected** is the lowest of 1024x768 that can be queried, else
of 800x600, else of 640x480, else of any size; the current one only if none
can be queried. -/
theorem find_best_mode_selects (fw : GopFirmware) (gop : Gop) (modeInfo : Option ModeInfo)
    (bestMode : UInt32) :
    ∃ m, graphicsFindBestMode fw ⟨some gop, modeInfo⟩ bestMode = (.success, m) ∧
      ((∃ i, Sized fw 1024 768 i) → Lowest (Sized fw 1024 768) m) ∧
      ((¬ ∃ i, Sized fw 1024 768 i) → (∃ i, Sized fw 800 600 i) → Lowest (Sized fw 800 600) m) ∧
      ((¬ ∃ i, Sized fw 1024 768 i) → (¬ ∃ i, Sized fw 800 600 i) → (∃ i, Sized fw 640 480 i) →
        Lowest (Sized fw 640 480) m) ∧
      ((¬ ∃ i, Sized fw 1024 768 i) → (¬ ∃ i, Sized fw 800 600 i) → (¬ ∃ i, Sized fw 640 480 i) →
        (∃ i, Queryable fw i) → Lowest (Queryable fw) m) ∧
      ((¬ ∃ i, Queryable fw i) → m = fw.active.mode) := by
  have h0 : (fun i => i < fw.maxMode ∧ Meets fw 0 i) = Sized fw 1024 768 :=
    funext fun i => propext (meets_sized (p := 0) (by decide) i)
  have h1 : (fun i => i < fw.maxMode ∧ Meets fw 1 i) = Sized fw 800 600 :=
    funext fun i => propext (meets_sized (p := 1) (by decide) i)
  have h2 : (fun i => i < fw.maxMode ∧ Meets fw 2 i) = Sized fw 640 480 :=
    funext fun i => propext (meets_sized (p := 2) (by decide) i)
  have h3 : (fun i => i < fw.maxMode ∧ Meets fw 3 i) = Queryable fw :=
    funext fun i => propext (meets_any i)
  have hnone : ∀ {p : UInt32} {P : UInt32 → Prop}, (fun i => i < fw.maxMode ∧ Meets fw p i) = P →
      (∀ i, i < fw.maxMode → ¬ Meets fw p i) → ¬ ∃ i, P i := by
    rintro p P rfl hp ⟨i, hi, hmeets⟩
    exact hp i hi hmeets
  rcases findBestMode_cases gop modeInfo bestMode with ⟨p, m, hp, hlowest, hfirst, hrun⟩ | ⟨hall, hrun⟩
  · refine ⟨m, hrun, ?_⟩
    rcases preference_cases hp with rfl | rfl | rfl | rfl
    · rw [h0] at hlowest
      have hyes : ∃ i, Sized fw 1024 768 i := ⟨m, hlowest.holds⟩
      exact ⟨fun _ => hlowest, fun h => absurd hyes h, fun h => absurd hyes h, fun h => absurd hyes h,
        fun h => absurd ⟨m, hlowest.holds.1⟩ h⟩
    · rw [h1] at hlowest
      have hno := hnone h0 (hfirst 0 (by decide))
      have hyes : ∃ i, Sized fw 800 600 i := ⟨m, hlowest.holds⟩
      exact ⟨fun h => absurd h hno, fun _ _ => hlowest, fun _ h => absurd hyes h,
        fun _ h => absurd hyes h, fun h => absurd ⟨m, hlowest.holds.1⟩ h⟩
    · rw [h2] at hlowest
      have hno := hnone h0 (hfirst 0 (by decide))
      have hno' := hnone h1 (hfirst 1 (by decide))
      have hyes : ∃ i, Sized fw 640 480 i := ⟨m, hlowest.holds⟩
      exact ⟨fun h => absurd h hno, fun _ h => absurd h hno', fun _ _ _ => hlowest,
        fun _ _ h => absurd hyes h, fun h => absurd ⟨m, hlowest.holds.1⟩ h⟩
    · rw [h3] at hlowest
      have hno := hnone h0 (hfirst 0 (by decide))
      have hno' := hnone h1 (hfirst 1 (by decide))
      have hno'' := hnone h2 (hfirst 2 (by decide))
      exact ⟨fun h => absurd h hno, fun _ h => absurd h hno', fun _ _ h => absurd h hno'',
        fun _ _ _ _ => hlowest, fun h => absurd ⟨m, hlowest.holds⟩ h⟩
  · have hno := hnone h3 (hall 3 (by decide))
    have hsized : ∀ width height, ¬ ∃ i, Sized fw width height i := fun _ _ ⟨i, hi⟩ => hno ⟨i, hi.1⟩
    exact ⟨_, hrun, fun h => absurd h (hsized _ _), fun _ h => absurd h (hsized _ _),
      fun _ _ h => absurd h (hsized _ _), fun _ _ _ h => absurd h hno, fun _ => rfl⟩

/-! ### The framebuffer fields -/

/-- The fields describe a mode; `pitch` is the length of its scanlines. All
modes are taken to have 32 bits per pixel, as the code does. -/
structure Describes (pitch : ModeInfo → UInt32) (active : ActiveMode) (params : BootParams) :
    Prop where
  addr : params.framebufferAddr = active.gop.frameBufferBase
  width : params.framebufferWidth = active.info.horizontalResolution
  height : params.framebufferHeight = active.info.verticalResolution
  pitch : params.framebufferPitch = pitch active.info
  bpp : params.framebufferBpp = 32

/-- The fields are zero. -/
structure NoFramebuffer (params : BootParams) : Prop where
  addr : params.framebufferAddr = 0
  width : params.framebufferWidth = 0
  height : params.framebufferHeight = 0
  pitch : params.framebufferPitch = 0
  bpp : params.framebufferBpp = 0

/-- The fields describe the mode that is active, or are zero. -/
def Consistent (pitch : ModeInfo → UInt32) (r : GraphicsRun) : Prop :=
  NoFramebuffer r.params ∨
    r.graphics.gop.isSome = true ∧ Describes pitch r.firmware.active r.params

section Initialize

variable {bs : BootServices} {fw : GopFirmware} {g : Graphics} {params : BootParams}
  {bestMode : UInt32} {s : Canvas} {pitch : ModeInfo → UInt32}

theorem graphicsInit_eq : graphicsInit bs g params =
    (.success, { g with gop := bs.locateProtocol.2 }, params) := by
  unfold graphicsInit
  dsimp only
  split_ifs <;> rfl

theorem findBestMode_status (fw : GopFirmware) (g : Graphics) (bestMode : UInt32) :
    (graphicsFindBestMode fw g bestMode).1 = .success := by
  obtain ⟨_ | gop, modeInfo⟩ := g
  · rfl
  · rcases findBestMode_cases gop modeInfo bestMode with ⟨p, m, -, -, -, hrun⟩ | ⟨-, hrun⟩ <;> rw [hrun]

/-- The answer to `SetMode` for the mode selected. -/
def selectedSetMode (fw : GopFirmware) (g : Graphics) (bestMode : UInt32) : EfiStatus × ActiveMode :=
  fw.setMode (graphicsFindBestMode fw g bestMode).2

/-- What is announced describes the mode, with scanlines of the visible width. -/
theorem getFramebufferInfo_describes (active : ActiveMode) (params : BootParams) :
    Describes (fun info => info.horizontalResolution * 4) active
      (graphicsGetFramebufferInfo ⟨some active.gop, some active.info⟩ params).2 where
  addr := rfl
  width := rfl
  height := rfl
  pitch := by
    have h4 : (32 : UInt32) / 8 = 4 := by decide
    show active.info.horizontalResolution * (32 / 8) = _
    rw [h4]
  bpp := rfl

/-- The first two steps always succeed. -/
theorem initialize_eq : graphicsInitializeComplete bs fw g params bestMode s =
    let (status, fw, g) := graphicsSetMode fw ⟨bs.locateProtocol.2, g.modeInfo⟩
      (graphicsFindBestMode fw ⟨bs.locateProtocol.2, g.modeInfo⟩ bestMode).2
    if status ≠ .success then ⟨.success, fw, g, params, s⟩
    else ⟨.success, fw, g, (graphicsGetFramebufferInfo g params).2,
      (graphicsDrawString g 10 10 bootMessage 0x00FFFFFF (graphicsClearScreen g 0x00000000 s).2).2⟩ := by
  have hfind := findBestMode_status fw ⟨bs.locateProtocol.2, g.modeInfo⟩ bestMode
  simp only [graphicsInitializeComplete, graphicsInit_eq, hfind, ne_eq, not_true_eq_false, if_false]

/-- Without a protocol the fields are zero. -/
theorem initialize_absent (fw : GopFirmware) (g : Graphics) (params : BootParams) (bestMode : UInt32)
    (s : Canvas) (h : bs.locateProtocol.2 = none) :
    (graphicsInitializeComplete bs fw g params bestMode s).status = .success ∧
      NoFramebuffer (graphicsInitializeComplete bs fw g params bestMode s).params := by
  rw [initialize_eq, h]
  exact ⟨rfl, rfl, rfl, rfl, rfl, rfl⟩

/-- Where `SetMode` fails, they are as before. -/
theorem initialize_failed (params : BootParams) (s : Canvas) {gop : Gop}
    (h : bs.locateProtocol.2 = some gop)
    (hset : efiError (selectedSetMode fw ⟨some gop, g.modeInfo⟩ bestMode).1 = true) :
    graphicsInitializeComplete bs fw g params bestMode s =
      ⟨.success, { fw with active := (selectedSetMode fw ⟨some gop, g.modeInfo⟩ bestMode).2 },
        ⟨some (selectedSetMode fw ⟨some gop, g.modeInfo⟩ bestMode).2.gop, g.modeInfo⟩, params, s⟩ := by
  unfold selectedSetMode at hset ⊢
  rw [initialize_eq, h]
  simp only [graphicsSetMode, hset, if_true]
  rfl

/-- Where it succeeds, they are those of the mode set. -/
theorem initialize_set (params : BootParams) (s : Canvas) {gop : Gop}
    (h : bs.locateProtocol.2 = some gop)
    (hset : efiError (selectedSetMode fw ⟨some gop, g.modeInfo⟩ bestMode).1 = false) :
    ∃ s', graphicsInitializeComplete bs fw g params bestMode s =
      ⟨.success, { fw with active := (selectedSetMode fw ⟨some gop, g.modeInfo⟩ bestMode).2 },
        ⟨some (selectedSetMode fw ⟨some gop, g.modeInfo⟩ bestMode).2.gop,
          some (selectedSetMode fw ⟨some gop, g.modeInfo⟩ bestMode).2.info⟩,
        (graphicsGetFramebufferInfo ⟨some (selectedSetMode fw ⟨some gop, g.modeInfo⟩ bestMode).2.gop,
          some (selectedSetMode fw ⟨some gop, g.modeInfo⟩ bestMode).2.info⟩ params).2, s'⟩ := by
  unfold selectedSetMode at hset ⊢
  rw [initialize_eq, h]
  simp only [graphicsSetMode, hset]
  exact ⟨_, rfl⟩

end Initialize

/-- **When the framebuffer fields can be relied on.** The initialisation always
reports success. Its fields then describe the active mode or are zero, if and
only if there is no graphics protocol, or the selected mode was set and its
scanlines are as long as the visible width, or it was not set and the fields
were zero or described the active mode already. This holds for whatever is
taken as the length of a scanline. -/
theorem framebuffer_fields_consistent_iff (bs : BootServices) (fw : GopFirmware) (g : Graphics)
    (params : BootParams) (bestMode : UInt32) (s : Canvas) (pitch : ModeInfo → UInt32) :
    (graphicsInitializeComplete bs fw g params bestMode s).status = .success ∧
      (Consistent pitch (graphicsInitializeComplete bs fw g params bestMode s) ↔
        bs.locateProtocol.2 = none ∨ ∃ status active,
          selectedSetMode fw ⟨bs.locateProtocol.2, g.modeInfo⟩ bestMode = (status, active) ∧
          if efiError status then NoFramebuffer params ∨ Describes pitch active params
          else active.info.horizontalResolution * 4 = pitch active.info) := by
  cases h : bs.locateProtocol.2 with
  | none =>
    obtain ⟨hstatus, hzero⟩ := initialize_absent fw g params bestMode s h
    exact ⟨hstatus, iff_of_true (.inl hzero) (.inl rfl)⟩
  | some gop =>
    obtain ⟨⟨status, active⟩, hsel⟩ : ∃ r, selectedSetMode fw ⟨some gop, g.modeInfo⟩ bestMode = r :=
      ⟨_, rfl⟩
    have hcond : (some gop = none ∨ ∃ status active,
        selectedSetMode fw ⟨some gop, g.modeInfo⟩ bestMode = (status, active) ∧
        if efiError status then NoFramebuffer params ∨ Describes pitch active params
        else active.info.horizontalResolution * 4 = pitch active.info) ↔
        if efiError status then NoFramebuffer params ∨ Describes pitch active params
        else active.info.horizontalResolution * 4 = pitch active.info := by
      refine ⟨fun h => ?_, fun h => .inr ⟨status, active, hsel, h⟩⟩
      obtain ⟨status', active', hsel', h⟩ := h.resolve_left (Option.some_ne_none gop)
      obtain ⟨rfl, rfl⟩ := Prod.mk.inj (hsel.symm.trans hsel')
      exact h
    rw [hcond]
    by_cases hset : efiError status = true
    · have hrun := initialize_failed params s h (by rwa [hsel])
      rw [if_pos hset, hrun, hsel]
      exact ⟨rfl, or_congr_right (and_iff_right rfl)⟩
    · obtain ⟨s', hrun⟩ := initialize_set params s h
        (by rw [hsel]; exact Bool.eq_false_iff.mpr hset)
      rw [if_neg hset, hrun, hsel]
      have hd := getFramebufferInfo_describes active params
      refine ⟨rfl, ⟨fun hc => ?_, fun hpitch => .inr
        ⟨rfl, hd.addr, hd.width, hd.height, hd.pitch.trans hpitch, hd.bpp⟩⟩⟩
      rcases hc with hzero | ⟨-, hdescribes⟩
      · -- the number of bits is never zero
        have hne : (32 : UInt32) ≠ 0 := by decide
        exact absurd (hd.bpp.symm.trans hzero.bpp) hne
      · exact hd.pitch.symm.trans hdescribes.pitch

/-- A protocol whose `SetMode` fails, and fields left over. -/
theorem framebuffer_fields_stale :
    ¬ ∀ (bs : BootServices) (fw : GopFirmware) (g : Graphics) (params : BootParams)
        (bestMode : UInt32) (s : Canvas),
      Consistent (fun info => info.horizontalResolution * 4)
        (graphicsInitializeComplete bs fw g params bestMode s) := by
  intro h
  have hc := h { BootServices.granting with locateProtocol := (0, some ⟨0x80000000⟩) }
    ⟨1, ⟨0, paddedMode, ⟨0x80000000⟩⟩, fun _ => (0, paddedMode),
      fun _ => (efiUnsupported, ⟨0, paddedMode, ⟨0x80000000⟩⟩)⟩
    ⟨none, none⟩ { BootParams.zero with framebufferAddr := 1 } 0 ⟨fun _ => 0, []⟩
  have hne : (1 : UInt64) ≠ 0 ∧ (1 : UInt64) ≠ 0x80000000 := by decide
  rw [initialize_failed _ _ rfl rfl] at hc
  rcases hc with hzero | ⟨-, hdescribes⟩
  · exact hne.1 hzero.addr
  · exact hne.2 hdescribes.addr

end Dos25
