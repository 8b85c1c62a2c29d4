/-
# `graphics.c`: the framebuffer

What `graphics_get_framebuffer_info` hands over in the boot parameters and
where `graphics_draw_pixel` writes. Memory is a byte for every address, and
the 32-bit products wrap as in C.

The boot parameters announce `HorizontalResolution * 4` bytes per scanline,
the bootloader itself steps by `PixelsPerScanLine * 4`: the two addresses of a
pixel agree exactly in the first row and on modes without padding
(`pixel_addresses_agree_iff`).

Key definitions: `graphicsGetFramebufferInfo`, `graphicsDrawPixel`,
`BootParams.pixelAddress`.
-/
import Dos25.Boot
import Dos25.Lib.Bytes

namespace Dos25

/-- The fields of `EFI_GRAPHICS_OUTPUT_MODE_INFORMATION` that are read. The
pixel format is not: every mode is taken to have 32 bits per pixel. -/
structure ModeInfo where
  horizontalResolution : UInt32
  verticalResolution : UInt32
  pixelsPerScanLine : UInt32

/-- `EFI_GRAPHICS_OUTPUT_PROTOCOL`, as far as the framebuffer goes. -/
structure Gop where
  frameBufferBase : UInt64

/-- `gGOP` and `gModeInfo`; `none` is NULL. -/
structure Graphics where
  gop : Option Gop
  modeInfo : Option ModeInfo

/-- A byte for every address. -/
abbrev Memory := UInt64 → UInt8

/-- `*(UINT32*)address = value`. -/
def storeU32 (mem : Memory) (address : UInt64) (value : UInt32) : Memory :=
  fun a => (Bytes.encode 4 value.toNat).getD (a - address).toNat (mem a)

def graphicsGetFramebufferInfo (g : Graphics) (params : BootParams) : BootStatus × BootParams :=
  match g.gop, g.modeInfo with
  | some gop, some modeInfo =>
    let params := { params with
      framebufferAddr := gop.frameBufferBase
      framebufferWidth := modeInfo.horizontalResolution
      framebufferHeight := modeInfo.verticalResolution
      framebufferBpp := 32 }
    (.success, { params with
      framebufferPitch := params.framebufferWidth * (params.framebufferBpp / 8) })
  | _, _ => (.success, { params with
      framebufferAddr := 0
      framebufferWidth := 0
      framebufferHeight := 0
      framebufferPitch := 0
      framebufferBpp := 0 })

/-- The pointer `graphics_draw_pixel` writes through. -/
def pixelPointer (gop : Gop) (modeInfo : ModeInfo) (x y : UInt32) : UInt64 :=
  let pixel := gop.frameBufferBase
  let pixel := pixel + (y * modeInfo.pixelsPerScanLine * 4).toUInt64
  pixel + (x * 4).toUInt64

def graphicsDrawPixel (g : Graphics) (x y color : UInt32) (mem : Memory) : BootStatus × Memory :=
  match g.gop, g.modeInfo with
  | some gop, some modeInfo =>
    if modeInfo.horizontalResolution ≤ x ∨ modeInfo.verticalResolution ≤ y then (.error, mem)
    else (.success, storeU32 mem (pixelPointer gop modeInfo x y) color)
  | _, _ => (.error, mem)

/-- Where a kernel finds the pixel `(x, y)`:
`framebuffer_addr + y*framebuffer_pitch + x*(framebuffer_bpp/8)`. -/
def BootParams.pixelAddress (params : BootParams) (x y : UInt32) : UInt64 :=
  params.framebufferAddr + y.toUInt64 * params.framebufferPitch.toUInt64 +
    x.toUInt64 * (params.framebufferBpp / 8).toUInt64

/-! ### The two addresses of a pixel -/

/-- A mode whose scanlines hold the visible width and whose framebuffer is
smaller than 4 GiB. -/
structure ModeInfo.Valid (modeInfo : ModeInfo) : Prop where
  stride : modeInfo.horizontalResolution ≤ modeInfo.pixelsPerScanLine
  size : modeInfo.pixelsPerScanLine.toNat * modeInfo.verticalResolution.toNat * 4 < 2 ^ 32

/-- The pixel `(x, y)` is visible. -/
structure ModeInfo.OnScreen (modeInfo : ModeInfo) (x y : UInt32) : Prop where
  x_lt : x < modeInfo.horizontalResolution
  y_lt : y < modeInfo.verticalResolution

/-- A product of 32-bit numbers that fits does not wrap. -/
theorem mul_toNat {a b : UInt32} (h : a.toNat * b.toNat < 2 ^ 32) :
    (a * b).toNat = a.toNat * b.toNat := by
  rw [UInt32.toNat_mul]
  exact Nat.mod_eq_of_lt h

section

variable {modeInfo : ModeInfo} {x y : UInt32}

/-- Rows end inside the framebuffer. -/
theorem row_lt (hv : modeInfo.Valid) (hp : modeInfo.OnScreen x y) {w : ℕ}
    (hw : w ≤ modeInfo.pixelsPerScanLine.toNat) : y.toNat * w * 4 + w * 4 < 2 ^ 32 := by
  have hy : y.toNat + 1 ≤ modeInfo.verticalResolution.toNat := UInt32.lt_iff_toNat_lt.mp hp.y_lt
  have hmul : w * (y.toNat + 1) ≤
      modeInfo.pixelsPerScanLine.toNat * modeInfo.verticalResolution.toNat := Nat.mul_le_mul hw hy
  calc y.toNat * w * 4 + w * 4 = w * (y.toNat + 1) * 4 := by ring
    _ ≤ modeInfo.pixelsPerScanLine.toNat * modeInfo.verticalResolution.toNat * 4 :=
      Nat.mul_le_mul_right 4 hmul
    _ < 2 ^ 32 := hv.size

/-- The offset of a row as the bootloader computes it. -/
theorem drawn_row_toNat (hv : modeInfo.Valid) (hp : modeInfo.OnScreen x y) :
    (y * modeInfo.pixelsPerScanLine * 4).toUInt64.toNat =
      y.toNat * modeInfo.pixelsPerScanLine.toNat * 4 := by
  have hrow := row_lt hv hp le_rfl
  have h1 := mul_toNat (a := y) (b := modeInfo.pixelsPerScanLine) (by omega)
  rw [UInt32.toNat_toUInt64, mul_toNat, h1]
  · rfl
  · rw [h1]
    show y.toNat * modeInfo.pixelsPerScanLine.toNat * 4 < 2 ^ 32
    omega

/-- The offset of a row as a kernel computes it. -/
theorem announced_row_toNat (hv : modeInfo.Valid) (hp : modeInfo.OnScreen x y) :
    (y.toUInt64 * (modeInfo.horizontalResolution * (32 / 8)).toUInt64).toNat =
      y.toNat * modeInfo.horizontalResolution.toNat * 4 := by
  have hrow := row_lt hv hp (UInt32.le_iff_toNat_le.mp hv.stride)
  have h1 := mul_toNat (a := modeInfo.horizontalResolution) (b := 32 / 8) (by
    show modeInfo.horizontalResolution.toNat * 4 < 2 ^ 32
    omega)
  rw [UInt64.toNat_mul, UInt32.toNat_toUInt64, UInt32.toNat_toUInt64, h1]
  show y.toNat * (modeInfo.horizontalResolution.toNat * 4) % 2 ^ 64 = _
  rw [← Nat.mul_assoc]
  exact Nat.mod_eq_of_lt (by omega)

/-- Both step from pixel to pixel by 4 bytes. -/
theorem column_eq (hv : modeInfo.Valid) (hp : modeInfo.OnScreen x y) :
    x.toUInt64 * ((32 : UInt32) / 8).toUInt64 = (x * 4).toUInt64 := by
  have hrow := row_lt hv hp le_rfl
  have hx := UInt32.lt_iff_toNat_lt.mp hp.x_lt
  have hs := UInt32.le_iff_toNat_le.mp hv.stride
  apply UInt64.toNat_inj.mp
  have h1 : (x * 4).toNat = x.toNat * 4 := mul_toNat (b := 4) (by
    show x.toNat * 4 < 2 ^ 32
    omega)
  rw [UInt64.toNat_mul, UInt32.toNat_toUInt64, UInt32.toNat_toUInt64, UInt32.toNat_toUInt64, h1]
  show x.toNat * 4 % 2 ^ 64 = x.toNat * 4
  exact Nat.mod_eq_of_lt (by omega)

/-- Rows start at one place exactly in the first row and without padding. -/
theorem row_eq_iff (hv : modeInfo.Valid) (hp : modeInfo.OnScreen x y) :
    y.toUInt64 * (modeInfo.horizontalResolution * (32 / 8)).toUInt64 =
        (y * modeInfo.pixelsPerScanLine * 4).toUInt64 ↔
      y = 0 ∨ modeInfo.pixelsPerScanLine = modeInfo.horizontalResolution := by
  rw [← UInt64.toNat_inj, announced_row_toNat hv hp, drawn_row_toNat hv hp,
    Nat.mul_right_cancel_iff (by decide : 0 < 4), ← UInt32.toNat_inj, ← UInt32.toNat_inj]
  constructor
  · intro h
    rcases Nat.eq_zero_or_pos y.toNat with hy | hy
    · exact .inl hy
    · exact .inr (Nat.eq_of_mul_eq_mul_left hy h).symm
  · rintro (hy | hw)
    · rw [hy, UInt32.toNat_zero, Nat.zero_mul, Nat.zero_mul]
    · rw [hw]

end

/-- **The two addresses of a pixel.** On a valid mode `graphics_draw_pixel`
writes a visible pixel, and a kernel that follows the boot parameters finds it
at the address written if and only if the pixel is in the first row or the
scanlines carry no padding. -/
theorem pixel_addresses_agree_iff (gop : Gop) {modeInfo : ModeInfo} (hv : modeInfo.Valid)
    {x y : UInt32} (hp : modeInfo.OnScreen x y) (params : BootParams) :
    (∀ color mem, graphicsDrawPixel ⟨some gop, some modeInfo⟩ x y color mem =
        (.success, storeU32 mem (pixelPointer gop modeInfo x y) color)) ∧
      ((graphicsGetFramebufferInfo ⟨some gop, some modeInfo⟩ params).2.pixelAddress x y =
          pixelPointer gop modeInfo x y ↔
        y = 0 ∨ modeInfo.pixelsPerScanLine = modeInfo.horizontalResolution) := by
  constructor
  · intro color mem
    rw [graphicsDrawPixel]
    exact if_neg (not_or.mpr ⟨UInt32.not_le.mpr hp.x_lt, UInt32.not_le.mpr hp.y_lt⟩)
  · show gop.frameBufferBase + y.toUInt64 * (modeInfo.horizontalResolution * (32 / 8)).toUInt64 +
        x.toUInt64 * ((32 : UInt32) / 8).toUInt64 =
      gop.frameBufferBase + (y * modeInfo.pixelsPerScanLine * 4).toUInt64 + (x * 4).toUInt64 ↔ _
    rw [column_eq hv hp, UInt64.add_left_inj, UInt64.add_right_inj, row_eq_iff hv hp]

/-- 800 visible pixels in scanlines of 832. -/
def paddedMode : ModeInfo := ⟨800, 600, 832⟩

theorem pixel_addresses_agree_iff_padded :
    (graphicsGetFramebufferInfo ⟨some ⟨0x80000000⟩, some paddedMode⟩ .zero).2.pixelAddress 7 0 =
      pixelPointer ⟨0x80000000⟩ paddedMode 7 0 :=
  ((pixel_addresses_agree_iff ⟨0x80000000⟩ ⟨by decide, by decide⟩ ⟨by decide, by decide⟩ .zero).2).mpr
    (.inl rfl)

/-- The first pixel of the second row, 128 bytes apart. -/
theorem padded_row_differs :
    ¬ ∀ (gop : Gop) (modeInfo : ModeInfo) (x y : UInt32) (params : BootParams),
      modeInfo.Valid → modeInfo.OnScreen x y →
      (graphicsGetFramebufferInfo ⟨some gop, some modeInfo⟩ params).2.pixelAddress x y =
        pixelPointer gop modeInfo x y := by
  intro h
  have h1 := h ⟨0x80000000⟩ paddedMode 0 1 .zero ⟨by decide, by decide⟩ ⟨by decide, by decide⟩
  exact absurd h1 (by decide)

end Dos25
