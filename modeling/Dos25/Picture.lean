/-
# The picture on the screen

What the drawing functions show, on a valid mode and for all arguments. A
rectangle that is not all on the screen is drawn until its first pixel off the
screen: the visible rows if it runs off the bottom, the visible part of the
first row alone if it runs off the right (`Drawn`, `draw_rect_exact`). A string
draws the characters that fit, and what is drawn of the first that does not
(`draw_string_exact`).

Over it, a picture is a color for each row and column, and a command paints a
region of it (`DrawCommand.paint`). Any run of commands shows the picture
painted, reports what painting reports, and changes no other byte
(`drawing_shows_picture`); so the boot screen is known (`boot_screen`).

Key definitions: `Drawn`, `Shows`, `DrawCommand.paint`.
-/
import Dos25.GraphicsModes
import Dos25.OffScreen

namespace Dos25

open CountedLoop

/-! ### A rectangle, clipped -/

/-- The columns of a rectangle that are on the screen. -/
def drawnColumns (modeInfo : ModeInfo) (x width : ℕ) : ℕ :=
  min width (modeInfo.horizontalResolution.toNat - x)

/-- The rows that are drawn: one, if the rectangle runs off the right. -/
def drawnRows (modeInfo : ModeInfo) (x y width height : ℕ) : ℕ :=
  min (if x + width ≤ modeInfo.horizontalResolution.toNat then height else min 1 height)
    (modeInfo.verticalResolution.toNat - y)

/-- The row and column is drawn. -/
def Drawn (modeInfo : ModeInfo) (x y width height r c : ℕ) : Prop :=
  (x + width < 2 ^ 32 ∧ y + height < 2 ^ 32) ∧
    (y ≤ r ∧ r < y + drawnRows modeInfo x y width height) ∧
    x ≤ c ∧ c < x + drawnColumns modeInfo x width

instance (modeInfo : ModeInfo) (x y width height r c : ℕ) :
    Decidable (Drawn modeInfo x y width height r c) :=
  inferInstanceAs (Decidable (_ ∧ _))

/-- What is reported as drawn: what is on the screen, is empty or wraps. -/
def DrawnReported (modeInfo : ModeInfo) (x y width height : UInt32) : Prop :=
  (2 ^ 32 ≤ x.toNat + width.toNat ∨ 2 ^ 32 ≤ y.toNat + height.toNat) ∨
    (width = 0 ∨ height = 0) ∨
    x.toNat + width.toNat ≤ modeInfo.horizontalResolution.toNat ∧
      y.toNat + height.toNat ≤ modeInfo.verticalResolution.toNat

instance (modeInfo : ModeInfo) (x y width height : UInt32) :
    Decidable (DrawnReported modeInfo x y width height) :=
  inferInstanceAs (Decidable (_ ∨ _))

section Rect

variable {gop : Gop} {modeInfo : ModeInfo} {x y width height color : UInt32} {s : Canvas}

/-- The visible part of the first row is a rectangle of its own. -/
theorem drawRow_cut (gop : Gop) (color : UInt32) (s : Canvas) (hy : y < modeInfo.verticalResolution)
    (hx : x < modeInfo.horizontalResolution) (hoff : modeInfo.horizontalResolution < x + width) :
    ∃ s', drawRow ⟨some gop, some modeInfo⟩ x width color y s = .leave .error s' ∧
      drawRow ⟨some gop, some modeInfo⟩ x (modeInfo.horizontalResolution - x) color y s = .next s' := by
  have hend : x + (modeInfo.horizontalResolution - x) = modeInfo.horizontalResolution := by
    rw [UInt32.add_comm, UInt32.sub_add_cancel]
  have hrow : ∃ s', drawRow ⟨some gop, some modeInfo⟩ x (modeInfo.horizontalResolution - x) color y s =
      .next s' := by
    rw [drawRow_next_iff, hend]
    exact fun col _ hcol => ⟨hcol, hy⟩
  obtain ⟨s', hs'⟩ := hrow
  refine ⟨s', ?_, hs'⟩
  rw [drawRow, hend] at hs'
  rw [drawRow, forUp_cut (UInt32.le_of_lt hx) (UInt32.le_of_lt hoff), hs']
  refine forUp_leave hoff (drawColumn_offScreen ?_ color s')
  exact fun hon => UInt32.lt_irrefl _ hon.x_lt

/-- Off the right: the visible part of the first row. -/
theorem drawRect_right (hy : y < modeInfo.verticalResolution) (hx : x < modeInfo.horizontalResolution)
    (hoff : modeInfo.horizontalResolution < x + width) (hh : y < y + height) (hone : y < y + 1) :
    graphicsDrawRect ⟨some gop, some modeInfo⟩ x y width height color s =
      (.error, (graphicsDrawRect ⟨some gop, some modeInfo⟩ x y (modeInfo.horizontalResolution - x) 1
        color s).2) := by
  obtain ⟨s', hleave, hnext⟩ := drawRow_cut gop color s hy hx hoff
  have hdone : ¬ y + 1 < y + 1 := UInt32.lt_irrefl _
  rw [graphicsDrawRect, graphicsDrawRect, forUp_leave hh hleave, forUp_next hone hnext,
    forUp_done hdone]

/-- Off the bottom: the visible rows. -/
theorem drawRect_bottom (hy : y < modeInfo.verticalResolution) (hx : x < x + width)
    (hon : x + width ≤ modeInfo.horizontalResolution)
    (hoff : modeInfo.verticalResolution < y + height) :
    graphicsDrawRect ⟨some gop, some modeInfo⟩ x y width height color s =
      (.error, (graphicsDrawRect ⟨some gop, some modeInfo⟩ x y width
        (modeInfo.verticalResolution - y) color s).2) := by
  have hend : y + (modeInfo.verticalResolution - y) = modeInfo.verticalResolution := by
    rw [UInt32.add_comm, UInt32.sub_add_cancel]
  have hok : (graphicsDrawRect ⟨some gop, some modeInfo⟩ x y width (modeInfo.verticalResolution - y)
      color s).1 = .success := by
    rw [drawRect_success_iff]
    exact fun p hp => ⟨UInt32.lt_of_lt_of_le hp.x_lt hon, hend ▸ hp.y_lt⟩
  have hleave : ∀ s', drawRow ⟨some gop, some modeInfo⟩ x width color modeInfo.verticalResolution s' =
      .leave .error s' := fun s' =>
    forUp_leave hx (drawColumn_offScreen (fun hon => UInt32.lt_irrefl _ hon.y_lt) color s')
  rw [graphicsDrawRect, hend] at hok
  rw [graphicsDrawRect, graphicsDrawRect, hend,
    forUp_cut (UInt32.le_of_lt hy) (UInt32.le_of_lt hoff)]
  cases hrun : forUp (drawRow ⟨some gop, some modeInfo⟩ x width color) y modeInfo.verticalResolution
      s with
  | leave status s' =>
    rw [hrun] at hok
    exact absurd hok
      (forUp_leaves (P := (· ≠ BootStatus.success)) (fun _ _ _ _ => drawRow_leaves) hrun)
  | next s' =>
    dsimp only
    rw [forUp_leave hoff (hleave s')]

/-- An empty rectangle draws nothing. -/
theorem drawRect_empty (h : width = 0 ∨ height = 0) (s : Canvas) :
    graphicsDrawRect ⟨some gop, some modeInfo⟩ x y width height color s = (.success, s) := by
  have hnone : ∀ p, ¬ Visited x y width height p := by
    rintro p ⟨hx, hx', hy, hy'⟩
    rcases h with rfl | rfl
    · rw [UInt32.add_zero] at hx'
      exact UInt32.lt_irrefl _ (UInt32.lt_of_le_of_lt hx hx')
    · rw [UInt32.add_zero] at hy'
      exact UInt32.lt_irrefl _ (UInt32.lt_of_le_of_lt hy hy')
  have hstatus : (graphicsDrawRect ⟨some gop, some modeInfo⟩ x y width height color s).1 = .success :=
    (drawRect_success_iff s).mpr fun p hp => absurd hp (hnone p)
  exact Prod.ext hstatus ((drawRect_draws s).eq_of_empty hnone)

theorem toNat_pos_of_ne {a : UInt32} (h : a ≠ 0) : 0 < a.toNat :=
  Nat.pos_of_ne_zero fun h0 => h (UInt32.toNat_inj.mp h0)

/-- When success is reported, for any rectangle. -/
theorem drawRect_reports (s : Canvas) :
    (graphicsDrawRect ⟨some gop, some modeInfo⟩ x y width height color s).1 = .success ↔
      DrawnReported modeInfo x y width height := by
  by_cases hwrap : 2 ^ 32 ≤ x.toNat + width.toNat ∨ 2 ^ 32 ≤ y.toNat + height.toNat
  · rw [drawRect_wraps hwrap]
    exact iff_of_true rfl (.inl hwrap)
  by_cases hempty : width = 0 ∨ height = 0
  · rw [drawRect_empty hempty]
    exact iff_of_true rfl (.inr (.inl hempty))
  · obtain ⟨hw, hh⟩ := not_or.mp hempty
    rw [drawRect_success_iff_contained (toNat_pos_of_ne hw) (toNat_pos_of_ne hh) (by omega) (by omega)]
    exact ⟨fun h => .inr (.inr h), fun h => (h.resolve_left hwrap).resolve_left hempty⟩

theorem Paints.of_empty {region : ℕ → ℕ → Prop} (h : ∀ r c, ¬ region r c) (mem : Memory) :
    Paints gop modeInfo color region mem mem :=
  ⟨fun r c hr => absurd hr (h r c), fun _ _ => rfl⟩

theorem Paints.congr {region region' : ℕ → ℕ → Prop} {mem mem' : Memory}
    (h : Paints gop modeInfo color region mem mem') (hr : ∀ r c, region r c ↔ region' r c) :
    Paints gop modeInfo color region' mem mem' :=
  ⟨fun r c hr' => h.word r c ((hr r c).mpr hr'),
    fun a ha => h.frame a fun r c hr' => ha r c ((hr r c).mp hr')⟩

/-- A rectangle whose bounds do not wrap and whose corner is on the screen. -/
theorem drawRect_clipped (gop : Gop) (hv : modeInfo.Valid) (hon : modeInfo.OnScreen x y)
    (hw : 0 < width.toNat) (hh : 0 < height.toNat) (hx : x.toNat + width.toNat < 2 ^ 32)
    (hy : y.toNat + height.toNat < 2 ^ 32) (color : UInt32) (s : Canvas) :
    Paints gop modeInfo color
      (fun r c => (y.toNat ≤ r ∧
          r < y.toNat + drawnRows modeInfo x.toNat y.toNat width.toNat height.toNat) ∧
        x.toNat ≤ c ∧ c < x.toNat + drawnColumns modeInfo x.toNat width.toNat)
      s.mem (graphicsDrawRect ⟨some gop, some modeInfo⟩ x y width height color s).2.mem := by
  have hxlt := UInt32.lt_iff_toNat_lt.mp hon.x_lt
  have hylt := UInt32.lt_iff_toNat_lt.mp hon.y_lt
  have hwidth : (x + width).toNat = x.toNat + width.toNat := by
    rw [UInt32.toNat_add, Nat.mod_eq_of_lt hx]
  have hheight : (y + height).toNat = y.toNat + height.toNat := by
    rw [UInt32.toNat_add, Nat.mod_eq_of_lt hy]
  have hcolumns : (modeInfo.horizontalResolution - x).toNat =
      modeInfo.horizontalResolution.toNat - x.toNat :=
    UInt32.toNat_sub_of_le _ _ (UInt32.le_of_lt hon.x_lt)
  have hrows : (modeInfo.verticalResolution - y).toNat =
      modeInfo.verticalResolution.toNat - y.toNat :=
    UInt32.toNat_sub_of_le _ _ (UInt32.le_of_lt hon.y_lt)
  unfold drawnRows drawnColumns
  by_cases hright : x.toNat + width.toNat ≤ modeInfo.horizontalResolution.toNat
  · rw [if_pos hright, Nat.min_eq_left (show width.toNat ≤ _ by omega)]
    by_cases hbottom : y.toNat + height.toNat ≤ modeInfo.verticalResolution.toNat
    · rw [Nat.min_eq_left (by omega)]
      exact (drawRect_paints gop hv hright hbottom color s).2
    · rw [drawRect_bottom hon.y_lt (lt_add_of_fits hw hx)
        (UInt32.le_iff_toNat_le.mpr (by omega)) (UInt32.lt_iff_toNat_lt.mpr (by omega)),
        Nat.min_eq_right (by omega), ← hrows]
      exact (drawRect_paints gop hv hright (by omega) color s).2
  · have hone : (1 : UInt32).toNat = 1 := rfl
    rw [drawRect_right hon.y_lt hon.x_lt (UInt32.lt_iff_toNat_lt.mpr (by omega))
      (lt_add_of_fits hh hy) (lt_add_of_fits (by decide) (by omega)), if_neg hright,
      Nat.min_eq_left (show 1 ≤ height.toNat from hh), Nat.min_eq_left (by omega),
      Nat.min_eq_right (show _ ≤ width.toNat by omega), ← hcolumns]
    have hx' : x.toNat + (modeInfo.horizontalResolution - x).toNat ≤
        modeInfo.horizontalResolution.toNat := by omega
    have hy' : y.toNat + (1 : UInt32).toNat ≤ modeInfo.verticalResolution.toNat := by omega
    have hpaint := (drawRect_paints gop hv hx' hy' color s).2
    rwa [hone] at hpaint

end Rect

/-- Exactly the words of `Drawn` are painted. -/
theorem drawRect_paints_drawn (gop : Gop) {modeInfo : ModeInfo} (hv : modeInfo.Valid)
    (x y width height color : UInt32) (s : Canvas) :
    Paints gop modeInfo color (Drawn modeInfo x.toNat y.toNat width.toNat height.toNat) s.mem
      (graphicsDrawRect ⟨some gop, some modeInfo⟩ x y width height color s).2.mem := by
  by_cases hwrap : 2 ^ 32 ≤ x.toNat + width.toNat ∨ 2 ^ 32 ≤ y.toNat + height.toNat
  · rw [drawRect_wraps hwrap]
    refine .of_empty (fun r c hd => ?_) _
    have hfits := hd.1
    omega
  by_cases hempty : width = 0 ∨ height = 0
  · rw [drawRect_empty hempty]
    refine .of_empty (fun r c hd => ?_) _
    have hin := hd.2
    unfold drawnRows drawnColumns at hin
    rcases hempty with rfl | rfl
    · rw [UInt32.toNat_zero, Nat.zero_min] at hin
      omega
    · simp only [UInt32.toNat_zero, Nat.min_zero, ite_self, Nat.zero_min] at hin
      omega
  obtain ⟨hw, hh⟩ := not_or.mp hempty
  have hfits : x.toNat + width.toNat < 2 ^ 32 ∧ y.toNat + height.toNat < 2 ^ 32 := by omega
  by_cases hon : modeInfo.OnScreen x y
  · exact (drawRect_clipped gop hv hon (toNat_pos_of_ne hw) (toNat_pos_of_ne hh) hfits.1 hfits.2 color
      s).congr fun r c => (and_iff_right hfits).symm
  · rw [drawRect_stops hon (lt_add_of_fits (toNat_pos_of_ne hw) hfits.1)
      (lt_add_of_fits (toNat_pos_of_ne hh) hfits.2)]
    refine .of_empty (fun r c hd => ?_) _
    have hin := hd.2
    have hoff := not_onScreen_iff.mp hon
    rw [UInt32.le_iff_toNat_le, UInt32.le_iff_toNat_le] at hoff
    unfold drawnRows drawnColumns at hin
    omega

/-- **What a rectangle draws, for all arguments.** On a valid mode the words of
the rows and columns of `Drawn` hold the color and every other byte is
unchanged; and success is reported exactly where the rectangle is on the
screen, is empty or wraps. -/
theorem draw_rect_exact (gop : Gop) {modeInfo : ModeInfo} (hv : modeInfo.Valid)
    (x y width height color : UInt32) (s : Canvas) :
    ((graphicsDrawRect ⟨some gop, some modeInfo⟩ x y width height color s).1 = .success ↔
        DrawnReported modeInfo x y width height) ∧
      Paints gop modeInfo color (Drawn modeInfo x.toNat y.toNat width.toNat height.toNat) s.mem
        (graphicsDrawRect ⟨some gop, some modeInfo⟩ x y width height color s).2.mem :=
  ⟨drawRect_reports s, drawRect_paints_drawn gop hv x y width height color s⟩

theorem paddedMode_valid : paddedMode.Valid := ⟨by decide, by decide⟩

/-- A rectangle that runs off the right: only its first row is drawn. -/
theorem draw_rect_exact_padded :
    (graphicsDrawRect ⟨some ⟨0x80000000⟩, some paddedMode⟩ 790 100 20 20 0x000000FF
        ⟨fun _ => 0, []⟩).1 ≠ .success ∧
      Paints ⟨0x80000000⟩ paddedMode 0x000000FF (fun r c => (100 ≤ r ∧ r < 101) ∧ 790 ≤ c ∧ c < 800)
        (fun _ => 0) (graphicsDrawRect ⟨some ⟨0x80000000⟩, some paddedMode⟩ 790 100 20 20 0x000000FF
          ⟨fun _ => 0, []⟩).2.mem := by
  obtain ⟨hstatus, hpaints⟩ := draw_rect_exact ⟨0x80000000⟩ paddedMode_valid 790 100 20 20
    0x000000FF ⟨fun _ => 0, []⟩
  refine ⟨fun hok => absurd (hstatus.mp hok) (by decide), hpaints.congr fun r c => ?_⟩
  exact and_iff_right ⟨by decide, by decide⟩

/-! ### Pictures -/

/-- The color of each pixel, by row and column. -/
abbrev Picture := ℕ → ℕ → UInt32

/-- The picture with a region in one color. -/
def Picture.fill (picture : Picture) (region : ℕ → ℕ → Prop) [∀ r c, Decidable (region r c)]
    (color : UInt32) : Picture :=
  fun r c => if region r c then color else picture r c

/-- A row and column on the screen. -/
structure ModeInfo.Visible (modeInfo : ModeInfo) (r c : ℕ) : Prop where
  row : r < modeInfo.verticalResolution.toNat
  column : c < modeInfo.horizontalResolution.toNat

/-- The visible words hold the picture. -/
def Shows (gop : Gop) (modeInfo : ModeInfo) (mem : Memory) (picture : Picture) : Prop :=
  ∀ r c, modeInfo.Visible r c →
    loadU32 mem (gop.frameBufferBase + UInt64.ofNat (modeInfo.wordOffset r c)) = picture r c

/-- No byte but those of the visible words has changed. -/
def SameOffScreen (gop : Gop) (modeInfo : ModeInfo) (mem mem' : Memory) : Prop :=
  ∀ a, (∀ r c, modeInfo.Visible r c → ∀ i < 4,
    a ≠ gop.frameBufferBase + UInt64.ofNat (modeInfo.wordOffset r c + i)) → mem' a = mem a

section Shown

variable {gop : Gop} {modeInfo : ModeInfo} {color : UInt32} {mem mem' mem'' : Memory}
  {picture : Picture}

theorem SameOffScreen.refl (mem : Memory) : SameOffScreen gop modeInfo mem mem := fun _ _ => rfl

theorem SameOffScreen.trans (h : SameOffScreen gop modeInfo mem mem')
    (h' : SameOffScreen gop modeInfo mem' mem'') : SameOffScreen gop modeInfo mem mem'' :=
  fun a ha => (h' a ha).trans (h a ha)

/-- The word of a visible pixel lies below 4 GiB. -/
theorem ModeInfo.Visible.wordOffset_lt {r c : ℕ} (hv : modeInfo.Valid) (h : modeInfo.Visible r c) :
    modeInfo.wordOffset r c + 4 ≤ 2 ^ 32 := by
  have hstride := UInt32.le_iff_toNat_le.mp hv.stride
  have hrows : (r + 1) * modeInfo.pixelsPerScanLine.toNat ≤
      modeInfo.verticalResolution.toNat * modeInfo.pixelsPerScanLine.toNat :=
    Nat.mul_le_mul_right _ h.row
  have hsize := hv.size
  rw [Nat.mul_comm modeInfo.pixelsPerScanLine.toNat] at hsize
  rw [Nat.succ_mul] at hrows
  have hcolumn := h.column
  unfold wordOffset
  omega

/-- Two visible words share no byte. -/
theorem word_bytes_eq {r c r' c' i j : ℕ} (hv : modeInfo.Valid) (h : modeInfo.Visible r c)
    (h' : modeInfo.Visible r' c') (hi : i < 4) (hj : j < 4)
    (he : gop.frameBufferBase + UInt64.ofNat (modeInfo.wordOffset r c + i) =
      gop.frameBufferBase + UInt64.ofNat (modeInfo.wordOffset r' c' + j)) : r = r' ∧ c = c' := by
  have hlt := h.wordOffset_lt hv
  have hlt' := h'.wordOffset_lt hv
  have hstride := UInt32.le_iff_toNat_le.mp hv.stride
  rw [UInt64.add_right_inj] at he
  have hnat := congrArg UInt64.toNat he
  rw [UInt64.toNat_ofNat_of_lt' (show _ < 2 ^ 64 by omega),
    UInt64.toNat_ofNat_of_lt' (show _ < 2 ^ 64 by omega), ModeInfo.wordOffset,
    ModeInfo.wordOffset] at hnat
  have hpixel : r * modeInfo.pixelsPerScanLine.toNat + c =
      r' * modeInfo.pixelsPerScanLine.toNat + c' := by omega
  have hc : c < modeInfo.pixelsPerScanLine.toNat := lt_of_lt_of_le h.column hstride
  have hc' : c' < modeInfo.pixelsPerScanLine.toNat := lt_of_lt_of_le h'.column hstride
  have hrow : r = r' := by
    have hdiv := congrArg (· / modeInfo.pixelsPerScanLine.toNat) hpixel
    simpa only [Nat.mul_comm _ modeInfo.pixelsPerScanLine.toNat, Nat.mul_add_div (Nat.zero_lt_of_lt hc),
      Nat.div_eq_of_lt hc, Nat.div_eq_of_lt hc', Nat.add_zero] using hdiv
  subst hrow
  exact ⟨rfl, Nat.add_left_cancel hpixel⟩

/-- What is painted shows. -/
theorem Paints.shows (hv : modeInfo.Valid) {region : ℕ → ℕ → Prop} [∀ r c, Decidable (region r c)]
    (hregion : ∀ r c, region r c → modeInfo.Visible r c)
    (hp : Paints gop modeInfo color region mem mem') (h : Shows gop modeInfo mem picture) :
    Shows gop modeInfo mem' (picture.fill region color) ∧ SameOffScreen gop modeInfo mem mem' := by
  refine ⟨fun r c hvis => ?_, fun a ha => hp.frame a fun r c hr => ha r c (hregion r c hr)⟩
  unfold Picture.fill
  by_cases hr : region r c
  · rw [if_pos hr]
    exact hp.word r c hr
  · rw [if_neg hr, ← h r c hvis, loadU32, loadU32]
    congr 2
    refine List.map_congr_left fun i hi => hp.frame _ fun r' c' hr' j hj he => hr ?_
    rw [UInt64.add_assoc, ← UInt64.ofNat_add] at he
    obtain ⟨rfl, rfl⟩ := word_bytes_eq hv hvis (hregion r' c' hr') (List.mem_range.mp hi) hj he
    exact hr'

theorem Drawn.visible {x y width height r c : ℕ} (h : Drawn modeInfo x y width height r c) :
    modeInfo.Visible r c := by
  obtain ⟨-, ⟨hy, hr⟩, hx, hc⟩ := h
  unfold drawnRows at hr
  unfold drawnColumns at hc
  exact ⟨by omega, by omega⟩

end Shown

/-! ### Reports, in memory -/

/-- `Reported`, read in the memory: the words changed are those of visible
pixels of the exact rectangle. -/
structure ReportedWords (gop : Gop) (modeInfo : ModeInfo) (color x y : UInt32) (width height : ℕ)
    (mem : Memory) (r : BootStatus × Canvas) : Prop where
  contained : r.1 = .success → x.toNat + width ≤ modeInfo.horizontalResolution.toNat ∧
    y.toNat + height ≤ modeInfo.verticalResolution.toNat
  inside : ∃ words : ℕ → ℕ → Prop, (∀ r c, words r c → modeInfo.Visible r c ∧
    (y.toNat ≤ r ∧ r < y.toNat + height) ∧ x.toNat ≤ c ∧ c < x.toNat + width) ∧
    Paints gop modeInfo color words mem r.2.mem

section Reports

variable {gop : Gop} {modeInfo : ModeInfo} {color x y : UInt32} {width height : ℕ} {s : Canvas}
  {r : BootStatus × Canvas}

theorem ModeInfo.OnScreen.visible {x y : UInt32} (h : modeInfo.OnScreen x y) :
    modeInfo.Visible y.toNat x.toNat :=
  ⟨UInt32.lt_iff_toNat_lt.mp h.y_lt, UInt32.lt_iff_toNat_lt.mp h.x_lt⟩

theorem Reported.words (hv : modeInfo.Valid)
    (hon : Draws gop modeInfo color (fun p => modeInfo.OnScreen p.1 p.2) s r.2)
    (h : Reported gop modeInfo color x y width height s r) :
    ReportedWords gop modeInfo color x y width height s.mem r := by
  obtain ⟨words, hin, hpaints⟩ := h.inside.paints hv hon
  refine ⟨h.contained, words, fun row col hw => ?_, hpaints⟩
  obtain ⟨p, hrect, hscreen, rfl, rfl⟩ := hin row col hw
  exact ⟨hscreen.visible, ⟨hrect.y_le, hrect.y_lt⟩, hrect.x_le, hrect.x_lt⟩

/-- On a memory without the color every pixel drawn shows. -/
theorem ReportedWords.reported (hv : modeInfo.Valid)
    (hon : Draws gop modeInfo color (fun p => modeInfo.OnScreen p.1 p.2) s r.2)
    (hmem : ∀ a, s.mem a ≠ (Bytes.encode 4 color.toNat).getD 0 0)
    (h : ReportedWords gop modeInfo color x y width height s.mem r) :
    Reported gop modeInfo color x y width height s r := by
  refine ⟨h.contained, ?_⟩
  obtain ⟨words, hin, hpaints⟩ := h.inside
  obtain ⟨pixels, hd, hscreen, hp⟩ := hon
  refine ⟨pixels, hd, fun p hmemp => ?_, hp⟩
  have hvis := (hscreen p hmemp).visible
  obtain ⟨row, col, hw, i, hi, he⟩ : ∃ row col, words row col ∧ ∃ i < 4,
      pixelPointer gop modeInfo p.1 p.2 + UInt64.ofNat 0 =
        gop.frameBufferBase + UInt64.ofNat (modeInfo.wordOffset row col + i) := by
    by_contra hno
    refine hmem _ ((hpaints.frame _ fun row col hw i hi he => hno ⟨row, col, hw, i, hi, he⟩).symm.trans
      (hp.word p hmemp 0 (by decide)))
  rw [pixelPointer_eq_wordOffset hv (hscreen p hmemp), UInt64.add_assoc, ← UInt64.ofNat_add] at he
  obtain ⟨hvisible, hrow, hcol⟩ := hin row col hw
  obtain ⟨rfl, rfl⟩ := word_bytes_eq hv hvis hvisible (by decide) hi he
  exact ⟨hcol.1, hcol.2, hrow.1, hrow.2⟩

/-- A byte that is not this one. -/
theorem exists_byte_ne (b : UInt8) : ∃ b', b' ≠ b := ⟨b + 1, by simp⟩

/-- **A drawing is reported truthfully on every memory** if and only if it is
in pixels. -/
theorem forall_reportedWords_iff {P : Prop} (hv : modeInfo.Valid)
    (draw : Canvas → BootStatus × Canvas)
    (hon : ∀ s, Draws gop modeInfo color (fun p => modeInfo.OnScreen p.1 p.2) s (draw s).2)
    (hreported : ∀ s, Reported gop modeInfo color x y width height s (draw s) ↔ P) :
    (∀ s, ReportedWords gop modeInfo color x y width height s.mem (draw s)) ↔ P := by
  constructor
  · intro h
    obtain ⟨b, hb⟩ := exists_byte_ne ((Bytes.encode 4 color.toNat).getD 0 0)
    exact (hreported ⟨fun _ => b, []⟩).mp ((h _).reported hv (hon _) fun _ => hb)
  · intro hP s
    exact ((hreported s).mpr hP).words hv (hon s)

end Reports

/-- **The same in memory.** On a valid mode, whatever the framebuffer holds,
success is reported for what is on the screen only and only words of visible
pixels of the rectangle or string change, if and only if the bounds do not wrap
and, for a string, an error stops it before its column does. -/
theorem off_screen_words_iff (gop : Gop) {modeInfo : ModeInfo} (hv : modeInfo.Valid)
    (color x y : UInt32) :
    (∀ width height : UInt32, 1 ≤ width → 1 ≤ height →
      ((∀ s, ReportedWords gop modeInfo color x y width.toNat height.toNat s.mem
          (graphicsDrawRect ⟨some gop, some modeInfo⟩ x y width height color s)) ↔
        x.toNat + width.toNat < 2 ^ 32 ∧ y.toNat + height.toNat < 2 ^ 32)) ∧
    ∀ str : List UInt8, str ≠ [] →
      ((∀ s, ReportedWords gop modeInfo color x y (8 * str.length) 8 s.mem
          (graphicsDrawString ⟨some gop, some modeInfo⟩ x y str color s)) ↔
        StopsInTime modeInfo x y str.length) := by
  refine ⟨fun width height hw hh => ?_, fun str hn => ?_⟩
  · exact forall_reportedWords_iff hv _ (fun s => drawRect_onScreen s) fun s =>
      drawRect_reported_iff (UInt32.le_iff_toNat_le.mp hw) (UInt32.le_iff_toNat_le.mp hh)
  · exact forall_reportedWords_iff hv _ (fun s => drawString_draws (fun _ => drawRect_onScreen) str x s)
      fun s => drawString_reported_iff hn

/-! ### Drawing and painting -/

/-- A call of a drawing function. -/
inductive DrawCommand
  | pixel (x y color : UInt32)
  | rect (x y width height color : UInt32)
  | clear (color : UInt32)
  | char (x y : UInt32) (c : UInt8) (color : UInt32)
  | string (x y : UInt32) (str : List UInt8) (color : UInt32)

def DrawCommand.draw (g : Graphics) (s : Canvas) : DrawCommand → BootStatus × Canvas
  | pixel x y color => s.drawPixel g x y color
  | rect x y width height color => graphicsDrawRect g x y width height color s
  | clear color => graphicsClearScreen g color s
  | char x y c color => graphicsDrawChar g x y c color s
  | string x y str color => graphicsDrawString g x y str color s

/-- What a rectangle reports, and the picture with it. -/
def Picture.paintRect (modeInfo : ModeInfo) (x y width height color : UInt32) (picture : Picture) :
    BootStatus × Picture :=
  (if DrawnReported modeInfo x y width height then .success else .error,
    picture.fill (Drawn modeInfo x.toNat y.toNat width.toNat height.toNat) color)

/-- Blocks from the column `x` on, as long as they are reported. -/
def Picture.paintString (modeInfo : ModeInfo) (y color : UInt32) :
    List UInt8 → UInt32 → Picture → BootStatus × Picture
  | [], _, picture => (.success, picture)
  | _ :: str, x, picture =>
    let (status, picture) := picture.paintRect modeInfo x y 8 8 color
    if status ≠ .success then (status, picture)
    else paintString modeInfo y color str (x + 8) picture

/-- What a command reports, and the picture after it. -/
def DrawCommand.paint (modeInfo : ModeInfo) (picture : Picture) : DrawCommand → BootStatus × Picture
  | pixel x y color =>
    if x < modeInfo.horizontalResolution ∧ y < modeInfo.verticalResolution then
      (.success, picture.fill (fun r c => r = y.toNat ∧ c = x.toNat) color)
    else (.error, picture)
  | rect x y width height color => picture.paintRect modeInfo x y width height color
  | clear color => (.success, picture.fill
      (fun r c => r < modeInfo.verticalResolution.toNat ∧ c < modeInfo.horizontalResolution.toNat)
      color)
  | char x y _ color => picture.paintRect modeInfo x y 8 8 color
  | string x y str color => picture.paintString modeInfo y color str x

/-- A run of commands: what each reports, and the canvas. -/
def drawAll (g : Graphics) : List DrawCommand → Canvas → List BootStatus × Canvas
  | [], s => ([], s)
  | command :: commands, s =>
    let (status, s) := command.draw g s
    let (statuses, s) := drawAll g commands s
    (status :: statuses, s)

def paintAll (modeInfo : ModeInfo) : List DrawCommand → Picture → List BootStatus × Picture
  | [], picture => ([], picture)
  | command :: commands, picture =>
    let (status, picture) := command.paint modeInfo picture
    let (statuses, picture) := paintAll modeInfo commands picture
    (status :: statuses, picture)

section Commands

variable {gop : Gop} {modeInfo : ModeInfo} {x y width height color : UInt32} {s : Canvas}
  {picture : Picture}

/-- The drawing that ends in `r` reports and shows what the painting that ends
in `p` does. -/
structure Mirrors (gop : Gop) (modeInfo : ModeInfo) (mem : Memory) (r : BootStatus × Canvas)
    (p : BootStatus × Picture) : Prop where
  status : r.1 = p.1
  shows : Shows gop modeInfo r.2.mem p.2
  frame : SameOffScreen gop modeInfo mem r.2.mem

/-- The only error is `BOOT_ERROR`. -/
theorem drawRect_status : (graphicsDrawRect ⟨some gop, some modeInfo⟩ x y width height color s).1 =
    if DrawnReported modeInfo x y width height then .success else .error := by
  by_cases h : DrawnReported modeInfo x y width height
  · rw [if_pos h, (drawRect_reports s).mpr h]
  · rw [if_neg h]
    have hne : (graphicsDrawRect ⟨some gop, some modeInfo⟩ x y width height color s).1 ≠ .success :=
      fun hok => h ((drawRect_reports s).mp hok)
    unfold graphicsDrawRect at hne ⊢
    cases hrun : forUp (drawRow ⟨some gop, some modeInfo⟩ x width color) y (y + height) s with
    | next s' =>
      rw [hrun] at hne
      exact absurd rfl hne
    | leave status s' =>
      refine forUp_leaves (P := (· = BootStatus.error)) (fun row s r s' hrow => ?_) hrun
      refine forUp_leaves (P := (· = BootStatus.error)) (fun col s r s' hcol => ?_) hrow
      by_cases hon : modeInfo.OnScreen col row
      · rw [drawColumn_onScreen hon] at hcol
        cases hcol
      · rw [drawColumn_offScreen hon] at hcol
        cases hcol
        rfl

theorem drawRect_mirrors (hv : modeInfo.Valid) (h : Shows gop modeInfo s.mem picture) :
    Mirrors gop modeInfo s.mem
      (graphicsDrawRect ⟨some gop, some modeInfo⟩ x y width height color s)
      (picture.paintRect modeInfo x y width height color) := by
  obtain ⟨hshows, hframe⟩ := (drawRect_paints_drawn gop hv x y width height color s).shows hv
    (fun _ _ => Drawn.visible) h
  exact ⟨drawRect_status, hshows, hframe⟩

theorem drawString_mirrors (hv : modeInfo.Valid) : ∀ (str : List UInt8) (x : UInt32) {s : Canvas}
    {picture : Picture}, Shows gop modeInfo s.mem picture →
    Mirrors gop modeInfo s.mem
      (graphicsDrawString ⟨some gop, some modeInfo⟩ x y str color s)
      (picture.paintString modeInfo y color str x)
  | [], _, s, _, h => ⟨rfl, h, .refl s.mem⟩
  | c :: str, x, s, picture, h => by
    have hcell : Mirrors gop modeInfo s.mem
        (graphicsDrawRect ⟨some gop, some modeInfo⟩ x y 8 8 color s)
        (picture.paintRect modeInfo x y 8 8 color) := drawRect_mirrors hv h
    by_cases hok : (graphicsDrawRect ⟨some gop, some modeInfo⟩ x y 8 8 color s).1 = .success
    · have hrest := drawString_mirrors hv str (x + 8) hcell.shows
      rw [drawString_cons_success hok, Picture.paintString]
      dsimp only
      rw [if_neg (not_not.mpr (hcell.status.symm.trans hok))]
      exact ⟨hrest.status, hrest.shows, hcell.frame.trans hrest.frame⟩
    · rw [drawString_cons_error hok, Picture.paintString]
      dsimp only
      rw [if_pos (fun he => hok (hcell.status.trans he))]
      exact hcell

theorem drawPixel_mirrors (hv : modeInfo.Valid) (h : Shows gop modeInfo s.mem picture) :
    Mirrors gop modeInfo s.mem (s.drawPixel ⟨some gop, some modeInfo⟩ x y color)
      ((DrawCommand.pixel x y color).paint modeInfo picture) := by
  rw [DrawCommand.paint]
  by_cases hon : modeInfo.OnScreen x y
  · rw [if_pos ⟨hon.x_lt, hon.y_lt⟩, drawPixel_onScreen hon]
    have hpaints : Paints gop modeInfo color (fun r c => r = y.toNat ∧ c = x.toNat) s.mem
        (storeU32 s.mem (pixelPointer gop modeInfo x y) color) := by
      refine (Painted.single x y s.mem).paints hv (fun p hp => ?_) fun r c => ?_
      · rw [List.mem_singleton.mp hp]
        exact hon
      · simp only [List.mem_singleton, exists_eq_left, eq_comm]
    have hvisible : ∀ r c, r = y.toNat ∧ c = x.toNat → modeInfo.Visible r c := by
      rintro r c ⟨rfl, rfl⟩
      exact ⟨UInt32.lt_iff_toNat_lt.mp hon.y_lt, UInt32.lt_iff_toNat_lt.mp hon.x_lt⟩
    obtain ⟨hshows, hframe⟩ := hpaints.shows hv hvisible h
    exact ⟨rfl, hshows, hframe⟩
  · rw [if_neg fun hlt => hon ⟨hlt.1, hlt.2⟩, drawPixel_offScreen hon]
    exact ⟨rfl, h, .refl s.mem⟩

/-- The rectangle that is cleared is the screen. -/
theorem clear_region (modeInfo : ModeInfo) (r c : ℕ) :
    (((0 : UInt32).toNat ≤ r ∧
        r < (0 : UInt32).toNat + modeInfo.verticalResolution.toNat) ∧
      (0 : UInt32).toNat ≤ c ∧ c < (0 : UInt32).toNat + modeInfo.horizontalResolution.toNat) ↔
    r < modeInfo.verticalResolution.toNat ∧ c < modeInfo.horizontalResolution.toNat := by
  simp

/-- **One command** reports and shows what painting does. -/
theorem DrawCommand.mirrors (hv : modeInfo.Valid) (h : Shows gop modeInfo s.mem picture) :
    ∀ command : DrawCommand, Mirrors gop modeInfo s.mem
      (command.draw ⟨some gop, some modeInfo⟩ s) (command.paint modeInfo picture)
  | .pixel _ _ _ => drawPixel_mirrors hv h
  | .rect _ _ _ _ _ => drawRect_mirrors hv h
  | .clear color => by
    have hx : (0 : UInt32).toNat + modeInfo.horizontalResolution.toNat ≤
        modeInfo.horizontalResolution.toNat := by simp
    have hy : (0 : UInt32).toNat + modeInfo.verticalResolution.toNat ≤
        modeInfo.verticalResolution.toNat := by simp
    obtain ⟨hok, hpaints⟩ := drawRect_paints gop hv hx hy color s
    obtain ⟨hshows, hframe⟩ := (hpaints.congr (clear_region modeInfo)).shows hv
      (fun _ _ hr => ⟨hr.1, hr.2⟩) h
    exact ⟨hok, hshows, hframe⟩
  | .char _ _ _ _ => drawRect_mirrors hv h
  | .string x _ str _ => drawString_mirrors hv str x h

end Commands

/-- **The screen shows what was painted.** On a valid mode, any run of drawing
commands reports what the painting of them reports, leaves the picture painted
on the screen, and changes no byte outside the visible words. -/
theorem drawing_shows_picture (gop : Gop) {modeInfo : ModeInfo} (hv : modeInfo.Valid) :
    ∀ (commands : List DrawCommand) {s : Canvas} {picture : Picture},
      Shows gop modeInfo s.mem picture →
      (drawAll ⟨some gop, some modeInfo⟩ commands s).1 = (paintAll modeInfo commands picture).1 ∧
        Shows gop modeInfo (drawAll ⟨some gop, some modeInfo⟩ commands s).2.mem
          (paintAll modeInfo commands picture).2 ∧
        SameOffScreen gop modeInfo s.mem (drawAll ⟨some gop, some modeInfo⟩ commands s).2.mem
  | [], s, _, h => ⟨rfl, h, .refl s.mem⟩
  | command :: commands, s, picture, h => by
    have hfirst := command.mirrors hv h
    obtain ⟨hstatuses, hshows, hframe⟩ := drawing_shows_picture gop hv commands hfirst.shows
    exact ⟨congrArg₂ List.cons hfirst.status hstatuses, hshows, hfirst.frame.trans hframe⟩

/-- A rectangle behind a string. -/
theorem drawing_shows_picture_padded :
    (drawAll ⟨some ⟨0x80000000⟩, some paddedMode⟩
        [.clear 0, .string 10 10 [65] 0x00FFFFFF, .rect 0 590 800 20 0x000000FF]
        ⟨fun _ => 0, []⟩).1 = [.success, .success, .error] := by
  have hblack : Shows ⟨0x80000000⟩ paddedMode (fun _ => 0) fun _ _ => 0 := fun _ _ _ => rfl
  have hblock : DrawnReported paddedMode 10 10 8 8 := by decide
  have hbottom : ¬ DrawnReported paddedMode 0 590 800 20 := by decide
  rw [(drawing_shows_picture ⟨0x80000000⟩ paddedMode_valid
    [.clear 0, .string 10 10 [65] 0x00FFFFFF, .rect 0 590 800 20 0x000000FF] (s := ⟨fun _ => 0, []⟩)
    hblack).1]
  simp [paintAll, DrawCommand.paint, Picture.paintString, Picture.paintRect, hblock, hbottom]

/-! ### A string, clipped -/

/-- The characters of a string of `n` that fit. -/
def fittingCells (modeInfo : ModeInfo) (x y n : ℕ) : ℕ :=
  if y + 8 ≤ modeInfo.verticalResolution.toNat then
    min n ((modeInfo.horizontalResolution.toNat - x) / 8)
  else 0

/-- The row and column is in a character that fits, or it is drawn of the one
behind. -/
def StringDrawn (modeInfo : ModeInfo) (x y n r c : ℕ) : Prop :=
  ((y ≤ r ∧ r < y + 8) ∧ x ≤ c ∧ c < x + 8 * fittingCells modeInfo x y n) ∨
    fittingCells modeInfo x y n < n ∧
      Drawn modeInfo (x + 8 * fittingCells modeInfo x y n) y 8 8 r c

instance (modeInfo : ModeInfo) (x y n r c : ℕ) : Decidable (StringDrawn modeInfo x y n r c) :=
  inferInstanceAs (Decidable (_ ∨ _))

section Strings

variable {modeInfo : ModeInfo} {x y n r c : ℕ}

theorem fittingCells_succ (hx : x + 8 ≤ modeInfo.horizontalResolution.toNat)
    (hy : y + 8 ≤ modeInfo.verticalResolution.toNat) :
    fittingCells modeInfo x y (n + 1) = fittingCells modeInfo (x + 8) y n + 1 := by
  unfold fittingCells
  rw [if_pos hy, if_pos hy]
  omega

theorem fittingCells_zero (h : ¬ (x + 8 ≤ modeInfo.horizontalResolution.toNat ∧
    y + 8 ≤ modeInfo.verticalResolution.toNat)) : fittingCells modeInfo x y n = 0 := by
  unfold fittingCells
  split_ifs with hy
  · have hx : (modeInfo.horizontalResolution.toNat - x) / 8 = 0 := by omega
    rw [hx, Nat.min_zero]
  · rfl

/-- A cell on the screen is drawn whole. -/
theorem drawn_cell (hx : x + 8 < 2 ^ 32) (hy : y + 8 < 2 ^ 32)
    (hx' : x + 8 ≤ modeInfo.horizontalResolution.toNat)
    (hy' : y + 8 ≤ modeInfo.verticalResolution.toNat) :
    Drawn modeInfo x y 8 8 r c ↔ (y ≤ r ∧ r < y + 8) ∧ x ≤ c ∧ c < x + 8 := by
  unfold Drawn drawnRows drawnColumns
  rw [if_pos hx', Nat.min_eq_left (by omega), Nat.min_eq_left (by omega)]
  exact and_iff_right ⟨hx, hy⟩

/-- A string that starts with a character that fits. -/
theorem stringDrawn_succ (hx : x + 8 < 2 ^ 32) (hy : y + 8 < 2 ^ 32)
    (hx' : x + 8 ≤ modeInfo.horizontalResolution.toNat)
    (hy' : y + 8 ≤ modeInfo.verticalResolution.toNat) :
    StringDrawn modeInfo x y (n + 1) r c ↔
      Drawn modeInfo x y 8 8 r c ∨ StringDrawn modeInfo (x + 8) y n r c := by
  rw [drawn_cell hx hy hx' hy']
  unfold StringDrawn
  have hend : x + 8 * (fittingCells modeInfo (x + 8) y n + 1) =
      x + 8 + 8 * fittingCells modeInfo (x + 8) y n := by omega
  rw [fittingCells_succ hx' hy', hend, Nat.add_lt_add_iff_right]
  constructor
  · rintro (⟨hr, hc⟩ | h)
    · by_cases hfirst : c < x + 8
      · exact .inl ⟨hr, hc.1, hfirst⟩
      · exact .inr (.inl ⟨hr, not_lt.mp hfirst, hc.2⟩)
    · exact .inr (.inr h)
  · rintro (⟨hr, hc⟩ | ⟨hr, hc⟩ | h)
    · exact .inl ⟨hr, hc.1, by omega⟩
    · exact .inl ⟨hr, by omega, hc.2⟩
    · exact .inr h

/-- A string whose first character does not fit. -/
theorem stringDrawn_clipped (h : ¬ (x + 8 ≤ modeInfo.horizontalResolution.toNat ∧
    y + 8 ≤ modeInfo.verticalResolution.toNat)) :
    StringDrawn modeInfo x y (n + 1) r c ↔ Drawn modeInfo x y 8 8 r c := by
  unfold StringDrawn
  rw [fittingCells_zero h, Nat.mul_zero, Nat.add_zero]
  constructor
  · rintro (⟨-, hc⟩ | ⟨-, hd⟩)
    · exact absurd hc.2 (not_lt.mpr hc.1)
    · exact hd
  · exact fun hd => .inr ⟨Nat.succ_pos n, hd⟩

theorem drawnReported_cell {x y : UInt32} (hx : x.toNat + 8 < 2 ^ 32) (hy : y.toNat + 8 < 2 ^ 32) :
    DrawnReported modeInfo x y 8 8 ↔ x.toNat + 8 ≤ modeInfo.horizontalResolution.toNat ∧
      y.toNat + 8 ≤ modeInfo.verticalResolution.toNat := by
  have h8 : (8 : UInt32).toNat = 8 := rfl
  unfold DrawnReported
  rw [h8]
  refine ⟨fun h => ?_, fun h => .inr (.inr h)⟩
  exact (h.resolve_left (by omega)).resolve_left (by decide)

/-- The painting of a string in closed form. -/
theorem paintString_exact {y : UInt32} (color : UInt32) (hy : y.toNat + 8 < 2 ^ 32) :
    ∀ (str : List UInt8) (x : UInt32) (picture : Picture), x.toNat + 8 * str.length < 2 ^ 32 →
    (picture.paintString modeInfo y color str x).2 =
      picture.fill (StringDrawn modeInfo x.toNat y.toNat str.length) color
  | [], x, picture, _ => by
    funext r c
    refine (if_neg ?_).symm
    rintro (⟨-, hc⟩ | ⟨hlt, -⟩)
    · have hzero : fittingCells modeInfo x.toNat y.toNat 0 = 0 := by
        unfold fittingCells
        rw [Nat.zero_min, ite_self]
      rw [List.length_nil, hzero] at hc
      omega
    · exact Nat.not_lt_zero _ hlt
  | c₀ :: str, x, picture, hlen => by
    rw [List.length_cons] at hlen ⊢
    have hx : x.toNat + 8 < 2 ^ 32 := by omega
    have h8 := add_eight_toNat hx
    rw [Picture.paintString]
    by_cases hfits : x.toNat + 8 ≤ modeInfo.horizontalResolution.toNat ∧
        y.toNat + 8 ≤ modeInfo.verticalResolution.toNat
    · have hok : (picture.paintRect modeInfo x y 8 8 color).1 = .success :=
        if_pos ((drawnReported_cell hx hy).mpr hfits)
      dsimp only
      rw [if_neg (not_not.mpr hok),
        paintString_exact color hy str (x + 8) _ (by rw [h8]; omega), h8]
      funext r c
      unfold Picture.paintRect Picture.fill
      have hsplit := stringDrawn_succ (n := str.length) (r := r) (c := c) hx hy hfits.1 hfits.2
      have hcell : Drawn modeInfo x.toNat y.toNat (8 : UInt32).toNat (8 : UInt32).toNat r c ↔
          Drawn modeInfo x.toNat y.toNat 8 8 r c := Iff.rfl
      simp only [hsplit, hcell]
      by_cases hrest : StringDrawn modeInfo (x.toNat + 8) y.toNat str.length r c
      · rw [if_pos hrest, if_pos (.inr hrest)]
      · rw [if_neg hrest]
        simp only [hrest, or_false]
    · have hno : (picture.paintRect modeInfo x y 8 8 color).1 ≠ .success := by
        intro hok
        by_cases hr : DrawnReported modeInfo x y 8 8
        · exact hfits ((drawnReported_cell hx hy).mp hr)
        · rw [Picture.paintRect, if_neg hr] at hok
          exact nomatch hok
      dsimp only
      rw [if_pos hno]
      funext r c
      exact if_congr (stringDrawn_clipped hfits).symm rfl rfl

end Strings

/-- **What a string draws.** On a valid mode, a string whose bounds do not wrap
shows as `StringDrawn` says and changes no byte outside the visible words; it
is reported as drawn exactly where it is empty or all on the screen. -/
theorem draw_string_exact (gop : Gop) {modeInfo : ModeInfo} (hv : modeInfo.Valid) {x y : UInt32}
    (color : UInt32) (str : List UInt8) (hx : x.toNat + 8 * str.length < 2 ^ 32)
    (hy : y.toNat + 8 < 2 ^ 32) {s : Canvas} {picture : Picture}
    (h : Shows gop modeInfo s.mem picture) :
    ((graphicsDrawString ⟨some gop, some modeInfo⟩ x y str color s).1 = .success ↔
        (str ≠ [] → x.toNat + 8 * str.length ≤ modeInfo.horizontalResolution.toNat ∧
          y.toNat + 8 ≤ modeInfo.verticalResolution.toNat)) ∧
      Shows gop modeInfo (graphicsDrawString ⟨some gop, some modeInfo⟩ x y str color s).2.mem
        (picture.fill (StringDrawn modeInfo x.toNat y.toNat str.length) color) ∧
      SameOffScreen gop modeInfo s.mem
        (graphicsDrawString ⟨some gop, some modeInfo⟩ x y str color s).2.mem := by
  have hmirrors : Mirrors gop modeInfo s.mem
      (graphicsDrawString ⟨some gop, some modeInfo⟩ x y str color s)
      (picture.paintString modeInfo y color str x) := drawString_mirrors hv str x h
  refine ⟨(drawString_noWrap gop modeInfo color hy str x s hx).1, ?_, hmirrors.frame⟩
  rw [← paintString_exact color hy str x picture hx]
  exact hmirrors.shows

/-- Blue blocks on a black screen. -/
theorem draw_string_exact_padded :
    (graphicsDrawString ⟨some ⟨0x80000000⟩, some paddedMode⟩ 784 0 [65, 66, 67] 0x000000FF
        ⟨fun _ => 0, []⟩).1 ≠ .success ∧
      Shows ⟨0x80000000⟩ paddedMode (graphicsDrawString ⟨some ⟨0x80000000⟩, some paddedMode⟩ 784 0
        [65, 66, 67] 0x000000FF ⟨fun _ => 0, []⟩).2.mem
        (Picture.fill (fun _ _ => 0) (StringDrawn paddedMode 784 0 3) 0x000000FF) := by
  have hblack : Shows ⟨0x80000000⟩ paddedMode (fun _ => 0) fun _ _ => 0 := fun _ _ _ => rfl
  obtain ⟨hstatus, hshows, -⟩ := draw_string_exact ⟨0x80000000⟩ paddedMode_valid 0x000000FF
    [65, 66, 67] (x := 784) (y := 0) (by decide) (by decide) (s := ⟨fun _ => 0, []⟩) hblack
  exact ⟨fun hok => absurd (hstatus.mp hok nofun).1 (by decide), hshows⟩

/-! ### The boot screen -/

/-- The 21 blocks of the boot message at `(10, 10)`, white on black. -/
def bootPicture (modeInfo : ModeInfo) : Picture :=
  Picture.fill (fun _ _ => 0x00000000) (StringDrawn modeInfo 10 10 21) 0x00FFFFFF

/-- **The boot screen.** Where the selected mode is set with success and is
valid, `graphics_initialize_complete` leaves the boot message in white on black
whatever the framebuffer held, changes no byte outside the visible words, and
announces the address and size of this screen. -/
theorem boot_screen (bs : BootServices) (fw : GopFirmware) (g : Graphics) (params : BootParams)
    (bestMode : UInt32) (s : Canvas) {gop : Gop} (h : bs.locateProtocol.2 = some gop)
    {status : EfiStatus} {active : ActiveMode}
    (hsel : selectedSetMode fw ⟨some gop, g.modeInfo⟩ bestMode = (status, active))
    (hset : efiError status = false) (hv : active.info.Valid) :
    Shows active.gop active.info (graphicsInitializeComplete bs fw g params bestMode s).canvas.mem
        (bootPicture active.info) ∧
      SameOffScreen active.gop active.info s.mem
        (graphicsInitializeComplete bs fw g params bestMode s).canvas.mem ∧
      Describes (fun info => info.horizontalResolution * 4) active
        (graphicsInitializeComplete bs fw g params bestMode s).params := by
  unfold selectedSetMode at hsel
  have hrun : graphicsInitializeComplete bs fw g params bestMode s =
      ⟨.success, { fw with active := active }, ⟨some active.gop, some active.info⟩,
        (graphicsGetFramebufferInfo ⟨some active.gop, some active.info⟩ params).2,
        (graphicsDrawString ⟨some active.gop, some active.info⟩ 10 10 bootMessage 0x00FFFFFF
          (graphicsClearScreen ⟨some active.gop, some active.info⟩ 0x00000000 s).2).2⟩ := by
    rw [initialize_eq, h]
    simp only [graphicsSetMode, hsel, hset]
    rfl
  rw [hrun]
  -- before the screen is cleared, it shows something
  have hbefore : Shows active.gop active.info s.mem fun r c => loadU32 s.mem
      (active.gop.frameBufferBase + UInt64.ofNat (active.info.wordOffset r c)) := fun _ _ _ => rfl
  have hclear := (DrawCommand.clear 0x00000000).mirrors hv hbefore
  have hstring := (DrawCommand.string 10 10 bootMessage 0x00FFFFFF).mirrors hv hclear.shows
  refine ⟨fun r c hvis => (hstring.shows r c hvis).trans ?_, hclear.frame.trans hstring.frame,
    getFramebufferInfo_describes active params⟩
  show (Picture.paintString active.info 10 0x00FFFFFF bootMessage 10 _).2 r c = _
  rw [paintString_exact 0x00FFFFFF (by decide) bootMessage 10 _ (by decide)]
  have hcleared : ((DrawCommand.clear 0x00000000).paint active.info fun r c => loadU32 s.mem
      (active.gop.frameBufferBase + UInt64.ofNat (active.info.wordOffset r c))).2 r c = 0x00000000 :=
    if_pos ⟨hvis.row, hvis.column⟩
  unfold bootPicture Picture.fill
  rw [hcleared]
  rfl

/-- A firmware with one mode, which it sets. -/
def GopFirmware.padded : GopFirmware where
  maxMode := 1
  active := ⟨0, paddedMode, ⟨0x80000000⟩⟩
  queryMode _ := (0, paddedMode)
  setMode _ := (0, ⟨0, paddedMode, ⟨0x80000000⟩⟩)

theorem boot_screen_padded :
    Shows ⟨0x80000000⟩ paddedMode (graphicsInitializeComplete
      { BootServices.granting with locateProtocol := (0, some ⟨0x80000000⟩) } .padded ⟨none, none⟩
      .zero 0 ⟨fun _ => 1, []⟩).canvas.mem (bootPicture paddedMode) := by
  have hsel : selectedSetMode .padded ⟨some ⟨0x80000000⟩, none⟩ 0 =
      (0, ⟨0, paddedMode, ⟨0x80000000⟩⟩) := rfl
  exact (boot_screen { BootServices.granting with locateProtocol := (0, some ⟨0x80000000⟩) } .padded
    ⟨none, none⟩ .zero 0 ⟨fun _ => 1, []⟩ rfl hsel rfl paddedMode_valid).1

end Dos25
