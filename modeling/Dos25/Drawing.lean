/-
# Rectangles and text on the framebuffer

`graphics_draw_rect` draws pixel by pixel and stops at the first that is not on
the screen; `graphics_clear_screen` draws the whole screen, and
`graphics_draw_string` one block of 8x8 pixels for each character. On a valid
mode, a rectangle on the screen comes out exactly (`draw_rect_paints`).

The bounds `x + width` and `y + height` and the column of the next character
are 32-bit sums. Where one of them wraps, the loop under it does not run, and
what is reported as drawn is not (`off_screen_reported_iff`).

Besides the memory, a canvas keeps which pixels were stored, for the
statements.

Key definitions: `graphicsDrawRect`, `graphicsDrawString`, `Painted`,
`Reported`.
-/
import Dos25.Graphics
import Dos25.Lib.CountedLoop
import Mathlib.Data.List.GetD

namespace Dos25

open CountedLoop

/-! ### The code -/

structure Canvas where
  mem : Memory
  /-- The pixels stored so far. -/
  drawn : List (UInt32 × UInt32)

/-- `graphics_draw_pixel`. -/
def Canvas.drawPixel (g : Graphics) (x y color : UInt32) (s : Canvas) : BootStatus × Canvas :=
  let (status, mem) := graphicsDrawPixel g x y color s.mem
  (status, ⟨mem, if status = .success then s.drawn ++ [(x, y)] else s.drawn⟩)

/-- The body of the inner loop. -/
def drawColumn (g : Graphics) (row color col : UInt32) (s : Canvas) : Flow BootStatus Canvas :=
  let (status, s) := s.drawPixel g col row color
  if status ≠ .success then .leave status s else .next s

/-- The body of the outer loop. -/
def drawRow (g : Graphics) (x width color row : UInt32) (s : Canvas) : Flow BootStatus Canvas :=
  forUp (drawColumn g row color) x (x + width) s

def graphicsDrawRect (g : Graphics) (x y width height color : UInt32) (s : Canvas) :
    BootStatus × Canvas :=
  match forUp (drawRow g x width color) y (y + height) s with
  | .leave status s => (status, s)
  | .next s => (.success, s)

def graphicsClearScreen (g : Graphics) (color : UInt32) (s : Canvas) : BootStatus × Canvas :=
  match g.gop, g.modeInfo with
  | some _, some modeInfo =>
    graphicsDrawRect g 0 0 modeInfo.horizontalResolution modeInfo.verticalResolution color s
  | _, _ => (.error, s)

/-- Every character is the same block. -/
def graphicsDrawChar (g : Graphics) (x y : UInt32) (_c : UInt8) (color : UInt32) (s : Canvas) :
    BootStatus × Canvas :=
  graphicsDrawRect g x y 8 8 color s

/-- `str` is the characters before the NUL, `x` the column `current_x`. -/
def graphicsDrawString (g : Graphics) (x y : UInt32) : List UInt8 → UInt32 → Canvas →
    BootStatus × Canvas
  | [], _, s => (.success, s)
  | c :: str, color, s =>
    let (status, s) := graphicsDrawChar g x y c color s
    if status ≠ .success then (status, s) else graphicsDrawString g (x + 8) y str color s

/-! ### Words of pixels -/

/-- The memory after the words of these pixels were stored: they hold the
color, and no other byte has changed. -/
structure Painted (gop : Gop) (modeInfo : ModeInfo) (color : UInt32)
    (pixels : List (UInt32 × UInt32)) (mem mem' : Memory) : Prop where
  word : ∀ p ∈ pixels, ∀ i < 4, mem' (pixelPointer gop modeInfo p.1 p.2 + UInt64.ofNat i) =
    (Bytes.encode 4 color.toNat).getD i 0
  frame : ∀ a, (∀ p ∈ pixels, ∀ i < 4, a ≠ pixelPointer gop modeInfo p.1 p.2 + UInt64.ofNat i) →
    mem' a = mem a

section Words

variable {gop : Gop} {modeInfo : ModeInfo} {color : UInt32} {pixels pixels' : List (UInt32 × UInt32)}
  {mem mem' mem'' : Memory}

/-- Where a pixel's word is, relative to the framebuffer. -/
def pixelOffset (modeInfo : ModeInfo) (x y : UInt32) : UInt64 :=
  (y * modeInfo.pixelsPerScanLine * 4).toUInt64 + (x * 4).toUInt64

theorem pixelPointer_eq (x y : UInt32) :
    pixelPointer gop modeInfo x y = gop.frameBufferBase + pixelOffset modeInfo x y :=
  UInt64.add_assoc _ _ _

/-- Also where the products wrap, a word is aligned. -/
theorem pixelOffset_aligned (modeInfo : ModeInfo) (x y : UInt32) : (pixelOffset modeInfo x y).toNat % 4 = 0 := by
  have h4 : ∀ a : UInt32, (a * 4).toNat % 4 = 0 := by
    intro a
    rw [UInt32.toNat_mul]
    show a.toNat * 4 % 2 ^ 32 % 4 = 0
    omega
  have hy := h4 (y * modeInfo.pixelsPerScanLine)
  have hx := h4 x
  rw [pixelOffset, UInt64.toNat_add, UInt32.toNat_toUInt64, UInt32.toNat_toUInt64]
  omega

/-- Two bytes of words at one address have the same index. -/
theorem byte_index_eq {p q : UInt32 × UInt32} {i j : ℕ} (hi : i < 4) (hj : j < 4)
    (h : pixelPointer gop modeInfo p.1 p.2 + UInt64.ofNat i =
      pixelPointer gop modeInfo q.1 q.2 + UInt64.ofNat j) : i = j := by
  have hp := pixelOffset_aligned modeInfo p.1 p.2
  have hq := pixelOffset_aligned modeInfo q.1 q.2
  rw [pixelPointer_eq, pixelPointer_eq, UInt64.add_assoc, UInt64.add_assoc,
    UInt64.add_right_inj] at h
  have hnat := congrArg UInt64.toNat h
  rw [UInt64.toNat_add, UInt64.toNat_add, UInt64.toNat_ofNat', UInt64.toNat_ofNat'] at hnat
  have hplt := (pixelOffset modeInfo p.1 p.2).toNat_lt
  have hqlt := (pixelOffset modeInfo q.1 q.2).toNat_lt
  omega

theorem Painted.nil (mem : Memory) : Painted gop modeInfo color [] mem mem :=
  ⟨fun _ hp => absurd hp List.not_mem_nil, fun _ _ => rfl⟩

theorem Painted.single (x y : UInt32) (mem : Memory) : Painted gop modeInfo color [(x, y)] mem
    (storeU32 mem (pixelPointer gop modeInfo x y) color) := by
  refine ⟨fun p hp i hi => ?_, fun a ha => ?_⟩
  · obtain rfl := List.mem_singleton.mp hp
    have hdiff : (pixelPointer gop modeInfo x y + UInt64.ofNat i - pixelPointer gop modeInfo x y).toNat
        = i := by
      rw [UInt64.add_comm, UInt64.add_sub_cancel, UInt64.toNat_ofNat']
      exact Nat.mod_eq_of_lt (by omega)
    have hlen : i < (Bytes.encode 4 color.toNat).length := by rwa [Bytes.encode_length]
    rw [storeU32, hdiff, List.getD_eq_getElem _ _ hlen, List.getD_eq_getElem _ _ hlen]
  · have hfar : 4 ≤ (a - pixelPointer gop modeInfo x y).toNat := by
      by_contra hlt
      refine ha _ List.mem_cons_self _ (not_le.mp hlt) ?_
      rw [UInt64.ofNat_toNat, UInt64.add_comm, UInt64.sub_add_cancel]
    rw [storeU32, List.getD_eq_default _ _ (by rwa [Bytes.encode_length])]

theorem Painted.append (h : Painted gop modeInfo color pixels mem mem')
    (h' : Painted gop modeInfo color pixels' mem' mem'') :
    Painted gop modeInfo color (pixels ++ pixels') mem mem'' := by
  refine ⟨fun p hp i hi => ?_, fun a ha => ?_⟩
  · by_cases hlater : ∃ q ∈ pixels', ∃ j < 4, pixelPointer gop modeInfo p.1 p.2 + UInt64.ofNat i =
        pixelPointer gop modeInfo q.1 q.2 + UInt64.ofNat j
    · obtain ⟨q, hq, j, hj, he⟩ := hlater
      rw [he, h'.word q hq j hj, byte_index_eq hi hj he]
    · rcases List.mem_append.mp hp with hp | hp
      · rw [h'.frame _ fun q hq j hj he => hlater ⟨q, hq, j, hj, he⟩, h.word p hp i hi]
      · exact h'.word p hp i hi
  · rw [h'.frame a fun p hp => ha p (List.mem_append_right _ hp),
      h.frame a fun p hp => ha p (List.mem_append_left _ hp)]

theorem Painted.eq_of_nil (h : Painted gop modeInfo color [] mem mem') : mem' = mem :=
  funext fun a => h.frame a fun _ hp => absurd hp List.not_mem_nil

end Words

/-! ### What drawing does to a canvas -/

/-- Pixels of a region were drawn, and the memory changed accordingly. -/
def Draws (gop : Gop) (modeInfo : ModeInfo) (color : UInt32) (region : UInt32 × UInt32 → Prop)
    (s s' : Canvas) : Prop :=
  ∃ pixels, s'.drawn = s.drawn ++ pixels ∧ (∀ p ∈ pixels, region p) ∧
    Painted gop modeInfo color pixels s.mem s'.mem

section Draws

variable {gop : Gop} {modeInfo : ModeInfo} {color : UInt32} {region region' : UInt32 × UInt32 → Prop}
  {s s' s'' : Canvas}

theorem Draws.refl (s : Canvas) : Draws gop modeInfo color region s s :=
  ⟨[], (List.append_nil _).symm, fun _ hp => absurd hp List.not_mem_nil, .nil _⟩

theorem Draws.trans (h : Draws gop modeInfo color region s s')
    (h' : Draws gop modeInfo color region s' s'') : Draws gop modeInfo color region s s'' := by
  obtain ⟨pixels, hd, hr, hp⟩ := h
  obtain ⟨pixels', hd', hr', hp'⟩ := h'
  refine ⟨pixels ++ pixels', by rw [hd', hd, List.append_assoc], fun p hmem => ?_, hp.append hp'⟩
  rcases List.mem_append.mp hmem with hmem | hmem
  · exact hr p hmem
  · exact hr' p hmem

theorem Draws.mono (h : Draws gop modeInfo color region s s') (hr : ∀ p, region p → region' p) :
    Draws gop modeInfo color region' s s' := by
  obtain ⟨pixels, hd, hin, hp⟩ := h
  exact ⟨pixels, hd, fun p hmem => hr p (hin p hmem), hp⟩

/-- The pixels drawn are the same ones. -/
theorem Draws.and (h : Draws gop modeInfo color region s s')
    (h' : Draws gop modeInfo color region' s s') :
    Draws gop modeInfo color (fun p => region p ∧ region' p) s s' := by
  obtain ⟨pixels, hd, hin, hp⟩ := h
  obtain ⟨pixels', hd', hin', -⟩ := h'
  rw [hd] at hd'
  obtain rfl := List.append_cancel_left hd'
  exact ⟨pixels, hd, fun p hmem => ⟨hin p hmem, hin' p hmem⟩, hp⟩

/-- Nothing was drawn where there is nothing to draw. -/
theorem Draws.eq_of_empty (h : Draws gop modeInfo color region s s') (hr : ∀ p, ¬ region p) :
    s' = s := by
  obtain ⟨pixels, hd, hin, hp⟩ := h
  obtain rfl : pixels = [] := List.eq_nil_iff_forall_not_mem.mpr fun p hmem => hr p (hin p hmem)
  rw [List.append_nil] at hd
  cases s
  cases s'
  simp only at hd hp
  rw [hd, hp.eq_of_nil]

/-- A pixel that was drawn in between. -/
theorem Draws.mem_of_between {s₁ s₂ : Canvas} {p : UInt32 × UInt32} {pixels : List (UInt32 × UInt32)}
    (h : Draws gop modeInfo color region s s₁) (hp : s₂.drawn = s₁.drawn ++ [p])
    (h' : Draws gop modeInfo color region s₂ s') (hd : s'.drawn = s.drawn ++ pixels) :
    p ∈ pixels := by
  obtain ⟨before, hb, -⟩ := h
  obtain ⟨after, ha, -⟩ := h'
  have hsplit : pixels = before ++ [p] ++ after := by
    rw [ha, hp, hb, List.append_assoc, List.append_assoc] at hd
    rw [← List.append_cancel_left hd, List.append_assoc]
  rw [hsplit]
  exact List.mem_append_left _ (List.mem_append_right _ List.mem_cons_self)

end Draws

/-! ### A rectangle -/

section Rect

variable {gop : Gop} {modeInfo : ModeInfo} {x y width height color row col : UInt32} {s s' : Canvas}

theorem not_onScreen_iff : ¬ modeInfo.OnScreen x y ↔
    modeInfo.horizontalResolution ≤ x ∨ modeInfo.verticalResolution ≤ y := by
  rw [← UInt32.not_lt, ← UInt32.not_lt, ← not_and_or]
  exact not_congr ⟨fun h => ⟨h.x_lt, h.y_lt⟩, fun h => ⟨h.1, h.2⟩⟩

theorem drawPixel_onScreen (h : modeInfo.OnScreen x y) (color : UInt32) (s : Canvas) :
    s.drawPixel ⟨some gop, some modeInfo⟩ x y color =
      (.success, ⟨storeU32 s.mem (pixelPointer gop modeInfo x y) color, s.drawn ++ [(x, y)]⟩) := by
  have hpixel : graphicsDrawPixel ⟨some gop, some modeInfo⟩ x y color s.mem =
      (.success, storeU32 s.mem (pixelPointer gop modeInfo x y) color) :=
    if_neg (not_or.mpr ⟨UInt32.not_le.mpr h.x_lt, UInt32.not_le.mpr h.y_lt⟩)
  rw [Canvas.drawPixel, hpixel]
  rfl

theorem drawPixel_offScreen (h : ¬ modeInfo.OnScreen x y) (color : UInt32) (s : Canvas) :
    s.drawPixel ⟨some gop, some modeInfo⟩ x y color = (.error, s) := by
  have hpixel : graphicsDrawPixel ⟨some gop, some modeInfo⟩ x y color s.mem = (.error, s.mem) :=
    if_pos (not_onScreen_iff.mp h)
  rw [Canvas.drawPixel, hpixel]
  rfl

theorem drawColumn_onScreen (h : modeInfo.OnScreen col row) (color : UInt32) (s : Canvas) :
    drawColumn ⟨some gop, some modeInfo⟩ row color col s =
      .next ⟨storeU32 s.mem (pixelPointer gop modeInfo col row) color, s.drawn ++ [(col, row)]⟩ := by
  rw [drawColumn, drawPixel_onScreen h]
  rfl

theorem drawColumn_offScreen (h : ¬ modeInfo.OnScreen col row) (color : UInt32) (s : Canvas) :
    drawColumn ⟨some gop, some modeInfo⟩ row color col s = .leave .error s := by
  rw [drawColumn, drawPixel_offScreen h]
  rfl

/-- The counters of the two loops. -/
structure Visited (x y width height : UInt32) (p : UInt32 × UInt32) : Prop where
  x_le : x ≤ p.1
  x_lt : p.1 < x + width
  y_le : y ≤ p.2
  y_lt : p.2 < y + height

theorem drawColumn_draws (hx : x ≤ col) (hx' : col < x + width) (hy : y ≤ row)
    (hy' : row < y + height) (s : Canvas) :
    Draws gop modeInfo color (Visited x y width height) s
      (drawColumn ⟨some gop, some modeInfo⟩ row color col s).state := by
  by_cases h : modeInfo.OnScreen col row
  · rw [drawColumn_onScreen h]
    refine ⟨[(col, row)], rfl, fun p hp => ?_, .single col row s.mem⟩
    obtain rfl := List.mem_singleton.mp hp
    exact ⟨hx, hx', hy, hy'⟩
  · rw [drawColumn_offScreen h]
    exact .refl s

theorem drawRow_draws (hy : y ≤ row) (hy' : row < y + height) (s : Canvas) :
    Draws gop modeInfo color (Visited x y width height) s
      (drawRow ⟨some gop, some modeInfo⟩ x width color row s).state :=
  forUp_rel Draws.refl (fun _ _ _ => Draws.trans) fun _ s hx hx' => drawColumn_draws hx hx' hy hy' s

theorem drawRows_draws (s : Canvas) : Draws gop modeInfo color (Visited x y width height) s
    (forUp (drawRow ⟨some gop, some modeInfo⟩ x width color) y (y + height) s).state :=
  forUp_rel Draws.refl (fun _ _ _ => Draws.trans) fun _ s hy hy' => drawRow_draws hy hy' s

theorem drawRect_state (g : Graphics) (s : Canvas) : (graphicsDrawRect g x y width height color s).2 =
    (forUp (drawRow g x width color) y (y + height) s).state := by
  unfold graphicsDrawRect
  cases forUp (drawRow g x width color) y (y + height) s <;> rfl

/-- **Whatever the result**, only counted pixels are drawn. -/
theorem drawRect_draws (s : Canvas) : Draws gop modeInfo color (Visited x y width height) s
    (graphicsDrawRect ⟨some gop, some modeInfo⟩ x y width height color s).2 := by
  rw [drawRect_state]
  exact drawRows_draws s

/-- Nothing off the screen is drawn. -/
theorem drawRect_onScreen (s : Canvas) : Draws gop modeInfo color (fun p => modeInfo.OnScreen p.1 p.2)
    s (graphicsDrawRect ⟨some gop, some modeInfo⟩ x y width height color s).2 := by
  have hcolumn : ∀ row col s, Draws gop modeInfo color (fun p => modeInfo.OnScreen p.1 p.2) s
      (drawColumn ⟨some gop, some modeInfo⟩ row color col s).state := by
    intro row col s
    by_cases h : modeInfo.OnScreen col row
    · rw [drawColumn_onScreen h]
      refine ⟨[(col, row)], rfl, fun p hp => ?_, .single col row s.mem⟩
      obtain rfl := List.mem_singleton.mp hp
      exact h
    · rw [drawColumn_offScreen h]
      exact .refl s
  rw [drawRect_state]
  exact forUp_rel Draws.refl (fun _ _ _ => Draws.trans) fun row s _ _ =>
    forUp_rel Draws.refl (fun _ _ _ => Draws.trans) fun col s _ _ => hcolumn row col s

theorem drawRow_next_iff (s : Canvas) :
    (∃ s', drawRow ⟨some gop, some modeInfo⟩ x width color row s = .next s') ↔
      ∀ col, x ≤ col → col < x + width → modeInfo.OnScreen col row := by
  refine forUp_next_iff fun col s _ _ => ?_
  by_cases h : modeInfo.OnScreen col row
  · rw [drawColumn_onScreen h]
    exact iff_of_true ⟨_, rfl⟩ h
  · rw [drawColumn_offScreen h]
    exact iff_of_false nofun h

/-- A loop that is left is left with an error. -/
theorem drawColumn_leaves {g : Graphics} {status : BootStatus}
    (h : drawColumn g row color col s = .leave status s') : status ≠ .success := by
  unfold drawColumn at h
  dsimp only at h
  split_ifs at h with hstatus
  cases h
  exact hstatus

theorem drawRow_leaves {g : Graphics} {status : BootStatus}
    (h : drawRow g x width color row s = .leave status s') : status ≠ .success :=
  forUp_leaves (P := (· ≠ BootStatus.success)) (fun _ _ _ _ => drawColumn_leaves) h

/-- **What is reported as drawn.** -/
theorem drawRect_success_iff (s : Canvas) :
    (graphicsDrawRect ⟨some gop, some modeInfo⟩ x y width height color s).1 = .success ↔
      ∀ p, Visited x y width height p → modeInfo.OnScreen p.1 p.2 := by
  have hloop : (∃ s', forUp (drawRow ⟨some gop, some modeInfo⟩ x width color) y (y + height) s =
      .next s') ↔ ∀ row, y ≤ row → row < y + height → ∀ col, x ≤ col → col < x + width →
        modeInfo.OnScreen col row :=
    forUp_next_iff fun _ s _ _ => drawRow_next_iff s
  have hall : (∀ row, y ≤ row → row < y + height → ∀ col, x ≤ col → col < x + width →
      modeInfo.OnScreen col row) ↔
        ∀ p, Visited x y width height p → modeInfo.OnScreen p.1 p.2 :=
    ⟨fun h p hp => h p.2 hp.y_le hp.y_lt p.1 hp.x_le hp.x_lt,
      fun h row hy hy' col hx hx' => h (col, row) ⟨hx, hx', hy, hy'⟩⟩
  rw [← hall, ← hloop]
  unfold graphicsDrawRect
  cases hrun : forUp (drawRow ⟨some gop, some modeInfo⟩ x width color) y (y + height) s with
  | next s' => exact iff_of_true rfl ⟨s', rfl⟩
  | leave status s' =>
    have hne := forUp_leaves (P := (· ≠ BootStatus.success)) (fun _ _ _ _ => drawRow_leaves) hrun
    exact iff_of_false hne nofun

/-- A rectangle reported as drawn is drawn completely. -/
theorem drawRect_complete {p : UInt32 × UInt32} {pixels : List (UInt32 × UInt32)}
    (h : (graphicsDrawRect ⟨some gop, some modeInfo⟩ x y width height color s).1 = .success)
    (hp : Visited x y width height p)
    (hd : (graphicsDrawRect ⟨some gop, some modeInfo⟩ x y width height color s).2.drawn =
      s.drawn ++ pixels) : p ∈ pixels := by
  have hon := (drawRect_success_iff s).mp h p hp
  unfold graphicsDrawRect at h hd
  cases hrun : forUp (drawRow ⟨some gop, some modeInfo⟩ x width color) y (y + height) s with
  | leave status s' =>
    rw [hrun] at h
    exact absurd h (forUp_leaves (P := (· ≠ BootStatus.success)) (fun _ _ _ _ => drawRow_leaves) hrun)
  | next s' =>
    rw [hrun] at hd
    obtain ⟨s₁, s₂, h1, hrow, h2⟩ := forUp_visits (R := Draws gop modeInfo color
      (Visited x y width height)) Draws.refl (fun _ _ _ => Draws.trans)
      (fun _ s hy hy' => drawRow_draws hy hy' s) hrun hp.y_le hp.y_lt
    obtain ⟨s₃, s₄, h3, hcol, h4⟩ := forUp_visits (R := Draws gop modeInfo color
      (Visited x y width height)) Draws.refl (fun _ _ _ => Draws.trans)
      (fun _ s hx hx' => drawColumn_draws hx hx' hp.y_le hp.y_lt s) hrow hp.x_le hp.x_lt
    rw [drawColumn_onScreen hon] at hcol
    cases hcol
    exact (h1.trans h3).mem_of_between rfl (h4.trans h2) hd

/-- The first pixel is drawn. -/
theorem drawRect_drawn (hon : modeInfo.OnScreen x y) (hx : x < x + width) (hy : y < y + height)
    {pixels : List (UInt32 × UInt32)}
    (hd : (graphicsDrawRect ⟨some gop, some modeInfo⟩ x y width height color s).2.drawn =
      s.drawn ++ pixels) : (x, y) ∈ pixels := by
  rw [drawRect_state] at hd
  have hrow := forUp_rel_first (R := Draws gop modeInfo color (Visited x y width height)) (s := s)
    Draws.refl (fun _ _ _ => Draws.trans) (fun _ s hy hy' => drawRow_draws hy hy' s) hy
  have hcol := forUp_rel_first (R := Draws gop modeInfo color (Visited x y width height)) (s := s)
    Draws.refl (fun _ _ _ => Draws.trans)
    (fun _ s hx hx' => drawColumn_draws hx hx' (UInt32.le_refl y) hy s) hx
  rw [drawColumn_onScreen hon] at hcol
  exact (Draws.refl s).mem_of_between rfl (hcol.trans hrow) hd

/-- Or it ends the drawing. -/
theorem drawRect_stops (hoff : ¬ modeInfo.OnScreen x y) (hx : x < x + width) (hy : y < y + height) :
    graphicsDrawRect ⟨some gop, some modeInfo⟩ x y width height color s = (.error, s) := by
  have hrow : drawRow ⟨some gop, some modeInfo⟩ x width color y s = .leave .error s :=
    forUp_leave hx (drawColumn_offScreen hoff color s)
  rw [graphicsDrawRect, forUp_leave hy hrow]

/-- The pixels of a rectangle, in exact arithmetic. -/
structure InRect (x y : UInt32) (width height : ℕ) (p : UInt32 × UInt32) : Prop where
  x_le : x.toNat ≤ p.1.toNat
  x_lt : p.1.toNat < x.toNat + width
  y_le : y.toNat ≤ p.2.toNat
  y_lt : p.2.toNat < y.toNat + height

theorem Visited.inRect {p : UInt32 × UInt32} (h : Visited x y width height p) :
    InRect x y width.toNat height.toNat p := by
  have hx := UInt32.lt_iff_toNat_lt.mp h.x_lt
  have hy := UInt32.lt_iff_toNat_lt.mp h.y_lt
  rw [UInt32.toNat_add] at hx hy
  exact ⟨UInt32.le_iff_toNat_le.mp h.x_le, lt_of_lt_of_le hx (Nat.mod_le _ _),
    UInt32.le_iff_toNat_le.mp h.y_le, lt_of_lt_of_le hy (Nat.mod_le _ _)⟩

theorem InRect.visited {p : UInt32 × UInt32} (hx : x.toNat + width.toNat < 2 ^ 32)
    (hy : y.toNat + height.toNat < 2 ^ 32) (h : InRect x y width.toNat height.toNat p) :
    Visited x y width height p := by
  refine ⟨UInt32.le_iff_toNat_le.mpr h.x_le, UInt32.lt_iff_toNat_lt.mpr ?_,
    UInt32.le_iff_toNat_le.mpr h.y_le, UInt32.lt_iff_toNat_lt.mpr ?_⟩
  · rw [UInt32.toNat_add, Nat.mod_eq_of_lt hx]
    exact h.x_lt
  · rw [UInt32.toNat_add, Nat.mod_eq_of_lt hy]
    exact h.y_lt

end Rect

/-! ### Rectangles on the screen of a valid mode -/

/-- `*(UINT32*)address`. -/
def loadU32 (mem : Memory) (address : UInt64) : UInt32 :=
  UInt32.ofNat (Bytes.decode ((List.range 4).map fun i => mem (address + UInt64.ofNat i)))

/-- The byte offset of the word in row `r` and column `c`. -/
def ModeInfo.wordOffset (modeInfo : ModeInfo) (r c : ℕ) : ℕ :=
  4 * (r * modeInfo.pixelsPerScanLine.toNat + c)

/-- The words of a region hold the color, all other bytes are unchanged. -/
structure Paints (gop : Gop) (modeInfo : ModeInfo) (color : UInt32) (region : ℕ → ℕ → Prop)
    (mem mem' : Memory) : Prop where
  word : ∀ r c, region r c →
    loadU32 mem' (gop.frameBufferBase + UInt64.ofNat (modeInfo.wordOffset r c)) = color
  frame : ∀ a, (∀ r c, region r c → ∀ i < 4,
    a ≠ gop.frameBufferBase + UInt64.ofNat (modeInfo.wordOffset r c + i)) → mem' a = mem a

section Screen

variable {gop : Gop} {modeInfo : ModeInfo} {color x y width height : UInt32} {s : Canvas}

theorem loadU32_eq {mem : Memory} {address : UInt64}
    (h : ∀ i < 4, mem (address + UInt64.ofNat i) = (Bytes.encode 4 color.toNat).getD i 0) :
    loadU32 mem address = color := by
  have hbytes : (List.range 4).map (fun i => mem (address + UInt64.ofNat i)) =
      Bytes.encode 4 color.toNat := by
    refine List.ext_getElem (by simp) fun i hi hi' => ?_
    have hi4 : i < 4 := by simpa using hi'
    rw [List.getElem_map, List.getElem_range, h i hi4, List.getD_eq_getElem _ _ hi']
  rw [loadU32, hbytes, Bytes.decode_encode color.toNat_lt, UInt32.ofNat_toNat]

/-- On a valid mode the products do not wrap. -/
theorem pixelPointer_eq_wordOffset (hv : modeInfo.Valid) (hp : modeInfo.OnScreen x y) :
    pixelPointer gop modeInfo x y =
      gop.frameBufferBase + UInt64.ofNat (modeInfo.wordOffset y.toNat x.toNat) := by
  have hrow := row_lt hv hp le_rfl
  have hx := UInt32.lt_iff_toNat_lt.mp hp.x_lt
  have hs := UInt32.le_iff_toNat_le.mp hv.stride
  have hcol : (x * 4).toNat = x.toNat * 4 := mul_toNat (b := 4) (show x.toNat * 4 < 2 ^ 32 by omega)
  rw [pixelPointer_eq, UInt64.add_right_inj, ← UInt64.toNat_inj, pixelOffset, UInt64.toNat_add,
    drawn_row_toNat hv hp, UInt32.toNat_toUInt64, hcol, UInt64.toNat_ofNat', ModeInfo.wordOffset]
  congr 1
  ring

theorem Painted.paints (hv : modeInfo.Valid) {region : ℕ → ℕ → Prop}
    {pixels : List (UInt32 × UInt32)} {mem mem' : Memory}
    (hon : ∀ p ∈ pixels, modeInfo.OnScreen p.1 p.2)
    (hregion : ∀ r c, region r c ↔ ∃ p ∈ pixels, p.2.toNat = r ∧ p.1.toNat = c)
    (h : Painted gop modeInfo color pixels mem mem') : Paints gop modeInfo color region mem mem' := by
  refine ⟨fun r c hr => ?_, fun a ha => h.frame a fun p hp i hi he => ?_⟩
  · obtain ⟨p, hp, rfl, rfl⟩ := (hregion r c).mp hr
    rw [← pixelPointer_eq_wordOffset hv (hon p hp)]
    exact loadU32_eq (h.word p hp)
  · refine ha _ _ ((hregion _ _).mpr ⟨p, hp, rfl, rfl⟩) i hi ?_
    rw [he, pixelPointer_eq_wordOffset hv (hon p hp), UInt64.add_assoc, UInt64.ofNat_add]

/-- What was drawn of a region, in words. -/
theorem Draws.paints (hv : modeInfo.Valid) {region : UInt32 × UInt32 → Prop} {s' : Canvas}
    (h : Draws gop modeInfo color region s s')
    (hon : Draws gop modeInfo color (fun p => modeInfo.OnScreen p.1 p.2) s s') :
    ∃ words : ℕ → ℕ → Prop, (∀ r c, words r c → ∃ p, region p ∧ modeInfo.OnScreen p.1 p.2 ∧
      p.2.toNat = r ∧ p.1.toNat = c) ∧ Paints gop modeInfo color words s.mem s'.mem := by
  obtain ⟨pixels, -, hin, hp⟩ := h.and hon
  refine ⟨fun r c => ∃ p ∈ pixels, p.2.toNat = r ∧ p.1.toNat = c, ?_,
    hp.paints hv (fun p hmem => (hin p hmem).2) fun _ _ => Iff.rfl⟩
  rintro r c ⟨p, hmem, hr, hc⟩
  exact ⟨p, (hin p hmem).1, (hin p hmem).2, hr, hc⟩

theorem drawRect_paints (gop : Gop) (hv : modeInfo.Valid)
    (hx : x.toNat + width.toNat ≤ modeInfo.horizontalResolution.toNat)
    (hy : y.toNat + height.toNat ≤ modeInfo.verticalResolution.toNat) (color : UInt32) (s : Canvas) :
    (graphicsDrawRect ⟨some gop, some modeInfo⟩ x y width height color s).1 = .success ∧
      Paints gop modeInfo color
        (fun r c => (y.toNat ≤ r ∧ r < y.toNat + height.toNat) ∧
          x.toNat ≤ c ∧ c < x.toNat + width.toNat)
        s.mem (graphicsDrawRect ⟨some gop, some modeInfo⟩ x y width height color s).2.mem := by
  have hxlt := lt_of_le_of_lt hx modeInfo.horizontalResolution.toNat_lt
  have hylt := lt_of_le_of_lt hy modeInfo.verticalResolution.toNat_lt
  have hon : ∀ p, Visited x y width height p → modeInfo.OnScreen p.1 p.2 := fun p hp =>
    ⟨UInt32.lt_iff_toNat_lt.mpr (lt_of_lt_of_le hp.inRect.x_lt hx),
      UInt32.lt_iff_toNat_lt.mpr (lt_of_lt_of_le hp.inRect.y_lt hy)⟩
  have hok : (graphicsDrawRect ⟨some gop, some modeInfo⟩ x y width height color s).1 = .success :=
    (drawRect_success_iff s).mpr hon
  obtain ⟨pixels, hd, hin, hpaint⟩ : Draws gop modeInfo color (Visited x y width height) s
      (graphicsDrawRect ⟨some gop, some modeInfo⟩ x y width height color s).2 := drawRect_draws s
  refine ⟨hok, hpaint.paints hv (fun p hp => hon p (hin p hp)) fun r c => ⟨?_, ?_⟩⟩
  · rintro ⟨⟨hr, hr'⟩, hc, hc'⟩
    have hrow : (UInt32.ofNat r).toNat = r := UInt32.toNat_ofNat_of_lt' (hr'.trans hylt)
    have hcol : (UInt32.ofNat c).toNat = c := UInt32.toNat_ofNat_of_lt' (hc'.trans hxlt)
    have hrect : InRect x y width.toNat height.toNat (UInt32.ofNat c, UInt32.ofNat r) :=
      ⟨by rwa [hcol], by rwa [hcol], by rwa [hrow], by rwa [hrow]⟩
    exact ⟨_, drawRect_complete hok (hrect.visited hxlt hylt) hd, hrow, hcol⟩
  · rintro ⟨p, hp, rfl, rfl⟩
    have hrect := (hin p hp).inRect
    exact ⟨⟨hrect.y_le, hrect.y_lt⟩, hrect.x_le, hrect.x_lt⟩

end Screen

/-- **A rectangle on the screen comes out exactly.** On a valid mode it is
reported as drawn, the words of its rows and columns hold the color, and every
other byte is unchanged. So clearing the screen paints every visible pixel and
nothing else. -/
theorem draw_rect_paints (gop : Gop) {modeInfo : ModeInfo} (hv : modeInfo.Valid) :
    (∀ (x y width height color : UInt32) (s : Canvas),
      x.toNat + width.toNat ≤ modeInfo.horizontalResolution.toNat →
      y.toNat + height.toNat ≤ modeInfo.verticalResolution.toNat →
      (graphicsDrawRect ⟨some gop, some modeInfo⟩ x y width height color s).1 = .success ∧
        Paints gop modeInfo color
          (fun r c => (y.toNat ≤ r ∧ r < y.toNat + height.toNat) ∧
            x.toNat ≤ c ∧ c < x.toNat + width.toNat)
          s.mem (graphicsDrawRect ⟨some gop, some modeInfo⟩ x y width height color s).2.mem) ∧
    ∀ (color : UInt32) (s : Canvas),
      (graphicsClearScreen ⟨some gop, some modeInfo⟩ color s).1 = .success ∧
        Paints gop modeInfo color
          (fun r c => r < modeInfo.verticalResolution.toNat ∧ c < modeInfo.horizontalResolution.toNat)
          s.mem (graphicsClearScreen ⟨some gop, some modeInfo⟩ color s).2.mem := by
  refine ⟨fun x y width height color s hx hy => drawRect_paints gop hv hx hy color s,
    fun color s => ?_⟩
  have hx : (0 : UInt32).toNat + modeInfo.horizontalResolution.toNat ≤
      modeInfo.horizontalResolution.toNat := by simp
  have hy : (0 : UInt32).toNat + modeInfo.verticalResolution.toNat ≤
      modeInfo.verticalResolution.toNat := by simp
  have hscreen := drawRect_paints gop hv hx hy color s
  simpa [graphicsClearScreen] using hscreen

/-- Blue in the right half of a black screen. -/
theorem draw_rect_paints_padded : (graphicsDrawRect ⟨some ⟨0x80000000⟩, some paddedMode⟩ 400 0 400 600
    0x000000FF ⟨fun _ => 0, []⟩).1 = .success :=
  ((draw_rect_paints ⟨0x80000000⟩ ⟨by decide, by decide⟩).1 400 0 400 600 0x000000FF ⟨fun _ => 0, []⟩
    (by decide) (by decide)).1

end Dos25
