/-
# Drawing off the screen

The bounds `x + width` and `y + height` and the column of the next character
are 32-bit sums. Where a bound wraps, the loops under it do not run, and
success is reported for what was not drawn; where the column wraps, the string
goes on at the left of the screen. `off_screen_reported_iff` says when neither
happens.

Key definitions: `Reported`, `StopsInTime`.
-/
import Dos25.Drawing

namespace Dos25

/-! ### A rectangle -/

section Rect

variable {gop : Gop} {modeInfo : ModeInfo} {x y width height color : UInt32} {s : Canvas}

/-- A bound that wraps is below its start. -/
theorem add_le_of_wrap {a b : UInt32} (h : 2 ^ 32 ≤ a.toNat + b.toNat) : a + b ≤ a := by
  have ha := a.toNat_lt
  have hb := b.toNat_lt
  rw [UInt32.le_iff_toNat_le, UInt32.toNat_add]
  omega

/-- Where a bound wraps, the loops do nothing and success is reported. -/
theorem drawRect_wraps (h : 2 ^ 32 ≤ x.toNat + width.toNat ∨ 2 ^ 32 ≤ y.toNat + height.toNat)
    (s : Canvas) : graphicsDrawRect ⟨some gop, some modeInfo⟩ x y width height color s =
      (.success, s) := by
  have hnone : ∀ p, ¬ Visited x y width height p := by
    intro p hp
    rcases h with h | h
    · exact absurd (UInt32.lt_of_le_of_lt hp.x_le hp.x_lt) (UInt32.not_lt.mpr (add_le_of_wrap h))
    · exact absurd (UInt32.lt_of_le_of_lt hp.y_le hp.y_lt) (UInt32.not_lt.mpr (add_le_of_wrap h))
  have hstatus : (graphicsDrawRect ⟨some gop, some modeInfo⟩ x y width height color s).1 = .success :=
    (drawRect_success_iff s).mpr fun p hp => absurd hp (hnone p)
  exact Prod.ext hstatus ((drawRect_draws s).eq_of_empty hnone)

/-- Where no bound wraps, success means that the rectangle is on the screen. -/
theorem drawRect_success_iff_contained (hw : 0 < width.toNat) (hh : 0 < height.toNat)
    (hx : x.toNat + width.toNat < 2 ^ 32) (hy : y.toNat + height.toNat < 2 ^ 32) (s : Canvas) :
    (graphicsDrawRect ⟨some gop, some modeInfo⟩ x y width height color s).1 = .success ↔
      x.toNat + width.toNat ≤ modeInfo.horizontalResolution.toNat ∧
        y.toNat + height.toNat ≤ modeInfo.verticalResolution.toNat := by
  rw [drawRect_success_iff]
  constructor
  · intro h
    -- the last pixel
    have hcol : (UInt32.ofNat (x.toNat + width.toNat - 1)).toNat = x.toNat + width.toNat - 1 :=
      UInt32.toNat_ofNat_of_lt' (show _ < 2 ^ 32 by omega)
    have hrow : (UInt32.ofNat (y.toNat + height.toNat - 1)).toNat = y.toNat + height.toNat - 1 :=
      UInt32.toNat_ofNat_of_lt' (show _ < 2 ^ 32 by omega)
    have hlast : InRect x y width.toNat height.toNat
        (UInt32.ofNat (x.toNat + width.toNat - 1), UInt32.ofNat (y.toNat + height.toNat - 1)) := by
      constructor <;> dsimp only <;> omega
    have hon := h _ (hlast.visited hx hy)
    have hxlt := UInt32.lt_iff_toNat_lt.mp hon.x_lt
    have hylt := UInt32.lt_iff_toNat_lt.mp hon.y_lt
    rw [hcol] at hxlt
    rw [hrow] at hylt
    omega
  · rintro ⟨hcontained, hcontained'⟩ p hp
    have hin := hp.inRect
    exact ⟨UInt32.lt_iff_toNat_lt.mpr (lt_of_lt_of_le hin.x_lt hcontained),
      UInt32.lt_iff_toNat_lt.mpr (lt_of_lt_of_le hin.y_lt hcontained')⟩

end Rect

/-! ### Reports -/

/-- Success is reported only for what is on the screen, and only pixels of the
exact rectangle are drawn. In words of memory, this is `ReportedWords`. -/
structure Reported (gop : Gop) (modeInfo : ModeInfo) (color x y : UInt32) (width height : ℕ)
    (s : Canvas) (r : BootStatus × Canvas) : Prop where
  contained : r.1 = .success → x.toNat + width ≤ modeInfo.horizontalResolution.toNat ∧
    y.toNat + height ≤ modeInfo.verticalResolution.toNat
  inside : Draws gop modeInfo color (InRect x y width height) s r.2

section Reports

variable {gop : Gop} {modeInfo : ModeInfo} {x y width height color : UInt32} {s : Canvas}

theorem drawRect_reported_iff (hw : 0 < width.toNat) (hh : 0 < height.toNat) :
    Reported gop modeInfo color x y width.toNat height.toNat s
        (graphicsDrawRect ⟨some gop, some modeInfo⟩ x y width height color s) ↔
      x.toNat + width.toNat < 2 ^ 32 ∧ y.toNat + height.toNat < 2 ^ 32 := by
  constructor
  · intro h
    by_contra hfits
    rw [drawRect_wraps (by omega)] at h
    obtain ⟨hx, hy⟩ := h.contained rfl
    have hxlt := modeInfo.horizontalResolution.toNat_lt
    have hylt := modeInfo.verticalResolution.toNat_lt
    omega
  · rintro ⟨hx, hy⟩
    exact ⟨(drawRect_success_iff_contained hw hh hx hy s).mp,
      (drawRect_draws s).mono fun _ => Visited.inRect⟩

end Reports

/-! ### A string -/

section Strings

variable {gop : Gop} {modeInfo : ModeInfo} {color x y : UInt32} {c : UInt8} {str : List UInt8}
  {s : Canvas}

theorem drawString_cons_error (h : (graphicsDrawRect ⟨some gop, some modeInfo⟩ x y 8 8 color s).1 ≠
    .success) : graphicsDrawString ⟨some gop, some modeInfo⟩ x y (c :: str) color s =
      graphicsDrawRect ⟨some gop, some modeInfo⟩ x y 8 8 color s := by
  rw [graphicsDrawString, graphicsDrawChar]
  exact if_pos h

theorem drawString_cons_success (h : (graphicsDrawRect ⟨some gop, some modeInfo⟩ x y 8 8 color s).1 =
    .success) : graphicsDrawString ⟨some gop, some modeInfo⟩ x y (c :: str) color s =
      graphicsDrawString ⟨some gop, some modeInfo⟩ (x + 8) y str color
        (graphicsDrawRect ⟨some gop, some modeInfo⟩ x y 8 8 color s).2 := by
  rw [graphicsDrawString, graphicsDrawChar]
  exact if_neg (not_not.mpr h)

/-- Where every cell is reported as drawn, the string is. -/
theorem drawString_success {P : UInt32 → Prop} (hstep : ∀ x, P x → P (x + 8))
    (hcell : ∀ x s, P x →
      (graphicsDrawRect ⟨some gop, some modeInfo⟩ x y 8 8 color s).1 = .success) :
    ∀ (str : List UInt8) (x : UInt32) (s : Canvas), P x →
      (graphicsDrawString ⟨some gop, some modeInfo⟩ x y str color s).1 = .success
  | [], _, _, _ => rfl
  | c :: str, x, s, hx => by
    rw [drawString_cons_success (hcell x s hx)]
    exact drawString_success hstep hcell str (x + 8) _ (hstep x hx)

/-- A cell that does not wrap. -/
theorem drawCell (gop : Gop) (modeInfo : ModeInfo) (color : UInt32) (hx : x.toNat + 8 < 2 ^ 32)
    (hy : y.toNat + 8 < 2 ^ 32) (s : Canvas) :
    ((graphicsDrawRect ⟨some gop, some modeInfo⟩ x y 8 8 color s).1 = .success ↔
        x.toNat + 8 ≤ modeInfo.horizontalResolution.toNat ∧
          y.toNat + 8 ≤ modeInfo.verticalResolution.toNat) ∧
      Draws gop modeInfo color (InRect x y 8 8) s
        (graphicsDrawRect ⟨some gop, some modeInfo⟩ x y 8 8 color s).2 :=
  ⟨drawRect_success_iff_contained (by decide) (by decide) hx hy s,
    (drawRect_draws s).mono fun _ => Visited.inRect⟩

theorem InRect.widen {width width' height : ℕ} {p : UInt32 × UInt32} (h : InRect x y width height p)
    (hw : width ≤ width') : InRect x y width' height p :=
  ⟨h.x_le, by have := h.x_lt; omega, h.y_le, h.y_lt⟩

theorem add_eight_toNat (hx : x.toNat + 8 < 2 ^ 32) : (x + 8).toNat = x.toNat + 8 := by
  rw [UInt32.toNat_add]
  exact Nat.mod_eq_of_lt hx

/-- The next cell, where the column does not wrap. -/
theorem InRect.shift {width height : ℕ} {p : UInt32 × UInt32} (hx : x.toNat + 8 < 2 ^ 32)
    (h : InRect (x + 8) y width height p) : InRect x y (width + 8) height p := by
  have hle := h.x_le
  have hlt := h.x_lt
  rw [add_eight_toNat hx] at hle hlt
  exact ⟨by omega, by omega, h.y_le, h.y_lt⟩

/-- Below the last column, a string is a row of cells. -/
theorem drawString_noWrap (gop : Gop) (modeInfo : ModeInfo) (color : UInt32)
    (hy : y.toNat + 8 < 2 ^ 32) : ∀ (str : List UInt8) (x : UInt32) (s : Canvas),
    x.toNat + 8 * str.length < 2 ^ 32 →
    ((graphicsDrawString ⟨some gop, some modeInfo⟩ x y str color s).1 = .success ↔
        (str ≠ [] → x.toNat + 8 * str.length ≤ modeInfo.horizontalResolution.toNat ∧
          y.toNat + 8 ≤ modeInfo.verticalResolution.toNat)) ∧
      Draws gop modeInfo color (InRect x y (8 * str.length) 8) s
        (graphicsDrawString ⟨some gop, some modeInfo⟩ x y str color s).2
  | [], x, s, _ => ⟨iff_of_true rfl fun h => absurd rfl h, .refl s⟩
  | c :: str, x, s, hlen => by
    rw [List.length_cons] at hlen ⊢
    have hx : x.toNat + 8 < 2 ^ 32 := by omega
    have h8 := add_eight_toNat hx
    obtain ⟨hcell, hdraws⟩ := drawCell gop modeInfo color hx hy s
    have hcells : 8 ≤ 8 * (str.length + 1) := by omega
    have hfirst := hdraws.mono fun p hp => hp.widen hcells
    by_cases hok : (graphicsDrawRect ⟨some gop, some modeInfo⟩ x y 8 8 color s).1 = .success
    · obtain ⟨hrest, hdraws'⟩ := drawString_noWrap gop modeInfo color hy str (x + 8)
        (graphicsDrawRect ⟨some gop, some modeInfo⟩ x y 8 8 color s).2 (by rw [h8]; omega)
      rw [drawString_cons_success hok, hrest, h8]
      have hfits := hcell.mp hok
      refine ⟨⟨fun h _ => ?_, fun h _ => ?_⟩, hfirst.trans (hdraws'.mono fun p hp => hp.shift hx)⟩
      · by_cases hnil : str = []
        · rw [hnil, List.length_nil]
          exact hfits
        · have := h hnil
          omega
      · have := h (List.cons_ne_nil c str)
        omega
    · rw [drawString_cons_error hok]
      refine ⟨iff_of_false hok fun h => hok (hcell.mpr ?_), hfirst⟩
      have := h (List.cons_ne_nil c str)
      omega

/-- What the rest of a string draws, a string draws behind its first cell. -/
theorem drawString_behind {c : UInt8} {P : UInt32 × UInt32 → Prop}
    (hrest : ∀ s, Draws gop modeInfo color P s
      (graphicsDrawString ⟨some gop, some modeInfo⟩ (x + 8) y str color s).2) (s : Canvas) :
    Draws gop modeInfo color P (graphicsDrawRect ⟨some gop, some modeInfo⟩ x y 8 8 color s).2
      (graphicsDrawString ⟨some gop, some modeInfo⟩ x y (c :: str) color s).2 := by
  by_cases hok : (graphicsDrawRect ⟨some gop, some modeInfo⟩ x y 8 8 color s).1 = .success
  · rw [drawString_cons_success hok]
    exact hrest _
  · rw [drawString_cons_error hok]
    exact .refl _

/-- A string draws what its cells draw. -/
theorem drawString_draws {region : UInt32 × UInt32 → Prop}
    (hcell : ∀ x s, Draws gop modeInfo color region s
      (graphicsDrawRect ⟨some gop, some modeInfo⟩ x y 8 8 color s).2) :
    ∀ (str : List UInt8) (x : UInt32) (s : Canvas), Draws gop modeInfo color region s
      (graphicsDrawString ⟨some gop, some modeInfo⟩ x y str color s).2
  | [], _, s => .refl s
  | c :: str, x, s =>
    (hcell x s).trans (drawString_behind (drawString_draws hcell str (x + 8)) s)

/-- The string goes on from its first cell. -/
theorem drawString_cons_draws (gop : Gop) (modeInfo : ModeInfo) (color x y : UInt32) (c : UInt8)
    (str : List UInt8) (s : Canvas) : Draws gop modeInfo color (fun _ => True)
      (graphicsDrawRect ⟨some gop, some modeInfo⟩ x y 8 8 color s).2
      (graphicsDrawString ⟨some gop, some modeInfo⟩ x y (c :: str) color s).2 :=
  drawString_behind (drawString_draws (fun _ s => (drawRect_draws s).mono fun _ _ => trivial) str
    (x + 8)) s

/-- An error ends the string. -/
theorem drawString_append_of_error : ∀ (str rest : List UInt8) (x : UInt32) (s : Canvas),
    (graphicsDrawString ⟨some gop, some modeInfo⟩ x y str color s).1 ≠ .success →
    graphicsDrawString ⟨some gop, some modeInfo⟩ x y (str ++ rest) color s =
      graphicsDrawString ⟨some gop, some modeInfo⟩ x y str color s
  | [], _, _, _, h => absurd rfl h
  | c :: str, rest, x, s, h => by
    rw [List.cons_append]
    by_cases hok : (graphicsDrawRect ⟨some gop, some modeInfo⟩ x y 8 8 color s).1 = .success
    · rw [drawString_cons_success hok] at h ⊢
      rw [drawString_cons_success hok]
      exact drawString_append_of_error str rest (x + 8) _ h
    · rw [drawString_cons_error hok, drawString_cons_error hok]

/-- Drawing stops before a column or a bound has wrapped. -/
def StopsInTime (modeInfo : ModeInfo) (x y : UInt32) (n : ℕ) : Prop :=
  y.toNat + 8 < 2 ^ 32 ∧ (2 ^ 32 ≤ x.toNat + 8 * n →
    if 2 ^ 32 ≤ x.toNat + 8 then
      2 ≤ n ∧ (modeInfo.horizontalResolution.toNat ≤ x.toNat + 8 - 2 ^ 32 ∨
        modeInfo.verticalResolution.toNat ≤ y.toNat)
    else ¬ (x.toNat + 8 * ((2 ^ 32 - 1 - x.toNat) / 8) ≤ modeInfo.horizontalResolution.toNat ∧
      y.toNat + 8 ≤ modeInfo.verticalResolution.toNat))

/-- A success beyond the screen is a false report. -/
theorem not_reported_of_success {width height : ℕ} {r : BootStatus × Canvas} (hr : r.1 = .success)
    (h : 2 ^ 32 ≤ x.toNat + width ∨ 2 ^ 32 ≤ y.toNat + height) :
    ¬ Reported gop modeInfo color x y width height s r := by
  intro hrep
  obtain ⟨hx, hy⟩ := hrep.contained hr
  have hxlt := modeInfo.horizontalResolution.toNat_lt
  have hylt := modeInfo.verticalResolution.toNat_lt
  omega

theorem lt_add_of_fits {a b : UInt32} (hb : 0 < b.toNat) (h : a.toNat + b.toNat < 2 ^ 32) :
    a < a + b := by
  rw [UInt32.lt_iff_toNat_lt, UInt32.toNat_add, Nat.mod_eq_of_lt h]
  omega

/-- A string that starts left of the strip. -/
theorem drawString_left {x' : UInt32} {width : ℕ} (hlt : x'.toNat < x.toNat)
    (hx : x'.toNat + 8 < 2 ^ 32) (hy : y.toNat + 8 < 2 ^ 32) :
    Reported gop modeInfo color x y width 8 s
        (graphicsDrawString ⟨some gop, some modeInfo⟩ x' y (c :: str) color s) ↔
      ¬ modeInfo.OnScreen x' y := by
  have hx8 : x' < x' + 8 := lt_add_of_fits (by decide) hx
  have hy8 : y < y + 8 := lt_add_of_fits (by decide) hy
  by_cases hon : modeInfo.OnScreen x' y
  · -- its first pixel is drawn
    refine iff_of_false (fun h => ?_) (not_not.mpr hon)
    obtain ⟨pixels, hd, hin, -⟩ := h.inside
    obtain ⟨first, hfirst, -⟩ : Draws gop modeInfo color (Visited x' y 8 8) s
        (graphicsDrawRect ⟨some gop, some modeInfo⟩ x' y 8 8 color s).2 := drawRect_draws s
    obtain ⟨more, hmore, -⟩ := drawString_cons_draws gop modeInfo color x' y c str s
    have hsplit : pixels = first ++ more := by
      rw [hmore, hfirst, List.append_assoc] at hd
      exact (List.append_cancel_left hd).symm
    have hmem := List.mem_append_left more (drawRect_drawn hon hx8 hy8 hfirst)
    rw [← hsplit] at hmem
    exact absurd (hin _ hmem).x_le (not_le.mpr hlt)
  · rw [drawString_cons_error (by rw [drawRect_stops hon hx8 hy8]; exact nofun),
      drawRect_stops hon hx8 hy8]
    exact iff_of_true ⟨nofun, .refl s⟩ hon

/-- The first cell wraps: the second decides. -/
theorem drawString_first_wraps (hx : 2 ^ 32 ≤ x.toNat + 8) (hy : y.toNat + 8 < 2 ^ 32) :
    ∀ {str : List UInt8}, str ≠ [] → (Reported gop modeInfo color x y (8 * str.length) 8 s
        (graphicsDrawString ⟨some gop, some modeInfo⟩ x y str color s) ↔
      2 ≤ str.length ∧ (modeInfo.horizontalResolution.toNat ≤ x.toNat + 8 - 2 ^ 32 ∨
        modeInfo.verticalResolution.toNat ≤ y.toNat)) := by
  have hxlt := x.toNat_lt
  have hnext : (x + 8).toNat = x.toNat + 8 - 2 ^ 32 := by
    rw [UInt32.toNat_add]
    show (x.toNat + 8) % 2 ^ 32 = _
    omega
  have hfirst : graphicsDrawRect ⟨some gop, some modeInfo⟩ x y 8 8 color s = (.success, s) :=
    drawRect_wraps (.inl hx) s
  have hskip : ∀ c str, graphicsDrawString ⟨some gop, some modeInfo⟩ x y (c :: str) color s =
      graphicsDrawString ⟨some gop, some modeInfo⟩ (x + 8) y str color s := by
    intro c str
    rw [drawString_cons_success (by rw [hfirst]), hfirst]
  intro str hn
  match str, hn with
  | [c], _ =>
    rw [hskip]
    exact iff_of_false (not_reported_of_success rfl (.inl (by rwa [List.length_singleton])))
      fun h => absurd h.1 (by rw [List.length_singleton]; decide)
  | c :: c' :: str, _ =>
    rw [hskip, drawString_left (by omega) (by omega) hy, not_onScreen_iff, UInt32.le_iff_toNat_le,
      UInt32.le_iff_toNat_le, hnext]
    exact ⟨fun h => ⟨by simp, h⟩, fun h => h.2⟩

/-- The first cell does not wrap: the cells before the one that does decide. -/
theorem drawString_later_wraps (hx : x.toNat + 8 < 2 ^ 32) (hy : y.toNat + 8 < 2 ^ 32)
    (hlen : 2 ^ 32 ≤ x.toNat + 8 * str.length) :
    Reported gop modeInfo color x y (8 * str.length) 8 s
        (graphicsDrawString ⟨some gop, some modeInfo⟩ x y str color s) ↔
      ¬ (x.toNat + 8 * ((2 ^ 32 - 1 - x.toNat) / 8) ≤ modeInfo.horizontalResolution.toNat ∧
        y.toNat + 8 ≤ modeInfo.verticalResolution.toNat) := by
  obtain ⟨m, hm⟩ : ∃ m, (2 ^ 32 - 1 - x.toNat) / 8 = m := ⟨_, rfl⟩
  have hlast : x.toNat + 8 * m < 2 ^ 32 ∧ 2 ^ 32 ≤ x.toNat + 8 * m + 8 ∧ 0 < m := by omega
  rw [hm]
  by_cases hfits : x.toNat + 8 * m ≤ modeInfo.horizontalResolution.toNat ∧
      y.toNat + 8 ≤ modeInfo.verticalResolution.toNat
  · -- all cells start in the same columns modulo 8, so each wraps or is on the screen
    have hok : (graphicsDrawString ⟨some gop, some modeInfo⟩ x y str color s).1 = .success := by
      refine drawString_success (P := fun x' => x'.toNat % 8 = x.toNat % 8) (fun x' h => ?_)
        (fun x' s h => ?_) str x s rfl
      · rw [UInt32.toNat_add]
        show (x'.toNat + 8) % 2 ^ 32 % 8 = _
        omega
      · by_cases hx' : x'.toNat + 8 < 2 ^ 32
        · exact (drawCell gop modeInfo color hx' hy s).1.mpr (by omega)
        · rw [drawRect_wraps (.inl (not_lt.mp hx'))]
    exact iff_of_false (not_reported_of_success hok (.inl hlen)) (not_not.mpr hfits)
  · refine iff_of_true ?_ hfits
    have htake : (str.take m).length = m := by
      rw [List.length_take]
      omega
    obtain ⟨hiff, hdraws⟩ := drawString_noWrap gop modeInfo color hy (str.take m) x s
      (by rw [htake]; exact hlast.1)
    rw [htake] at hiff hdraws
    have herror : (graphicsDrawString ⟨some gop, some modeInfo⟩ x y (str.take m) color s).1 ≠
        .success := fun hok => hfits (hiff.mp hok (List.ne_nil_of_length_pos (by omega)))
    have hrun := drawString_append_of_error (str.take m) (str.drop m) x s herror
    rw [List.take_append_drop] at hrun
    rw [hrun]
    exact ⟨fun hok => absurd hok herror, hdraws.mono fun p hp => hp.widen (by omega)⟩

theorem drawString_reported_iff (hn : str ≠ []) :
    Reported gop modeInfo color x y (8 * str.length) 8 s
        (graphicsDrawString ⟨some gop, some modeInfo⟩ x y str color s) ↔
      StopsInTime modeInfo x y str.length := by
  unfold StopsInTime
  by_cases hy : y.toNat + 8 < 2 ^ 32
  swap
  · have hok : (graphicsDrawString ⟨some gop, some modeInfo⟩ x y str color s).1 = .success :=
      drawString_success (P := fun _ => True) (fun _ h => h)
        (fun x s _ => by rw [drawRect_wraps (.inr (not_lt.mp hy))]) str x s trivial
    exact iff_of_false (not_reported_of_success hok (.inr (not_lt.mp hy))) fun h => hy h.1
  by_cases hlen : x.toNat + 8 * str.length < 2 ^ 32
  · obtain ⟨hiff, hdraws⟩ := drawString_noWrap gop modeInfo color hy str x s hlen
    exact iff_of_true ⟨fun h => hiff.mp h hn, hdraws⟩ ⟨hy, fun h => absurd hlen (not_lt.mpr h)⟩
  have hwrap := not_lt.mp hlen
  by_cases hx : 2 ^ 32 ≤ x.toNat + 8
  · rw [drawString_first_wraps hx hy hn, if_pos hx]
    exact ⟨fun h => ⟨hy, fun _ => h⟩, fun h => h.2 hwrap⟩
  · rw [drawString_later_wraps (not_le.mp hx) hy hwrap, if_neg hx]
    exact ⟨fun h => ⟨hy, fun _ => h⟩, fun h => h.2 hwrap⟩

end Strings

/-- **When drawing off the screen is reported.** A rectangle that is not empty
is reported truthfully, and stays in its bounds, if and only if neither bound
wraps; a string that is not empty, if and only if the row bound does not wrap
and an error stops it before its column does. Whatever the result, the bytes
changed are those of the pixels drawn. -/
theorem off_screen_reported_iff (gop : Gop) (modeInfo : ModeInfo) (color x y : UInt32) (s : Canvas) :
    (∀ width height : UInt32, 1 ≤ width → 1 ≤ height →
      (Reported gop modeInfo color x y width.toNat height.toNat s
          (graphicsDrawRect ⟨some gop, some modeInfo⟩ x y width height color s) ↔
        x.toNat + width.toNat < 2 ^ 32 ∧ y.toNat + height.toNat < 2 ^ 32)) ∧
    ∀ str : List UInt8, str ≠ [] →
      (Reported gop modeInfo color x y (8 * str.length) 8 s
          (graphicsDrawString ⟨some gop, some modeInfo⟩ x y str color s) ↔
        StopsInTime modeInfo x y str.length) :=
  ⟨fun _ _ hw hh => drawRect_reported_iff (UInt32.le_iff_toNat_le.mp hw) (UInt32.le_iff_toNat_le.mp hh),
    fun _ hn => drawString_reported_iff hn⟩

/-- A rectangle and a character in the last column of 32 bits. -/
theorem off_screen_unreported :
    (¬ ∀ (gop : Gop) (modeInfo : ModeInfo) (color x y width height : UInt32) (s : Canvas),
      1 ≤ width → 1 ≤ height →
      (graphicsDrawRect ⟨some gop, some modeInfo⟩ x y width height color s).1 = .success →
      x.toNat + width.toNat ≤ modeInfo.horizontalResolution.toNat) ∧
    ¬ ∀ (gop : Gop) (modeInfo : ModeInfo) (color x y : UInt32) (str : List UInt8) (s : Canvas),
      str ≠ [] → (graphicsDrawString ⟨some gop, some modeInfo⟩ x y str color s).1 = .success →
      x.toNat + 8 * str.length ≤ modeInfo.horizontalResolution.toNat := by
  constructor
  · intro h
    have hrun : (graphicsDrawRect ⟨some ⟨0x80000000⟩, some paddedMode⟩ 0xFFFFFFFF 0 1 1 0
        ⟨fun _ => 0, []⟩).1 = .success := by
      rw [drawRect_wraps (.inl (by decide))]
    exact absurd (h _ _ _ _ _ _ _ _ (by decide) (by decide) hrun) (by decide)
  · intro h
    have hrun : (graphicsDrawString ⟨some ⟨0x80000000⟩, some paddedMode⟩ 0xFFFFFFFF 0 [65] 0
        ⟨fun _ => 0, []⟩).1 = .success := by
      rw [drawString_cons_success (by rw [drawRect_wraps (.inl (by decide))])]
      rfl
    exact absurd (h _ _ _ _ _ _ _ (by decide) hrun) (by decide)

end Dos25
