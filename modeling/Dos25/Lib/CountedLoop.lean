/-
# Counted loops over 32-bit numbers

`for (UINT32 i = start; i < stop; i++)` with a body that goes on or leaves the
function (`Flow`). The loop does not run at all where `stop` is not above
`start`, and its counter never wraps.

The rules: what relates the states before and after each body relates those
before and after the loop (`forUp_rel`); a loop that goes on has run its body
for each counter (`forUp_visits`), and goes on exactly if each of them does
(`forUp_next_iff`); a loop that leaves at the first hit is a search
(`forUp_search`).
-/
import Mathlib.Order.Basic
import Mathlib.Data.UInt

namespace CountedLoop

/-- How a body ends: it goes on, or leaves with a result. -/
inductive Flow (ρ σ : Type)
  | next (s : σ)
  | leave (r : ρ) (s : σ)

variable {ρ σ : Type}

def Flow.state : Flow ρ σ → σ
  | .next s => s
  | .leave _ s => s

theorem succ_toNat {i stop : UInt32} (h : i < stop) : (i + 1).toNat = i.toNat + 1 := by
  have hlt := UInt32.lt_iff_toNat_lt.mp h
  have hstop := stop.toNat_lt
  rw [UInt32.toNat_add]
  exact Nat.mod_eq_of_lt (Nat.lt_of_le_of_lt hlt hstop)

def forUp (body : UInt32 → σ → Flow ρ σ) (i stop : UInt32) (s : σ) : Flow ρ σ :=
  if i < stop then
    match body i s with
    | .next s => forUp body (i + 1) stop s
    | .leave r s => .leave r s
  else .next s
termination_by stop.toNat - i.toNat
decreasing_by
  have hlt := UInt32.lt_iff_toNat_lt.mp (by assumption : i < stop)
  rw [succ_toNat (by assumption)]
  omega

section Rules

variable {body : UInt32 → σ → Flow ρ σ} {i stop : UInt32} {s s' : σ}

theorem forUp_done (h : ¬ i < stop) : forUp body i stop s = .next s := by
  rw [forUp, if_neg h]

theorem forUp_next (h : i < stop) (hb : body i s = .next s') :
    forUp body i stop s = forUp body (i + 1) stop s' := by
  rw [forUp, if_pos h, hb]

theorem forUp_leave {r : ρ} (h : i < stop) (hb : body i s = .leave r s') :
    forUp body i stop s = .leave r s' := by
  rw [forUp, if_pos h, hb]

/-- Counters from `i` on are `i` and those from `i + 1` on. -/
theorem le_iff_eq_or_succ_le (h : i < stop) {j : UInt32} : i ≤ j ↔ j = i ∨ i + 1 ≤ j := by
  rw [UInt32.le_iff_toNat_le, UInt32.le_iff_toNat_le, succ_toNat h, ← UInt32.toNat_inj]
  omega

theorem le_of_succ_le (h : i < stop) {j : UInt32} (hj : i + 1 ≤ j) : i ≤ j :=
  (le_iff_eq_or_succ_le h).mpr (.inr hj)

/-- Induction along a loop. -/
theorem forUp_induction (body : UInt32 → σ → Flow ρ σ) (stop : UInt32) {P : UInt32 → σ → Prop}
    (hdone : ∀ i s, ¬ i < stop → P i s)
    (hnext : ∀ i s s', i < stop → body i s = .next s' → P (i + 1) s' → P i s)
    (hleave : ∀ i s r s', i < stop → body i s = .leave r s' → P i s) (i : UInt32) (s : σ) : P i s := by
  by_cases h : i < stop
  · cases hb : body i s with
    | next s' => exact hnext i s s' h hb (forUp_induction body stop hdone hnext hleave (i + 1) s')
    | leave r s' => exact hleave i s r s' h hb
  · exact hdone i s h
termination_by stop.toNat - i.toNat
decreasing_by
  have hlt := UInt32.lt_iff_toNat_lt.mp h
  rw [succ_toNat h]
  omega

/-- A loop can be cut in two. -/
theorem forUp_cut {k : UInt32} (hik : i ≤ k) (hk : k ≤ stop) :
    forUp body i stop s = match forUp body i k s with
      | .next s' => forUp body k stop s'
      | .leave r s' => .leave r s' := by
  revert hik
  induction i, s using forUp_induction body k with
  | hdone i s h =>
    intro hik
    obtain rfl : i = k := UInt32.le_antisymm hik (UInt32.not_lt.mp h)
    rw [forUp_done h]
  | hnext i s s' h hb ih =>
    intro _
    have hik : i + 1 ≤ k := by
      rw [UInt32.le_iff_toNat_le, succ_toNat h]
      exact UInt32.lt_iff_toNat_lt.mp h
    rw [forUp_next (UInt32.lt_of_lt_of_le h hk) hb, forUp_next h hb, ih hik]
  | hleave i s r s' h hb =>
    intro _
    rw [forUp_leave (UInt32.lt_of_lt_of_le h hk) hb, forUp_leave h hb]

/-- What every body does to the state, the loop does. -/
theorem forUp_rel {R : σ → σ → Prop} (hrefl : ∀ s, R s s)
    (htrans : ∀ s₁ s₂ s₃, R s₁ s₂ → R s₂ s₃ → R s₁ s₃)
    (hbody : ∀ j s, i ≤ j → j < stop → R s (body j s).state) :
    R s (forUp body i stop s).state := by
  revert hbody
  induction i, s using forUp_induction body stop with
  | hdone i s h =>
    intro _
    rw [forUp_done h]
    exact hrefl s
  | hnext i s s' h hb ih =>
    intro hbody
    rw [forUp_next h hb]
    have hfirst := hbody i s (UInt32.le_refl i) h
    rw [hb] at hfirst
    exact htrans _ _ _ hfirst (ih fun j s hj => hbody j s (le_of_succ_le h hj))
  | hleave i s r s' h hb =>
    intro hbody
    rw [forUp_leave h hb, ← hb]
    exact hbody i s (UInt32.le_refl i) h

/-- What follows the first body. -/
theorem forUp_rel_first {R : σ → σ → Prop} (hrefl : ∀ s, R s s)
    (htrans : ∀ s₁ s₂ s₃, R s₁ s₂ → R s₂ s₃ → R s₁ s₃)
    (hbody : ∀ j s, i ≤ j → j < stop → R s (body j s).state) (h : i < stop) :
    R (body i s).state (forUp body i stop s).state := by
  cases hb : body i s with
  | next s' =>
    rw [forUp_next h hb]
    exact forUp_rel hrefl htrans fun j s hj => hbody j s (le_of_succ_le h hj)
  | leave r s' =>
    rw [forUp_leave h hb]
    exact hrefl s'

/-- A loop that goes on has run its body for each counter. -/
theorem forUp_visits {R : σ → σ → Prop} (hrefl : ∀ s, R s s)
    (htrans : ∀ s₁ s₂ s₃, R s₁ s₂ → R s₂ s₃ → R s₁ s₃)
    (hbody : ∀ j s, i ≤ j → j < stop → R s (body j s).state)
    (hloop : forUp body i stop s = .next s') {j : UInt32} (hij : i ≤ j) (hj : j < stop) :
    ∃ s₁ s₂, R s s₁ ∧ body j s₁ = .next s₂ ∧ R s₂ s' := by
  revert hbody hloop hij
  induction i, s using forUp_induction body stop with
  | hdone i s h =>
    intro _ _ hij
    exact absurd (UInt32.lt_of_le_of_lt hij hj) h
  | hnext i s s₁ h hb ih =>
    intro hbody hloop hij
    rw [forUp_next h hb] at hloop
    have hfirst := hbody i s (UInt32.le_refl i) h
    rw [hb] at hfirst
    have hrest : ∀ j s, i + 1 ≤ j → j < stop → R s (body j s).state := fun j s hj =>
      hbody j s (le_of_succ_le h hj)
    rcases (le_iff_eq_or_succ_le h).mp hij with rfl | hij
    · have hlast := forUp_rel (s := s₁) hrefl htrans hrest
      rw [hloop] at hlast
      exact ⟨s, s₁, hrefl s, hb, hlast⟩
    · obtain ⟨s₂, s₃, h2, hb2, h3⟩ := ih hrest hloop hij
      exact ⟨s₂, s₃, htrans _ _ _ hfirst h2, hb2, h3⟩
  | hleave i s r s₁ h hb =>
    intro _ hloop
    rw [forUp_leave h hb] at hloop
    exact nomatch hloop

/-- A loop goes on exactly if its body does for each counter. -/
theorem forUp_next_iff {good : UInt32 → Prop}
    (hbody : ∀ j s, i ≤ j → j < stop → ((∃ s', body j s = .next s') ↔ good j)) :
    (∃ s', forUp body i stop s = .next s') ↔ ∀ j, i ≤ j → j < stop → good j := by
  revert hbody
  induction i, s using forUp_induction body stop with
  | hdone i s h =>
    intro _
    refine iff_of_true ⟨s, forUp_done h⟩ fun j hij hj => ?_
    exact absurd (UInt32.lt_of_le_of_lt hij hj) h
  | hnext i s s₁ h hb ih =>
    intro hbody
    rw [forUp_next h hb, ih fun j s hj => hbody j s (le_of_succ_le h hj)]
    refine ⟨fun hall j hij hj => ?_, fun hall j hij => hall j (le_of_succ_le h hij)⟩
    rcases (le_iff_eq_or_succ_le h).mp hij with rfl | hij
    · exact (hbody j s hij hj).mp ⟨s₁, hb⟩
    · exact hall j hij hj
  | hleave i s r s₁ h hb =>
    intro hbody
    have hbad : ¬ good i := by
      rw [← hbody i s (UInt32.le_refl i) h, hb]
      exact nofun
    rw [forUp_leave h hb]
    exact iff_of_false nofun fun hall => hbad (hall i (UInt32.le_refl i) h)

/-- A loop leaves with a result of its body. -/
theorem forUp_leaves {P : ρ → Prop} (hbody : ∀ j s r s', body j s = .leave r s' → P r) {r : ρ}
    (hloop : forUp body i stop s = .leave r s') : P r := by
  induction i, s using forUp_induction body stop with
  | hdone i s h =>
    rw [forUp_done h] at hloop
    exact nomatch hloop
  | hnext i s s₁ h hb ih =>
    rw [forUp_next h hb] at hloop
    exact ih hloop
  | hleave i s r' s₁ h hb =>
    rw [forUp_leave h hb] at hloop
    cases hloop
    exact hbody i s r s' hb

/-- A loop whose body leaves on a hit and changes nothing otherwise leaves with
the first hit. -/
theorem forUp_search {Hit : UInt32 → ρ → σ → Prop} {Miss : UInt32 → Prop}
    (hbody : ∀ j s, (∃ r s', Hit j r s' ∧ body j s = .leave r s') ∨ (Miss j ∧ body j s = .next s))
    (i stop : UInt32) (s : σ) :
    (∃ j r s', i ≤ j ∧ j < stop ∧ Hit j r s' ∧ (∀ k, i ≤ k → k < j → Miss k) ∧
        forUp body i stop s = .leave r s') ∨
      ((∀ j, i ≤ j → j < stop → Miss j) ∧ forUp body i stop s = .next s) := by
  induction i, s using forUp_induction body stop with
  | hdone i s h => exact .inr ⟨fun j hij hj => absurd (UInt32.lt_of_le_of_lt hij hj) h, forUp_done h⟩
  | hnext i s s₁ h hb ih =>
    rcases hbody i s with ⟨r, s', -, hrun⟩ | ⟨hmiss, hrun⟩
    · exact nomatch hrun.symm.trans hb
    obtain rfl : s = s₁ := by
      have hstay := hrun.symm.trans hb
      cases hstay
      rfl
    have hall : ∀ k, (i + 1 ≤ k → Miss k) → i ≤ k → Miss k := by
      intro k hk hik
      rcases (le_iff_eq_or_succ_le h).mp hik with rfl | hik
      · exact hmiss
      · exact hk hik
    rw [forUp_next h hb]
    rcases ih with ⟨j, r, s', hij, hj, hhit, hfirst, hloop⟩ | ⟨hnone, hloop⟩
    · exact .inl ⟨j, r, s', le_of_succ_le h hij, hj, hhit,
        fun k hik hk => hall k (fun hik => hfirst k hik hk) hik, hloop⟩
    · exact .inr ⟨fun j hij hj => hall j (fun hij => hnone j hij hj) hij, hloop⟩
  | hleave i s r s₁ h hb =>
    rcases hbody i s with ⟨r', s', hhit, hrun⟩ | ⟨-, hrun⟩
    · cases hrun.symm.trans hb
      exact .inl ⟨i, r, s₁, UInt32.le_refl i, h, hhit, fun k hik hk =>
        absurd (UInt32.lt_of_le_of_lt hik hk) (UInt32.lt_irrefl i), forUp_leave h hb⟩
    · exact nomatch hrun.symm.trans hb

end Rules

end CountedLoop
