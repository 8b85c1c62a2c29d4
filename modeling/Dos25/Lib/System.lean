/-
# States reached by allowed steps

A transition system whose steps carry a label: `Reach` collects the states
reached from `init` by steps that `ok` allows. An invariant of the initial
state that every allowed step preserves holds in every reached state
(`Reach.invariant`), and a run whose measure falls gets done (`exists_done`);
the induction over runs is done here once. Where the step is a function, a
list of moves can be run (`run`, `Reach.run`); where it can always be taken,
so can a fold of steps (`foldlM_invariant`). Two systems whose steps match
have matching runs (`Matches.foldlM`).
-/
import Mathlib.Data.Nat.Notation
import Mathlib.Tactic.ByContra

namespace System

variable {σ α : Type*}

/-- The states a run reaches when it takes allowed steps only. -/
inductive Reach (step : σ → α → σ → Prop) (ok : σ → α → Prop) (init : σ) : σ → Prop
  | init : Reach step ok init init
  | step {s t : σ} {a : α} : Reach step ok init s → ok s a → step s a t → Reach step ok init t

variable {step : σ → α → σ → Prop} {ok : σ → α → Prop} {init : σ}

/-- What holds at first and survives every allowed step holds throughout. -/
theorem Reach.invariant {I : σ → Prop} (h0 : I init)
    (hs : ∀ s a t, I s → ok s a → step s a t → I t) {s : σ} (h : Reach step ok init s) : I s := by
  induction h with
  | init => exact h0
  | step _ hok hst ih => exact hs _ _ _ ih hok hst

/-- What is reached is reached when more steps are allowed. -/
theorem Reach.mono {ok' : σ → α → Prop} (hok : ∀ s a, ok s a → ok' s a) {s : σ}
    (h : Reach step ok init s) : Reach step ok' init s := by
  induction h with
  | init => exact .init
  | step _ ha hst ih => exact .step ih (hok _ _ ha) hst

/-- A run whose measure falls with every step before it is done gets done, in
no more steps than the measure says. -/
theorem exists_done (f : ℕ → σ) (done : σ → Prop) (μ : σ → ℕ)
    (hf : ∀ n, ¬ done (f n) → μ (f (n + 1)) < μ (f n)) : ∃ n ≤ μ (f 0), done (f n) := by
  by_contra hnever
  have hfall : ∀ n ≤ μ (f 0), μ (f n) + n ≤ μ (f 0) := by
    intro n hn
    induction n with
    | zero => exact Nat.le_refl _
    | succ n ih =>
      have hlt := hf n fun hdone => hnever ⟨n, by omega, hdone⟩
      have hle := ih (by omega)
      omega
  -- with nothing of the measure left, one more step has nowhere to go
  have hend := hfall (μ (f 0)) (Nat.le_refl _)
  have hlt := hf (μ (f 0)) fun hdone => hnever ⟨_, Nat.le_refl _, hdone⟩
  omega

/-- A fold of steps that can be taken and keep `I` can be taken and keeps
`I`. -/
theorem foldlM_invariant {ε : Type*} {f : σ → α → Except ε σ} {I : σ → Prop}
    (hf : ∀ s, I s → ∀ a, ∃ t, f s a = .ok t ∧ I t) : ∀ (as : List α) {s : σ}, I s →
      ∃ t, as.foldlM f s = .ok t ∧ I t
  | [], s, hs => ⟨s, rfl, hs⟩
  | a :: as, s, hs => by
    obtain ⟨u, hu, hIu⟩ := hf s hs a
    obtain ⟨t, ht, hIt⟩ := foldlM_invariant hf as hIu
    refine ⟨t, ?_, hIt⟩
    rw [List.foldlM_cons, hu]
    exact ht

/-- Takes the moves in order, as long as each is allowed and can be taken. -/
def run (f : σ → α → Option σ) (allowed : σ → α → Bool) : σ → List α → Option σ
  | s, [] => some s
  | s, a :: as => if allowed s a then (f s a).bind fun t => run f allowed t as else none

/-- Where a run ends is reached. -/
theorem Reach.run {f : σ → α → Option σ} {allowed : σ → α → Bool} : ∀ (as : List α) {s t : σ},
    Reach (fun s a t => f s a = some t) (fun s a => allowed s a = true) init s →
    System.run f allowed s as = some t →
    Reach (fun s a t => f s a = some t) (fun s a => allowed s a = true) init t
  | [], _, _, h, hr => by
    simp only [System.run, Option.some.injEq] at hr
    exact hr ▸ h
  | a :: as, s, t, h, hr => by
    simp only [System.run] at hr
    by_cases ha : allowed s a = true
    · rw [if_pos ha] at hr
      obtain ⟨u, hu, hr⟩ := Option.bind_eq_some_iff.mp hr
      exact Reach.run as (h.step ha hu) hr
    · rw [if_neg ha] at hr
      cases hr

/-! ### Two systems -/

/-- Both fail alike, or both succeed with related results. -/
inductive Matches {ε α β : Type*} (R : α → β → Prop) : Except ε α → Except ε β → Prop
  | ok {a : α} {b : β} : R a b → Matches R (.ok a) (.ok b)
  | error (e : ε) : Matches R (.error e) (.error e)

theorem Matches.refl {ε α : Type*} (x : Except ε α) : Matches (fun a b => a = b) x x := by
  cases x with
  | ok a => exact .ok rfl
  | error e => exact .error e

theorem Matches.bind {ε : Type*} {α β γ δ : Type _} {R : α → β → Prop} {S : γ → δ → Prop}
    {x : Except ε α} {y : Except ε β} {f : α → Except ε γ} {g : β → Except ε δ}
    (h : Matches R x y) (hf : ∀ a b, R a b → Matches S (f a) (g b)) :
    Matches S (x >>= f) (y >>= g) := by
  cases h with
  | ok hab => exact hf _ _ hab
  | error e => exact .error e

theorem Matches.mono {ε α β : Type*} {R S : α → β → Prop} {x : Except ε α} {y : Except ε β}
    (h : Matches R x y) (hRS : ∀ a b, R a b → S a b) : Matches S x y := by
  cases h with
  | ok hab => exact .ok (hRS _ _ hab)
  | error e => exact .error e

/-- Step by step, so run by run. -/
theorem Matches.foldlM {ε σ τ α β : Type*} {R : σ → τ → Prop} {f : σ → α → Except ε σ}
    {g : τ → β → Except ε τ} {p : α → β} (hf : ∀ s t a, R s t → Matches R (f s a) (g t (p a))) :
    ∀ (as : List α) {s : σ} {t : τ}, R s t → Matches R (as.foldlM f s) ((as.map p).foldlM g t)
  | [], _, _, h => .ok h
  | a :: as, s, t, h => by
    rw [List.map_cons, List.foldlM_cons, List.foldlM_cons]
    exact (hf s t a h).bind fun _ _ h' => Matches.foldlM hf as h'

end System
