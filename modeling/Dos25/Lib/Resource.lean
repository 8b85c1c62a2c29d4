/-
# Acquiring and releasing

A history of acquisitions and releases, and what is held after it. Releasing
what is not held is an error (`none`): where `heldFrom` has a result, each
release had its acquisition, and what was acquired and not released is what is
held (`heldFrom_count`).
-/
import Mathlib.Data.List.Count

namespace Resource

variable {ρ : Type} [DecidableEq ρ]

inductive Event (ρ : Type)
  | acquire (r : ρ)
  | release (r : ρ)
  deriving DecidableEq

/-- What is held after one event. -/
def Event.after (held : List ρ) : Event ρ → Option (List ρ)
  | .acquire r => some (r :: held)
  | .release r => if r ∈ held then some (held.erase r) else none

/-- What is held after a history that starts with `held`. -/
def heldFrom (held : List ρ) (events : List (Event ρ)) : Option (List ρ) := events.foldlM Event.after held

@[simp] theorem heldFrom_nil (held : List ρ) : heldFrom held [] = some held := rfl

@[simp] theorem heldFrom_acquire (held : List ρ) (r : ρ) (events : List (Event ρ)) :
    heldFrom held (.acquire r :: events) = heldFrom (r :: held) events := rfl

theorem heldFrom_release {held : List ρ} {r : ρ} (h : r ∈ held) (events : List (Event ρ)) :
    heldFrom held (.release r :: events) = heldFrom (held.erase r) events := by
  have hafter : Event.after held (.release r) = some (held.erase r) := if_pos h
  rw [heldFrom, List.foldlM_cons, hafter]
  rfl

/-- What was acquired last is released first. -/
@[simp] theorem heldFrom_release_head (held : List ρ) (r : ρ) (events : List (Event ρ)) :
    heldFrom (r :: held) (.release r :: events) = heldFrom held events := by
  rw [heldFrom_release List.mem_cons_self, List.erase_cons_head]

/-- So is, apart from the last, what was acquired before it. -/
@[simp] theorem heldFrom_release_second (held : List ρ) (q r : ρ) (events : List (Event ρ)) :
    heldFrom (q :: r :: held) (.release r :: events) = heldFrom (q :: held) events := by
  rw [heldFrom_release (List.mem_cons_of_mem q List.mem_cons_self)]
  by_cases h : q = r
  · rw [h, List.erase_cons_head]
  · rw [List.erase_cons_tail (by simpa using h), List.erase_cons_head]

theorem heldFrom_append (held : List ρ) (events events' : List (Event ρ)) :
    heldFrom held (events ++ events') = (heldFrom held events).bind fun held => heldFrom held events' :=
  List.foldlM_append

/-- The balance of one event. -/
theorem Event.after_count (r : ρ) {held held' : List ρ} {e : Event ρ} (h : e.after held = some held') :
    held.count r + [e].count (.acquire r) = held'.count r + [e].count (.release r) := by
  cases e with
  | acquire q =>
    obtain rfl : q :: held = held' := Option.some.inj h
    by_cases hq : q = r
    · simp [hq]
    · simp [hq]
  | release q =>
    simp only [Event.after] at h
    split_ifs at h with hmem
    obtain rfl := Option.some.inj h
    by_cases hq : q = r
    · subst hq
      have hpos := List.count_pos_iff.mpr hmem
      simp only [List.count_erase_self, List.count_singleton]
      simp
      omega
    · simp [hq, List.count_erase_of_ne (Ne.symm hq)]

/-- **The balance** of a history. -/
theorem heldFrom_count (r : ρ) {held' : List ρ} : ∀ (events : List (Event ρ)) (held : List ρ),
    heldFrom held events = some held' →
    held.count r + events.count (.acquire r) = held'.count r + events.count (.release r)
  | [], held, h => by
    obtain rfl : held = held' := Option.some.inj h
    rfl
  | e :: events, held, h => by
    obtain ⟨mid, he, hrest⟩ := Option.bind_eq_some_iff.mp (show (e.after held).bind _ = _ from h)
    have hstep := Event.after_count r he
    have ih := heldFrom_count r events mid hrest
    rw [← List.singleton_append, List.count_append, List.count_append]
    omega

end Resource
