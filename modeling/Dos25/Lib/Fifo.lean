/-
# A bounded FIFO

A list of at most `n` values: `push` appends unless the list is full, `pop`
takes the head unless it is empty. Over any run the values taken, followed by
the values still held, are the values accepted (`run_conserves`).
-/
import Mathlib.Data.List.Basic

namespace Fifo

variable {α : Type*}

inductive Call (α : Type*)
  | push (a : α)
  | pop

inductive Answer (α : Type*)
  | accepted
  | refused
  | took (a : α)
  | empty

/-- One call on a FIFO that holds `held`. -/
def step (n : ℕ) (held : List α) : Call α → Answer α × List α
  | .push a => if held.length < n then (.accepted, held ++ [a]) else (.refused, held)
  | .pop => match held with
    | [] => (.empty, [])
    | a :: rest => (.took a, rest)

/-- The answers to a run of calls, and what is held after it. -/
def run (n : ℕ) : List α → List (Call α) → List (Answer α) × List α
  | held, [] => ([], held)
  | held, c :: cs =>
    ((step n held c).1 :: (run n (step n held c).2 cs).1, (run n (step n held c).2 cs).2)

/-- The values the calls pushed with success. -/
def accepted : List (Call α) → List (Answer α) → List α
  | .push a :: cs, .accepted :: rs => a :: accepted cs rs
  | _ :: cs, _ :: rs => accepted cs rs
  | _, _ => []

/-- The values the answers handed out. -/
def taken : List (Answer α) → List α
  | .took a :: rs => a :: taken rs
  | _ :: rs => taken rs
  | [] => []

/-- **Nothing is lost, duplicated or reordered.** -/
theorem run_conserves (n : ℕ) : ∀ (cs : List (Call α)) (held : List α),
    held ++ accepted cs (run n held cs).1 = taken (run n held cs).1 ++ (run n held cs).2
  | [], held => by simp [run, accepted, taken]
  | .push a :: cs, held => by
    have ih := run_conserves n cs
    by_cases h : held.length < n
    · simpa [run, step, h, accepted, taken] using ih (held ++ [a])
    · simpa [run, step, h, accepted, taken] using ih held
  | .pop :: cs, held => by
    have ih := run_conserves n cs
    cases held with
    | nil => simpa [run, step, accepted, taken] using ih []
    | cons a rest => simpa [run, step, accepted, taken] using ih rest

end Fifo
