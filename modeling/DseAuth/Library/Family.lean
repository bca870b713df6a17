import DseAuth.Library.Machine
import Mathlib.Logic.Function.Basic

/-!
# Families of machines

Many copies of one machine, one for each key, make up a machine whose state is a function of the
key: an input is for the copy that its `key` names, moves that copy and is answered by it
(`Family.step`, `Family.answer`).

The copies do not interact, which is what makes such a machine easy to reason about. What a run does
to the copy of a key, and what it answers to the inputs for it, are those of a run of that copy on
its own inputs (`run_apply`, `ownAnswers_eq`). Two runs in which every copy is given the same inputs
in the same order therefore are the same run, however the inputs of different keys are interleaved
(`run_eq_of_filter_eq`, `ownAnswers_eq_of_filter_eq`).
-/

namespace Family

open Machine

variable {κ σ ι ω : Type*} [DecidableEq κ] (key : ι → κ)

/-- An input moves the copy of its key. -/
def step (step : σ → ι → σ) (s : κ → σ) (x : ι) : κ → σ :=
  Function.update s (key x) (step (s (key x)) x)

/-- And is answered by it. -/
def answer (answer : σ → ι → ω) (s : κ → σ) (x : ι) : ω :=
  answer (s (key x)) x

variable {key} {localStep : σ → ι → σ} {localAnswer : σ → ι → ω} {s : κ → σ} {x : ι} {k : κ}

theorem step_apply_of_eq (h : key x = k) : step key localStep s x k = localStep (s k) x := by
  rw [step, ← h, Function.update_self]

theorem step_apply_of_ne (h : key x ≠ k) : step key localStep s x k = s k :=
  Function.update_of_ne (Ne.symm h) _ _

/-- **A copy runs on its own inputs.** -/
theorem run_apply (s : κ → σ) (xs : List ι) (k : κ) :
    run (step key localStep) s xs k = run localStep (s k) (xs.filter fun x ↦ key x = k) := by
  induction xs generalizing s with
  | nil => rfl
  | cons x xs ih =>
    rw [run_cons, ih]
    by_cases hx : key x = k
    · rw [List.filter_cons, if_pos (decide_eq_true hx), run_cons, step_apply_of_eq hx]
    · rw [List.filter_cons, if_neg (mt of_decide_eq_true hx), step_apply_of_ne hx]

/-- **And answers as if it were alone.** -/
theorem ownAnswers_eq (s : κ → σ) (xs : List ι) (k : κ) :
    ownAnswers (step key localStep) (answer key localAnswer) (fun _ x ↦ key x = k) s xs =
      answers localStep localAnswer (s k) (xs.filter fun x ↦ key x = k) := by
  induction xs generalizing s with
  | nil => rfl
  | cons x xs ih =>
    rw [ownAnswers]
    by_cases hx : key x = k
    · rw [if_pos hx, ih, List.filter_cons, if_pos (decide_eq_true hx), answers,
        step_apply_of_eq hx, answer, hx]
    · rw [if_neg hx, ih, List.filter_cons, if_neg (mt of_decide_eq_true hx), step_apply_of_ne hx]

variable {xs ys : List ι}

/-- **Only the order of the inputs of each key matters.** -/
theorem run_eq_of_filter_eq
    (h : ∀ k, (xs.filter fun x ↦ key x = k) = ys.filter fun x ↦ key x = k) (s : κ → σ) :
    run (step key localStep) s xs = run (step key localStep) s ys := by
  funext k
  rw [run_apply, run_apply, h]

/-- The same for the answers. -/
theorem ownAnswers_eq_of_filter_eq
    (h : (xs.filter fun x ↦ key x = k) = ys.filter fun x ↦ key x = k) (s : κ → σ) :
    ownAnswers (step key localStep) (answer key localAnswer) (fun _ x ↦ key x = k) s xs =
      ownAnswers (step key localStep) (answer key localAnswer) (fun _ x ↦ key x = k) s ys := by
  rw [ownAnswers_eq, ownAnswers_eq, h]

end Family
