import Mathlib.Data.List.Forall2
import Mathlib.Order.Defs.PartialOrder

/-!
# Runs of a deterministic machine

A machine is a total step function `step : σ → ι → σ`; a run from `s` on the inputs `xs` is the
left fold of the step. Four ways of reasoning about runs are packaged here, each proved once by
induction on the inputs:

* `run_invariant` — a predicate that every step preserves holds in the last state. The step may
  assume `P s x`, and then the run has to satisfy `P` at each step taken (`Throughout`), so that
  the same rule serves the results that hold of every run and those that hold of the runs without
  some kind of step;
* `run_rel` — a preorder that every step respects relates the first state to the last one;
* `run_lockstep` — two machines that run on the same inputs stay related and give related answers,
  and so they do if one of them loses steps (`run_lockstep_lossy`), or takes any number of them for
  one of the other (`run_weak`, `run_simulation`);
* `Unwinding.run_purge` — deleting the inputs that are not `own` from a run and repeating the
  others changes neither the answers to the own inputs nor what the observer sees of the last state.

Every state a run passes through is the last state of a prefix (`run_append`), so a statement about
the last state of *all* runs is a statement about all states of them.
-/

namespace Machine

variable {σ ι : Type*} (step : σ → ι → σ)

/-- The state a run ends in. -/
def run (s : σ) (xs : List ι) : σ :=
  xs.foldl step s

@[simp] theorem run_cons (s : σ) (x : ι) (xs : List ι) :
    run step s (x :: xs) = run step (step s x) xs := rfl

theorem run_append (s : σ) (xs ys : List ι) :
    run step s (xs ++ ys) = run step (run step s xs) ys :=
  List.foldl_append

/-! ### Conditions on the steps of a run -/

/-- Every input `x` of the run satisfies `P s x` in the state `s` it arrives in. -/
def Throughout (P : σ → ι → Prop) : σ → List ι → Prop
  | _, [] => True
  | s, x :: xs => P s x ∧ Throughout P (step s x) xs

variable {step} {P Q : σ → ι → Prop}

@[simp] theorem throughout_cons {s : σ} {x : ι} {xs : List ι} :
    Throughout step P s (x :: xs) ↔ P s x ∧ Throughout step P (step s x) xs :=
  Iff.rfl

/-- A condition on the inputs alone. -/
theorem throughout_of_forall_mem {Q : ι → Prop} {xs : List ι} (h : ∀ x ∈ xs, Q x) (s : σ) :
    Throughout step (fun _ x ↦ Q x) s xs := by
  induction xs generalizing s with
  | nil => trivial
  | cons x xs ih =>
    exact ⟨h x List.mem_cons_self, ih (fun y hy ↦ h y (List.mem_cons_of_mem x hy)) _⟩

theorem throughout_of_forall (h : ∀ s x, P s x) (s : σ) (xs : List ι) : Throughout step P s xs := by
  induction xs generalizing s with
  | nil => trivial
  | cons x xs ih => exact ⟨h s x, ih _⟩

theorem Throughout.and {s : σ} {xs : List ι} (hP : Throughout step P s xs)
    (hQ : Throughout step Q s xs) : Throughout step (fun s x ↦ P s x ∧ Q s x) s xs := by
  induction xs generalizing s with
  | nil => trivial
  | cons x xs ih => exact ⟨⟨hP.1, hQ.1⟩, ih hP.2 hQ.2⟩

/-! ### Invariants -/

/-- **The invariant rule.** A predicate preserved by every step that satisfies `P` survives a run
whose steps all satisfy `P`. -/
theorem run_invariant {I : σ → Prop} (hstep : ∀ s x, I s → P s x → I (step s x)) {s : σ}
    {xs : List ι} (hs : I s) (hP : Throughout step P s xs) : I (run step s xs) := by
  induction xs generalizing s with
  | nil => exact hs
  | cons x xs ih => exact ih (hstep s x hs hP.1) hP.2

/-- The invariant rule for steps that need no condition. -/
theorem run_invariant_of_forall {I : σ → Prop} (hstep : ∀ s x, I s → I (step s x)) {s : σ}
    (hs : I s) (xs : List ι) : I (run step s xs) :=
  run_invariant (P := fun _ _ ↦ True) (fun s x h _ ↦ hstep s x h) hs
    (throughout_of_forall (fun _ _ ↦ trivial) s xs)

/-- A reading of the state that every step moves up in a preorder is moved up by every run. -/
theorem run_rel {β : Type*} [Preorder β] {f : σ → β} (hstep : ∀ s x, f s ≤ f (step s x)) (s : σ)
    (xs : List ι) : f s ≤ f (run step s xs) := by
  induction xs generalizing s with
  | nil => exact le_rfl
  | cons x xs ih => exact le_trans (hstep s x) (ih _)

/-! ### Two runs in lockstep -/

section Lockstep

variable (step) {ω : Type*} (answer : σ → ι → ω)

/-- The answers a run gives. -/
def answers : σ → List ι → List ω
  | _, [] => []
  | s, x :: xs => answer s x :: answers (step s x) xs

variable {step answer} {τ ω' : Type*} {step' : τ → ι → τ} {answer' : τ → ι → ω'}

/-- **The lockstep rule.** Two machines that are given the same inputs, and that every input which
satisfies `P` takes from related states to related states with related answers, give related answers
all along and end in related states. -/
theorem run_lockstep {R : σ → τ → Prop} {A : ω → ω' → Prop}
    (hstep : ∀ s t x, R s t → P s x → R (step s x) (step' t x) ∧ A (answer s x) (answer' t x))
    {s : σ} {t : τ} (hst : R s t) {xs : List ι} (hxs : Throughout step P s xs) :
    R (run step s xs) (run step' t xs) ∧
      List.Forall₂ A (answers step answer s xs) (answers step' answer' t xs) := by
  induction xs generalizing s t with
  | nil => exact ⟨hst, List.Forall₂.nil⟩
  | cons x xs ih =>
    obtain ⟨hnext, hanswer⟩ := hstep s t x hst hxs.1
    obtain ⟨hlast, hanswers⟩ := ih hnext hxs.2
    exact ⟨hlast, List.Forall₂.cons hanswer hanswers⟩

/-- The lockstep rule with a condition on the steps of either run. -/
theorem run_lockstep_both {P' : τ → ι → Prop} {R : σ → τ → Prop} {A : ω → ω' → Prop}
    (hstep : ∀ s t x, R s t → P s x → P' t x →
      R (step s x) (step' t x) ∧ A (answer s x) (answer' t x))
    {s : σ} {t : τ} (hst : R s t) {xs : List ι} (hxs : Throughout step P s xs)
    (hxs' : Throughout step' P' t xs) :
    R (run step s xs) (run step' t xs) ∧
      List.Forall₂ A (answers step answer s xs) (answers step' answer' t xs) := by
  induction xs generalizing s t with
  | nil => exact ⟨hst, List.Forall₂.nil⟩
  | cons x xs ih =>
    obtain ⟨hnext, hanswer⟩ := hstep s t x hst hxs.1 hxs'.1
    obtain ⟨hlast, hanswers⟩ := ih hnext hxs.2 hxs'.2
    exact ⟨hlast, List.Forall₂.cons hanswer hanswers⟩

end Lockstep

/-! ### Steps that make several, or none -/

section Weak

variable (step) {ω : Type*} (answer : σ → ι → ω)

theorem answers_append (s : σ) (xs ys : List ι) :
    answers step answer s (xs ++ ys) =
      answers step answer s xs ++ answers step answer (run step s xs) ys := by
  induction xs generalizing s with
  | nil => rfl
  | cons x xs ih => exact congrArg (answer s x :: ·) (ih _)

/-- What a run shows of itself, if every step shows a list. -/
def trace {β : Type*} (shows : σ → ι → List β) (s : σ) (xs : List ι) : List β :=
  (answers step shows s xs).flatten

variable {step answer} {τ κ : Type*} {step' : τ → κ → τ} {answer' : τ → κ → ω}
  {acts : σ → ι → List κ} {shows : σ → ι → List ω}

/-- **The rule for weak simulations.** If every step of one machine comes to the steps `acts` of
another one, and shows what that one answers to them, so does a run. -/
theorem run_weak {R : σ → τ → Prop}
    (hstep : ∀ s t x, R s t → P s x → R (step s x) (run step' t (acts s x)) ∧
      shows s x = answers step' answer' t (acts s x))
    {s : σ} {t : τ} (hst : R s t) {xs : List ι} (hxs : Throughout step P s xs) :
    R (run step s xs) (run step' t (trace step acts s xs)) ∧
      trace step shows s xs = answers step' answer' t (trace step acts s xs) := by
  induction xs generalizing s t with
  | nil => exact ⟨hst, rfl⟩
  | cons x xs ih =>
    obtain ⟨hnext, hshows⟩ := hstep s t x hst hxs.1
    obtain ⟨hlast, htrace⟩ := ih hnext hxs.2
    have hacts : trace step acts s (x :: xs) = acts s x ++ trace step acts (step s x) xs :=
      List.flatten_cons
    rw [hacts, run_append, answers_append, ← hshows, ← htrace]
    exact ⟨hlast, List.flatten_cons⟩

/-- The rule for simulations in which the steps of the other machine are found as one goes along.
The two go in step: for each prefix of the one run there is a prefix of the other. -/
theorem run_simulation {R : σ → τ → Prop}
    (hstep : ∀ s t x, R s t → P s x → ∃ ys, R (step s x) (run step' t ys))
    {s : σ} {t : τ} (hst : R s t) {xs : List ι} (hxs : Throughout step P s xs) :
    ∃ yss : List (List κ), yss.length = xs.length ∧
      ∀ k, R (run step s (xs.take k)) (run step' t (yss.take k).flatten) := by
  induction xs generalizing s t with
  | nil => exact ⟨[], rfl, fun k ↦ by rwa [List.take_nil, List.take_nil]⟩
  | cons x xs ih =>
    obtain ⟨ys, hnext⟩ := hstep s t x hst hxs.1
    obtain ⟨yss, hlength, hrest⟩ := ih hnext hxs.2
    refine ⟨ys :: yss, congrArg Nat.succ hlength, fun k ↦ ?_⟩
    rcases k with _ | k
    · exact hst
    · rw [List.take_succ_cons, List.take_succ_cons, List.flatten_cons, run_append]
      exact hrest k

end Weak

/-! ### Steps that get lost -/

section Lossy

variable (step)

/-- The machine that is told with every input whether to take the step. -/
def lossy (s : σ) (z : ι × Bool) : σ :=
  if z.2 then step s z.1 else s

/-- A run that loses steps is a run on the inputs whose steps are taken. -/
theorem run_lossy (s : σ) (zs : List (ι × Bool)) :
    run (lossy step) s zs = run step s ((zs.filter Prod.snd).map Prod.fst) := by
  induction zs generalizing s with
  | nil => rfl
  | cons z zs ih =>
    obtain ⟨x, b⟩ := z
    rw [run_cons, ih]
    cases b with
    | false => rfl
    | true => rfl

variable {step} {ω : Type*} {answer : σ → ι → ω} {τ ω' : Type*} {step' : τ → ι → τ}
  {answer' : τ → ι → ω'}

/-- **The lockstep rule for a machine that may lose steps** of the one it is compared with. -/
theorem run_lockstep_lossy {R : σ → τ → Prop} {A : ω → ω' × Bool → Prop}
    (hstep : ∀ s t x, R s t → ∃ b, R (step s x) (lossy step' t (x, b)) ∧
      A (answer s x) (answer' t x, b))
    {s : σ} {t : τ} (hst : R s t) (xs : List ι) :
    ∃ zs : List (ι × Bool), zs.map Prod.fst = xs ∧ R (run step s xs) (run (lossy step') t zs) ∧
      List.Forall₂ A (answers step answer s xs)
        (answers (lossy step') (fun t z ↦ (answer' t z.1, z.2)) t zs) := by
  induction xs generalizing s t with
  | nil => exact ⟨[], rfl, hst, List.Forall₂.nil⟩
  | cons x xs ih =>
    obtain ⟨b, hnext, hanswer⟩ := hstep s t x hst
    obtain ⟨zs, rfl, hlast, hanswers⟩ := ih hnext
    exact ⟨(x, b) :: zs, rfl, hlast, List.Forall₂.cons hanswer hanswers⟩

end Lossy

/-! ### Purging the inputs of others

An observer owns some of the inputs, and which ones may depend on the state they arrive in. The
*purged* run keeps the own inputs only, or inputs that repeat them: `Repeats x y` says that `y` may
stand for `x`, and `Same` says when two answers are as good as equal. -/

section Purge

variable (step) {ω : Type*} (answer : σ → ι → ω) (own : σ → ι → Prop) [∀ s x, Decidable (own s x)]

/-- The inputs of a run that are own in the state they arrive in. -/
def purge : σ → List ι → List ι
  | _, [] => []
  | s, x :: xs => if own s x then x :: purge (step s x) xs else purge (step s x) xs

/-- The answers a run gives to the inputs that are own in the state they arrive in. -/
def ownAnswers : σ → List ι → List ω
  | _, [] => []
  | s, x :: xs =>
    if own s x then answer s x :: ownAnswers (step s x) xs else ownAnswers (step s x) xs

variable {step own}

/-- What an unwinding argument has to supply, one step at a time. `View s t` says that the observer
cannot tell `s` from `t`; `Alive` restricts the own steps to those after which there still is
something to observe. -/
structure Unwinding (step : σ → ι → σ) (answer : σ → ι → ω) (own : σ → ι → Prop)
    (Repeats : ι → ι → Prop) (Same : ω → ω → Prop) (View : σ → σ → Prop) (Alive : σ → Prop) :
    Prop where
  /-- A foreign input leaves the view as it was. -/
  foreign : ∀ {s t x}, View s t → ¬ own s x → View (step s x) t
  /-- An own input, repeated where the view is the same, is own there too. -/
  own_repeats : ∀ {s t x y}, View s t → own s x → Repeats x y → own t y
  /-- It is answered the same way. -/
  answer_same : ∀ {s t x y}, View s t → own s x → Repeats x y → Same (answer s x) (answer t y)
  /-- It takes equal views to equal views. -/
  own_step : ∀ {s t x y}, View s t → own s x → Repeats x y → Alive (step s x) →
    View (step s x) (step t y)

variable {answer} {Repeats : ι → ι → Prop} {Same : ω → ω → Prop} {View : σ → σ → Prop}
  {Alive : σ → Prop}

/-- **The purge theorem.** A run that repeats the own inputs from a state with the same view ends
with the same view, has nothing but own inputs, and answers them as the full run does. -/
theorem Unwinding.run_purge (U : Unwinding step answer own Repeats Same View Alive) {s t : σ}
    {xs ys : List ι} (hst : View s t)
    (halive : Throughout step (fun s x ↦ Alive (step s x)) s xs)
    (hys : List.Forall₂ Repeats (purge step own s xs) ys) :
    View (run step s xs) (run step t ys) ∧ Throughout step own t ys ∧
      List.Forall₂ Same (ownAnswers step answer own s xs) (answers step answer t ys) := by
  induction xs generalizing s t ys with
  | nil =>
    obtain rfl := List.forall₂_nil_left_iff.1 hys
    exact ⟨hst, trivial, List.Forall₂.nil⟩
  | cons x xs ih =>
    rw [purge] at hys
    by_cases hx : own s x
    · rw [if_pos hx] at hys
      obtain ⟨y, ys, hxy, htail, rfl⟩ := List.forall₂_cons_left_iff.1 hys
      obtain ⟨hview, hown, hsame⟩ := ih (U.own_step hst hx hxy halive.1) halive.2 htail
      rw [ownAnswers, if_pos hx]
      exact ⟨hview, ⟨U.own_repeats hst hx hxy, hown⟩,
        List.Forall₂.cons (U.answer_same hst hx hxy) hsame⟩
    · rw [if_neg hx] at hys
      rw [ownAnswers, if_neg hx]
      exact ih (U.foreign hst hx) halive.2 hys

end Purge

section Lockstep

variable {ω τ ω' : Type*} {answer : σ → ι → ω} {step' : τ → ι → τ} {answer' : τ → ι → ω'}

/-- The lockstep rule for the answers to the inputs of an observer. -/
theorem ownAnswers_lockstep {R : σ → τ → Prop} {A : ω → ω' → Prop} {own : ι → Prop}
    [DecidablePred own]
    (hstep : ∀ s t x, R s t → P s x → R (step s x) (step' t x) ∧ A (answer s x) (answer' t x))
    {s : σ} {t : τ} (hst : R s t) {xs : List ι} (hxs : Throughout step P s xs) :
    List.Forall₂ A (ownAnswers step answer (fun _ x ↦ own x) s xs)
      (ownAnswers step' answer' (fun _ x ↦ own x) t xs) := by
  induction xs generalizing s t with
  | nil => exact List.Forall₂.nil
  | cons x xs ih =>
    obtain ⟨hnext, hanswer⟩ := hstep s t x hst hxs.1
    have hrest := ih hnext hxs.2
    rw [ownAnswers, ownAnswers]
    by_cases hx : own x
    · rw [if_pos hx, if_pos hx]
      exact List.Forall₂.cons hanswer hrest
    · rw [if_neg hx, if_neg hx]
      exact hrest

end Lockstep

end Machine
