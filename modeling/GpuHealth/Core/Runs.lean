/-
Runs of a state machine with inputs and observed outputs. General: nothing here names a program.

A machine is a step function `step : σ → ι → σ`; an observer is a partial function `out : σ → ι → Option ο` of the
state before a step and the step's input.
- `run`: the state after a list of inputs;
- `visits`: the (state before, input) pair of every step of the run, in order;
- `outputs`: what the observer saw.

`AtEveryStep Q l` says that `Q` holds of every step of `l` and the inputs before it.
`run_inv` is the invariant rule: what one step preserves holds in every state a run reaches.
`run_inv_of` is its guarded form, for steps that preserve the invariant only when a condition on the state before the
step and its input holds; `foldlM_inv` is its form for a loop that may fail.
-/
import Mathlib.Tactic

namespace GpuHealth.Runs

variable {σ ι ο : Type}

/-- the state after the inputs `l`, from `s` -/
def run (step : σ → ι → σ) (s : σ) (l : List ι) : σ := l.foldl step s

/-- the state before each step of the run, with the step's input -/
def visits (step : σ → ι → σ) : σ → List ι → List (σ × ι)
  | _, [] => []
  | s, i :: l => (s, i) :: visits step (step s i) l

/-- what the observer `out` saw during the run, in order -/
def outputs (step : σ → ι → σ) (out : σ → ι → Option ο) (s : σ) (l : List ι) : List ο :=
  (visits step s l).filterMap fun v => out v.1 v.2

variable (step : σ → ι → σ) (out : σ → ι → Option ο)

@[simp] theorem run_nil (s : σ) : run step s [] = s := rfl

@[simp] theorem run_cons (s : σ) (i : ι) (l : List ι) : run step s (i :: l) = run step (step s i) l := rfl

theorem run_append (s : σ) (a b : List ι) : run step s (a ++ b) = run step (run step s a) b := by
  simp [run, List.foldl_append]

theorem run_snoc (s : σ) (l : List ι) (i : ι) : run step s (l ++ [i]) = step (run step s l) i := by
  simp [run, List.foldl_append]

theorem visits_append (s : σ) (a b : List ι) :
    visits step s (a ++ b) = visits step s a ++ visits step (run step s a) b := by
  induction a generalizing s with
  | nil => rfl
  | cons i a ih => simp only [List.cons_append, visits, run_cons, ih]

@[simp] theorem outputs_nil (s : σ) : outputs step out s [] = [] := rfl

theorem outputs_cons (s : σ) (i : ι) (l : List ι) :
    outputs step out s (i :: l) = (out s i).toList ++ outputs step out (step s i) l := by
  cases h : out s i <;> simp [outputs, visits, h]

theorem outputs_append (s : σ) (a b : List ι) :
    outputs step out s (a ++ b) = outputs step out s a ++ outputs step out (run step s a) b := by
  simp only [outputs, visits_append, List.filterMap_append]

theorem outputs_snoc (s : σ) (l : List ι) (i : ι) :
    outputs step out s (l ++ [i]) = outputs step out s l ++ (out (run step s l) i).toList := by
  rw [outputs_append]
  cases h : out (run step s l) i <;> simp [outputs, visits, h]

/-- a component that makes the steps the observer sees makes the run the observer sees -/
theorem run_component {τ κ : Type} {part : σ → τ} {step' : τ → κ → τ} {step : σ → ι → σ} {out : σ → ι → Option κ}
    (h : ∀ s i, part (step s i) = run step' (part s) (out s i).toList) (s : σ) (l : List ι) :
    part (run step s l) = run step' (part s) (outputs step out s l) := by
  induction l generalizing s with
  | nil => rfl
  | cons i l ih => rw [run_cons, outputs_cons, run_append, ih, h]

/-- the inputs a run's observer keeps come in the order of the inputs -/
theorem outputs_sublist (p : σ → ι → Bool) (s : σ) (l : List ι) :
    (outputs step (fun s i => if p s i then some i else none) s l).Sublist l := by
  induction l generalizing s with
  | nil => exact List.Sublist.refl _
  | cons i l ih =>
    rw [outputs_cons]
    split_ifs
    · exact (ih (step s i)).cons_cons i
    · exact (ih (step s i)).cons i

/-- a visited state is the one reached by the inputs before it -/
theorem mem_visits {s : σ} {l : List ι} {v : σ × ι} (h : v ∈ visits step s l) :
    ∃ pre post, l = pre ++ v.2 :: post ∧ v.1 = run step s pre := by
  induction l generalizing s with
  | nil => simp [visits] at h
  | cons i l ih =>
    rcases List.mem_cons.1 h with rfl | h
    · exact ⟨[], l, rfl, rfl⟩
    · obtain ⟨pre, post, rfl, hv⟩ := ih h
      exact ⟨i :: pre, post, rfl, hv⟩

theorem mem_of_visits {s : σ} {l : List ι} {v : σ × ι} (h : v ∈ visits step s l) : v.2 ∈ l := by
  obtain ⟨pre, post, rfl, -⟩ := mem_visits step h
  simp

/-! ## Properties of every step -/

/-- `Q pre i` for every step of the run `l`: its input `i`, after the inputs `pre` -/
def AtEveryStep (Q : List ι → ι → Prop) (l : List ι) : Prop := ∀ pre i post, l = pre ++ i :: post → Q pre i

@[simp] theorem atEveryStep_nil (Q : List ι → ι → Prop) : AtEveryStep Q [] := by
  intro pre i post h
  exact absurd h (by simp)

/-- one more step -/
theorem atEveryStep_snoc {Q : List ι → ι → Prop} {l : List ι} {i : ι} :
    AtEveryStep Q (l ++ [i]) ↔ AtEveryStep Q l ∧ Q l i := by
  constructor
  · intro h
    refine ⟨?_, h l i [] rfl⟩
    intro pre j post heq
    exact h pre j (post ++ [i]) (by simp [heq])
  · intro h pre j post heq
    obtain ⟨hl, hi⟩ := h
    rcases List.eq_nil_or_concat post with rfl | ⟨post', k, rfl⟩
    · obtain ⟨rfl, hij⟩ := List.append_inj' heq rfl
      obtain rfl : i = j := by simpa using hij
      exact hi
    · rw [List.concat_eq_append, ← List.cons_append, ← List.append_assoc] at heq
      exact hl pre j post' (List.append_inj' heq rfl).1

/-- the steps by their positions -/
theorem atEveryStep_iff_take {Q : List ι → ι → Prop} {l : List ι} :
    AtEveryStep Q l ↔ ∀ k (hk : k < l.length), Q (l.take k) l[k] := by
  constructor
  · intro h k hk
    exact h _ _ (l.drop (k + 1)) (by rw [List.getElem_cons_drop, List.take_append_drop])
  · intro h pre i post heq
    subst heq
    simpa using h pre.length (by simp)

instance (Q : List ι → ι → Prop) [∀ pre i, Decidable (Q pre i)] (l : List ι) : Decidable (AtEveryStep Q l) :=
  decidable_of_iff _ atEveryStep_iff_take.symm

theorem AtEveryStep.imp {Q R : List ι → ι → Prop} {l : List ι} (h : ∀ pre i, Q pre i → R pre i)
    (hQ : AtEveryStep Q l) : AtEveryStep R l :=
  fun pre i post heq => h pre i (hQ pre i post heq)

/-- what holds at every step of a run holds at every step of its beginnings -/
theorem AtEveryStep.initial {Q : List ι → ι → Prop} {l l' : List ι} (h : AtEveryStep Q l) (hl : l' <+: l) :
    AtEveryStep Q l' := by
  obtain ⟨rest, rfl⟩ := hl
  intro pre i post heq
  exact h pre i (post ++ rest) (by simp [heq])

/-- the steps after a beginning -/
theorem AtEveryStep.later {Q : List ι → ι → Prop} {a b : List ι} (h : AtEveryStep Q (a ++ b)) :
    AtEveryStep (fun pre i => Q (a ++ pre) i) b := by
  intro pre i post heq
  exact h (a ++ pre) i post (by rw [heq, List.append_assoc])

/-- a property of the state before the step and its input holds at every step when it holds of all visits -/
theorem atEveryStep_of_visits {Q : σ → ι → Prop} {s : σ} {l : List ι} (h : ∀ v ∈ visits step s l, Q v.1 v.2) :
    AtEveryStep (fun pre i => Q (run step s pre) i) l := by
  intro pre i post heq
  apply h (run step s pre, i)
  rw [heq, visits_append]
  exact List.mem_append_right _ List.mem_cons_self

section Invariant

variable {step}
variable {Inv : σ → Prop}

/-- **Guarded invariant rule.** If every step of the run that meets `ok` preserves `Inv`, and all of them meet it, the
run ends in `Inv`. -/
theorem run_inv_of {ok : σ → ι → Prop} (hstep : ∀ s i, ok s i → Inv s → Inv (step s i)) {s : σ} {l : List ι}
    (hok : ∀ v ∈ visits step s l, ok v.1 v.2) (h : Inv s) : Inv (run step s l) := by
  induction l generalizing s with
  | nil => exact h
  | cons i l ih =>
    exact ih (fun v hv => hok v (List.mem_cons_of_mem _ hv)) (hstep s i (hok (s, i) List.mem_cons_self) h)

/-- **Invariant rule.** -/
theorem run_inv (hstep : ∀ s i, Inv s → Inv (step s i)) {s : σ} (l : List ι) (h : Inv s) : Inv (run step s l) :=
  run_inv_of (fun s i (_ : True) => hstep s i) (fun _ _ => trivial) h

/-- the invariant rule for a loop that may fail -/
theorem foldlM_inv {f : σ → ι → Option σ} {s s' : σ} {l : List ι}
    (hstep : ∀ s s' i, i ∈ l → Inv s → f s i = some s' → Inv s') (h : l.foldlM f s = some s') (hs : Inv s) :
    Inv s' := by
  induction l generalizing s with
  | nil => exact Option.some.inj h ▸ hs
  | cons i l ih =>
    rw [List.foldlM_cons] at h
    obtain ⟨s₁, hi, hl⟩ := Option.bind_eq_some_iff.1 h
    exact ih (fun s s' j hj => hstep s s' j (List.mem_cons_of_mem _ hj)) hl (hstep s s₁ i List.mem_cons_self hs hi)

end Invariant

end GpuHealth.Runs
