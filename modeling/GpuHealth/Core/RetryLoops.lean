/-
Loops that repeat a failed call when `errno` says that it was interrupted. General: nothing here names a program.

A loop is fed what its calls return, one after the other: `body` answers with the state of a loop that goes on, or
(`.error`) with what the loop returns. A `Call` is the return value and the value that `errno` gets; none where the call
leaves `errno` as it is. `errnoLeft` is what a sequence of calls leaves in it.

`ends_iff`: a loop that goes by `errno` where a call fails returns from a failure that lasts and leaves `errno` alone
exactly when the calls before it have not left `EINTR` behind (`headed_ends_iff` where it may return without a call).
-/
import Mathlib.Tactic

namespace GpuHealth.RetryLoops

def eintr : ℤ := 4

structure Call (α : Type) where
  ret : α
  errno : Option ℤ

variable {α ρ σ : Type}

def errnoLeft (errno : ℤ) (calls : List (Call α)) : ℤ := calls.foldl (fun e c => c.errno.getD e) errno

/-- the loop goes on -/
def Running (r : Except ρ σ) : Prop := ∃ s, r = .ok s

/-- after `calls`, finitely many failing ones make the loop return `ret` -/
def EndsWith (run : List (Call α) → Except ρ σ) (ret : ρ) (failing : Call α) (calls : List (Call α)) : Prop :=
  ∃ n, run (calls ++ List.replicate n failing) = .error ret

/-- a loop body that goes by `errno` where a call is `failing` -/
structure GoesByErrno (body : σ → Call α → Except ρ σ) (errno : σ → ℤ) (ret : ρ) (failing : Call α) : Prop where
  keeps : failing.errno = none
  /-- the state follows what calls do to `errno` -/
  follows : ∀ s c s', body s c = .ok s' → errno s' = c.errno.getD (errno s)
  stops : ∀ s, errno s ≠ eintr → body s failing = .error ret
  retries : ∀ s, errno s = eintr → Running (body s failing)

variable {body : σ → Call α → Except ρ σ} {errno : σ → ℤ} {ret : ρ} {failing : Call α}

theorem errno_of_run (h : GoesByErrno body errno ret failing) {s s' : σ} {calls : List (Call α)}
    (hrun : calls.foldlM body s = .ok s') : errno s' = errnoLeft (errno s) calls := by
  induction calls generalizing s with
  | nil =>
    cases hrun
    rfl
  | cons c calls ih =>
    rw [List.foldlM_cons] at hrun
    cases hstep : body s c with
    | error r =>
      rw [hstep] at hrun
      cases hrun
    | ok mid =>
      rw [hstep] at hrun
      rw [ih hrun, h.follows s c mid hstep]
      rfl

/-- with `EINTR` left behind, the loop goes on through any number of failing calls -/
theorem running_of_eintr (h : GoesByErrno body errno ret failing) {s : σ} (hs : errno s = eintr) (n : ℕ) :
    Running ((List.replicate n failing).foldlM body s) := by
  induction n generalizing s with
  | zero => exact ⟨s, rfl⟩
  | succ n ih =>
    obtain ⟨s', hs'⟩ := h.retries s hs
    have hkept : errno s' = eintr := by rw [h.follows s failing s' hs', h.keeps, Option.getD_none, hs]
    rw [List.replicate_succ, List.foldlM_cons, hs']
    exact ih hkept

/-- **When a loop returns from a lasting failure.** -/
theorem ends_iff (h : GoesByErrno body errno ret failing) {s s' : σ} {calls : List (Call α)}
    (hrun : calls.foldlM body s = .ok s') :
    EndsWith (fun cs => cs.foldlM body s) ret failing calls ↔ errnoLeft (errno s) calls ≠ eintr := by
  have hmore : ∀ n, (calls ++ List.replicate n failing).foldlM body s =
      (List.replicate n failing).foldlM body s' := by
    intro n
    rw [List.foldlM_append, hrun]
    rfl
  rw [← errno_of_run h hrun]
  refine ⟨?_, fun hne => ⟨1, ?_⟩⟩
  · rintro ⟨n, hend⟩ heintr
    obtain ⟨s'', hgoes⟩ := running_of_eintr h heintr n
    dsimp only at hend
    rw [hmore, hgoes] at hend
    cases hend
  · dsimp only
    rw [hmore, List.replicate_one, List.foldlM_cons, h.stops s' hne]
    rfl

/-- the same of a loop that may return before its first call -/
theorem headed_ends_iff (h : GoesByErrno body errno ret failing) {head : Except ρ σ} {s₀ : σ}
    (hhead : ∀ s, head = .ok s → s = s₀) {calls : List (Call α)} (hrun : Running (head >>= calls.foldlM body)) :
    EndsWith (fun cs => head >>= cs.foldlM body) ret failing calls ↔ errnoLeft (errno s₀) calls ≠ eintr := by
  obtain ⟨s, hs⟩ := hrun
  cases hstart : head with
  | error r =>
    rw [hstart] at hs
    cases hs
  | ok start =>
    obtain rfl := hhead start hstart
    rw [hstart] at hs
    exact ends_iff h hs

end GpuHealth.RetryLoops
