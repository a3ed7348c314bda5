/-
When a GPU is declared lost: the streak of hard errors.

The property: gpu_present becomes 0 at a poll exactly when that poll and the k - 1 polls just before it all returned a
hard error (GPU_IS_LOST or DRIVER_NOT_LOADED), k = nvml_hard_error_threshold. It fails. A success resets
consecutive_hard_errors, a soft error does not, so hard, soft, hard is a streak of two (`soft_error_between`).

`lostOnStreak_iff`: for every threshold k >= 1 and every run, the property holds at every poll of the run if and only
if, whenever the hard errors since the last success have come to k, the last k polls were all hard errors. A run
without soft errors between hard ones meets it, and so does every run with k = 1.
Witness `lostOnStreak_in_a_row`: a soft error first, then two hard ones.
-/
import GpuHealth.ErrorTracking

namespace GpuHealth.HardStreak

open GpuHealth.Collector GpuHealth.Config GpuHealth.ErrorTracking GpuHealth.Nvml GpuHealth.Runs

variable {K : Type} [Arith K]

/-! ## The property -/

/-- the iteration declares the GPU lost -/
def DeclaresLost (exp : Exporter K) (st : PollState K) (env : PollEnv) : Prop :=
  st.ctx.gpuPresent ≠ 0 ∧ (step exp st env).ctx.gpuPresent = 0

instance (exp : Exporter K) (st : PollState K) (env : PollEnv) : Decidable (DeclaresLost exp st env) :=
  inferInstanceAs (Decidable (_ ∧ _))

/-- the last `k` outcomes of `l` are all hard errors -/
def LastHard (k : ℤ) (l : List Outcome) : Prop := k ≤ l.length ∧ ∀ o ∈ l.rtake k.toNat, o = .hard

instance (k : ℤ) (l : List Outcome) : Decidable (LastHard k l) := inferInstanceAs (Decidable (_ ∧ _))

/-- the iteration polls, and then it declares the GPU lost exactly when the last polls were all hard errors -/
def LostOnStreak (exp : Exporter K) (st : PollState K) (envs : List PollEnv) : Prop :=
  AtEveryStep (fun pre env => DeclaresLost exp (run (step exp) st pre) env ↔
    ∃ o, polled exp (run (step exp) st pre) env = some o ∧
      LastHard (exp.cfg.int .nvmlHardErrorThreshold) (polls exp st pre ++ [o])) envs

/-- when the hard errors since the last success have come to `k`, they are the last `k` polls -/
def Unbroken (k : ℤ) (l : List Outcome) : Prop := k ≤ hardSinceSuccess l → LastHard k l

instance (k : ℤ) (l : List Outcome) : Decidable (Unbroken k l) := inferInstanceAs (Decidable (_ → _))

/-! ## The streak -/

/-- the last `n` of a list all meet `p` exactly when the run of `p` at its end is as long -/
theorem le_length_rtakeWhile {α : Type} (p : α → Bool) (l : List α) (n : ℕ) :
    n ≤ (l.rtakeWhile p).length ↔ n ≤ l.length ∧ ∀ x ∈ l.rtake n, p x = true := by
  induction l using List.reverseRecOn generalizing n with
  | nil => simp
  | append_singleton l x ih =>
    rcases n with _ | n
    · simp
    · rw [List.rtake_concat_succ, List.forall_mem_append, List.forall_mem_singleton, List.length_append,
        List.length_singleton, Nat.add_le_add_iff_right]
      by_cases hx : p x = true
      · rw [List.rtakeWhile_concat_pos _ _ _ hx, List.length_append, List.length_singleton, Nat.add_le_add_iff_right,
          ih n]
        exact ⟨fun h => ⟨h.1, h.2, hx⟩, fun h => ⟨h.1, h.2.1⟩⟩
      · rw [List.rtakeWhile_concat_neg _ _ _ hx]
        exact ⟨fun h => absurd h (Nat.not_succ_le_zero n), fun h => absurd h.2.2 hx⟩

theorem lastHard_iff {k : ℤ} (hk : 1 ≤ k) (l : List Outcome) : LastHard k l ↔ k ≤ hardStreak l := by
  obtain ⟨n, rfl⟩ := Int.eq_ofNat_of_zero_le (by omega : 0 ≤ k)
  have hstreak := le_length_rtakeWhile Outcome.isHard l n
  simp only [Outcome.isHard, decide_eq_true_eq] at hstreak
  unfold LastHard hardStreak
  rw [Int.toNat_natCast, Int.ofNat_le, Int.ofNat_le]
  exact hstreak.symm

theorem LastHard.le_hardSinceSuccess {k : ℤ} (hk : 1 ≤ k) {l : List Outcome} (h : LastHard k l) :
    k ≤ hardSinceSuccess l :=
  calc k ≤ hardStreak l := (lastHard_iff hk l).1 h
    _ ≤ hardSinceSuccess l := by exact_mod_cast hardStreak_le l

/-! ## The loss -/

/-- what the code counts: the loss comes when the hard errors since the last success reach the threshold -/
theorem declaresLost_iff {exp : Exporter K} (hk : 1 ≤ exp.cfg.int .nvmlHardErrorThreshold) (ctx : GpuCtx K)
    (envs : List PollEnv) (env : PollEnv) :
    DeclaresLost exp (run (step exp) (collectorStart ctx exp) envs) env ↔
      ∃ o, polled exp (run (step exp) (collectorStart ctx exp) envs) env = some o ∧
        exp.cfg.int .nvmlHardErrorThreshold ≤ hardSinceSuccess (polls exp (collectorStart ctx exp) envs ++ [o]) := by
  have hacc := run_accounted hk ctx envs
  have hnow := step_tracking exp (run (step exp) (collectorStart ctx exp) envs) env
  unfold DeclaresLost
  generalize run (step exp) (collectorStart ctx exp) envs = st at hacc hnow ⊢
  generalize polls exp (collectorStart ctx exp) envs = l at hacc ⊢
  have hpresent := congrArg Tracking.present hnow
  change (step exp st env).ctx.gpuPresent = _ at hpresent
  cases hpoll : polled exp st env with
  | none =>
    rw [hpoll] at hpresent
    constructor
    · intro hlost
      exact absurd (hpresent.symm.trans hlost.2) hlost.1
    · rintro ⟨o, ho, -⟩
      cases ho
  | some o =>
    have hbefore : st.ctx.gpuPresent ≠ 0 := by
      intro h0
      rw [polled_none env h0] at hpoll
      cases hpoll
    rw [hpoll] at hpresent
    rcases (hacc hbefore).after o with hcounted | ⟨rfl, hreached, hlost⟩
    · -- the counters go on: the GPU is not lost, and the count is below the threshold
      have hstays : (step exp st env).ctx.gpuPresent = 1 := hpresent.trans hcounted.present
      have hbelow : ¬ exp.cfg.int .nvmlHardErrorThreshold ≤ hardSinceSuccess (l ++ [o]) :=
        not_le.2 (hcounted.hardErrors ▸ hcounted.below)
      constructor
      · intro hlost
        exact absurd (hstays.symm.trans hlost.2) one_ne_zero
      · rintro ⟨o', ho', hreached⟩
        cases ho'
        exact absurd hreached hbelow
    · exact ⟨fun _ => ⟨.hard, rfl, hreached⟩, fun _ => ⟨hbefore, hpresent.trans hlost⟩⟩

/-! ## The condition -/

/-- **When a loss means a streak.** At every poll, if and only if no run of hard errors that reaches the threshold is
broken by a soft one. -/
theorem lostOnStreak_iff (exp : Exporter K) (hk : 1 ≤ exp.cfg.int .nvmlHardErrorThreshold) (ctx : GpuCtx K)
    (envs : List PollEnv) :
    LostOnStreak exp (collectorStart ctx exp) envs ↔
      AtEveryStep (fun pre env => ∀ o, polled exp (run (step exp) (collectorStart ctx exp) pre) env = some o →
        Unbroken (exp.cfg.int .nvmlHardErrorThreshold) (polls exp (collectorStart ctx exp) pre ++ [o])) envs := by
  unfold LostOnStreak
  simp only [declaresLost_iff hk]
  constructor
  · intro hexact
    refine hexact.imp ?_
    intro pre env hstep o hpoll hreached
    obtain ⟨o', hpoll', hlast⟩ := hstep.1 ⟨o, hpoll, hreached⟩
    obtain rfl : o = o' := Option.some.inj (hpoll.symm.trans hpoll')
    exact hlast
  · intro hunbroken
    refine hunbroken.imp ?_
    intro pre env hstep
    constructor
    · rintro ⟨o, hpoll, hreached⟩
      exact ⟨o, hpoll, hstep o hpoll hreached⟩
    · rintro ⟨o, hpoll, hlast⟩
      exact ⟨o, hpoll, hlast.le_hardSinceSuccess hk⟩

/-! ## Two strikes -/

/-- the small exporter with a threshold of two hard errors -/
def twoStrikes : Exporter ℚ :=
  { smallExporter with cfg := { smallExporter.cfg with
      int := Function.update smallExporter.cfg.int .nvmlHardErrorThreshold 2 } }

/-- a soft error, then two hard ones -/
def inARow : List PollEnv := [failingEnv 0 999, failingEnv 15000 errorGpuIsLost, failingEnv 30000 errorDriverNotLoaded]

theorem lostOnStreak_in_a_row : LostOnStreak twoStrikes (collectorStart .zeroed twoStrikes) inARow ∧
    DeclaresLost twoStrikes (run (step twoStrikes) (collectorStart .zeroed twoStrikes) (inARow.take 2))
      (failingEnv 30000 errorDriverNotLoaded) := by
  refine ⟨(lostOnStreak_iff twoStrikes (by decide +kernel) .zeroed inARow).2 ?_, by decide +kernel⟩
  unfold inARow
  rw [← List.nil_append [_, _, _], List.append_cons, List.append_cons]
  simp only [atEveryStep_snoc, atEveryStep_nil, true_and]
  refine ⟨⟨?_, ?_⟩, ?_⟩
  all_goals
    intro o hpoll
    cases hpoll
    decide +kernel

def strikesFile : CStr := "nvml_hard_error_threshold = 2\n".toList

/-- a soft error between two hard ones -/
def interrupted : List PollEnv := [failingEnv 0 errorGpuIsLost, failingEnv 15000 999]

/-- With a threshold of two, hard, soft, hard loses the GPU. -/
theorem soft_error_between : ∃ cfg : GpuConfig (Dbl ℚ),
    configLoad (fun _ => some strikesFile) (fun _ => none) (some []) = some cfg ∧
    cfg.int .nvmlHardErrorThreshold = 2 ∧
    polls ⟨cfg, 0, -1⟩ (collectorStart .zeroed ⟨cfg, 0, -1⟩) interrupted = [.hard, .soft] ∧
    DeclaresLost ⟨cfg, 0, -1⟩ (run (step ⟨cfg, 0, -1⟩) (collectorStart .zeroed ⟨cfg, 0, -1⟩) interrupted)
      (failingEnv 30000 errorGpuIsLost) ∧
    ¬ LostOnStreak ⟨cfg, 0, -1⟩ (collectorStart .zeroed ⟨cfg, 0, -1⟩)
      (interrupted ++ [failingEnv 30000 errorGpuIsLost]) := by
  have hload : (configLoad (fun _ => some strikesFile) (fun _ => none) (some []) :
      Option (GpuConfig (Dbl ℚ))).map (fun cfg => (cfg.int .nvmlHardErrorThreshold,
        polls ⟨cfg, 0, -1⟩ (collectorStart .zeroed ⟨cfg, 0, -1⟩) interrupted,
        decide (DeclaresLost ⟨cfg, 0, -1⟩ (run (step ⟨cfg, 0, -1⟩) (collectorStart .zeroed ⟨cfg, 0, -1⟩) interrupted)
          (failingEnv 30000 errorGpuIsLost)))) = some (2, [.hard, .soft], true) := by
    decide +kernel
  obtain ⟨cfg, hcfg, hfields⟩ := Option.map_eq_some_iff.1 hload
  obtain ⟨hthreshold, hfields⟩ := Prod.mk.inj hfields
  obtain ⟨hpolls, hlost⟩ := Prod.mk.inj hfields
  refine ⟨cfg, hcfg, hthreshold, hpolls, of_decide_eq_true hlost, ?_⟩
  intro hexact
  obtain ⟨o, -, hlast⟩ := ((atEveryStep_snoc.1 hexact).2).1 (of_decide_eq_true hlost)
  change LastHard (cfg.int .nvmlHardErrorThreshold) _ at hlast
  rw [hthreshold, hpolls] at hlast
  exact absurd (hlast.2 .soft (by cases o <;> decide)) (by decide)

end GpuHealth.HardStreak
