/-
Whether a published dcgm_available = 1 means that DCGM still responds, over whole runs of the poll loop.

The property: a published snapshot shows dcgm_available = 1 only if the last dcgm_error_threshold dcgm_poll
calls of the GPU did not all fail (`Truthful`). The code reads dcgm_error_threshold into its config and never looks at
it: `exp->dcgm_available` is set at startup and copied into every snapshot.

- `dead_dcgm_available`: DCGM connected at startup, then ten failed polls in a row (the default threshold); the tenth
  snapshot still shows 1.
- `truthful_iff`: all snapshots of a run are truthful exactly when DCGM was not connected at startup or no
  dcgm_error_threshold successive dcgm_poll calls of the run fail.
Witness `truthful_single_failure`: one failed poll between two successful ones.

Premise: the config comes from `config_load` (its threshold is at least 1).
-/
import GpuHealth.Collector

namespace GpuHealth.DcgmAvailability

open GpuHealth.Collector GpuHealth.Config GpuHealth.Runs GpuHealth.Nvml

variable {K : Type} [Arith K]

/-! ## The property -/

/-- whether each dcgm_poll call of the run succeeded: `GetLatestValues` returned DCGM_ST_OK -/
def dcgmPolls (exp : Exporter K) (st : PollState K) (envs : List PollEnv) : List Bool :=
  outputs (step exp) (fun st env =>
    if Publishes exp st env ∧ exp.dcgmAvailable ≠ 0 then some (decide (env.dcgm.ret = 0)) else none) st envs

/-- as many failed calls as make DCGM count as gone -/
def deadline (cfg : GpuConfig (Dbl K)) : List Bool := List.replicate (cfg.int .dcgmErrorThreshold).toNat false

/-- every snapshot of the run that shows dcgm_available = 1 follows on fewer than dcgm_error_threshold failed calls -/
def Truthful (exp : Exporter K) (st : PollState K) : List PollEnv → Prop :=
  AtEveryStep fun pre env => ∀ s, published exp (run (step exp) st pre) env = some s →
    s.dcgmAvailable = 1 → ¬ deadline exp.cfg <:+ dcgmPolls exp st (pre ++ [env])

/-! ## The condition -/

/-- the snapshot shows the exporter's flag -/
theorem published_dcgmAvailable {exp : Exporter K} {st : PollState K} {env : PollEnv} {s : GpuSnapshot K}
    (h : published exp st env = some s) : s.dcgmAvailable = exp.dcgmAvailable := by
  obtain ⟨ctx, -, -, rfl⟩ := published_eq_some.1 h
  rfl

theorem dcgmPolls_snoc (exp : Exporter K) (st : PollState K) (envs : List PollEnv) (env : PollEnv) :
    dcgmPolls exp st (envs ++ [env]) = dcgmPolls exp st envs ++
      (if Publishes exp (run (step exp) st envs) env ∧ exp.dcgmAvailable ≠ 0 then some (decide (env.dcgm.ret = 0))
        else none).toList :=
  outputs_snoc _ _ _ _ _

/-- one more iteration: the run so far, and the snapshot of the iteration -/
theorem truthful_snoc {exp : Exporter K} {st : PollState K} {envs : List PollEnv} {env : PollEnv} :
    Truthful exp st (envs ++ [env]) ↔ Truthful exp st envs ∧
      (Publishes exp (run (step exp) st envs) env → exp.dcgmAvailable = 1 →
        ¬ deadline exp.cfg <:+ dcgmPolls exp st (envs ++ [env])) := by
  rw [Truthful, atEveryStep_snoc]
  apply and_congr_right
  intro _
  constructor
  · intro h hpub hav
    obtain ⟨s, hs⟩ := published_isSome.2 hpub
    exact h s hs ((published_dcgmAvailable hs).trans hav)
  · intro h s hs h1
    exact h (published_isSome.1 ⟨s, hs⟩) ((published_dcgmAvailable hs).symm.trans h1)

/-- **When dcgm_available is truthful.** -/
theorem truthful_iff (fopen getenv : CStr → Option CStr) (path : Option CStr) (exp : Exporter K)
    (hcfg : configLoad fopen getenv path = some exp.cfg) (ctx : GpuCtx K) (envs : List PollEnv) :
    Truthful exp (collectorStart ctx exp) envs ↔
      exp.dcgmAvailable ≠ 1 ∨ ¬ deadline exp.cfg <:+: dcgmPolls exp (collectorStart ctx exp) envs := by
  have hthr : 1 ≤ exp.cfg.int .dcgmErrorThreshold :=
    (configLoad_admitted hcfg ⟨"dcgm_error_threshold".toList, .int .dcgmErrorThreshold 1 1000⟩ (by decide +kernel)).1
  have hne : deadline exp.cfg ≠ [] := by
    simp only [deadline, ne_eq, List.replicate_eq_nil_iff]; omega
  by_cases hav : exp.dcgmAvailable = 1
  · simp only [hav, ne_eq, not_true_eq_false, false_or]
    induction envs using List.reverseRecOn with
    | nil => simp [Truthful, dcgmPolls, hne]
    | append_singleton envs env ih =>
      rw [truthful_snoc, dcgmPolls_snoc]
      by_cases hpub : Publishes exp (run (step exp) (collectorStart ctx exp) envs) env
      · simp only [hpub, hav, ne_eq, one_ne_zero, not_false_eq_true, and_self, if_true, Option.toList_some, true_implies,
          List.infix_concat_iff, not_or, ih]
        exact and_comm
      · simp [hpub, ih]
  · constructor
    · intro _
      exact Or.inl hav
    · intro _ pre env post heq s hs h1
      exact absurd ((published_dcgmAvailable hs).symm.trans h1) hav

/-- an iteration in which only dcgm_poll fails, with DCGM_ST_STALE_DATA -/
def dcgmFailing (ms : UInt64) : PollEnv := { quietEnv ms with dcgm := ⟨-15, fun _ => ⟨0, 0, 0⟩⟩ }

/-- a single failure is no reason to report DCGM as gone -/
theorem truthful_single_failure :
    Truthful dcgmExporter (collectorStart .zeroed dcgmExporter) [quietEnv 0, dcgmFailing 15000, quietEnv 30000] :=
  (truthful_iff _ _ _ dcgmExporter smallConfig_load .zeroed _).2 (Or.inr (by decide +kernel))

/-! ## DCGM gone -/

/-- nine iterations with a failing dcgm_poll -/
def nineFailures : List PollEnv := [0, 15000, 30000, 45000, 60000, 75000, 90000, 105000, 120000].map dcgmFailing

/-- with the tenth failure in a row the snapshot still shows dcgm_available = 1 -/
theorem dead_dcgm_available :
    dcgmExporter.cfg.int .dcgmErrorThreshold = 10 ∧
    (published dcgmExporter (run (step dcgmExporter) (collectorStart .zeroed dcgmExporter) nineFailures)
      (dcgmFailing 135000)).map GpuSnapshot.dcgmAvailable = some 1 ∧
    dcgmPolls dcgmExporter (collectorStart .zeroed dcgmExporter) (nineFailures ++ [dcgmFailing 135000]) =
      List.replicate 10 false ∧
    ¬ Truthful dcgmExporter (collectorStart .zeroed dcgmExporter) (nineFailures ++ [dcgmFailing 135000]) := by
  have hshown : (published dcgmExporter (run (step dcgmExporter) (collectorStart .zeroed dcgmExporter) nineFailures)
      (dcgmFailing 135000)).map GpuSnapshot.dcgmAvailable = some 1 := by decide +kernel
  have hpolls : dcgmPolls dcgmExporter (collectorStart .zeroed dcgmExporter) (nineFailures ++ [dcgmFailing 135000]) =
      List.replicate 10 false := by decide +kernel
  refine ⟨by decide +kernel, hshown, hpolls, ?_⟩
  intro htruth
  obtain ⟨s, hs, h1⟩ := Option.map_eq_some_iff.1 hshown
  apply htruth nineFailures (dcgmFailing 135000) [] rfl s hs h1
  rw [hpolls]
  exact List.suffix_refl _

end GpuHealth.DcgmAvailability
