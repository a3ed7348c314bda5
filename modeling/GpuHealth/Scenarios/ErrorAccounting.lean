/-
The error counters over whole runs of the poll loop.

`counters_account`: with a loaded config, after any run (any mix of successes, soft errors, hard errors and iterations
that only sleep) in which the GPU has not been declared lost,
- consecutive_errors is the number of failed polls since the last success;
- collector_errors_total is the number of failed polls, as the uint64_t it is;
- consecutive_hard_errors is at most consecutive_errors and below nvml_hard_error_threshold;
- gpu_available is 0 exactly when consecutive_errors has reached nvml_error_threshold.
Witness `counters_account_outage`: a success, ten soft errors, a retry that fails and a back-off.

The invariant is `ErrorTracking.Accounted`, on the outcomes of the run's attempts.
-/
import GpuHealth.ErrorTracking

namespace GpuHealth.ErrorAccounting

open GpuHealth.Collector GpuHealth.Config GpuHealth.ErrorTracking GpuHealth.Nvml GpuHealth.Runs

variable {K : Type} [Arith K]

/-- what the counters of `ctx` say of the outcomes `l` of all polls so far -/
structure CountersAccount (cfg : GpuConfig (Dbl K)) (l : List Outcome) (ctx : GpuCtx K) : Prop where
  consecutive : ctx.consecutiveErrors = (l.rtakeWhile Outcome.failed).length
  total : ctx.collectorErrorsTotal = UInt64.ofNat (l.filter Outcome.failed).length
  hardAtMost : ctx.consecutiveHardErrors ≤ ctx.consecutiveErrors
  hardBelow : ctx.consecutiveHardErrors < cfg.int .nvmlHardErrorThreshold
  unavailable : ctx.gpuAvailable = 0 ↔ cfg.int .nvmlErrorThreshold ≤ ctx.consecutiveErrors

omit [Arith K] in
theorem countersAccount_of {cfg : GpuConfig (Dbl K)} (hsoft : 1 ≤ cfg.int .nvmlErrorThreshold) {l : List Outcome}
    {ctx : GpuCtx K} (h : Accounted (thresholds cfg) l (tracking ctx)) : CountersAccount cfg l ctx where
  consecutive := h.errors
  total := h.total.trans (by rw [List.countP_eq_length_filter])
  hardAtMost := by
    calc ctx.consecutiveHardErrors = hardSinceSuccess l := h.hardErrors
      _ ≤ (sinceSuccess l).length := by exact_mod_cast List.countP_le_length
      _ = ctx.consecutiveErrors := h.errors.symm
  hardBelow := h.below
  unavailable := by
    have hflag : ctx.gpuAvailable = if ctx.consecutiveErrors ≥ cfg.int .nvmlErrorThreshold then 0 else 1 := h.flag hsoft
    rw [hflag]
    split_ifs with hdown <;> simp [hdown]

/-- **The counters of a GPU that is not lost count its failed polls.** -/
theorem counters_account (fopen getenv : CStr → Option CStr) (path : Option CStr) (exp : Exporter K)
    (hcfg : configLoad fopen getenv path = some exp.cfg) (ctx : GpuCtx K) (envs : List PollEnv)
    (hpresent : (run (step exp) (collectorStart ctx exp) envs).ctx.gpuPresent ≠ 0) :
    CountersAccount exp.cfg (polls exp (collectorStart ctx exp) envs)
      (run (step exp) (collectorStart ctx exp) envs).ctx := by
  have hsoft : 1 ≤ exp.cfg.int .nvmlErrorThreshold :=
    (configLoad_admitted hcfg ⟨"nvml_error_threshold".toList, .int .nvmlErrorThreshold 1 1000⟩ (by decide +kernel)).1
  have hhard : 1 ≤ exp.cfg.int .nvmlHardErrorThreshold :=
    (configLoad_admitted hcfg ⟨"nvml_hard_error_threshold".toList, .int .nvmlHardErrorThreshold 1 100⟩
      (by decide +kernel)).1
  exact countersAccount_of hsoft (run_accounted hhard ctx envs hpresent)

/-- ten soft errors after a success, a retry that fails too, and an iteration that backs off -/
def softOutage : List PollEnv :=
  quietEnv 0 :: (List.replicate 10 (failingEnv 70000 999) ++ [failingEnv 100000 999, failingEnv 140000 999])

theorem counters_account_outage :
    polls smallExporter (collectorStart .zeroed smallExporter) softOutage = .success :: List.replicate 11 .soft ∧
    CountersAccount smallExporter.cfg (polls smallExporter (collectorStart .zeroed smallExporter) softOutage)
      (run (step smallExporter) (collectorStart .zeroed smallExporter) softOutage).ctx :=
  ⟨by decide +kernel,
    counters_account _ _ _ smallExporter smallConfig_load .zeroed softOutage (by decide +kernel)⟩

end GpuHealth.ErrorAccounting
