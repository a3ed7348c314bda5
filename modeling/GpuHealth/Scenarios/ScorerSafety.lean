/-
No index, `int` expression or division of the scorer goes wrong.

The property: for every config accepted by `config_load`, the ring capacity computed by `collector_start` and every ring
reachable by `ring_push`, during `score_gpu` every ring index lies in [0, capacity), every store to the gate's `deltas`
has an index below 3600, the median and rank indices lie inside the sorted arrays, the stack buffer of `ring_p95` is
used only up to 300 samples, no intermediate `int` expression leaves the 32-bit range, and every integer or real divisor
reached is non-zero.

`scorer_safe`: the scorer with all of these checks (`CheckedScorer`) never fails, and returns what `Scorer` returns. The
state, the baseline and the probe result are arbitrary, and so is what stands in the arrays and what `malloc` returns.
Witness `scorer_safe_small`: the small config, five hot polls, a baseline and a probe result that has lost a quarter of
its performance.

`config_load` alone is enough: neither `config_validate` nor the absence of NaN among the doubles is needed.
-/
import GpuHealth.CheckedScorer

namespace GpuHealth.ScorerSafety

open GpuHealth.Ring GpuHealth.Config GpuHealth.Collector GpuHealth.CheckedScorer

variable {K : Type} [Arith K]

/-- the rows of the table that the scorer divides by -/
theorem safeConfig_of_load {fopen getenv : CStr → Option CStr} {path : Option CStr} {cfg : GpuConfig (Dbl K)}
    (hload : configLoad fopen getenv path = some cfg) : SafeConfig cfg := by
  have hrows := configLoad_admitted hload
  have hwindow := hrows.int .windowS 60 3600 (by decide +kernel)
  have hpoll := hrows.int .pollIntervalS 1 60 (by decide +kernel)
  refine ⟨by omega, hwindow.2, by omega, ?_⟩
  intro hzero
  rcases hrows.dbl .clkStdWarnMhz 1 1000 (by decide +kernel) with hnan | ⟨x, hx, hlow, -⟩
  · rw [hnan] at hzero
    cases hzero
  · rw [hx, Dbl.fin.injEq] at hzero
    rw [hzero, Rat.cast_one] at hlow
    exact absurd hlow (not_le.2 one_pos)

theorem ringCapacity_le {cfg : GpuConfig (Dbl K)} (hcfg : SafeConfig cfg) : Collector.ringCapacity cfg ≤ 3600 := by
  have hle := (Checked.tdiv_range hcfg.windowS_nonneg hcfg.pollIntervalS_pos).2
  have hwindow := hcfg.windowS_le
  simp only [Collector.ringCapacity]
  split_ifs <;> omega

/-- the ring that `collector_start` allocates, after any pushes -/
def reachedRing (exp : Exporter K) (ctx : GpuCtx K) (pushes : List (GpuSample K)) : GpuRing K :=
  pushes.foldl ringPush (collectorStart ctx exp).ctx.ring

theorem bounded_reachedRing {exp : Exporter K} (hcfg : SafeConfig exp.cfg) (ctx : GpuCtx K)
    (pushes : List (GpuSample K)) :
    Bounded (reachedRing exp ctx pushes) ∧ (reachedRing exp ctx pushes).count ≤ 3600 := by
  have hwf : RingWf (reachedRing exp ctx pushes) := wf_pushAll (start_ring_wf ctx exp) pushes
  have hcapacity : (reachedRing exp ctx pushes).capacity ≤ 3600 := by
    rw [reachedRing, pushAll_capacity]
    exact ringCapacity_le hcfg
  exact ⟨⟨hwf, by omega⟩, hwf.count_le.trans hcapacity⟩

/-- **The scorer never fails.** -/
theorem scorer_safe (exp : Exporter K) {fopen getenv : CStr → Option CStr} {path : Option CStr}
    (hload : configLoad fopen getenv path = some exp.cfg) (ctx : GpuCtx K) (pushes : List (GpuSample K))
    (mem : ScorerMemory K) (state : GpuState K) (baseline : Option (GpuBaseline K)) (probe : Option (GpuProbeResult K)) :
    CheckedScorer.ringCapacity exp.cfg = some (collectorStart ctx exp).ctx.ring.capacity ∧
    CheckedScorer.scoreGpu mem (reachedRing exp ctx pushes) state baseline probe exp.cfg =
      some (Scorer.scoreGpu (mem.served (reachedRing exp ctx pushes).count) (reachedRing exp ctx pushes) state baseline
        probe exp.cfg) := by
  have hcfg := safeConfig_of_load hload
  obtain ⟨hbounded, hcount⟩ := bounded_reachedRing hcfg ctx pushes
  exact ⟨ringCapacity_checked hcfg, scoreGpu_checked hbounded (by omega) hcfg mem state baseline probe⟩

/-! ## A hot GPU with a slow probe -/

def hotSample (t : UInt64) : GpuSample ℚ := { (GpuSample.zeroed : GpuSample ℚ) with tempC := 95, timestampMs := t }

/-- five polls, 15 s apart, into a ring of four -/
def hotPushes : List (GpuSample ℚ) := [0, 15000, 30000, 45000, 60000].map hotSample

def measuredBaseline : GpuBaseline ℚ :=
  { (GpuBaseline.zeroed : GpuBaseline ℚ) with available := 1, valid := 1, perfWMean := .fin 4 }

def slowProbe : GpuProbeResult ℚ := { (GpuProbeResult.zeroed : GpuProbeResult ℚ) with available := 1, perfWMean := .fin 3 }

/-- the gate passes, and the temperature and the lost quarter of the performance are penalised -/
theorem scorer_safe_small : CheckedScorer.ringCapacity smallExporter.cfg = some 4 ∧
    ∃ out, CheckedScorer.scoreGpu zeroMemory (reachedRing smallExporter .zeroed hotPushes) .zeroed
      (some measuredBaseline) (some slowProbe) smallExporter.cfg = some out ∧ out.telemetryOk = 1 ∧
      out.score = .fin 45 := by
  obtain ⟨hcapacity, hscore⟩ := scorer_safe smallExporter smallConfig_load .zeroed hotPushes zeroMemory .zeroed
    (some measuredBaseline) (some slowProbe)
  exact ⟨hcapacity, _, hscore, by decide +kernel, by decide +kernel⟩

end GpuHealth.ScorerSafety
