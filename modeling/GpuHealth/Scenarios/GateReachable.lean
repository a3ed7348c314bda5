/-
Whether a loaded config can produce a score at all.

The property: after window_s / poll_interval_s successive successful polls, exactly poll_interval_s apart
(`PerfectPolls`), `score_gpu` reports telemetry_ok = 1. The ring then holds just these polls, so only the config decides
the gate; `config_validate` looks at none of the settings involved.

- `never_scored`: one poll a minute on a window of a minute. The ring holds one sample, and the gate wants two or more.
- `scored_iff`: for every loaded config, any earlier run and any perfect polls, the score is reported exactly when the
  config can score (`CanScore`).
Witness `scored_small`: four polls 15 s apart.
-/
import GpuHealth.Collector
import GpuHealth.WindowScore

namespace GpuHealth.GateReachable

open GpuHealth.Ring GpuHealth.Scorer GpuHealth.WindowScore GpuHealth.Nvml GpuHealth.Collector GpuHealth.Config
open GpuHealth.Runs

variable {K : Type} [Arith K]

/-- the polls of a window -/
def expected (cfg : GpuConfig (Dbl K)) : ℤ := (cfg.int .windowS).tdiv (cfg.int .pollIntervalS)

/-- a window of successful polls, exactly poll_interval_s apart -/
structure PerfectPolls (exp : Exporter K) (st : PollState K) (polls : List PollEnv) : Prop where
  length : (polls.length : ℤ) = expected exp.cfg
  succeed : AtEveryStep (fun pre env => Publishes exp (run (step exp) st pre) env) polls
  spaced : polls.IsChain fun prev cur =>
    (cur.sampleMs.toNat : ℤ) = prev.sampleMs.toNat + 1000 * exp.cfg.int .pollIntervalS

/-- the gate lets a window of perfect polls pass -/
structure CanScore (cfg : GpuConfig (Dbl K)) : Prop where
  two : 2 ≤ expected cfg
  absolute : cfg.int .minSamplesAbsolute ≤ expected cfg
  step : ¬ cfg.dbl .maxMedianStepS < .fin (cfg.int .pollIntervalS : K)

/-! ## The window of perfect polls -/

/-- samples with the same gap between neighbours -/
theorem steps_of_chain {w : List (GpuSample K)} {g : K} (h : w.IsChain fun prev cur => gateDelta cur prev = g) :
    steps w = List.replicate (w.length - 1) g := by
  induction w with
  | nil => rfl
  | cons a w ih =>
    cases w with
    | nil => rfl
    | cons b w =>
      rw [List.isChain_cons_cons] at h
      obtain ⟨hab, hw⟩ := h
      have hrest := ih hw
      simp only [steps, List.tail_cons, List.zipWith_cons_cons, List.length_cons, Nat.add_sub_cancel] at hrest ⊢
      rw [hab, hrest, List.replicate_succ]

/-- the gap of two polls, in seconds -/
theorem gateDelta_of_spaced {prev cur : GpuSample K} {p : ℤ} (hp : 0 ≤ p)
    (h : (cur.timestampMs.toNat : ℤ) = prev.timestampMs.toNat + 1000 * p) : gateDelta cur prev = (p : K) := by
  have hle : prev.timestampMs ≤ cur.timestampMs := by
    rw [UInt64.le_iff_toNat_le]
    omega
  have hdiff : ((cur.timestampMs - prev.timestampMs).toNat : ℤ) = 1000 * p := by
    rw [UInt64.toNat_sub_of_le _ _ hle]
    omega
  have hcast : ((cur.timestampMs - prev.timestampMs).toNat : K) = 1000 * (p : K) := by
    have hK := congrArg (Int.cast : ℤ → K) hdiff
    push_cast at hK
    exact hK
  have hdt : ((cur.timestampMs - prev.timestampMs).toNat : K) / 1000 = (p : K) := by
    rw [hcast]
    ring
  have hp0 : ¬ (p : K) < 0 := by
    rw [not_lt]
    exact_mod_cast hp
  simp only [gateDelta, hdt, if_neg hp0]

theorem perfect_steps {exp : Exporter K} {st : PollState K} {polls : List PollEnv} (h : PerfectPolls exp st polls)
    (hp : 0 ≤ exp.cfg.int .pollIntervalS) :
    steps (polls.map fun env => (nvmlSample env.nvml env.sampleMs : GpuSample K)) =
      List.replicate (polls.length - 1) (exp.cfg.int .pollIntervalS : K) := by
  have hchain : (polls.map fun env => (nvmlSample env.nvml env.sampleMs : GpuSample K)).IsChain
      fun prev cur => gateDelta cur prev = (exp.cfg.int .pollIntervalS : K) := by
    rw [List.isChain_map]
    apply h.spaced.imp
    intro prev cur hgap
    exact gateDelta_of_spaced hp hgap
  rw [steps_of_chain hchain, List.length_map]

/-- **After a window of perfect polls the ring holds these polls and nothing else.** -/
theorem perfect_window {exp : Exporter K} (hpos : 1 ≤ expected exp.cfg) (ctx : GpuCtx K) (pre polls : List PollEnv)
    (h : PerfectPolls exp (run (step exp) (collectorStart ctx exp) pre) polls) :
    window (run (step exp) (run (step exp) (collectorStart ctx exp) pre) polls).ctx.ring =
      polls.map fun env => nvmlSample env.nvml env.sampleMs := by
  have hcap : (ringCapacity exp.cfg).toNat = polls.length := by
    have hlen := h.length
    have hcapacity : ringCapacity exp.cfg = expected exp.cfg := if_neg (by unfold expected at hpos; omega)
    omega
  rw [← run_append, run_window, outputs_append, outputs_pushed_all h.succeed, hcap, List.rtake]
  simp

/-! ## The gate -/

/-- what the table says about the settings of the gate -/
theorem gate_settings {cfg : GpuConfig (Dbl K)} (h : Admitted cfg) :
    1 ≤ cfg.int .pollIntervalS ∧ 1 ≤ expected cfg ∧
      ¬ .fin ((expected cfg : ℤ) : K) < cfg.dbl .minSampleRatio * .fin ((expected cfg : ℤ) : K) := by
  have hpoll := h.int .pollIntervalS 1 60 (by decide +kernel)
  have hwin := h.int .windowS 60 3600 (by decide +kernel)
  have hexpected : 1 ≤ expected cfg := by
    unfold expected
    rw [Int.tdiv_eq_ediv_of_nonneg (by omega)]
    exact Int.le_ediv_of_mul_le (by omega) (by omega)
  refine ⟨hpoll.1, hexpected, ?_⟩
  rcases h.dbl .minSampleRatio 0 1 (by decide +kernel) with hnan | ⟨r, hr, -, hr1⟩
  · rw [hnan]
    exact Dbl.not_lt_nan _
  · push_cast at hr1
    have h0 : (0 : K) ≤ ((expected cfg : ℤ) : K) := by exact_mod_cast (by omega : 0 ≤ expected cfg)
    rw [hr, Dbl.fin_mul, Dbl.fin_lt_fin, not_lt]
    exact mul_le_of_le_one_left h0 hr1

/-- **A config scores perfect polls exactly when it can score.** -/
theorem scored_iff (fopen getenv : CStr → Option CStr) (path : Option CStr) (exp : Exporter K)
    (hload : configLoad fopen getenv path = some exp.cfg) (ctx : GpuCtx K) (pre polls : List PollEnv)
    (h : PerfectPolls exp (run (step exp) (collectorStart ctx exp) pre) polls) :
    (run (step exp) (run (step exp) (collectorStart ctx exp) pre) polls).ctx.snapshot.telemetryOk = 1 ↔
      CanScore exp.cfg := by
  obtain ⟨hpoll, hexpected, hratio⟩ := gate_settings (configLoad_admitted hload)
  have hlen := h.length
  have hwindow := perfect_window hexpected ctx pre polls h
  have hwf := run_ring_wf exp ctx (pre ++ polls)
  rw [run_append] at hwf
  set st := run (step exp) (collectorStart ctx exp) pre
  -- the snapshot is the last poll's
  have hsnapshot : (run (step exp) st polls).ctx.snapshot.telemetryOk =
      completenessGate (run (step exp) st polls).ctx.ring exp.cfg := by
    rcases List.eq_nil_or_concat polls with rfl | ⟨init, last, rfl⟩
    · simp only [List.length_nil, Nat.cast_zero] at hlen
      omega
    · rw [List.concat_eq_append] at h ⊢
      have hlast := (atEveryStep_snoc.1 h.succeed).2
      obtain ⟨s, hs⟩ := published_isSome.2 hlast
      rw [run_snoc, (step_published hs).1]
      exact (step_published hs).2
  have hsteps := perfect_steps h (by omega)
  have hcount : polls.length = (polls.map fun env => (nvmlSample env.nvml env.sampleMs : GpuSample K)).length :=
    (List.length_map _).symm
  rw [hcount] at hsteps hlen
  have hratio' : ¬ .fin ((polls.map fun env => (nvmlSample env.nvml env.sampleMs : GpuSample K)).length : K) <
      exp.cfg.dbl .minSampleRatio * .fin ((expected exp.cfg : ℤ) : K) := by
    rw [← Int.cast_natCast, hlen]
    exact hratio
  rw [hsnapshot, completenessGate_eq hwf, hwindow, windowGate_uniform hsteps]
  constructor
  · intro hgate
    obtain ⟨habs, -, htwo, hstep⟩ := hgate
    exact ⟨by omega, by omega, hstep⟩
  · intro hcan
    have htwo := hcan.two
    have habs := hcan.absolute
    exact ⟨by omega, hratio', by omega, hcan.step⟩

/-- four polls 15 s apart on a window of a minute -/
theorem scored_small :
    (run (step smallExporter) (run (step smallExporter) (collectorStart .zeroed smallExporter) [])
      [quietEnv 0, quietEnv 15000, quietEnv 30000, quietEnv 45000]).ctx.snapshot.telemetryOk = 1 := by
  have hsucceed : AtEveryStep (fun pre env => Publishes smallExporter
      (run (step smallExporter) (collectorStart .zeroed smallExporter) pre) env)
      ((([] ++ [quietEnv 0]) ++ [quietEnv 15000]) ++ [quietEnv 30000] ++ [quietEnv 45000]) := by
    simp only [atEveryStep_snoc, atEveryStep_nil, true_and]
    refine ⟨⟨⟨?_, ?_⟩, ?_⟩, ?_⟩ <;> decide +kernel
  apply (scored_iff (fun _ => some smallFile) (fun _ => none) (some []) smallExporter smallConfig_load .zeroed [] _
    ⟨by decide +kernel, hsucceed, by decide +kernel⟩).2
  exact ⟨by decide +kernel, by decide +kernel, by decide +kernel⟩

/-! ## A config that never scores -/

def minuteFile : CStr := "poll_interval_s = 60\nwindow_s = 60\n".toList

/-- the config is accepted, its one perfect poll publishes, and no score is reported -/
theorem never_scored : ∃ cfg : GpuConfig (Dbl ℚ),
    configLoad (fun _ => some minuteFile) (fun _ => none) (some []) = some cfg ∧ configValidate cfg = 0 ∧
    PerfectPolls ⟨cfg, 0, -1⟩ (collectorStart .zeroed ⟨cfg, 0, -1⟩) [quietEnv 0] ∧
    (run (step ⟨cfg, 0, -1⟩) (collectorStart .zeroed ⟨cfg, 0, -1⟩) [quietEnv 0]).ctx.snapshot.telemetryOk = 0 := by
  have hload : (configLoad (fun _ => some minuteFile) (fun _ => none) (some []) :
      Option (GpuConfig (Dbl ℚ))).map (fun cfg => (configValidate cfg, expected cfg,
        decide (Publishes ⟨cfg, 0, -1⟩ (collectorStart .zeroed ⟨cfg, 0, -1⟩) (quietEnv 0)),
        (run (step ⟨cfg, 0, -1⟩) (collectorStart .zeroed ⟨cfg, 0, -1⟩) [quietEnv 0]).ctx.snapshot.telemetryOk)) =
      some (0, 1, true, 0) := by
    decide +kernel
  obtain ⟨cfg, hcfg, hfields⟩ := Option.map_eq_some_iff.1 hload
  obtain ⟨hvalid, hfields⟩ := Prod.mk.inj hfields
  obtain ⟨hexpected, hfields⟩ := Prod.mk.inj hfields
  obtain ⟨hpublishes, hscore⟩ := Prod.mk.inj hfields
  have hsucceed : AtEveryStep (fun pre env => Publishes ⟨cfg, 0, -1⟩
      (run (step ⟨cfg, 0, -1⟩) (collectorStart .zeroed ⟨cfg, 0, -1⟩) pre) env) [quietEnv 0] :=
    atEveryStep_snoc.2 ⟨atEveryStep_nil _, of_decide_eq_true hpublishes⟩
  exact ⟨cfg, hcfg, hvalid, ⟨hexpected.symm, hsucceed, List.isChain_singleton _⟩, hscore⟩

end GpuHealth.GateReachable
