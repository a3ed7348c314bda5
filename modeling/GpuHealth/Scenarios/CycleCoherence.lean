/-
Failed polls are atomic, and published snapshots are coherent.

For every run of the poll loop and every next iteration, with arbitrary readings, or arbitrary error codes at any of
the required NVML calls:
- an iteration that does not publish (it sleeps, or some required call fails) leaves the ring, the state and the
  baseline as they were (`unpublished_frame`);
- a published snapshot shows the readings of its own cycle in every raw field, those taken from the ring's newest sample
  and those taken from `gpu_state_t` (`ReadingsOf`), and its score fields are `score_gpu` of the last `capacity`
  successful samples up to and including that cycle, with that cycle's state (`ScoredBy`).
`cycle_coherent` says both, and that the message sent carries that snapshot.
Witness `cycle_coherent_small`: a success, a failed cycle, a success, each with its own readings.

The readings are `cycleSample` and `cycleState`: functions of the cycle's environment alone, up to the static PCIe
maxima of the device (`run_static`). No earlier poll, failed or not, can show in them.
-/
import GpuHealth.Collector
import GpuHealth.WindowScore

namespace GpuHealth.CycleCoherence

open GpuHealth.Ring GpuHealth.Scorer GpuHealth.Nvml GpuHealth.Dcgm GpuHealth.Snapshot GpuHealth.Collector
open GpuHealth.Runs

variable {K : Type} [Arith K]

/-! ## The readings of a cycle -/

/-- what the cycle reads into its sample -/
def cycleSample (env : PollEnv) : GpuSample K := nvmlSample env.nvml env.sampleMs

/-- what the cycle reads into its state, on the device `device` -/
def cycleState (exp : Exporter K) (device : GpuCtx K) (env : PollEnv) : GpuState K :=
  dcgmState exp env (nvmlState env.nvml (freshState device))

/-- every raw field of the snapshot shows this sample and this state -/
structure ReadingsOf (s : GpuSnapshot K) (sample : GpuSample K) (state : GpuState K) : Prop where
  powerW : s.powerW = sample.powerW
  powerLimitW : s.powerLimitW = sample.powerLimitW
  tempC : s.tempC = sample.tempC
  hbmTempC : s.hbmTempC = sample.hbmTempC
  smClockMhz : s.smClockMhz = sample.smClockMhz
  eccSbeVolatile : s.eccSbeVolatile = sample.eccSbeVolatile
  eccDbeVolatile : s.eccDbeVolatile = sample.eccDbeVolatile
  eccSbeAggregate : s.eccSbeAggregate = state.eccSbeAggregate
  eccDbeAggregate : s.eccDbeAggregate = state.eccDbeAggregate
  retiredPagesSbe : s.retiredPagesSbe = state.retiredPagesSbe
  retiredPagesDbe : s.retiredPagesDbe = state.retiredPagesDbe
  rowRemapFailures : s.rowRemapFailures = state.rowRemapFailures
  pendingRowRemap : s.pendingRowRemap = state.pendingRowRemap
  memUsedBytes : s.memUsedBytes = state.memUsedBytes
  memFreeBytes : s.memFreeBytes = state.memFreeBytes
  memTotalBytes : s.memTotalBytes = state.memTotalBytes
  memBwUtilPct : s.memBwUtilPct = state.memBwUtilPct
  pcieLinkGen : s.pcieLinkGen = state.pcieLinkGen
  pcieLinkWidth : s.pcieLinkWidth = state.pcieLinkWidth
  pcieReplayCount : s.pcieReplayCount = state.pcieReplayCount
  nvlinkReplayCount : s.nvlinkReplayCount = state.nvlinkReplayCount
  nvlinkRecoveryCount : s.nvlinkRecoveryCount = state.nvlinkRecoveryCount
  nvlinkCrcCount : s.nvlinkCrcCount = state.nvlinkCrcCount
  xidCount : s.xidCount = state.xidCount
  xidLastCode : s.xidLastCode = state.xidLastCode
  boardPowerW : s.boardPowerW = state.boardPowerW
  energyJ : s.energyJ = state.energyJ
  powerViolationUs : s.powerViolationUs = state.powerViolationUs
  thermalViolationUs : s.thermalViolationUs = state.thermalViolationUs
  throttleSwPowerCap : s.throttleSwPowerCap = state.throttleSwPowerCap
  throttleHwSlowdown : s.throttleHwSlowdown = state.throttleHwSlowdown
  throttleHwPowerBrake : s.throttleHwPowerBrake = state.throttleHwPowerBrake
  throttleSwThermal : s.throttleSwThermal = state.throttleSwThermal
  throttleHwThermal : s.throttleHwThermal = state.throttleHwThermal
  memClockMhz : s.memClockMhz = state.memClockMhz
  utilGpuPct : s.utilGpuPct = state.utilGpuPct
  utilMemPct : s.utilMemPct = state.utilMemPct
  pstate : s.pstate = state.pstate
  fanSpeedPct : s.fanSpeedPct = state.fanSpeedPct

/-- the score fields of the snapshot are this result -/
structure ScoredBy (s : GpuSnapshot K) (r : GpuScoreResult K) : Prop where
  score : s.score = r.score
  classification : s.classification = r.classification
  reasonMask : s.reasonMask = r.reasonMask
  telemetryOk : s.telemetryOk = r.telemetryOk
  tempP95C : s.tempP95C = r.tempP95C
  hbmTempP95C : s.hbmTempP95C = r.hbmTempP95C
  clkStdMhz : s.clkStdMhz = r.clkStdMhz
  powerSaturationFrac : s.powerSaturationFrac = r.powerSaturationFrac
  eccSbeRatePerHour : s.eccSbeRatePerHour = r.eccSbeRatePerHour
  eccDbeInWindow : s.eccDbeInWindow = r.eccDbeInWindow
  perfDropFrac : s.perfDropFrac = r.perfDropFrac

/-- the samples of the successful cycles of a run, oldest first -/
def successes (exp : Exporter K) (ctx : GpuCtx K) (envs : List PollEnv) : List (GpuSample K) :=
  outputs (step exp) (fun st env => if Publishes exp st env then some (cycleSample env) else none)
    (collectorStart ctx exp) envs

/-- a ring that holds exactly the last `capacity` of these samples -/
structure Holds (exp : Exporter K) (ring : GpuRing K) (samples : List (GpuSample K)) : Prop where
  wf : RingWf ring
  window : window ring = samples.rtake (ringCapacity exp.cfg).toNat

/-! ## What the snapshot is assembled from -/

/-- the snapshot shows the newest sample of the ring and the state it is assembled with -/
theorem publishedCtx_readings (exp : Exporter K) (ctx : GpuCtx K) (env : PollEnv) :
    ReadingsOf (publishedCtx exp ctx env).snapshot (latestSample (publishedCtx exp ctx env).ring)
      (publishedCtx exp ctx env).state := by
  constructor <;> rfl

/-- and the score of that ring and state -/
theorem publishedCtx_scored (exp : Exporter K) (ctx : GpuCtx K) (env : PollEnv) :
    ScoredBy (publishedCtx exp ctx env).snapshot
      (scoreGpu env.malloc (publishedCtx exp ctx env).ring (publishedCtx exp ctx env).state
        (some (publishedCtx exp ctx env).baseline) (some (publishedCtx exp ctx env).probe) exp.cfg) := by
  constructor <;> rfl

/-! ## Static fields -/

/-- an iteration leaves the PCIe maxima of the device alone -/
theorem step_static (exp : Exporter K) (st : PollState K) (env : PollEnv) :
    freshState (step exp st env).ctx = freshState st.ctx := by
  rcases pollIteration_cases exp st env with ⟨-, hit⟩ | ⟨ctx, hentry, -, hit⟩ | ⟨ctx, ret, hentry, -, hit⟩
  · simp only [step, hit]
  · obtain ⟨-, -, t, rfl⟩ := pollEntry_some hentry
    simp only [step, hit, publishedCtx, pollPublish, snapshotUpdate, baselineReload]
    split_ifs <;> rfl
  · obtain ⟨-, -, t, rfl⟩ := pollEntry_some hentry
    simp only [step, hit, pollError]
    split_ifs <;> rfl

theorem run_static (exp : Exporter K) (ctx : GpuCtx K) (envs : List PollEnv) :
    freshState (run (step exp) (collectorStart ctx exp) envs).ctx = freshState ctx := by
  induction envs using List.reverseRecOn with
  | nil => rfl
  | append_singleton envs env ih => rw [run_snoc, step_static, ih]

/-! ## The two halves -/

/-- **An iteration that does not publish touches neither ring nor state nor baseline.** -/
theorem unpublished_frame (exp : Exporter K) (st : PollState K) (env : PollEnv) (h : ¬ Publishes exp st env) :
    (step exp st env).ctx.ring = st.ctx.ring ∧ (step exp st env).ctx.state = st.ctx.state ∧
      (step exp st env).ctx.baseline = st.ctx.baseline ∧ sent exp st env = none := by
  rcases pollIteration_cases exp st env with ⟨-, hit⟩ | ⟨ctx, hentry, hresp, -⟩ | ⟨ctx, ret, hentry, -, hit⟩
  · simp [step, sent, hit]
  · exact absurd ⟨by simp [hentry], hresp⟩ h
  · obtain ⟨-, -, t, rfl⟩ := pollEntry_some hentry
    obtain ⟨hring, -, hbaseline, hstate, -, -⟩ := pollError_frame exp { st.ctx with lastRetryMs := t } ret
    rw [step, sent, hit]
    exact ⟨hring, hstate, hbaseline, rfl⟩

/-- **A published snapshot is coherent.** -/
theorem published_coherent {exp : Exporter K} {ctx : GpuCtx K} {pre : List PollEnv} {env : PollEnv}
    {s : GpuSnapshot K} (h : published exp (run (step exp) (collectorStart ctx exp) pre) env = some s) :
    ReadingsOf s (cycleSample env) (cycleState exp ctx env) ∧
      ∀ ring, Holds exp ring (successes exp ctx (pre ++ [env])) →
        ScoredBy s (scoreGpu env.malloc ring (cycleState exp ctx env)
          (some (run (step exp) (collectorStart ctx exp) (pre ++ [env])).ctx.baseline)
          (some (run (step exp) (collectorStart ctx exp) (pre ++ [env])).ctx.probe) exp.cfg) := by
  have hwf := run_ring_wf exp ctx pre
  have hstatic := run_static exp ctx pre
  have hwf' := run_ring_wf exp ctx (pre ++ [env])
  have hwindow := run_window exp ctx (pre ++ [env])
  rw [run_snoc] at hwf' hwindow
  rw [run_snoc]
  set st := run (step exp) (collectorStart ctx exp) pre
  obtain ⟨entered, hentry, hresp, rfl⟩ := published_eq_some.1 h
  obtain ⟨hring, -, -, hstate⟩ := publishedCtx_frame exp entered env
  have hreadings := publishedCtx_readings exp entered env
  have hscored := publishedCtx_scored exp entered env
  have hctx : (step exp st env).ctx = { publishedCtx exp entered env with ready := 1 } := by
    simp only [step, pollIteration, hentry, pollAttempt_ok hresp]
  obtain ⟨-, -, t, rfl⟩ := pollEntry_some hentry
  -- the state and the newest sample are this cycle's
  have hcycle : (publishedCtx exp { st.ctx with lastRetryMs := t } env).state = cycleState exp ctx env := by
    rw [hstate, cycleState, ← hstatic]
    rfl
  rw [hring, latestSample_ringPush hwf, hcycle] at hreadings
  refine ⟨hreadings, ?_⟩
  intro ring hholds
  have hsame : window ring = window (step exp st env).ctx.ring := hholds.window.trans hwindow.symm
  rw [WindowScore.scoreGpu_eq hholds.wf, hsame, ← WindowScore.scoreGpu_eq hwf', hctx, ← hcycle]
  exact hscored

/-! ## Every cycle of every run -/

/-- **Failed polls are atomic, and snapshots coherent.** -/
theorem cycle_coherent (exp : Exporter K) (ctx : GpuCtx K) (pre : List PollEnv) (env : PollEnv) :
    let st := run (step exp) (collectorStart ctx exp) pre
    let st' := run (step exp) (collectorStart ctx exp) (pre ++ [env])
    (¬ Publishes exp st env → st'.ctx.ring = st.ctx.ring ∧ st'.ctx.state = st.ctx.state ∧
      st'.ctx.baseline = st.ctx.baseline ∧ sent exp st env = none) ∧
    (Publishes exp st env → ∃ s, st'.ctx.snapshot = s ∧ (∀ msg ∈ sent exp st env, msg.snapshot = s) ∧
      ReadingsOf s (cycleSample env) (cycleState exp ctx env) ∧
      (∃ ring, Holds exp ring (successes exp ctx (pre ++ [env]))) ∧
      ∀ ring, Holds exp ring (successes exp ctx (pre ++ [env])) →
        ScoredBy s (scoreGpu env.malloc ring (cycleState exp ctx env) (some st'.ctx.baseline) (some st'.ctx.probe)
          exp.cfg)) := by
  intro st st'
  have hst' : st' = step exp st env := run_snoc _ _ _ _
  constructor
  · intro hfail
    rw [hst']
    exact unpublished_frame exp st env hfail
  · intro hpublishes
    obtain ⟨s, hs⟩ := published_isSome.2 hpublishes
    obtain ⟨hreadings, hscored⟩ := published_coherent hs
    refine ⟨s, ?_, ?_, hreadings, ⟨st'.ctx.ring, run_ring_wf exp ctx _, run_window exp ctx _⟩, hscored⟩
    · rw [hst']
      exact (step_published hs).1
    · intro msg hmsg
      obtain ⟨entered, hentry, hresp, rfl⟩ := published_eq_some.1 hs
      simp only [sent, pollIteration, hentry, pollAttempt_ok hresp, snapshotSend] at hmsg
      split_ifs at hmsg
      · rw [Option.mem_some_iff] at hmsg
        rw [← hmsg]
      · simp at hmsg

/-- a cycle with these readings -/
def readingEnv (ms : UInt64) (tempC powerMw : UInt32) (memory : Reply NvmlMemory) : PollEnv :=
  { quietEnv ms with
    nvml := { quietVtable with
      deviceGetTemperature := fun _ => ⟨0, tempC⟩
      deviceGetPowerUsage := ⟨0, powerMw⟩
      deviceGetMemoryInfo := memory } }

/-- in the second cycle the memory cannot be read -/
def earlierEnvs : List PollEnv :=
  [readingEnv 0 40 90000 ⟨0, ⟨8000, 6000, 2000⟩⟩, readingEnv 15000 93 310000 ⟨3, ⟨0, 0, 0⟩⟩]

def lastEnv : PollEnv := readingEnv 30000 65 250000 ⟨0, ⟨8000, 3000, 5000⟩⟩

def smallSnapshot : GpuSnapshot ℚ :=
  (run (step smallExporter) (collectorStart .zeroed smallExporter) (earlierEnvs ++ [lastEnv])).ctx.snapshot

/-- the two successes are held, and the snapshot shows the second -/
theorem cycle_coherent_small :
    ReadingsOf smallSnapshot (cycleSample lastEnv) (cycleState smallExporter .zeroed lastEnv) ∧
    (smallSnapshot.tempC, smallSnapshot.powerW, smallSnapshot.memUsedBytes) = (65, 250, 5000) ∧
    (successes smallExporter .zeroed (earlierEnvs ++ [lastEnv])).map (·.tempC) = [40, 65] := by
  obtain ⟨s, hs, -, hreadings, -, -⟩ := (cycle_coherent smallExporter .zeroed earlierEnvs lastEnv).2 (by decide +kernel)
  have hsame : smallSnapshot = s := hs
  refine ⟨?_, by decide +kernel, by decide +kernel⟩
  rw [hsame]
  exact hreadings

end GpuHealth.CycleCoherence
