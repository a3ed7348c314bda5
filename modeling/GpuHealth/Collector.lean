/-
The poll loop of one GPU (`poll_thread` and `collector_start` of `src/collector.c`).

One iteration of the loop is a step `pollIteration` on `PollState`, driven by a `PollEnv`: everything the iteration
asks of its environment (clocks, NVML, DCGM, inotify, the baseline file, `malloc`, `write`). A run is a list of
environments; it may end anywhere, as `ctx->stop` may be set at any time. An iteration is
- an entry (`pollEntry`): skip if the GPU is lost, back off if it is unavailable, else go on to an attempt;
- an attempt (`pollAttempt`): `doNvmlPoll` from a fresh sample and state, then `pollError` or `pollSuccess`.
Sleeping has no effect and is left out; logging too.

`pollIteration_cases` says everything an iteration can do; `published` is the snapshot it assembles, if any. The frame
lemmas `pollError_frame` and `publishedCtx_frame` say what the two paths leave alone.
-/
import GpuHealth.Dcgm
import GpuHealth.Snapshot
import GpuHealth.State
import GpuHealth.Config

namespace GpuHealth.Collector

open GpuHealth.Ring GpuHealth.Scorer GpuHealth.Nvml GpuHealth.Dcgm GpuHealth.Snapshot GpuHealth.State

/-- what one iteration asks of its environment -/
structure PollEnv where
  /-- `time_now_ms` of the back-off check -/
  nowMs : UInt64
  /-- `time_now_ms` of `do_nvml_poll` -/
  sampleMs : UInt64
  nvml : NvmlVtable
  /-- the answer of `GetLatestValues` -/
  dcgm : Reply (PollField → DcgmFieldValue)
  /-- the return value of `baseline_inotify_check` -/
  inotify : ℤ
  /-- the file `baseline_load` opens -/
  baselineFile : Option CStr
  malloc : P95Malloc
  /-- `time_now_s` and `time_now_ms` of `snapshot_update` -/
  wallS : UInt64
  snapMs : UInt64
  /-- whether `snapshot_send` can write its message -/
  written : Bool

/-- the context, and whether the thread has left its loop -/
structure PollState (K : Type) where
  ctx : GpuCtx K
  exited : Bool
deriving DecidableEq, Repr

variable {K : Type} [Arith K]

/-! ## The error path -/

def pollError (exp : Exporter K) (ctx : GpuCtx K) (ret : ℤ) : PollState K :=
  let ctx := { ctx with
    consecutiveErrors := ctx.consecutiveErrors + 1
    collectorErrorsTotal := ctx.collectorErrorsTotal + 1 }
  let ctx := if isHardError ret then { ctx with consecutiveHardErrors := ctx.consecutiveHardErrors + 1 } else ctx
  if isHardError ret ∧ ctx.consecutiveHardErrors ≥ exp.cfg.int .nvmlHardErrorThreshold then
    -- the break: the soft threshold is not looked at
    ⟨{ ctx with gpuPresent := 0, ready := 1 }, true⟩
  else
    let ctx := if ctx.consecutiveErrors ≥ exp.cfg.int .nvmlErrorThreshold then { ctx with gpuAvailable := 0 } else ctx
    ⟨{ ctx with ready := 1 }, false⟩

/-! ## The success path -/

/-- `strncmp(a, b, 64) != 0` -/
def driverMismatch (a b : CStr) : ℤ := if a.take 64 ≠ b.take 64 then 1 else 0

/-- the new baseline of a reload -/
def reloadedBaseline (ctx : GpuCtx K) (file : Option CStr) : GpuBaseline K :=
  let newBaseline := baselineLoad file ctx.serial
  { newBaseline with driverMismatch := driverMismatch newBaseline.driverVersion ctx.driverVersion }

def baselineReload (exp : Exporter K) (env : PollEnv) (ctx : GpuCtx K) : GpuCtx K :=
  if exp.baselineInotifyFd ≥ 0 ∧ env.inotify = 1 then { ctx with baseline := reloadedBaseline ctx env.baselineFile }
  else ctx

def dcgmState (exp : Exporter K) (env : PollEnv) (state : GpuState K) : GpuState K :=
  if exp.dcgmAvailable ≠ 0 then
    match dcgmPoll env.dcgm with
    | some d => applyDcgmState state d
    | none => state
  else state

/-- the success path up to and including `snapshot_update` -/
def pollPublish (exp : Exporter K) (env : PollEnv) (ctx : GpuCtx K) (sample : GpuSample K) (state : GpuState K) :
    GpuCtx K :=
  let ctx := { ctx with consecutiveErrors := 0, consecutiveHardErrors := 0, gpuAvailable := 1 }
  let state := dcgmState exp env state
  let ctx := baselineReload exp env ctx
  let ctx := { ctx with ring := ringPush ctx.ring sample }
  let ctx := { ctx with state := state }
  let score := scoreGpu env.malloc ctx.ring ctx.state (some ctx.baseline) (some ctx.probe) exp.cfg
  snapshotUpdate ctx score exp.dcgmAvailable env.wallS env.snapMs

def pollSuccess (exp : Exporter K) (env : PollEnv) (ctx : GpuCtx K) (sample : GpuSample K) (state : GpuState K) :
    PollState K × Option (GpuIpcMsg K) :=
  let ctx := pollPublish exp env ctx sample state
  let sent := snapshotSend ctx env.written
  (⟨{ ctx with ready := 1 }, false⟩, sent)

/-! ## One iteration -/

/-- the state `do_nvml_poll` starts from -/
def freshState (ctx : GpuCtx K) : GpuState K :=
  { GpuState.zeroed with
    pcieLinkGenMax := ctx.pcieLinkGenMax
    pcieLinkWidthMax := ctx.pcieLinkWidthMax
    boardPowerW := .fin 0
    energyJ := .fin 0
    memBwUtilPct := .fin 0 }

def pollAttempt (exp : Exporter K) (ctx : GpuCtx K) (env : PollEnv) : PollState K × Option (GpuIpcMsg K) :=
  match doNvmlPoll env.nvml env.sampleMs GpuSample.zeroed (freshState ctx) with
  | .error (ret, _) => (pollError exp ctx ret, none)
  | .ok (sample, state) => pollSuccess exp env ctx sample state

/-- the context an attempt starts from; none when the iteration only sleeps -/
def pollEntry (exp : Exporter K) (st : PollState K) (env : PollEnv) : Option (GpuCtx K) :=
  if st.exited then none
  else if st.ctx.gpuPresent = 0 then none
  else if st.ctx.gpuAvailable = 0 then
    let retryMs := UInt64.ofInt (exp.cfg.int .nvmlRetryIntervalS) * 1000
    if env.nowMs - st.ctx.lastRetryMs < retryMs then none else some { st.ctx with lastRetryMs := env.nowMs }
  else some st.ctx

def pollIteration (exp : Exporter K) (st : PollState K) (env : PollEnv) : PollState K × Option (GpuIpcMsg K) :=
  match pollEntry exp st env with
  | none => (st, none)
  | some ctx => pollAttempt exp ctx env

/-- the loop's step, and the message it sends -/
def step (exp : Exporter K) (st : PollState K) (env : PollEnv) : PollState K := (pollIteration exp st env).1
def sent (exp : Exporter K) (st : PollState K) (env : PollEnv) : Option (GpuIpcMsg K) := (pollIteration exp st env).2

/-! ## Start -/

def ringCapacity (cfg : GpuConfig (Dbl K)) : ℤ :=
  let capacity := (cfg.int .windowS).tdiv (cfg.int .pollIntervalS)
  if capacity < 1 then 1 else capacity

/-- the loop's first state; the context comes from `main` with its identity, baseline and probe set -/
def collectorStart (ctx : GpuCtx K) (exp : Exporter K) : PollState K :=
  ⟨{ ctx with
    ring := ⟨List.replicate (ringCapacity exp.cfg).toNat .zeroed, 0, 0, ringCapacity exp.cfg⟩
    ready := 0
    gpuPresent := 1
    gpuAvailable := 1
    consecutiveErrors := 0
    consecutiveHardErrors := 0
    lastRetryMs := 0
    collectorErrorsTotal := 0
    state := { GpuState.zeroed with
      pcieLinkGenMax := ctx.pcieLinkGenMax
      pcieLinkWidthMax := ctx.pcieLinkWidthMax
      fanSpeedPct := -1 }
    snapshot := .zeroed }, false⟩

/-- the part of `main` that loads one GPU's files, before the threads start -/
def mainLoadFiles (exp : Exporter K) (ctx : GpuCtx K) (baselineFile probeFile : Option CStr) (nowS : UInt64) :
    GpuCtx K :=
  let baseline := baselineLoad baselineFile ctx.serial
  let baseline := if baseline.available ≠ 0 ∧ baseline.valid ≠ 0 then
      { baseline with driverMismatch := driverMismatch baseline.driverVersion ctx.driverVersion }
    else baseline
  { ctx with
    baseline := baseline
    probe := probeLoad probeFile (exp.cfg.int .probeTtlS) nowS }

/-! ## What one iteration does -/

/-- the iteration makes an attempt, and every required NVML call succeeds -/
def Publishes (exp : Exporter K) (st : PollState K) (env : PollEnv) : Prop :=
  (pollEntry exp st env).isSome = true ∧ Responds env.nvml

instance (exp : Exporter K) (st : PollState K) (env : PollEnv) : Decidable (Publishes exp st env) :=
  inferInstanceAs (Decidable (_ ∧ _))

/-- the context after the success path of an iteration that starts its attempt from `ctx` -/
def publishedCtx (exp : Exporter K) (ctx : GpuCtx K) (env : PollEnv) : GpuCtx K :=
  pollPublish exp env ctx (nvmlSample env.nvml env.sampleMs) (nvmlState env.nvml (freshState ctx))

/-- the snapshot the iteration assembles -/
def published (exp : Exporter K) (st : PollState K) (env : PollEnv) : Option (GpuSnapshot K) :=
  if Responds env.nvml then (pollEntry exp st env).map fun ctx => (publishedCtx exp ctx env).snapshot else none

theorem pollAttempt_ok {exp : Exporter K} {ctx : GpuCtx K} {env : PollEnv} (h : Responds env.nvml) :
    pollAttempt exp ctx env =
      (⟨{ publishedCtx exp ctx env with ready := 1 }, false⟩, snapshotSend (publishedCtx exp ctx env) env.written) := by
  simp only [pollAttempt, doNvmlPoll_ok_iff.2 ⟨h, rfl⟩]
  rfl

theorem pollAttempt_error (exp : Exporter K) (ctx : GpuCtx K) {env : PollEnv} (h : ¬ Responds env.nvml) :
    ∃ ret, pollAttempt exp ctx env = (pollError exp ctx ret, none) := by
  unfold pollAttempt
  cases hpoll : doNvmlPoll env.nvml env.sampleMs GpuSample.zeroed (freshState ctx) with
  | error e => exact ⟨e.1, rfl⟩
  | ok r => exact absurd (doNvmlPoll_ok_iff.1 hpoll).1 h

/-- **Everything an iteration can do**: sleep, publish, or fail. -/
theorem pollIteration_cases (exp : Exporter K) (st : PollState K) (env : PollEnv) :
    (pollEntry exp st env = none ∧ pollIteration exp st env = (st, none)) ∨
    (∃ ctx, pollEntry exp st env = some ctx ∧ Responds env.nvml ∧ pollIteration exp st env =
      (⟨{ publishedCtx exp ctx env with ready := 1 }, false⟩, snapshotSend (publishedCtx exp ctx env) env.written)) ∨
    (∃ ctx ret, pollEntry exp st env = some ctx ∧ ¬ Responds env.nvml ∧
      pollIteration exp st env = (pollError exp ctx ret, none)) := by
  unfold pollIteration
  cases hentry : pollEntry exp st env with
  | none => exact Or.inl ⟨rfl, rfl⟩
  | some ctx =>
    by_cases h : Responds env.nvml
    · exact Or.inr (Or.inl ⟨ctx, rfl, h, pollAttempt_ok h⟩)
    · obtain ⟨ret, hret⟩ := pollAttempt_error exp ctx h
      exact Or.inr (Or.inr ⟨ctx, ret, rfl, h, hret⟩)

omit [Arith K] in
/-- an attempt starts from the context as it is, but for the time of the last retry -/
theorem pollEntry_some {exp : Exporter K} {st : PollState K} {env : PollEnv} {ctx : GpuCtx K}
    (h : pollEntry exp st env = some ctx) :
    st.exited = false ∧ st.ctx.gpuPresent ≠ 0 ∧ ∃ t, ctx = { st.ctx with lastRetryMs := t } := by
  simp only [pollEntry] at h
  split_ifs at h with h1 h2
  · exact ⟨by simpa using h1, h2, env.nowMs, (Option.some.inj h).symm⟩
  · exact ⟨by simpa using h1, h2, st.ctx.lastRetryMs, (Option.some.inj h).symm⟩

theorem published_eq_some {exp : Exporter K} {st : PollState K} {env : PollEnv} {s : GpuSnapshot K} :
    published exp st env = some s ↔
      ∃ ctx, pollEntry exp st env = some ctx ∧ Responds env.nvml ∧ (publishedCtx exp ctx env).snapshot = s := by
  unfold published
  split_ifs with h <;> simp [h]

theorem published_isSome {exp : Exporter K} {st : PollState K} {env : PollEnv} :
    (∃ s, published exp st env = some s) ↔ Publishes exp st env := by
  simp only [published_eq_some, Publishes, Option.isSome_iff_exists]
  constructor
  · intro hsome
    obtain ⟨s, ctx, hentry, hok, -⟩ := hsome
    exact ⟨⟨ctx, hentry⟩, hok⟩
  · intro hpublishes
    obtain ⟨⟨ctx, hentry⟩, hok⟩ := hpublishes
    exact ⟨_, ctx, hentry, hok, rfl⟩

/-- the state after a published snapshot holds it, and its `telemetry_ok` is the gate's result on the ring then -/
theorem step_published {exp : Exporter K} {st : PollState K} {env : PollEnv} {s : GpuSnapshot K}
    (h : published exp st env = some s) :
    (step exp st env).ctx.snapshot = s ∧ s.telemetryOk = completenessGate (step exp st env).ctx.ring exp.cfg := by
  obtain ⟨ctx, hentry, hresp, rfl⟩ := published_eq_some.1 h
  have hctx : (step exp st env).ctx = { publishedCtx exp ctx env with ready := 1 } := by
    simp only [step, pollIteration, hentry, pollAttempt_ok hresp]
  rw [hctx]
  exact ⟨rfl, scoreGpu_telemetryOk _ _ _ _ _ _⟩

/-! ## Frames -/

omit [Arith K] in
/-- the fields the error path never touches -/
theorem pollError_frame (exp : Exporter K) (ctx : GpuCtx K) (ret : ℤ) :
    (pollError exp ctx ret).ctx.ring = ctx.ring ∧ (pollError exp ctx ret).ctx.probe = ctx.probe ∧
      (pollError exp ctx ret).ctx.baseline = ctx.baseline ∧ (pollError exp ctx ret).ctx.state = ctx.state ∧
      (pollError exp ctx ret).ctx.snapshot = ctx.snapshot ∧ (pollError exp ctx ret).ctx.serial = ctx.serial := by
  simp only [pollError]
  split_ifs <;> exact ⟨rfl, rfl, rfl, rfl, rfl, rfl⟩

/-- the success path pushes the sample, replaces the state, may replace the baseline, and leaves the probe result -/
theorem publishedCtx_frame (exp : Exporter K) (ctx : GpuCtx K) (env : PollEnv) :
    (publishedCtx exp ctx env).ring = ringPush ctx.ring (nvmlSample env.nvml env.sampleMs) ∧
      (publishedCtx exp ctx env).probe = ctx.probe ∧
      (publishedCtx exp ctx env).baseline = (baselineReload exp env ctx).baseline ∧
      (publishedCtx exp ctx env).state = dcgmState exp env (nvmlState env.nvml (freshState ctx)) := by
  simp only [publishedCtx, pollPublish, snapshotUpdate, baselineReload]
  split_ifs <;> simp [reloadedBaseline]

/-! ## The ring over a run -/

/-- the sample the iteration pushes -/
def pushed (exp : Exporter K) (st : PollState K) (env : PollEnv) : Option (GpuSample K) :=
  if Publishes exp st env then some (nvmlSample env.nvml env.sampleMs) else none

theorem step_ring (exp : Exporter K) (st : PollState K) (env : PollEnv) :
    (step exp st env).ctx.ring = (pushed exp st env).toList.foldl ringPush st.ctx.ring := by
  rcases pollIteration_cases exp st env with ⟨hentry, hit⟩ | ⟨ctx, hentry, hok, hit⟩ | ⟨ctx, ret, hentry, hok, hit⟩
  · have hpub : ¬ Publishes exp st env := by simp [Publishes, hentry]
    simp [step, hit, pushed, hpub]
  · obtain ⟨-, -, t, rfl⟩ := pollEntry_some hentry
    have hpub : Publishes exp st env := ⟨by simp [hentry], hok⟩
    simp [step, hit, pushed, hpub, (publishedCtx_frame exp _ env).1]
  · obtain ⟨-, -, t, rfl⟩ := pollEntry_some hentry
    have hpub : ¬ Publishes exp st env := fun h => hok h.2
    simp [step, hit, pushed, hpub, (pollError_frame exp _ ret).1]

/-- **The ring after a run has been pushed exactly the samples of the publishing iterations.** -/
theorem run_ring (exp : Exporter K) (st : PollState K) (envs : List PollEnv) :
    (Runs.run (step exp) st envs).ctx.ring =
      (Runs.outputs (step exp) (pushed exp) st envs).foldl ringPush st.ctx.ring := by
  induction envs using List.reverseRecOn with
  | nil => rfl
  | append_singleton envs env ih =>
    rw [Runs.run_snoc, Runs.outputs_snoc, List.foldl_append, ← ih, step_ring]

omit [Arith K] in
theorem ringCapacity_pos (cfg : GpuConfig (Dbl K)) : 1 ≤ ringCapacity cfg := by
  simp only [ringCapacity]
  split_ifs <;> omega

theorem start_ring_wf (ctx : GpuCtx K) (exp : Exporter K) : RingWf (collectorStart ctx exp).ctx.ring := by
  have hpos := ringCapacity_pos exp.cfg
  refine ⟨?_, ?_, ?_, ?_, ?_⟩ <;> simp only [collectorStart, List.length_replicate] <;> omega

theorem run_ring_wf (exp : Exporter K) (ctx : GpuCtx K) (envs : List PollEnv) :
    RingWf (Runs.run (step exp) (collectorStart ctx exp) envs).ctx.ring := by
  rw [run_ring]
  exact wf_pushAll (start_ring_wf ctx exp) _

/-- **The window after a run**: the last `capacity` samples pushed. -/
theorem run_window (exp : Exporter K) (ctx : GpuCtx K) (envs : List PollEnv) :
    window (Runs.run (step exp) (collectorStart ctx exp) envs).ctx.ring =
      (Runs.outputs (step exp) (pushed exp) (collectorStart ctx exp) envs).rtake (ringCapacity exp.cfg).toNat := by
  rw [run_ring]
  exact window_pushAll (start_ring_wf ctx exp) rfl _

/-- in a run in which every iteration publishes, each pushes its sample -/
theorem outputs_pushed_all {exp : Exporter K} {st : PollState K} {envs : List PollEnv}
    (h : Runs.AtEveryStep (fun pre env => Publishes exp (Runs.run (step exp) st pre) env) envs) :
    Runs.outputs (step exp) (pushed exp) st envs = envs.map fun env => nvmlSample env.nvml env.sampleMs := by
  induction envs using List.reverseRecOn with
  | nil => rfl
  | append_singleton envs env ih =>
    obtain ⟨hpre, hlast⟩ := Runs.atEveryStep_snoc.1 h
    rw [Runs.outputs_snoc, ih hpre, List.map_append, pushed, if_pos hlast]
    rfl

/-! ## A small exporter

The small config without DCGM and inotify, and the environment of an iteration in which every NVML call answers 0. -/

def quietVtable : NvmlVtable where
  deviceGetTemperature := fun _ => ⟨0, 0⟩
  deviceGetFieldValues := none
  deviceGetPowerUsage := ⟨0, 0⟩
  deviceGetEnforcedPowerLimit := ⟨0, 0⟩
  deviceGetTotalEccErrors := fun _ _ => ⟨0, 0⟩
  deviceGetRetiredPages := none
  deviceGetRemappedRows := none
  deviceGetMemoryInfo := ⟨0, 0, 0, 0⟩
  deviceGetClockInfo := fun _ => ⟨0, 0⟩
  deviceGetUtilizationRates := ⟨0, 0, 0⟩
  deviceGetCurrentClocksThrottleReasons := ⟨0, 0⟩
  deviceGetPerformanceState := ⟨0, 0⟩
  deviceGetFanSpeed := none
  deviceGetCurrPcieLinkGeneration := ⟨0, 0⟩
  deviceGetCurrPcieLinkWidth := ⟨0, 0⟩
  deviceGetPcieReplayCounter := none

/-- the iteration at monotonic time `ms` -/
def quietEnv (ms : UInt64) : PollEnv where
  nowMs := ms
  sampleMs := ms
  nvml := quietVtable
  dcgm := ⟨0, fun _ => ⟨ftInt64, 0, 0⟩⟩
  inotify := 0
  baselineFile := none
  malloc := ⟨true, true⟩
  wallS := 0
  snapMs := ms
  written := true

/-- the same, when the temperature cannot be read -/
def failingEnv (ms : UInt64) (ret : ℤ) : PollEnv :=
  { quietEnv ms with nvml := { quietVtable with deviceGetTemperature := fun _ => ⟨ret, 0⟩ } }

def smallExporter : Exporter ℚ := ⟨Config.smallConfig.toDbl, 0, -1⟩

/-- the same with DCGM connected -/
def dcgmExporter : Exporter ℚ := { smallExporter with dcgmAvailable := 1 }

end GpuHealth.Collector
