/-
Snapshots (`src/snapshot.c`): `snapshot_update` assembles the published snapshot from the context and the score,
`snapshot_send` ships it to the HTTP child.

`time_now_s` and `time_now_ms` are inputs. `write` either delivers the whole message or fails; a failed send delivers
nothing the child can use (`snapshot_recv` reads whole messages).
-/
import GpuHealth.Scorer

namespace GpuHealth.Snapshot

open GpuHealth.Ring

variable {K : Type} [Arith K]

/-- seconds since the baseline was established, 0 without a baseline or for one from the future -/
def baselineAge (baseline : GpuBaseline K) (nowS : UInt64) : UInt64 :=
  if baseline.available ≠ 0 ∧ baseline.establishedAtS > 0 then
    if nowS > baseline.establishedAtS then nowS - baseline.establishedAtS else 0
  else 0

/-- the newest sample, zeros before the first -/
def latestSample (ring : GpuRing K) : GpuSample K := if ring.count > 0 then sampleAt ring (latestIdx ring) else .zeroed

def snapshotUpdate (ctx : GpuCtx K) (score : GpuScoreResult K) (dcgmAvailable : ℤ) (nowS nowMs : UInt64) :
    GpuCtx K :=
  let st := ctx.state
  let s : GpuSnapshot K := {
    -- identity
    serial := ctx.serial
    uuid := ctx.uuid
    gpuModel := ctx.gpuModel
    driverVersion := ctx.driverVersion
    gpuIndex := ctx.gpuIndex
    identitySource := ctx.identitySource
    pcieLinkGenMax := ctx.pcieLinkGenMax
    pcieLinkWidthMax := ctx.pcieLinkWidthMax
    -- score and ring statistics
    score := score.score
    classification := score.classification
    reasonMask := score.reasonMask
    telemetryOk := score.telemetryOk
    tempP95C := score.tempP95C
    hbmTempP95C := score.hbmTempP95C
    clkStdMhz := score.clkStdMhz
    powerSaturationFrac := score.powerSaturationFrac
    eccSbeRatePerHour := score.eccSbeRatePerHour
    eccDbeInWindow := score.eccDbeInWindow
    -- perf/W drop and baseline health
    perfDropFrac := score.perfDropFrac
    probeAvailable := ctx.probe.available
    probeStale := ctx.probe.stale
    baselineAvailable := ctx.baseline.available
    baselineValid := ctx.baseline.valid
    baselineSerialMismatch := ctx.baseline.serialMismatch
    baselineDriverMismatch := ctx.baseline.driverMismatch
    baselineAgeS := baselineAge ctx.baseline nowS
    -- raw current state
    eccSbeVolatile := (latestSample ctx.ring).eccSbeVolatile
    eccDbeVolatile := (latestSample ctx.ring).eccDbeVolatile
    eccSbeAggregate := st.eccSbeAggregate
    eccDbeAggregate := st.eccDbeAggregate
    retiredPagesSbe := st.retiredPagesSbe
    retiredPagesDbe := st.retiredPagesDbe
    rowRemapFailures := st.rowRemapFailures
    pendingRowRemap := st.pendingRowRemap
    memUsedBytes := st.memUsedBytes
    memFreeBytes := st.memFreeBytes
    memTotalBytes := st.memTotalBytes
    memBwUtilPct := st.memBwUtilPct
    pcieLinkGen := st.pcieLinkGen
    pcieLinkWidth := st.pcieLinkWidth
    pcieReplayCount := st.pcieReplayCount
    nvlinkReplayCount := st.nvlinkReplayCount
    nvlinkRecoveryCount := st.nvlinkRecoveryCount
    nvlinkCrcCount := st.nvlinkCrcCount
    xidCount := st.xidCount
    xidLastCode := st.xidLastCode
    boardPowerW := st.boardPowerW
    powerW := (latestSample ctx.ring).powerW
    powerLimitW := (latestSample ctx.ring).powerLimitW
    energyJ := st.energyJ
    powerViolationUs := st.powerViolationUs
    thermalViolationUs := st.thermalViolationUs
    throttleSwPowerCap := st.throttleSwPowerCap
    throttleHwSlowdown := st.throttleHwSlowdown
    throttleHwPowerBrake := st.throttleHwPowerBrake
    throttleSwThermal := st.throttleSwThermal
    throttleHwThermal := st.throttleHwThermal
    smClockMhz := (latestSample ctx.ring).smClockMhz
    memClockMhz := st.memClockMhz
    utilGpuPct := st.utilGpuPct
    utilMemPct := st.utilMemPct
    pstate := st.pstate
    tempC := (latestSample ctx.ring).tempC
    hbmTempC := (latestSample ctx.ring).hbmTempC
    fanSpeedPct := st.fanSpeedPct
    -- exporter health
    lastPollMs := nowMs
    gpuPresent := ctx.gpuPresent
    gpuAvailable := ctx.gpuAvailable
    dcgmAvailable := dcgmAvailable
    collectorErrorsTotal := ctx.collectorErrorsTotal }
  { ctx with snapshot := s }

/-- the message delivered, none when `write` fails -/
def snapshotSend (ctx : GpuCtx K) (written : Bool) : Option (GpuIpcMsg K) :=
  if written then some ⟨ctx.gpuIndex, ctx.snapshot⟩ else none

/-- **The newest sample is the one pushed last.** -/
theorem latestSample_ringPush {ring : GpuRing K} (h : RingWf ring) (s : GpuSample K) :
    latestSample (ringPush ring s) = s := by
  have hwf := wf_push h s
  have hcap : 0 < ring.capacity.toNat := by
    have hhead := h.head_nonneg
    have hlt := h.head_lt
    omega
  have hwindow : window (ringPush ring s) = (window ring).drop ((window ring).length + 1 - ring.capacity.toNat) ++ [s] := by
    rw [window_ringPush h, List.rtake, List.length_append, List.length_singleton, List.drop_append_of_le_length (by omega)]
  have hne : window (ringPush ring s) ≠ [] := by
    rw [hwindow]
    simp
  have hpos : (ringPush ring s).count > 0 := by
    have hlen := window_length hwf
    have hlen0 := List.length_pos_iff.2 hne
    omega
  rw [latestSample, if_pos hpos, latestIdx_eq_idxLast, sampleAt_idxLast hwf hne]
  simp [hwindow]

end GpuHealth.Snapshot
