/-
The data model of the exporter (`src/types.h`, the context and exporter structs of `src/collector.h`).

Conventions, used in every module:
- `uint32_t` and `uint64_t` are `UInt32` and `UInt64`; `int` is ℤ (no counter or index of the source gets near its
  range in the lifetime of a process; where an expression could, a lemma of the module says that it does not);
- a flag kept in an `int` stays an ℤ with the values 0 and 1;
- a C string is the list of its bytes before the NUL, each as the `Char` with that code;
- doubles of a ring sample are values of the arithmetic `K`, since the poll loop converts them from unsigned
  integers; all other doubles are `Dbl K`, with NaN.

Fields no modelled function reads (locks, the thread handle, the device handle) are left out.
-/
import GpuHealth.Core.Double

namespace GpuHealth

abbrev CStr := List Char

/-- `(int)u` of an `unsigned int` -/
def intOfU32 (u : UInt32) : ℤ := u.toBitVec.toInt

/-- `(uint64_t)n` of an int that is not negative -/
theorem u64OfInt_toNat {n : ℤ} (h0 : 0 ≤ n) (h64 : n < 2 ^ 64) : ((UInt64.ofInt n).toNat : ℤ) = n := by
  have hmod : n % 2 ^ 64 = n := Int.emod_eq_of_lt h0 h64
  have hsmall : n.toNat < 2 ^ 64 := by omega
  rw [UInt64.ofInt, hmod, UInt64.toNat_ofNat', Nat.mod_eq_of_lt hsmall, Int.toNat_of_nonneg h0]

/-! ## Numerals

The numerals of the source that stand for values of any `K` (penalties, thresholds, units). -/

instance two_atLeastTwo : Nat.AtLeastTwo 2 := ⟨by decide⟩
instance ten_atLeastTwo : Nat.AtLeastTwo 10 := ⟨by decide⟩
instance fifteen_atLeastTwo : Nat.AtLeastTwo 15 := ⟨by decide⟩
instance twentyFive_atLeastTwo : Nat.AtLeastTwo 25 := ⟨by decide⟩
instance fifty_atLeastTwo : Nat.AtLeastTwo 50 := ⟨by decide⟩
instance seventy_atLeastTwo : Nat.AtLeastTwo 70 := ⟨by decide⟩
instance eightyFive_atLeastTwo : Nat.AtLeastTwo 85 := ⟨by decide⟩
instance hundred_atLeastTwo : Nat.AtLeastTwo 100 := ⟨by decide⟩
instance thousand_atLeastTwo : Nat.AtLeastTwo 1000 := ⟨by decide⟩
instance hourSeconds_atLeastTwo : Nat.AtLeastTwo 3600 := ⟨by decide⟩

/-! ## Enumerations and the reason mask -/

inductive GpuClass where
  | na
  | healthy
  | monitor
  | degrading
  | decommission
deriving DecidableEq, Repr

inductive GpuIdentitySrc where
  | serial
  | uuid
deriving DecidableEq, Repr

namespace Reason

def tempWarn : UInt32 := (1 : UInt32) <<< 0
def tempBad : UInt32 := (1 : UInt32) <<< 1
def hbmTempWarn : UInt32 := (1 : UInt32) <<< 2
def hbmTempBad : UInt32 := (1 : UInt32) <<< 3
def clkStdHigh : UInt32 := (1 : UInt32) <<< 4
def powerSaturation : UInt32 := (1 : UInt32) <<< 5
def eccSbeHigh : UInt32 := (1 : UInt32) <<< 6
def eccDbeActive : UInt32 := (1 : UInt32) <<< 7
def perfDropWarn : UInt32 := (1 : UInt32) <<< 8
def perfDropBad : UInt32 := (1 : UInt32) <<< 9
def perfDropSevere : UInt32 := (1 : UInt32) <<< 10
def retiredPagesWarn : UInt32 := (1 : UInt32) <<< 11
def retiredPagesBad : UInt32 := (1 : UInt32) <<< 12
def rowRemap : UInt32 := (1 : UInt32) <<< 13
def pcieGen : UInt32 := (1 : UInt32) <<< 14
def pcieWidth : UInt32 := (1 : UInt32) <<< 15
def telemetryIncomplete : UInt32 := (1 : UInt32) <<< 16
def probeStale : UInt32 := (1 : UInt32) <<< 17

end Reason

/-! ## Ring buffer -/

structure GpuSample (K : Type) where
  powerW : K
  powerLimitW : K
  tempC : K
  hbmTempC : K
  smClockMhz : K
  /-- running totals since the last driver reload -/
  eccSbeVolatile : UInt64
  eccDbeVolatile : UInt64
  timestampMs : UInt64
deriving DecidableEq, Repr

/-- a sample of calloc'ed memory -/
def GpuSample.zeroed {K : Type} [Zero K] : GpuSample K := ⟨0, 0, 0, 0, 0, 0, 0, 0⟩

structure GpuRing (K : Type) where
  samples : List (GpuSample K)
  /-- next write index -/
  head : ℤ
  count : ℤ
  capacity : ℤ
deriving DecidableEq, Repr

/-! ## Current state -/

structure GpuState (K : Type) where
  eccSbeAggregate : UInt64
  eccDbeAggregate : UInt64
  retiredPagesSbe : UInt32
  retiredPagesDbe : UInt32
  rowRemapFailures : UInt32
  pendingRowRemap : ℤ
  memUsedBytes : UInt64
  memFreeBytes : UInt64
  memTotalBytes : UInt64
  memBwUtilPct : Dbl K
  pcieLinkGen : ℤ
  pcieLinkGenMax : ℤ
  pcieLinkWidth : ℤ
  pcieLinkWidthMax : ℤ
  pcieReplayCount : UInt64
  nvlinkReplayCount : UInt64
  nvlinkRecoveryCount : UInt64
  nvlinkCrcCount : UInt64
  xidCount : UInt64
  xidLastCode : UInt32
  boardPowerW : Dbl K
  energyJ : Dbl K
  powerViolationUs : UInt64
  thermalViolationUs : UInt64
  throttleSwPowerCap : ℤ
  throttleHwSlowdown : ℤ
  throttleHwPowerBrake : ℤ
  throttleSwThermal : ℤ
  throttleHwThermal : ℤ
  memClockMhz : K
  utilGpuPct : ℤ
  utilMemPct : ℤ
  pstate : ℤ
  /-- -1 if unavailable -/
  fanSpeedPct : ℤ
deriving DecidableEq, Repr

/-- `memset(&state, 0, sizeof(state))` -/
def GpuState.zeroed {K : Type} [Zero K] : GpuState K where
  eccSbeAggregate := 0
  eccDbeAggregate := 0
  retiredPagesSbe := 0
  retiredPagesDbe := 0
  rowRemapFailures := 0
  pendingRowRemap := 0
  memUsedBytes := 0
  memFreeBytes := 0
  memTotalBytes := 0
  memBwUtilPct := .fin 0
  pcieLinkGen := 0
  pcieLinkGenMax := 0
  pcieLinkWidth := 0
  pcieLinkWidthMax := 0
  pcieReplayCount := 0
  nvlinkReplayCount := 0
  nvlinkRecoveryCount := 0
  nvlinkCrcCount := 0
  xidCount := 0
  xidLastCode := 0
  boardPowerW := .fin 0
  energyJ := .fin 0
  powerViolationUs := 0
  thermalViolationUs := 0
  throttleSwPowerCap := 0
  throttleHwSlowdown := 0
  throttleHwPowerBrake := 0
  throttleSwThermal := 0
  throttleHwThermal := 0
  memClockMhz := 0
  utilGpuPct := 0
  utilMemPct := 0
  pstate := 0
  fanSpeedPct := 0

/-! ## Baseline and probe result -/

structure GpuBaseline (K : Type) where
  available : ℤ
  valid : ℤ
  serialMismatch : ℤ
  driverMismatch : ℤ
  serial : CStr
  uuid : CStr
  driverVersion : CStr
  perfWMean : Dbl K
  establishedAtS : UInt64
  workload : CStr
  sampleCount : ℤ
deriving DecidableEq, Repr

def GpuBaseline.zeroed {K : Type} [Zero K] : GpuBaseline K := ⟨0, 0, 0, 0, [], [], [], .fin 0, 0, [], 0⟩

structure GpuProbeResult (K : Type) where
  available : ℤ
  stale : ℤ
  serial : CStr
  perfWMean : Dbl K
  probeTimestampS : UInt64
  probeExitCode : ℤ
  workload : CStr
  sampleCount : ℤ
  probeDurationS : Dbl K
deriving DecidableEq, Repr

def GpuProbeResult.zeroed {K : Type} [Zero K] : GpuProbeResult K := ⟨0, 0, [], .fin 0, 0, 0, [], 0, .fin 0⟩

/-! ## Scoring output -/

structure GpuScoreResult (K : Type) where
  score : Dbl K
  classification : GpuClass
  reasonMask : UInt32
  telemetryOk : ℤ
  tempP95C : Dbl K
  hbmTempP95C : Dbl K
  clkStdMhz : Dbl K
  powerSaturationFrac : Dbl K
  eccSbeRatePerHour : Dbl K
  eccDbeInWindow : ℤ
  perfDropFrac : Dbl K
deriving DecidableEq, Repr

def GpuScoreResult.zeroed {K : Type} [Zero K] : GpuScoreResult K :=
  ⟨.fin 0, .na, 0, 0, .fin 0, .fin 0, .fin 0, .fin 0, .fin 0, 0, .fin 0⟩

/-! ## Snapshot and IPC -/

structure GpuSnapshot (K : Type) where
  serial : CStr
  uuid : CStr
  gpuModel : CStr
  driverVersion : CStr
  gpuIndex : ℤ
  identitySource : GpuIdentitySrc
  pcieLinkGenMax : ℤ
  pcieLinkWidthMax : ℤ
  score : Dbl K
  classification : GpuClass
  reasonMask : UInt32
  telemetryOk : ℤ
  tempP95C : Dbl K
  hbmTempP95C : Dbl K
  clkStdMhz : Dbl K
  powerSaturationFrac : Dbl K
  eccSbeRatePerHour : Dbl K
  eccDbeInWindow : ℤ
  perfDropFrac : Dbl K
  probeStale : ℤ
  probeAvailable : ℤ
  baselineAvailable : ℤ
  baselineValid : ℤ
  baselineSerialMismatch : ℤ
  baselineDriverMismatch : ℤ
  baselineAgeS : UInt64
  eccSbeVolatile : UInt64
  eccDbeVolatile : UInt64
  eccSbeAggregate : UInt64
  eccDbeAggregate : UInt64
  retiredPagesSbe : UInt32
  retiredPagesDbe : UInt32
  rowRemapFailures : UInt32
  pendingRowRemap : ℤ
  memUsedBytes : UInt64
  memFreeBytes : UInt64
  memTotalBytes : UInt64
  memBwUtilPct : Dbl K
  pcieLinkGen : ℤ
  pcieLinkWidth : ℤ
  pcieReplayCount : UInt64
  nvlinkReplayCount : UInt64
  nvlinkRecoveryCount : UInt64
  nvlinkCrcCount : UInt64
  xidCount : UInt64
  xidLastCode : UInt32
  boardPowerW : Dbl K
  powerW : K
  powerLimitW : K
  energyJ : Dbl K
  powerViolationUs : UInt64
  thermalViolationUs : UInt64
  throttleSwPowerCap : ℤ
  throttleHwSlowdown : ℤ
  throttleHwPowerBrake : ℤ
  throttleSwThermal : ℤ
  throttleHwThermal : ℤ
  smClockMhz : K
  memClockMhz : K
  utilGpuPct : ℤ
  utilMemPct : ℤ
  pstate : ℤ
  tempC : K
  hbmTempC : K
  fanSpeedPct : ℤ
  lastPollMs : UInt64
  gpuPresent : ℤ
  gpuAvailable : ℤ
  dcgmAvailable : ℤ
  collectorErrorsTotal : UInt64
deriving DecidableEq, Repr

/-- `memset(&snapshot, 0, sizeof(snapshot))` -/
def GpuSnapshot.zeroed {K : Type} [Zero K] : GpuSnapshot K where
  serial := []
  uuid := []
  gpuModel := []
  driverVersion := []
  gpuIndex := 0
  identitySource := .serial
  pcieLinkGenMax := 0
  pcieLinkWidthMax := 0
  score := .fin 0
  classification := .na
  reasonMask := 0
  telemetryOk := 0
  tempP95C := .fin 0
  hbmTempP95C := .fin 0
  clkStdMhz := .fin 0
  powerSaturationFrac := .fin 0
  eccSbeRatePerHour := .fin 0
  eccDbeInWindow := 0
  perfDropFrac := .fin 0
  probeStale := 0
  probeAvailable := 0
  baselineAvailable := 0
  baselineValid := 0
  baselineSerialMismatch := 0
  baselineDriverMismatch := 0
  baselineAgeS := 0
  eccSbeVolatile := 0
  eccDbeVolatile := 0
  eccSbeAggregate := 0
  eccDbeAggregate := 0
  retiredPagesSbe := 0
  retiredPagesDbe := 0
  rowRemapFailures := 0
  pendingRowRemap := 0
  memUsedBytes := 0
  memFreeBytes := 0
  memTotalBytes := 0
  memBwUtilPct := .fin 0
  pcieLinkGen := 0
  pcieLinkWidth := 0
  pcieReplayCount := 0
  nvlinkReplayCount := 0
  nvlinkRecoveryCount := 0
  nvlinkCrcCount := 0
  xidCount := 0
  xidLastCode := 0
  boardPowerW := .fin 0
  powerW := 0
  powerLimitW := 0
  energyJ := .fin 0
  powerViolationUs := 0
  thermalViolationUs := 0
  throttleSwPowerCap := 0
  throttleHwSlowdown := 0
  throttleHwPowerBrake := 0
  throttleSwThermal := 0
  throttleHwThermal := 0
  smClockMhz := 0
  memClockMhz := 0
  utilGpuPct := 0
  utilMemPct := 0
  pstate := 0
  tempC := 0
  hbmTempC := 0
  fanSpeedPct := 0
  lastPollMs := 0
  gpuPresent := 0
  gpuAvailable := 0
  dcgmAvailable := 0
  collectorErrorsTotal := 0

structure GpuIpcMsg (K : Type) where
  gpuIndex : ℤ
  snapshot : GpuSnapshot K
deriving DecidableEq, Repr

/-! ## Config

`config_load` writes fields through table offsets; the offset of a field is its key here, one key type per C type. -/

inductive IntKey where
  | listenPort | pollIntervalS | windowS | stateWriteIntervalS | minSamplesAbsolute
  | retiredPagesWarn | retiredPagesBad | probeIntervalS | probeTtlS
  | nvmlTimeoutMs | nvmlErrorThreshold | nvmlHardErrorThreshold | nvmlRetryIntervalS
  | dcgmTimeoutMs | dcgmErrorThreshold | dcgmRetryIntervalS
deriving DecidableEq, Repr

inductive DblKey where
  | minSampleRatio | maxMedianStepS
  | tempP95WarnC | tempP95BadC | hbmTempP95WarnC | hbmTempP95BadC
  | clkStdWarnMhz | powerHighRatio | powerPenaltyMax
  | eccSbeRateWarnPerHour | eccSbePenalty | eccDbePenalty
  | retiredPagesPenWarn | retiredPagesPenBad | rowRemapFailurePenalty
  | pcieLinkDegradedPenalty | pcieWidthDegradedPenalty
  | perfDropWarn | perfDropBad | perfDropSevere | perfDropPenWarn | perfDropPenBad | perfDropPenSevere
deriving DecidableEq, Repr

inductive StrKey where
  | stateDir | baselineDir | listenAddr | fileSdPath | tlsCertPath | tlsKeyPath
deriving DecidableEq, Repr

/-- `gpu_config_t`, with doubles read in `α` -/
structure GpuConfig (α : Type) where
  int : IntKey → ℤ
  dbl : DblKey → α
  str : StrKey → CStr

/-- a config with finite doubles, as the config the code holds -/
def GpuConfig.toDbl {K : Type} (c : GpuConfig K) : GpuConfig (Dbl K) := ⟨c.int, fun k => .fin (c.dbl k), c.str⟩

@[simp] theorem GpuConfig.toDbl_int {K : Type} (c : GpuConfig K) (k : IntKey) : c.toDbl.int k = c.int k := rfl
@[simp] theorem GpuConfig.toDbl_dbl {K : Type} (c : GpuConfig K) (k : DblKey) : c.toDbl.dbl k = .fin (c.dbl k) := rfl
@[simp] theorem GpuConfig.toDbl_str {K : Type} (c : GpuConfig K) (k : StrKey) : c.toDbl.str k = c.str k := rfl

/-! ## Context and exporter -/

/-- `gpu_ctx_t` -/
structure GpuCtx (K : Type) where
  serial : CStr
  uuid : CStr
  gpuModel : CStr
  driverVersion : CStr
  gpuIndex : ℤ
  identitySource : GpuIdentitySrc
  pcieLinkGenMax : ℤ
  pcieLinkWidthMax : ℤ
  ring : GpuRing K
  state : GpuState K
  snapshot : GpuSnapshot K
  baseline : GpuBaseline K
  probe : GpuProbeResult K
  ready : ℤ
  /-- 0 if the GPU disappeared -/
  gpuPresent : ℤ
  /-- 0 if above the soft error threshold -/
  gpuAvailable : ℤ
  consecutiveErrors : ℤ
  consecutiveHardErrors : ℤ
  lastRetryMs : UInt64
  collectorErrorsTotal : UInt64
deriving DecidableEq, Repr

/-- an entry of the calloc'ed array `exp.gpus` -/
def GpuCtx.zeroed {K : Type} [Zero K] : GpuCtx K where
  serial := []
  uuid := []
  gpuModel := []
  driverVersion := []
  gpuIndex := 0
  identitySource := .serial
  pcieLinkGenMax := 0
  pcieLinkWidthMax := 0
  ring := ⟨[], 0, 0, 0⟩
  state := .zeroed
  snapshot := .zeroed
  baseline := .zeroed
  probe := .zeroed
  ready := 0
  gpuPresent := 0
  gpuAvailable := 0
  consecutiveErrors := 0
  consecutiveHardErrors := 0
  lastRetryMs := 0
  collectorErrorsTotal := 0

/-- `exporter_t`; the vtables are inputs of each poll cycle -/
structure Exporter (K : Type) where
  cfg : GpuConfig (Dbl K)
  dcgmAvailable : ℤ
  /-- -1 if inotify is unavailable -/
  baselineInotifyFd : ℤ

end GpuHealth
