/-
The NVML vtable and one poll of it (`src/nvml.h`, `do_nvml_poll` of `src/collector.c`).

A vtable is what the library answers during one poll cycle: each function's return code and what it leaves behind its
output pointer (`Reply`), as a function of the arguments `do_nvml_poll` varies. An optional function is none when its
pointer is NULL. `doNvmlPoll` fails with the first nonzero return code of a required call, and the call's name.

- `doNvmlPoll_ok_iff`: it succeeds exactly when every required call does, and then the sample and the state are
  `nvmlSample` and `nvmlState`: the DCGM-sourced fields keep their initial value, and so does an optional counter
  whose call fails.
-/
import GpuHealth.Types

namespace GpuHealth.Nvml

structure Reply (α : Type) where
  ret : ℤ
  val : α
deriving DecidableEq, Repr

/-- `nvml_field_value_t`, the members read -/
structure NvmlFieldValue where
  valueType : ℤ
  nvmlReturn : ℤ
  uiVal : UInt32
deriving DecidableEq, Repr

structure RemappedRows where
  corr : UInt32
  uncorr : UInt32
  pending : UInt32
  failed : UInt32
deriving DecidableEq, Repr

structure NvmlMemory where
  total : UInt64
  free : UInt64
  used : UInt64
deriving DecidableEq, Repr

structure NvmlUtilization where
  gpu : UInt32
  memory : UInt32
deriving DecidableEq, Repr

/-! ## Constants -/

def temperatureGpu : ℤ := 0
def fiDevMemoryTemp : UInt32 := 82
def valueTypeUnsignedInt : ℤ := 1
def clockSm : ℤ := 1
def clockMem : ℤ := 2
def memoryErrorTypeCorrected : ℤ := 0
def memoryErrorTypeUncorrected : ℤ := 1
def volatileEcc : ℤ := 0
def aggregateEcc : ℤ := 1
def retirementMultipleSingleBit : ℤ := 0
def retirementDoubleBit : ℤ := 1
def throttleSwPowerCap : UInt64 := 0x4
def throttleHwSlowdown : UInt64 := 0x8
def throttleSwThermal : UInt64 := 0x20
def throttleHwThermal : UInt64 := 0x40
def throttleHwPowerBrake : UInt64 := 0x80

def errorGpuIsLost : ℤ := 15
def errorDriverNotLoaded : ℤ := 9

/-- `NVML_IS_HARD_ERROR` -/
def isHardError (ret : ℤ) : Bool := ret = errorGpuIsLost ∨ ret = errorDriverNotLoaded

/-! ## The vtable -/

structure NvmlVtable where
  deviceGetTemperature : ℤ → Reply UInt32
  deviceGetFieldValues : Option (UInt32 → Reply NvmlFieldValue)
  deviceGetPowerUsage : Reply UInt32
  deviceGetEnforcedPowerLimit : Reply UInt32
  deviceGetTotalEccErrors : ℤ → ℤ → Reply UInt64
  deviceGetRetiredPages : Option (ℤ → Reply UInt32)
  deviceGetRemappedRows : Option (Reply RemappedRows)
  deviceGetMemoryInfo : Reply NvmlMemory
  deviceGetClockInfo : ℤ → Reply UInt32
  deviceGetUtilizationRates : Reply NvmlUtilization
  deviceGetCurrentClocksThrottleReasons : Reply UInt64
  deviceGetPerformanceState : Reply ℤ
  deviceGetFanSpeed : Option (Reply UInt32)
  deviceGetCurrPcieLinkGeneration : Reply UInt32
  deviceGetCurrPcieLinkWidth : Reply UInt32
  deviceGetPcieReplayCounter : Option (Reply UInt32)

/-- what an optional call leaves in a field: its value on success, else what was there -/
def optional {α β : Type} (r : Option (Reply α)) (f : α → β) (old : β) : β :=
  match r with
  | some r => if r.ret = 0 then f r.val else old
  | none => old

/-! ## The poll -/

variable {K : Type} [Arith K]

/-- a required call: the first failure leaves the poll, with the call's name -/
def call {α : Type} (name : String) (r : Reply α) : Except (ℤ × String) α :=
  if r.ret ≠ 0 then .error (r.ret, name) else .ok r.val

/-- `!!(reasons & bit)` -/
def flag (reasons bit : UInt64) : ℤ := if reasons &&& bit ≠ 0 then 1 else 0

/-- HBM temperature through the field API; 0 when it cannot be read -/
def hbmTemp (vt : NvmlVtable) : K :=
  match vt.deviceGetFieldValues with
  | none => 0
  | some get =>
    let r := get fiDevMemoryTemp
    if r.ret = 0 ∧ r.val.nvmlReturn = 0 ∧ r.val.valueType = valueTypeUnsignedInt then (r.val.uiVal.toNat : K) else 0

def doNvmlPoll (vt : NvmlVtable) (nowMs : UInt64) (sample : GpuSample K) (state : GpuState K) :
    Except (ℤ × String) (GpuSample K × GpuState K) := do
  let sample := { sample with timestampMs := nowMs }
  -- thermal
  let u ← call "DeviceGetTemperature(GPU)" (vt.deviceGetTemperature temperatureGpu)
  let sample := { sample with tempC := (u.toNat : K) }
  let sample := { sample with hbmTempC := hbmTemp vt }
  -- power, mW to W
  let u ← call "DeviceGetPowerUsage" vt.deviceGetPowerUsage
  let sample := { sample with powerW := (u.toNat : K) / 1000 }
  let u ← call "DeviceGetEnforcedPowerLimit" vt.deviceGetEnforcedPowerLimit
  let sample := { sample with powerLimitW := (u.toNat : K) / 1000 }
  let u ← call "DeviceGetClockInfo(SM)" (vt.deviceGetClockInfo clockSm)
  let sample := { sample with smClockMhz := (u.toNat : K) }
  -- ECC
  let ull ← call "DeviceGetTotalEccErrors(CORRECTED,VOLATILE)"
    (vt.deviceGetTotalEccErrors memoryErrorTypeCorrected volatileEcc)
  let sample := { sample with eccSbeVolatile := ull }
  let ull ← call "DeviceGetTotalEccErrors(UNCORRECTED,VOLATILE)"
    (vt.deviceGetTotalEccErrors memoryErrorTypeUncorrected volatileEcc)
  let sample := { sample with eccDbeVolatile := ull }
  let ull ← call "DeviceGetTotalEccErrors(CORRECTED,AGGREGATE)"
    (vt.deviceGetTotalEccErrors memoryErrorTypeCorrected aggregateEcc)
  let state := { state with eccSbeAggregate := ull }
  let ull ← call "DeviceGetTotalEccErrors(UNCORRECTED,AGGREGATE)"
    (vt.deviceGetTotalEccErrors memoryErrorTypeUncorrected aggregateEcc)
  let state := { state with eccDbeAggregate := ull }
  -- retired pages and row remap, optional
  let retired := fun cause => vt.deviceGetRetiredPages.map fun get => get cause
  let state := { state with
    retiredPagesSbe := optional (retired retirementMultipleSingleBit) id state.retiredPagesSbe
    retiredPagesDbe := optional (retired retirementDoubleBit) id state.retiredPagesDbe }
  let state := { state with
    rowRemapFailures := optional vt.deviceGetRemappedRows (·.uncorr) state.rowRemapFailures
    pendingRowRemap := optional vt.deviceGetRemappedRows (fun r => intOfU32 r.pending) state.pendingRowRemap }
  let mem ← call "DeviceGetMemoryInfo" vt.deviceGetMemoryInfo
  let state := { state with memUsedBytes := mem.used, memFreeBytes := mem.free, memTotalBytes := mem.total }
  let u ← call "DeviceGetClockInfo(MEM)" (vt.deviceGetClockInfo clockMem)
  let state := { state with memClockMhz := (u.toNat : K) }
  let util ← call "DeviceGetUtilizationRates" vt.deviceGetUtilizationRates
  let state := { state with utilGpuPct := intOfU32 util.gpu, utilMemPct := intOfU32 util.memory }
  let reasons ← call "DeviceGetCurrentClocksThrottleReasons" vt.deviceGetCurrentClocksThrottleReasons
  let state := { state with
    throttleSwPowerCap := flag reasons throttleSwPowerCap
    throttleHwSlowdown := flag reasons throttleHwSlowdown
    throttleHwPowerBrake := flag reasons throttleHwPowerBrake
    throttleSwThermal := flag reasons throttleSwThermal
    throttleHwThermal := flag reasons throttleHwThermal }
  let pstate ← call "DeviceGetPerformanceState" vt.deviceGetPerformanceState
  let state := { state with pstate := pstate }
  -- PCIe
  let u ← call "DeviceGetCurrPcieLinkGeneration" vt.deviceGetCurrPcieLinkGeneration
  let state := { state with pcieLinkGen := intOfU32 u }
  let u ← call "DeviceGetCurrPcieLinkWidth" vt.deviceGetCurrPcieLinkWidth
  let state := { state with pcieLinkWidth := intOfU32 u }
  let state := { state with
    pcieReplayCount := optional vt.deviceGetPcieReplayCounter (fun u => u.toUInt64) state.pcieReplayCount }
  let state := { state with fanSpeedPct := optional vt.deviceGetFanSpeed intOfU32 (-1) }
  return (sample, state)

/-! ## What a poll returns -/

/-- the return codes of the required calls, in the order of the calls -/
def requiredRets (vt : NvmlVtable) : List ℤ := [
  (vt.deviceGetTemperature temperatureGpu).ret,
  vt.deviceGetPowerUsage.ret,
  vt.deviceGetEnforcedPowerLimit.ret,
  (vt.deviceGetClockInfo clockSm).ret,
  (vt.deviceGetTotalEccErrors memoryErrorTypeCorrected volatileEcc).ret,
  (vt.deviceGetTotalEccErrors memoryErrorTypeUncorrected volatileEcc).ret,
  (vt.deviceGetTotalEccErrors memoryErrorTypeCorrected aggregateEcc).ret,
  (vt.deviceGetTotalEccErrors memoryErrorTypeUncorrected aggregateEcc).ret,
  vt.deviceGetMemoryInfo.ret,
  (vt.deviceGetClockInfo clockMem).ret,
  vt.deviceGetUtilizationRates.ret,
  vt.deviceGetCurrentClocksThrottleReasons.ret,
  vt.deviceGetPerformanceState.ret,
  vt.deviceGetCurrPcieLinkGeneration.ret,
  vt.deviceGetCurrPcieLinkWidth.ret]

/-- every required call returns NVML_SUCCESS -/
def Responds (vt : NvmlVtable) : Prop := ∀ ret ∈ requiredRets vt, ret = 0

instance (vt : NvmlVtable) : Decidable (Responds vt) :=
  inferInstanceAs (Decidable (∀ ret ∈ requiredRets vt, ret = 0))

def nvmlSample (vt : NvmlVtable) (nowMs : UInt64) : GpuSample K where
  powerW := (vt.deviceGetPowerUsage.val.toNat : K) / 1000
  powerLimitW := (vt.deviceGetEnforcedPowerLimit.val.toNat : K) / 1000
  tempC := ((vt.deviceGetTemperature temperatureGpu).val.toNat : K)
  hbmTempC := hbmTemp vt
  smClockMhz := ((vt.deviceGetClockInfo clockSm).val.toNat : K)
  eccSbeVolatile := (vt.deviceGetTotalEccErrors memoryErrorTypeCorrected volatileEcc).val
  eccDbeVolatile := (vt.deviceGetTotalEccErrors memoryErrorTypeUncorrected volatileEcc).val
  timestampMs := nowMs

def nvmlState (vt : NvmlVtable) (state : GpuState K) : GpuState K :=
  { state with
    eccSbeAggregate := (vt.deviceGetTotalEccErrors memoryErrorTypeCorrected aggregateEcc).val
    eccDbeAggregate := (vt.deviceGetTotalEccErrors memoryErrorTypeUncorrected aggregateEcc).val
    retiredPagesSbe := optional (vt.deviceGetRetiredPages.map fun get => get retirementMultipleSingleBit) id
      state.retiredPagesSbe
    retiredPagesDbe := optional (vt.deviceGetRetiredPages.map fun get => get retirementDoubleBit) id
      state.retiredPagesDbe
    rowRemapFailures := optional vt.deviceGetRemappedRows (·.uncorr) state.rowRemapFailures
    pendingRowRemap := optional vt.deviceGetRemappedRows (fun r => intOfU32 r.pending) state.pendingRowRemap
    memUsedBytes := vt.deviceGetMemoryInfo.val.used
    memFreeBytes := vt.deviceGetMemoryInfo.val.free
    memTotalBytes := vt.deviceGetMemoryInfo.val.total
    memClockMhz := ((vt.deviceGetClockInfo clockMem).val.toNat : K)
    utilGpuPct := intOfU32 vt.deviceGetUtilizationRates.val.gpu
    utilMemPct := intOfU32 vt.deviceGetUtilizationRates.val.memory
    throttleSwPowerCap := flag vt.deviceGetCurrentClocksThrottleReasons.val throttleSwPowerCap
    throttleHwSlowdown := flag vt.deviceGetCurrentClocksThrottleReasons.val throttleHwSlowdown
    throttleHwPowerBrake := flag vt.deviceGetCurrentClocksThrottleReasons.val throttleHwPowerBrake
    throttleSwThermal := flag vt.deviceGetCurrentClocksThrottleReasons.val throttleSwThermal
    throttleHwThermal := flag vt.deviceGetCurrentClocksThrottleReasons.val throttleHwThermal
    pstate := vt.deviceGetPerformanceState.val
    pcieLinkGen := intOfU32 vt.deviceGetCurrPcieLinkGeneration.val
    pcieLinkWidth := intOfU32 vt.deviceGetCurrPcieLinkWidth.val
    pcieReplayCount := optional vt.deviceGetPcieReplayCounter (fun u => u.toUInt64) state.pcieReplayCount
    fanSpeedPct := optional vt.deviceGetFanSpeed intOfU32 (-1) }

/-- a poll that got past a required call: the call succeeded, and the rest ran on the value it left behind -/
theorem call_bind_ok {α β : Type} {name : String} {r : Reply α} {f : α → Except (ℤ × String) β} {b : β}
    (h : (call name r >>= f) = .ok b) : r.ret = 0 ∧ f r.val = .ok b := by
  unfold call at h
  split_ifs at h with hret
  · exact absurd h (by simp [bind, Except.bind])
  · exact ⟨not_not.1 hret, h⟩

/-- **A poll succeeds exactly when every required call does, and then returns what the calls delivered.** -/
theorem doNvmlPoll_ok_iff {vt : NvmlVtable} {nowMs : UInt64} {sample : GpuSample K} {state : GpuState K}
    {r : GpuSample K × GpuState K} :
    doNvmlPoll vt nowMs sample state = .ok r ↔ Responds vt ∧ r = (nvmlSample vt nowMs, nvmlState vt state) := by
  constructor
  · intro h
    unfold doNvmlPoll at h
    obtain ⟨r1, h⟩ := call_bind_ok h
    obtain ⟨r2, h⟩ := call_bind_ok h
    obtain ⟨r3, h⟩ := call_bind_ok h
    obtain ⟨r4, h⟩ := call_bind_ok h
    obtain ⟨r5, h⟩ := call_bind_ok h
    obtain ⟨r6, h⟩ := call_bind_ok h
    obtain ⟨r7, h⟩ := call_bind_ok h
    obtain ⟨r8, h⟩ := call_bind_ok h
    obtain ⟨r9, h⟩ := call_bind_ok h
    obtain ⟨r10, h⟩ := call_bind_ok h
    obtain ⟨r11, h⟩ := call_bind_ok h
    obtain ⟨r12, h⟩ := call_bind_ok h
    obtain ⟨r13, h⟩ := call_bind_ok h
    obtain ⟨r14, h⟩ := call_bind_ok h
    obtain ⟨r15, h⟩ := call_bind_ok h
    refine ⟨?_, (Except.ok.inj h).symm⟩
    simp [Responds, requiredRets, r1, r2, r3, r4, r5, r6, r7, r8, r9, r10, r11, r12, r13, r14, r15]
  · intro hr
    obtain ⟨h, rfl⟩ := hr
    simp only [Responds, requiredRets, List.forall_mem_cons] at h
    obtain ⟨r1, r2, r3, r4, r5, r6, r7, r8, r9, r10, r11, r12, r13, r14, r15, -⟩ := h
    simp only [doNvmlPoll, call, r1, r2, r3, r4, r5, r6, r7, r8, r9, r10, r11, r12, r13, r14, r15]
    rfl

end GpuHealth.Nvml
