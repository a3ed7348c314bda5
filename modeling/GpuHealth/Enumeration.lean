/-
The enumeration loop of `main` (`src/main.c`), up to the files of each GPU: device handle, identity, model, driver
version, static PCIe limits.

`IdentityVtable` is the part of the NVML vtable the loop calls. A call that delivers a string gets the buffer's string
and the buffer's length, and answers with its return code and the buffer's string afterwards (`GetString`); an optional
function is none when its pointer is NULL. `contexts` is the array `exp.gpus` when the poll threads start.
-/
import GpuHealth.Collector

namespace GpuHealth.Enumeration

open GpuHealth.CText GpuHealth.Nvml GpuHealth.Collector

/-- an opaque device pointer; 0 is NULL -/
abbrev Handle := ℕ

/-- a call on a buffer and its length -/
abbrev GetString := CStr → ℕ → Reply CStr

structure IdentityVtable where
  systemGetDriverVersion : Option GetString
  deviceGetHandleByIndex : ℕ → Reply Handle
  deviceGetSerial : Option (Handle → GetString)
  deviceGetUUID : Option (Handle → GetString)
  deviceGetName : Option (Handle → GetString)
  deviceGetMaxPcieLinkGeneration : Option (Handle → Reply UInt32)
  deviceGetMaxPcieLinkWidth : Option (Handle → Reply UInt32)

/-! ## The code -/

/-- a string call whose return code nobody looks at -/
def fill (get : Option GetString) (buf : CStr) (len : ℕ) : CStr :=
  match get with
  | some get => (get buf len).val
  | none => buf

def driverVersion (vt : IdentityVtable) : CStr := fill vt.systemGetDriverVersion "(unknown)".toList 64

/-- `ctx->serial` and `ctx->identity_source` -/
def identity (vt : IdentityVtable) (handle : Handle) (serial : CStr) : CStr × GpuIdentitySrc :=
  match vt.deviceGetSerial with
  | none => (fill (vt.deviceGetUUID.map fun get => get handle) serial 32, .uuid)
  | some get =>
    let r := get handle serial 32
    if r.ret ≠ 0 then (fill (vt.deviceGetUUID.map fun get => get handle) r.val 32, .uuid)
    else (r.val, .serial)

/-- a static PCIe limit, `old` when the call is missing or fails -/
def pcieMax (get : Option (Reply UInt32)) (old : ℤ) : ℤ :=
  match get with
  | some r => if r.ret = 0 then intOfU32 r.val else old
  | none => old

variable {K : Type} [Arith K]

/-- one pass of the loop, on an entry of the calloc'ed array -/
def enumerateGpu (vt : IdentityVtable) (i : ℕ) : GpuCtx K :=
  let ctx : GpuCtx K := { GpuCtx.zeroed with gpuIndex := i, gpuPresent := 1, gpuAvailable := 1 }
  -- a failed call is only logged
  let handle := (vt.deviceGetHandleByIndex i).val
  let (serial, source) := identity vt handle ctx.serial
  { ctx with
    serial := serial
    identitySource := source
    uuid := fill (vt.deviceGetUUID.map fun get => get handle) ctx.uuid 48
    gpuModel := fill (vt.deviceGetName.map fun get => get handle) ctx.gpuModel 64
    driverVersion := safeStrncpy (driverVersion vt) 64
    pcieLinkGenMax := pcieMax (vt.deviceGetMaxPcieLinkGeneration.map fun get => get handle) ctx.pcieLinkGenMax
    pcieLinkWidthMax := pcieMax (vt.deviceGetMaxPcieLinkWidth.map fun get => get handle) ctx.pcieLinkWidthMax
    state := { ctx.state with boardPowerW := .fin 0, energyJ := .fin 0, memBwUtilPct := .fin 0, fanSpeedPct := -1 } }

/-- the whole loop: `exp.gpus` with identities and files -/
def contexts (exp : Exporter K) (vt : IdentityVtable) (numGpus : ℕ) (baselineFiles probeFiles : CStr → Option CStr)
    (nowS : UInt64) : List (GpuCtx K) :=
  (List.range numGpus).map fun i =>
    let ctx : GpuCtx K := enumerateGpu vt i
    mainLoadFiles exp ctx (baselineFiles ctx.serial) (probeFiles ctx.serial) nowS

theorem contexts_serial (exp : Exporter K) (vt : IdentityVtable) (numGpus : ℕ)
    (baselineFiles probeFiles : CStr → Option CStr) (nowS : UInt64) :
    (contexts exp vt numGpus baselineFiles probeFiles nowS).map (fun ctx => ctx.serial) =
      (List.range numGpus).map fun i => (identity vt (vt.deviceGetHandleByIndex i).val []).1 := by
  rw [contexts, List.map_map]
  rfl

end GpuHealth.Enumeration
