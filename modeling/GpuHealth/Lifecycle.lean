/-
The DCGM calls of one run of the exporter (`main` and `shutdown_all` of `src/main.c`, `dcgm_setup` and `dcgm_teardown`
of `src/dcgm.c`).

A run is the log of its calls with their results, in order; `StartupEnv` holds what the calls and the other steps of
startup answer. Between startup and `shutdown_all` the exporter makes no call that acquires or releases anything (the
poll threads only read values), so the steady state is left out; how it ends does not matter.

`dcgm_load` either leaves the library loaded, with every required symbol, or closes it itself.
-/
import GpuHealth.Nvml

namespace GpuHealth.Lifecycle

open GpuHealth.Nvml

inductive DcgmCall where
  | init (ret : ℤ)
  | connect (ret : ℤ)
  | groupCreate (ret : ℤ)
  | groupAddDevice (gpuId : ℕ) (ret : ℤ)
  | fieldGroupCreate (ret : ℤ)
  | watchFields (ret : ℤ)
  | disconnect
  | shutdown
  /-- `dlclose` -/
  | unload
deriving DecidableEq, Repr

/-- what `main` and `dcgm_setup` ask -/
structure StartupEnv where
  /-- the config is loaded and valid, the state directory is writable -/
  configured : Bool
  nvmlLoaded : Bool
  nvmlInit : ℤ
  /-- `dcgm_load` returns 0 -/
  dcgmLoaded : Bool
  /-- the return code of the Init in `main`, and of the one in `dcgm_setup` -/
  mainInit : ℤ
  setupInit : ℤ
  connect : ℤ
  groupCreate : ℤ
  groupAddDevice : ℕ → ℤ
  fieldGroupCreate : ℤ
  watchFields : ℤ
  deviceGetCount : Reply UInt32
  /-- the two calloc calls of the enumeration -/
  gpusAllocated : Bool
  gpuIdsAllocated : Bool
  /-- `spawn_http_child` returns 0 -/
  childSpawned : Bool

/-! ## `dcgm_setup` -/

/-- the loop over `gpu_ids`, left at the first device that cannot be added -/
def addDevices (env : StartupEnv) : List ℕ → Bool × List DcgmCall
  | [] => (true, [])
  | gpuId :: gpuIds =>
    if env.groupAddDevice gpuId ≠ 0 then (false, [.groupAddDevice gpuId (env.groupAddDevice gpuId)])
    else
      let (added, log) := addDevices env gpuIds
      (added, .groupAddDevice gpuId (env.groupAddDevice gpuId) :: log)

/-- what lies between Connect and the result: whether all of it succeeded -/
def watchGroup (env : StartupEnv) (gpuIds : List ℕ) : Bool × List DcgmCall :=
  if env.groupCreate ≠ 0 then (false, [.groupCreate env.groupCreate])
  else
    let (added, devices) := addDevices env gpuIds
    let log := .groupCreate env.groupCreate :: devices
    if ¬ added then (false, log)
    else if env.fieldGroupCreate ≠ 0 then (false, log ++ [.fieldGroupCreate env.fieldGroupCreate])
    else if env.watchFields ≠ 0 then
      (false, log ++ [.fieldGroupCreate env.fieldGroupCreate, .watchFields env.watchFields])
    else (true, log ++ [.fieldGroupCreate env.fieldGroupCreate, .watchFields env.watchFields])

def dcgmSetup (env : StartupEnv) (gpuIds : List ℕ) : ℤ × List DcgmCall :=
  if env.setupInit ≠ 0 then (-1, [.init env.setupInit])
  else if env.connect ≠ 0 then (-1, [.init env.setupInit, .connect env.connect, .shutdown])
  else
    let (watched, log) := watchGroup env gpuIds
    if watched then (0, .init env.setupInit :: .connect env.connect :: log)
    -- fail_disconnect
    else (-1, .init env.setupInit :: .connect env.connect :: (log ++ [.disconnect, .shutdown]))

def dcgmTeardown : List DcgmCall := [.disconnect, .shutdown]

/-! ## `main` -/

/-- the DCGM part of `shutdown_all` -/
def shutdownAll (dcgmAvailable : ℤ) : List DcgmCall := if dcgmAvailable ≠ 0 then dcgmTeardown ++ [.unload] else []

/-- `main` from the enumeration on, with the `dcgm_available` of the DCGM part: the exit code and the calls -/
def mainEnumerate (env : StartupEnv) (dcgmAvailable : ℤ) : ℤ × List DcgmCall :=
  let numGpus := intOfU32 env.deviceGetCount.val
  if env.deviceGetCount.ret ≠ 0 ∨ env.deviceGetCount.val = 0 then (1, [])
  else if ¬ env.gpusAllocated then (1, [])
  else if ¬ env.gpuIdsAllocated then (1, [])
  else
    let (dcgmAvailable, log) :=
      if dcgmAvailable = -1 then
        let (ret, setup) := dcgmSetup env (List.range numGpus.toNat)
        if ret = 0 then (1, setup) else (0, setup ++ [.unload])
      else (dcgmAvailable, [])
    if ¬ env.childSpawned then (1, log ++ shutdownAll dcgmAvailable)
    else (0, log ++ shutdownAll dcgmAvailable)

/-- one run, from start to exit -/
def exporterMain (env : StartupEnv) : ℤ × List DcgmCall :=
  if ¬ env.configured then (1, [])
  else if ¬ env.nvmlLoaded then (1, [])
  else if env.nvmlInit ≠ 0 then (1, [])
  else if env.dcgmLoaded then
    if env.mainInit = 0 then
      -- dcgm_available is tentative: loaded, not connected
      let (code, log) := mainEnumerate env (-1)
      (code, .init env.mainInit :: log)
    else
      let (code, log) := mainEnumerate env 0
      (code, .init env.mainInit :: .unload :: log)
  else mainEnumerate env 0

end GpuHealth.Lifecycle
