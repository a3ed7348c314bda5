/-
The measurement of the probe program, from the first interval to the files (`main`, `probe/gpu_health_probe.cu`).

A `Pass` is what one pass of the measurement loop is told: the clock at its head, after its GEMM, and after the
synchronisation of a pass that ends an interval, and the power reading. The loop is left at the first pass whose head
has reached the end of the window. An `Interval` is what a pass that ends one measures.

Doubles are exact numbers: samples, mean and duration come out here without the rounding of each operation.
`interval_iters` is a `long` that is reset at least once a second, and taken as ℕ. The checks of CUDA, cuBLAS and NVML
leave the program before the loop with an exit code, without files; the loop makes none.
-/
import GpuHealth.Core.Runs
import GpuHealth.FileWriters

namespace GpuHealth.Measurement

open GpuHealth.Calendar GpuHealth.CText GpuHealth.FilePublication GpuHealth.FileWriters

def maxSamples : ℕ := 4096

def minValidSamples : ℕ := 5

def minPowerW : Dbl ℚ := .fin 10

/-! ## The loop -/

structure Pass where
  head : UInt64
  now : UInt64
  synced : UInt64
  /-- what `nvmlDeviceGetPowerUsage` leaves, 0 when it fails -/
  powerMw : UInt32
deriving DecidableEq, Repr

structure Vars where
  perfWSamples : List (Dbl ℚ)
  intervalStart : UInt64
  intervalIters : ℕ
deriving DecidableEq, Repr

structure Interval where
  start : UInt64
  stop : UInt64
  iters : ℕ
  powerMw : UInt32
deriving DecidableEq, Repr

def Interval.elapsedS (i : Interval) : Dbl ℚ := .fin ((i.stop - i.start).toNat : ℚ) / .fin 1000

def flopsPerGemm (n : ℤ) : Dbl ℚ := .fin 2 * .fin n * .fin n * .fin n

def Interval.tflops (n : ℤ) (i : Interval) : Dbl ℚ := flopsPerGemm n * .fin i.iters / .fin (10 ^ 12) / i.elapsedS

def Interval.powerW (i : Interval) : Dbl ℚ := .fin (i.powerMw.toNat : ℚ) / .fin 1000

/-- the sample of an interval -/
def Interval.perfW (n : ℤ) (i : Interval) : Dbl ℚ := i.tflops n / i.powerW

/-- the interval that a pass ends, if it ends one -/
def ends (measEnd : UInt64) (v : Vars) (p : Pass) : Option Interval :=
  if p.now - v.intervalStart ≥ 1000 ∨ p.now ≥ measEnd then
    some ⟨v.intervalStart, p.synced, v.intervalIters + 1, p.powerMw⟩
  else none

/-- the array and its count, after an interval -/
def takeSample (n : ℤ) (samples : List (Dbl ℚ)) (i : Interval) : List (Dbl ℚ) :=
  if minPowerW ≤ i.powerW ∧ samples.length < maxSamples then samples ++ [i.perfW n] else samples

/-- the loop body -/
def pass (n : ℤ) (measEnd : UInt64) (v : Vars) (p : Pass) : Vars :=
  match ends measEnd v p with
  | some i => ⟨takeSample n v.perfWSamples i, p.synced, 0⟩
  | none => { v with intervalIters := v.intervalIters + 1 }

/-- none while the loop goes on behind these passes -/
def measureWindow (n : ℤ) (measEnd : UInt64) (v : Vars) : List Pass → Option Vars
  | [] => none
  | p :: passes => if p.head < measEnd then measureWindow n measEnd (pass n measEnd v p) passes else some v

def measStartVars (measStart : UInt64) : Vars := ⟨[], measStart, 0⟩

def measEnd (measStart : UInt64) (durationS : ℤ) : UInt64 := measStart + UInt64.ofInt durationS * 1000

/-! ## The result -/

/-- the loop over the samples, divided by their number -/
def perfWMean (samples : List (Dbl ℚ)) : Dbl ℚ := samples.foldl (· + ·) (.fin 0) / .fin samples.length

/-- the call of `now_ms` behind the loop -/
def actualDuration (measStart after : UInt64) : Dbl ℚ := .fin ((after - measStart).toNat : ℚ) / .fin 1000

/-- the options and the identity -/
structure ProbeArgs where
  matrixN : ℤ
  durationS : ℤ
  dryRun : Bool
  establishBaseline : Bool
  serial : CStr
  uuid : CStr
  driver : CStr
deriving DecidableEq, Repr

/-- the checks of the options -/
def ProbeArgs.Accepted (a : ProbeArgs) : Prop :=
  10 ≤ a.durationS ∧ 512 ≤ a.matrixN ∧ a.matrixN ≤ 32768 ∧ ¬ (a.establishBaseline = true ∧ a.dryRun = true)

instance (a : ProbeArgs) : Decidable a.Accepted := inferInstanceAs (Decidable (_ ∧ _))

variable {R : Type}

/-- what is behind the loop: the exit code, and the calls on the probe file and on the baseline -/
def finish (args : ProbeArgs) (time : ℕ) (duration : Dbl ℚ) (samples : List (Dbl ℚ)) (probe baseline : FileAnswers) :
    ℤ × List (Op Char R) × List (Op Char R) :=
  if samples.length < minValidSamples then (1, [], [])
  else
    let mean := perfWMean samples
    let workload := ProbeWriter.workloadText args.matrixN
    let timestamp := iso8601 time
    if args.dryRun then (0, [], [])
    else
      let (calls, ret) := writeProbeFile args.serial timestamp mean duration samples.length workload probe
      if ret ≠ 0 then (3, calls, [])
      else if args.establishBaseline then
        let (calls', ret') := writeBaselineFile args.serial args.uuid args.driver timestamp mean samples.length workload
          baseline
        if ret' ≠ 0 then (3, calls, calls') else (0, calls, calls')
      else (0, calls, [])

end GpuHealth.Measurement
