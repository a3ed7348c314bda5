/-
The scorer (`src/scorer.c`): ring statistics, the telemetry completeness gate, and `score_gpu`.

Doubles are exact (`Dbl K`, see `Core.Double`). `qsort` with `cmp_double` on finite doubles is the sort by `≤`. The
only effect of the environment on `score_gpu` is whether `malloc` serves `ring_p95`, which allocates above 300
samples: `P95Malloc` says so for each of its two calls.

The gate's `deltas`, an array of 3600 entries in the source, is a list here. So this is the code for up to 3601
samples, behind which the source stores outside the array (`CheckedScorer.completenessGate_window`). `collector_start`
makes no ring of more than 3600.

`score_gpu` interleaves reading the ring with its penalties. Here `ringStats` makes the readings, block by block in
the source's order, and `scoreStats` applies the penalties to the running score and reason mask (`Acc`), one
definition for each block. The four thermal tiers and the two PCIe blocks are instances of `thermalTier` and
`pcieDegraded`.
-/
import GpuHealth.Ring
import Mathlib.Data.List.Sort
import Mathlib.Data.Rat.Floor

namespace GpuHealth.Scorer

open GpuHealth.Ring

variable {K : Type} [Arith K]

/-! ## Ring buffer statistics -/

def ringMean (ring : GpuRing K) (field : GpuSample K → K) : Dbl K :=
  if ring.count = 0 then .nan
  else
    let sum := (List.range ring.count.toNat).foldl (fun (sum : Dbl K) (i : ℕ) => sum + .fin (sampleField ring i field))
      (.fin 0)
    sum / .fin ring.count

/-- C's `sqrt` -/
def dsqrt : Dbl K → Dbl K
  | .nan | .ninf => .nan
  | .pinf => .pinf
  | .fin x => if x < 0 then .nan else .fin (Arith.sqrt x)

def ringStddev (ring : GpuRing K) (field : GpuSample K → K) : Dbl K :=
  if ring.count < 2 then .nan
  else
    let mean := ringMean ring field
    let sqSum := (List.range ring.count.toNat).foldl (fun (sqSum : Dbl K) (i : ℕ) =>
      let d := .fin (sampleField ring i field) - mean
      sqSum + d * d) (.fin 0)
    dsqrt (sqSum / .fin ((ring.count - 1 : ℤ) : K))

/-- `qsort(vals, n, sizeof(double), cmp_double)` -/
def sortDoubles (vals : List K) : List K := vals.insertionSort (· ≤ ·)

def ringP95 (malloc : Bool) (ring : GpuRing K) (field : GpuSample K → K) : Dbl K :=
  if ring.count = 0 then .nan
  else if ¬ ring.count ≤ 300 ∧ malloc = false then .nan
  else
    let vals := (List.range ring.count.toNat).map fun i : ℕ => sampleField ring i field
    let sorted := sortDoubles vals
    let rank := ⌈(95 / 100 : ℚ) * ring.count⌉
    let rank := if rank < 1 then 1 else rank
    let rank := if rank > ring.count then ring.count else rank
    .fin (sorted.getD (rank - 1).toNat 0)

/-! ## Telemetry completeness gate -/

/-- one entry of `deltas`: the unsigned difference of two timestamps, in seconds, behind the guard on its sign -/
def gateDelta (cur prev : GpuSample K) : K :=
  let dt := ((cur.timestampMs - prev.timestampMs).toNat : K) / 1000
  if dt < 0 then -dt else dt

/-- the median of sorted deltas, `n` of them -/
def medianStep (deltas : List K) (n : ℤ) : K :=
  if n.tmod 2 = 1 then deltas.getD (n.tdiv 2).toNat 0
  else (deltas.getD (n.tdiv 2 - 1).toNat 0 + deltas.getD (n.tdiv 2).toNat 0) / 2

def completenessGate (ring : GpuRing K) (cfg : GpuConfig (Dbl K)) : ℤ :=
  if ring.count < cfg.int .minSamplesAbsolute then 0
  else
    let expected := (cfg.int .windowS).tdiv (cfg.int .pollIntervalS)
    if .fin (ring.count : K) < cfg.dbl .minSampleRatio * .fin (expected : K) then 0
    else if ring.count < 2 then 0
    else
      let n := ring.count - 1
      let deltas := (List.range n.toNat).map fun i : ℕ =>
        gateDelta (sampleAt ring (gateCur ring i)) (sampleAt ring (gatePrev ring i))
      let medianStep := medianStep (sortDoubles deltas) n
      if cfg.dbl .maxMedianStepS < .fin medianStep then 0 else 1

/-! ## The readings of `score_gpu` -/

/-- whether `malloc` serves `ring_p95`, for its two calls -/
structure P95Malloc where
  temp : Bool
  hbm : Bool
deriving DecidableEq, Repr

structure WindowStats (K : Type) where
  tempP95C : Dbl K
  hbmTempP95C : Dbl K
  clkStdMhz : Dbl K
  powerSaturationFrac : Dbl K
  eccSbeRatePerHour : Dbl K
  eccDbeInWindow : ℤ
deriving DecidableEq, Repr

/-- whether a sample draws at least `power_high_ratio` of its limit -/
def saturated (cfg : GpuConfig (Dbl K)) (pw lim : K) : Bool :=
  0 < lim ∧ cfg.dbl .powerHighRatio * .fin lim ≤ .fin pw

def powerSaturation (ring : GpuRing K) (cfg : GpuConfig (Dbl K)) : Dbl K :=
  let satCount := (List.range ring.count.toNat).foldl (fun (satCount : ℤ) (i : ℕ) =>
    if saturated cfg (sampleField ring i GpuSample.powerW) (sampleField ring i GpuSample.powerLimitW) then
      satCount + 1
    else satCount) 0
  .fin (satCount : K) / .fin (ring.count : K)

/-- time between two samples in hours -/
def windowHrs (first last : GpuSample K) : K :=
  let tsFirstS := (first.timestampMs.toNat : K) / 1000
  let tsLastS := (last.timestampMs.toNat : K) / 1000
  (tsLastS - tsFirstS) / 3600

def sbeDelta (first last : GpuSample K) : K :=
  if last.eccSbeVolatile ≥ first.eccSbeVolatile then ((last.eccSbeVolatile - first.eccSbeVolatile).toNat : K)
  else 0

def sbeRate (first last : GpuSample K) : K :=
  if windowHrs first last > 0 then sbeDelta first last / windowHrs first last else 0

def dbeActive (first last : GpuSample K) : ℤ := if last.eccDbeVolatile > first.eccDbeVolatile then 1 else 0

def ringStats (malloc : P95Malloc) (ring : GpuRing K) (cfg : GpuConfig (Dbl K)) : WindowStats K where
  tempP95C := ringP95 malloc.temp ring GpuSample.tempC
  hbmTempP95C := ringP95 malloc.hbm ring GpuSample.hbmTempC
  clkStdMhz := ringStddev ring GpuSample.smClockMhz
  powerSaturationFrac := powerSaturation ring cfg
  eccSbeRatePerHour := .fin (sbeRate (sampleAt ring (idxFirst ring)) (sampleAt ring (idxLast ring)))
  eccDbeInWindow := dbeActive (sampleAt ring (idxFirst ring)) (sampleAt ring (idxLast ring))

/-! ## The penalties of `score_gpu` -/

/-- the running `score` and `reasons` -/
structure Acc (K : Type) where
  score : Dbl K
  reasons : UInt32

/-- `score -= p; reasons |= bit` -/
def Acc.penalise (a : Acc K) (p : Dbl K) (bit : UInt32) : Acc K := ⟨a.score - p, a.reasons ||| bit⟩

def thermalTier (p95 warn bad : Dbl K) (warnBit badBit : UInt32) (a : Acc K) : Acc K :=
  if p95.isnan = false then
    if bad < p95 then a.penalise (.fin 25) badBit
    else if warn < p95 then a.penalise (.fin 10) warnBit
    else a
  else a

def tempBlock (st : WindowStats K) (cfg : GpuConfig (Dbl K)) : Acc K → Acc K :=
  thermalTier st.tempP95C (cfg.dbl .tempP95WarnC) (cfg.dbl .tempP95BadC) Reason.tempWarn Reason.tempBad

def hbmBlock (st : WindowStats K) (cfg : GpuConfig (Dbl K)) : Acc K → Acc K :=
  thermalTier st.hbmTempP95C (cfg.dbl .hbmTempP95WarnC) (cfg.dbl .hbmTempP95BadC) Reason.hbmTempWarn
    Reason.hbmTempBad

def clockBlock (st : WindowStats K) (cfg : GpuConfig (Dbl K)) (a : Acc K) : Acc K :=
  if st.clkStdMhz.isnan = false ∧ cfg.dbl .clkStdWarnMhz < st.clkStdMhz then
    let penalty := .fin 15 * (st.clkStdMhz - cfg.dbl .clkStdWarnMhz) / cfg.dbl .clkStdWarnMhz
    let penalty := if .fin 15 < penalty then .fin 15 else penalty
    a.penalise penalty Reason.clkStdHigh
  else a

def powerBlock (st : WindowStats K) (cfg : GpuConfig (Dbl K)) (a : Acc K) : Acc K :=
  if .fin 0 < st.powerSaturationFrac then
    let penalty := cfg.dbl .powerPenaltyMax * st.powerSaturationFrac
    let penalty := if cfg.dbl .powerPenaltyMax < penalty then cfg.dbl .powerPenaltyMax else penalty
    a.penalise penalty Reason.powerSaturation
  else a

def eccSbeBlock (st : WindowStats K) (cfg : GpuConfig (Dbl K)) (a : Acc K) : Acc K :=
  if cfg.dbl .eccSbeRateWarnPerHour < st.eccSbeRatePerHour then
    a.penalise (cfg.dbl .eccSbePenalty) Reason.eccSbeHigh
  else a

def eccDbeBlock (st : WindowStats K) (cfg : GpuConfig (Dbl K)) (a : Acc K) : Acc K :=
  if st.eccDbeInWindow ≠ 0 then a.penalise (cfg.dbl .eccDbePenalty) Reason.eccDbeActive else a

def retiredBlock (state : GpuState K) (cfg : GpuConfig (Dbl K)) (a : Acc K) : Acc K :=
  if state.retiredPagesDbe ≥ UInt32.ofInt (cfg.int .retiredPagesBad) then
    a.penalise (cfg.dbl .retiredPagesPenBad) Reason.retiredPagesBad
  else if state.retiredPagesDbe ≥ UInt32.ofInt (cfg.int .retiredPagesWarn) then
    a.penalise (cfg.dbl .retiredPagesPenWarn) Reason.retiredPagesWarn
  else a

def rowRemapBlock (state : GpuState K) (cfg : GpuConfig (Dbl K)) (a : Acc K) : Acc K :=
  if state.rowRemapFailures > 0 then a.penalise (cfg.dbl .rowRemapFailurePenalty) Reason.rowRemap else a

def pcieDegraded (cur max : ℤ) (penalty : Dbl K) (bit : UInt32) (a : Acc K) : Acc K :=
  if cur > 0 ∧ max > 0 ∧ cur < max then a.penalise penalty bit else a

def pcieGenBlock (state : GpuState K) (cfg : GpuConfig (Dbl K)) : Acc K → Acc K :=
  pcieDegraded state.pcieLinkGen state.pcieLinkGenMax (cfg.dbl .pcieLinkDegradedPenalty) Reason.pcieGen

def pcieWidthBlock (state : GpuState K) (cfg : GpuConfig (Dbl K)) : Acc K → Acc K :=
  pcieDegraded state.pcieLinkWidth state.pcieLinkWidthMax (cfg.dbl .pcieWidthDegradedPenalty) Reason.pcieWidth

/-- `drop` of the perf/W path; none when its condition fails -/
def perfDrop (baseline : Option (GpuBaseline K)) (probe : Option (GpuProbeResult K)) : Option (Dbl K) :=
  match baseline, probe with
  | some b, some p =>
    if b.available ≠ 0 ∧ b.valid ≠ 0 ∧ .fin 0 < b.perfWMean ∧ p.available ≠ 0 ∧ p.stale = 0 ∧
        .fin 0 < p.perfWMean then
      let drop := (b.perfWMean - p.perfWMean) / b.perfWMean
      some (if drop < .fin 0 then .fin 0 else drop)
    else none
  | _, _ => none

def perfBlock (drop : Option (Dbl K)) (cfg : GpuConfig (Dbl K)) (a : Acc K) : Acc K :=
  match drop with
  | none => a
  | some drop =>
    if cfg.dbl .perfDropSevere < drop then a.penalise (cfg.dbl .perfDropPenSevere) Reason.perfDropSevere
    else if cfg.dbl .perfDropBad < drop then a.penalise (cfg.dbl .perfDropPenBad) Reason.perfDropBad
    else if cfg.dbl .perfDropWarn < drop then a.penalise (cfg.dbl .perfDropPenWarn) Reason.perfDropWarn
    else a

def staleBlock (probe : Option (GpuProbeResult K)) (a : Acc K) : Acc K :=
  match probe with
  | some p => if p.stale ≠ 0 then ⟨a.score, a.reasons ||| Reason.probeStale⟩ else a
  | none => a

def classify (score : Dbl K) : GpuClass :=
  if .fin 85 ≤ score then .healthy
  else if .fin 70 ≤ score then .monitor
  else if .fin 50 ≤ score then .degrading
  else .decommission

/-! ## `score_gpu` -/

/-- all penalty blocks, in the source's order -/
def penalties (st : WindowStats K) (state : GpuState K) (baseline : Option (GpuBaseline K))
    (probe : Option (GpuProbeResult K)) (cfg : GpuConfig (Dbl K)) : Acc K :=
  let a : Acc K := ⟨.fin 100, 0⟩
  let a := tempBlock st cfg a
  let a := hbmBlock st cfg a
  let a := clockBlock st cfg a
  let a := powerBlock st cfg a
  let a := eccSbeBlock st cfg a
  let a := eccDbeBlock st cfg a
  let a := retiredBlock state cfg a
  let a := rowRemapBlock state cfg a
  let a := pcieGenBlock state cfg a
  let a := pcieWidthBlock state cfg a
  let a := perfBlock (perfDrop baseline probe) cfg a
  staleBlock probe a

/-- `score_gpu` behind a passed gate -/
def scoreStats (st : WindowStats K) (state : GpuState K) (baseline : Option (GpuBaseline K))
    (probe : Option (GpuProbeResult K)) (cfg : GpuConfig (Dbl K)) : GpuScoreResult K :=
  let a := penalties st state baseline probe cfg
  let score := if a.score < .fin 0 then .fin 0 else a.score
  { score := score
    classification := classify score
    reasonMask := a.reasons
    telemetryOk := 1
    tempP95C := st.tempP95C
    hbmTempP95C := st.hbmTempP95C
    clkStdMhz := st.clkStdMhz
    powerSaturationFrac := st.powerSaturationFrac
    eccSbeRatePerHour := st.eccSbeRatePerHour
    eccDbeInWindow := st.eccDbeInWindow
    perfDropFrac := (perfDrop baseline probe).getD .nan }

/-- the result when the gate fails -/
def gateFailed : GpuScoreResult K :=
  { GpuScoreResult.zeroed with
    perfDropFrac := .nan
    telemetryOk := 0
    score := .fin 0
    classification := .na
    reasonMask := Reason.telemetryIncomplete }

def scoreGpu (malloc : P95Malloc) (ring : GpuRing K) (state : GpuState K) (baseline : Option (GpuBaseline K))
    (probe : Option (GpuProbeResult K)) (cfg : GpuConfig (Dbl K)) : GpuScoreResult K :=
  if completenessGate ring cfg = 0 then gateFailed
  else scoreStats (ringStats malloc ring cfg) state baseline probe cfg

/-- the gate returns 0 or 1 -/
theorem completenessGate_cases (ring : GpuRing K) (cfg : GpuConfig (Dbl K)) :
    completenessGate ring cfg = 0 ∨ completenessGate ring cfg = 1 := by
  simp only [completenessGate]
  split_ifs <;> simp

/-- `telemetry_ok` is the gate's result -/
theorem scoreGpu_telemetryOk (malloc : P95Malloc) (ring : GpuRing K) (state : GpuState K)
    (baseline : Option (GpuBaseline K)) (probe : Option (GpuProbeResult K)) (cfg : GpuConfig (Dbl K)) :
    (scoreGpu malloc ring state baseline probe cfg).telemetryOk = completenessGate ring cfg := by
  rcases completenessGate_cases ring cfg with h | h <;> simp [scoreGpu, h, gateFailed, scoreStats]

end GpuHealth.Scorer
