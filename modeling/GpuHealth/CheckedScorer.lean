/-
The scorer again, with every operation checked (`src/scorer.c`, and the capacity of `collector_start`).

`Scorer` reads outside an array as zeros, divides by zero to some value and has no bound on an `int`. Here each of
these is none (`Core.Checked`): an `int` expression outside 32 bits, also the loop counters; a zero divisor, integer or
real; a ring index outside [0, capacity) or outside the allocated samples; a store outside `deltas`, `stack_buf` or the
heap block; a read behind the sorted part of an array. The arrays hold anything before they are written.

- The index expressions stay in 32 bits up to a capacity of 2^30 (`Bounded`).
- `completenessGate_window`: on such a ring the gate is a function of the window, `definedGate`; it has no result when
  its loop starts on more than 3601 samples, where the step after the 3600th is stored behind `deltas`.
- `scoreGpu_checked`: up to 3601 samples, under a config whose divisors are in range, every check passes and the result
  is that of `Scorer.scoreGpu`.
-/
import GpuHealth.Core.Checked
import GpuHealth.Collector
import GpuHealth.WindowScore

namespace GpuHealth.CheckedScorer

open GpuHealth.Framing GpuHealth.Checked GpuHealth.Ring GpuHealth.WindowScore

variable {K : Type}

/-! ## Ring indices

The expressions are evaluated from left to right. -/

def sampleIdx (ring : GpuRing K) (i : ℤ) : Option ℤ := do
  let a ← int32 (ring.head - ring.count)
  let a ← int32 (a + i)
  let a ← int32 (a + ring.capacity)
  intMod a ring.capacity

def gateCur (ring : GpuRing K) (i : ℤ) : Option ℤ := do
  let a ← int32 (ring.head - ring.count)
  let a ← int32 (a + i)
  let a ← int32 (a + 1)
  let a ← int32 (a + ring.capacity)
  intMod a ring.capacity

def gatePrev (ring : GpuRing K) (i : ℤ) : Option ℤ := do
  let a ← int32 (ring.head - ring.count)
  let a ← int32 (a + i)
  let a ← int32 (a + ring.capacity)
  intMod a ring.capacity

def idxFirst (ring : GpuRing K) : Option ℤ := do
  let a ← int32 (ring.head - ring.count)
  let a ← int32 (a + ring.capacity)
  intMod a ring.capacity

def idxLast (ring : GpuRing K) : Option ℤ := do
  let a ← int32 (ring.head - 1)
  let a ← int32 (a + ring.capacity)
  intMod a ring.capacity

/-- the index of `snapshot_update` -/
def latestIdx (ring : GpuRing K) : Option ℤ := do
  let a ← int32 (ring.head - 1)
  let a ← int32 (a + ring.capacity)
  intMod a ring.capacity

/-- `ring->samples[idx]` -/
def sampleAt (ring : GpuRing K) (idx : ℤ) : Option (GpuSample K) :=
  if idx < ring.capacity then load ring.samples idx else none

def sampleField (ring : GpuRing K) (i : ℤ) (field : GpuSample K → K) : Option K := do
  let idx ← sampleIdx ring i
  let s ← sampleAt ring idx
  some (field s)

/-- the rings whose index expressions are `int`s -/
structure Bounded (ring : GpuRing K) : Prop where
  wf : RingWf ring
  capacity_le : ring.capacity ≤ 2 ^ 30

variable {ring : GpuRing K}

theorem Bounded.range (h : Bounded ring) : 0 ≤ ring.head ∧ ring.head < ring.capacity ∧ 0 ≤ ring.count ∧
    ring.count ≤ ring.capacity ∧ ring.capacity ≤ 2 ^ 30 :=
  ⟨h.wf.head_nonneg, h.wf.head_lt, h.wf.count_nonneg, h.wf.count_le, h.capacity_le⟩

theorem sampleIdx_checked (h : Bounded ring) {i : ℕ} (hi : i < ring.count) :
    sampleIdx ring i = some (Ring.sampleIdx ring i) := by
  obtain ⟨hhead, hlt, hcount, hle, hcap⟩ := h.range
  have h1 := int32_eq (x := ring.head - ring.count) (by omega) (by omega)
  have h2 := int32_eq (x := ring.head - ring.count + i) (by omega) (by omega)
  have h3 := int32_eq (x := ring.head - ring.count + i + ring.capacity) (by omega) (by omega)
  simp only [sampleIdx, h1, h2, h3, Option.bind_eq_bind, Option.bind_some]
  exact intMod_eq (by omega) (by omega) (by omega)

theorem gatePrev_checked (h : Bounded ring) {i : ℕ} (hi : i < ring.count) :
    gatePrev ring i = some (Ring.gatePrev ring i) := sampleIdx_checked h hi

theorem gateCur_checked (h : Bounded ring) {i : ℕ} (hi : i < ring.count) :
    gateCur ring i = some (Ring.gateCur ring i) := by
  obtain ⟨hhead, hlt, hcount, hle, hcap⟩ := h.range
  have h1 := int32_eq (x := ring.head - ring.count) (by omega) (by omega)
  have h2 := int32_eq (x := ring.head - ring.count + i) (by omega) (by omega)
  have h3 := int32_eq (x := ring.head - ring.count + i + 1) (by omega) (by omega)
  have h4 := int32_eq (x := ring.head - ring.count + i + 1 + ring.capacity) (by omega) (by omega)
  simp only [gateCur, h1, h2, h3, h4, Option.bind_eq_bind, Option.bind_some]
  exact intMod_eq (by omega) (by omega) (by omega)

theorem idxFirst_checked (h : Bounded ring) : idxFirst ring = some (Ring.idxFirst ring) := by
  obtain ⟨hhead, hlt, hcount, hle, hcap⟩ := h.range
  have h1 := int32_eq (x := ring.head - ring.count) (by omega) (by omega)
  have h2 := int32_eq (x := ring.head - ring.count + ring.capacity) (by omega) (by omega)
  simp only [idxFirst, h1, h2, Option.bind_eq_bind, Option.bind_some]
  exact intMod_eq (by omega) (by omega) (by omega)

theorem idxLast_checked (h : Bounded ring) : idxLast ring = some (Ring.idxLast ring) := by
  obtain ⟨hhead, hlt, hcount, hle, hcap⟩ := h.range
  have h1 := int32_eq (x := ring.head - 1) (by omega) (by omega)
  have h2 := int32_eq (x := ring.head - 1 + ring.capacity) (by omega) (by omega)
  simp only [idxLast, h1, h2, Option.bind_eq_bind, Option.bind_some]
  exact intMod_eq (by omega) (by omega) (by omega)

theorem latestIdx_checked (h : Bounded ring) : latestIdx ring = some (Ring.latestIdx ring) := idxLast_checked h

variable [Arith K]

/-! ## Memory -/

/-- one call of `ring_p95`: its `stack_buf`, and what `malloc` returns for a number of doubles -/
structure P95Memory (K : Type) where
  stackBuf : Frame K 300
  malloc : (size : ℕ) → Option (Frame K size)

structure ScorerMemory (K : Type) where
  deltas : Frame K 3600
  temp : P95Memory K
  hbm : P95Memory K

/-- whether `malloc` serves the two calls on a ring of `count` samples -/
def ScorerMemory.served (mem : ScorerMemory K) (count : ℤ) : Scorer.P95Malloc :=
  ⟨(mem.temp.malloc count.toNat).isSome, (mem.hbm.malloc count.toNat).isSome⟩

/-- arrays full of zeros, and no heap -/
def zeroMemory : ScorerMemory ℚ where
  deltas := ⟨List.replicate 3600 0, List.length_replicate⟩
  temp := ⟨⟨List.replicate 300 0, List.length_replicate⟩, fun _ => none⟩
  hbm := ⟨⟨List.replicate 300 0, List.length_replicate⟩, fun _ => none⟩

/-- `qsort` of the first `count` doubles -/
def qsort {size : ℕ} (vals : Frame K size) (count : ℤ) : Option (Frame K size) :=
  if h : 0 ≤ count ∧ count.toNat ≤ size then
    some ⟨Scorer.sortDoubles (vals.val.take count.toNat) ++ vals.val.drop count.toNat, by
      have hlen := vals.property
      rw [Scorer.sortDoubles, List.length_append, List.length_insertionSort, List.length_take, List.length_drop]
      omega⟩
  else none

/-! ## Ring buffer statistics -/

def ringMean (ring : GpuRing K) (field : GpuSample K → K) : Option (Dbl K) :=
  if ring.count = 0 then some .nan
  else do
    let sum ← forLoop ring.count (.fin 0) fun i (sum : Dbl K) => do
      let x ← sampleField ring i field
      some (sum + .fin x)
    realDiv sum (.fin ring.count)

def ringStddev (ring : GpuRing K) (field : GpuSample K → K) : Option (Dbl K) :=
  if ring.count < 2 then some .nan
  else do
    let mean ← ringMean ring field
    let sqSum ← forLoop ring.count (.fin 0) fun i (sqSum : Dbl K) => do
      let x ← sampleField ring i field
      let d := .fin x - mean
      some (sqSum + d * d)
    let n ← int32 (ring.count - 1)
    let var ← realDiv sqSum (.fin n)
    some (Scorer.dsqrt var)

/-- `ring_p95` from the point where `vals` has been chosen -/
def rankedP95 {size : ℕ} (vals : Frame K size) (ring : GpuRing K) (field : GpuSample K → K) : Option (Dbl K) := do
  let vals ← forLoop ring.count vals fun i vals => do
    let x ← sampleField ring i field
    storeAt vals i x
  let vals ← qsort vals ring.count
  let rank ← int32 ⌈(95 / 100 : ℚ) * ring.count⌉
  let rank := if rank < 1 then 1 else rank
  let rank := if rank > ring.count then ring.count else rank
  let idx ← int32 (rank - 1)
  let result ← load (vals.val.take ring.count.toNat) idx
  some (.fin result)

def ringP95 (mem : P95Memory K) (ring : GpuRing K) (field : GpuSample K → K) : Option (Dbl K) :=
  if ring.count = 0 then some .nan
  else if ring.count ≤ 300 then rankedP95 mem.stackBuf ring field
  else
    match mem.malloc ring.count.toNat with
    | none => some .nan
    | some heapBuf => rankedP95 heapBuf ring field

/-! ## Telemetry completeness gate -/

/-- `deltas` is the sorted part of the array -/
def medianStep (deltas : List K) (n : ℤ) : Option K := do
  let odd ← intMod n 2
  let half ← intDiv n 2
  if odd = 1 then load deltas half
  else
    let below ← int32 (half - 1)
    let a ← load deltas below
    let b ← load deltas half
    some ((a + b) / 2)

/-- one pass of the gate's loop -/
def gatePass (ring : GpuRing K) (i : ℤ) (deltas : Frame K 3600) : Option (Frame K 3600) := do
  let cur ← gateCur ring i
  let prev ← gatePrev ring i
  let sCur ← sampleAt ring cur
  let sPrev ← sampleAt ring prev
  storeAt deltas i (Scorer.gateDelta sCur sPrev)

def completenessGate (deltas : Frame K 3600) (ring : GpuRing K) (cfg : GpuConfig (Dbl K)) : Option ℤ :=
  if ring.count < cfg.int .minSamplesAbsolute then some 0
  else do
    let expected ← intDiv (cfg.int .windowS) (cfg.int .pollIntervalS)
    if .fin (ring.count : K) < cfg.dbl .minSampleRatio * .fin (expected : K) then some 0
    else if ring.count < 2 then some 0
    else
      let n ← int32 (ring.count - 1)
      let deltas ← forLoop n deltas (gatePass ring)
      let deltas ← qsort deltas n
      let medianStep ← medianStep (deltas.val.take n.toNat) n
      if cfg.dbl .maxMedianStepS < .fin medianStep then some 0 else some 1

/-! ## The readings of `score_gpu` -/

def powerSaturation (ring : GpuRing K) (cfg : GpuConfig (Dbl K)) : Option (Dbl K) := do
  let satCount ← forLoop ring.count 0 fun i satCount => do
    let pw ← sampleField ring i GpuSample.powerW
    let lim ← sampleField ring i GpuSample.powerLimitW
    if Scorer.saturated cfg pw lim then int32 (satCount + 1) else some satCount
  realDiv (.fin satCount) (.fin ring.count)

def sbeRate (first last : GpuSample K) : Option (Dbl K) :=
  if Scorer.windowHrs first last > 0 then
    realDiv (.fin (Scorer.sbeDelta first last)) (.fin (Scorer.windowHrs first last))
  else some (.fin 0)

def ringStats (mem : ScorerMemory K) (ring : GpuRing K) (cfg : GpuConfig (Dbl K)) : Option (Scorer.WindowStats K) := do
  let tempP95C ← ringP95 mem.temp ring GpuSample.tempC
  let hbmTempP95C ← ringP95 mem.hbm ring GpuSample.hbmTempC
  let clkStdMhz ← ringStddev ring GpuSample.smClockMhz
  let powerSaturationFrac ← powerSaturation ring cfg
  let first ← idxFirst ring
  let last ← idxLast ring
  let sFirst ← sampleAt ring first
  let sLast ← sampleAt ring last
  let eccSbeRatePerHour ← sbeRate sFirst sLast
  some ⟨tempP95C, hbmTempP95C, clkStdMhz, powerSaturationFrac, eccSbeRatePerHour, Scorer.dbeActive sFirst sLast⟩

/-! ## The penalties with a division -/

def clockBlock (st : Scorer.WindowStats K) (cfg : GpuConfig (Dbl K)) (a : Scorer.Acc K) : Option (Scorer.Acc K) :=
  if st.clkStdMhz.isnan = false ∧ cfg.dbl .clkStdWarnMhz < st.clkStdMhz then do
    let penalty ← realDiv (.fin 15 * (st.clkStdMhz - cfg.dbl .clkStdWarnMhz)) (cfg.dbl .clkStdWarnMhz)
    let penalty := if .fin 15 < penalty then .fin 15 else penalty
    some (a.penalise penalty Reason.clkStdHigh)
  else some a

def perfDrop (baseline : Option (GpuBaseline K)) (probe : Option (GpuProbeResult K)) : Option (Option (Dbl K)) :=
  match baseline, probe with
  | some b, some p =>
    if b.available ≠ 0 ∧ b.valid ≠ 0 ∧ .fin 0 < b.perfWMean ∧ p.available ≠ 0 ∧ p.stale = 0 ∧
        .fin 0 < p.perfWMean then do
      let drop ← realDiv (b.perfWMean - p.perfWMean) b.perfWMean
      some (some (if drop < .fin 0 then .fin 0 else drop))
    else some none
  | _, _ => some none

/-! ## `score_gpu` -/

def penalties (st : Scorer.WindowStats K) (state : GpuState K) (drop : Option (Dbl K))
    (probe : Option (GpuProbeResult K)) (cfg : GpuConfig (Dbl K)) : Option (Scorer.Acc K) := do
  let a : Scorer.Acc K := ⟨.fin 100, 0⟩
  let a := Scorer.tempBlock st cfg a
  let a := Scorer.hbmBlock st cfg a
  let a ← clockBlock st cfg a
  let a := Scorer.powerBlock st cfg a
  let a := Scorer.eccSbeBlock st cfg a
  let a := Scorer.eccDbeBlock st cfg a
  let a := Scorer.retiredBlock state cfg a
  let a := Scorer.rowRemapBlock state cfg a
  let a := Scorer.pcieGenBlock state cfg a
  let a := Scorer.pcieWidthBlock state cfg a
  let a := Scorer.perfBlock drop cfg a
  some (Scorer.staleBlock probe a)

def scoreStats (st : Scorer.WindowStats K) (state : GpuState K) (baseline : Option (GpuBaseline K))
    (probe : Option (GpuProbeResult K)) (cfg : GpuConfig (Dbl K)) : Option (GpuScoreResult K) := do
  let drop ← perfDrop baseline probe
  let a ← penalties st state drop probe cfg
  let score := if a.score < .fin 0 then .fin 0 else a.score
  some
    { score := score
      classification := Scorer.classify score
      reasonMask := a.reasons
      telemetryOk := 1
      tempP95C := st.tempP95C
      hbmTempP95C := st.hbmTempP95C
      clkStdMhz := st.clkStdMhz
      powerSaturationFrac := st.powerSaturationFrac
      eccSbeRatePerHour := st.eccSbeRatePerHour
      eccDbeInWindow := st.eccDbeInWindow
      perfDropFrac := drop.getD .nan }

def scoreGpu (mem : ScorerMemory K) (ring : GpuRing K) (state : GpuState K) (baseline : Option (GpuBaseline K))
    (probe : Option (GpuProbeResult K)) (cfg : GpuConfig (Dbl K)) : Option (GpuScoreResult K) := do
  let ok ← completenessGate mem.deltas ring cfg
  if ok = 0 then some Scorer.gateFailed
  else
    let st ← ringStats mem ring cfg
    scoreStats st state baseline probe cfg

/-- the capacity in `collector_start` -/
def ringCapacity (cfg : GpuConfig (Dbl K)) : Option ℤ := do
  let capacity ← intDiv (cfg.int .windowS) (cfg.int .pollIntervalS)
  some (if capacity < 1 then 1 else capacity)

/-! ## Ring reads pass -/

/-- a remainder is an index of the ring -/
theorem sampleAt_checked (h : Bounded ring) {a : ℤ} (ha : 0 ≤ a) :
    sampleAt ring (a.tmod ring.capacity) = some (Ring.sampleAt ring (a.tmod ring.capacity)) := by
  obtain ⟨hhead, hlt, -⟩ := h.range
  have hindex := Int.tmod_lt_of_pos a (by omega : 0 < ring.capacity)
  rw [sampleAt, if_pos hindex, load_eq (Int.tmod_nonneg _ ha) (by rw [h.wf.samples_length]; exact hindex)]
  rfl

theorem sampleField_checked (h : Bounded ring) {i : ℕ} (hi : i < ring.count) (field : GpuSample K → K) :
    sampleField ring i field = some (Ring.sampleField ring i field) := by
  obtain ⟨hhead, hlt, hcount, hle, hcap⟩ := h.range
  have hsample : sampleAt ring (Ring.sampleIdx ring i) = some (Ring.sampleAt ring (Ring.sampleIdx ring i)) :=
    sampleAt_checked h (by omega)
  simp only [sampleField, sampleIdx_checked h hi, hsample, Option.bind_eq_bind, Option.bind_some]
  rfl

/-! ## The statistics pass -/

theorem qsort_checked {size : ℕ} (vals : Frame K size) {count : ℤ} (h0 : 0 ≤ count) (hle : count ≤ size) :
    ∃ sorted, qsort vals count = some sorted ∧
      sorted.val.take count.toNat = Scorer.sortDoubles (vals.val.take count.toNat) := by
  have hlen := vals.property
  have hsize : count.toNat ≤ size := by omega
  refine ⟨_, dif_pos ⟨h0, hsize⟩, ?_⟩
  rw [List.take_left']
  rw [Scorer.sortDoubles, List.length_insertionSort, List.length_take]
  omega

/-- a divisor that is a number of samples -/
theorem count_ne_zero {n : ℤ} (hn : n ≠ 0) : (.fin (n : K) : Dbl K) ≠ .fin 0 := by
  rw [Ne, Dbl.fin.injEq, Int.cast_eq_zero]
  exact hn

theorem ringMean_checked (h : Bounded ring) (field : GpuSample K → K) :
    ringMean ring field = some (Scorer.ringMean ring field) := by
  obtain ⟨hhead, hlt, hcount, hle, hcap⟩ := h.range
  unfold ringMean Scorer.ringMean
  by_cases hempty : ring.count = 0
  · rw [if_pos hempty, if_pos hempty]
  · rw [if_neg hempty, if_neg hempty, forLoop_fold (by omega)
      (f := fun (sum : Dbl K) (i : ℕ) => sum + .fin (Ring.sampleField ring i field))]
    · exact realDiv_eq _ (count_ne_zero hempty)
    · intro i sum hi
      simp only [sampleField_checked h hi, Option.bind_eq_bind, Option.bind_some]

theorem ringStddev_checked (h : Bounded ring) (field : GpuSample K → K) :
    ringStddev ring field = some (Scorer.ringStddev ring field) := by
  obtain ⟨hhead, hlt, hcount, hle, hcap⟩ := h.range
  unfold ringStddev Scorer.ringStddev
  by_cases hshort : ring.count < 2
  · rw [if_pos hshort, if_pos hshort]
  · have hloop : forLoop ring.count (.fin 0) (fun i (sqSum : Dbl K) => (sampleField ring i field).bind fun x =>
          some (sqSum + (.fin x - Scorer.ringMean ring field) * (.fin x - Scorer.ringMean ring field))) =
        some ((List.range ring.count.toNat).foldl (fun (sqSum : Dbl K) (i : ℕ) =>
          let d := .fin (Ring.sampleField ring i field) - Scorer.ringMean ring field
          sqSum + d * d) (.fin 0)) := by
      apply forLoop_fold (by omega)
      intro i sqSum hi
      rw [sampleField_checked h hi, Option.bind_some]
    have hn := int32_eq (x := ring.count - 1) (by omega) (by omega)
    rw [if_neg hshort, if_neg hshort]
    simp only [ringMean_checked h, Option.bind_eq_bind, Option.bind_some, hloop, hn,
      realDiv_eq _ (count_ne_zero (K := K) (by omega : ring.count - 1 ≠ 0))]

/-- **The sorted buffer and the rank.** -/
theorem rankedP95_checked (h : Bounded ring) (hpos : 0 < ring.count) {size : ℕ} (hsize : ring.count ≤ size)
    (vals : Frame K size) (field : GpuSample K → K) :
    rankedP95 vals ring field = some (Scorer.ringP95 true ring field) := by
  obtain ⟨hhead, hlt, hcount, hle, hcap⟩ := h.range
  obtain ⟨filled, hfill, hvalues⟩ := forLoop_fill hsize (by omega) vals
    (fun i vals => (sampleField ring i field).bind fun x => storeAt vals i x)
    (fun i => Ring.sampleField ring i field)
    (fun i vals hi => by rw [sampleField_checked h hi, Option.bind_some])
  obtain ⟨sorted, hsort, hsorted⟩ := qsort_checked filled hcount hsize
  -- the rank of the code, clamped
  have hceil : 0 ≤ ⌈(95 / 100 : ℚ) * ring.count⌉ ∧ ⌈(95 / 100 : ℚ) * ring.count⌉ ≤ ring.count := by
    have hcast : (0 : ℚ) ≤ ring.count := by exact_mod_cast hcount
    exact ⟨Int.ceil_nonneg (by positivity), Int.ceil_le.2 (by linarith)⟩
  have hrank := int32_eq (x := ⌈(95 / 100 : ℚ) * ring.count⌉) (by omega) (by omega)
  unfold rankedP95 Scorer.ringP95
  rw [if_neg hpos.ne', if_neg (by simp)]
  simp only [Option.bind_eq_bind, hfill, Option.bind_some, hsort, hrank]
  generalize ⌈(95 / 100 : ℚ) * ring.count⌉ = rank at hceil ⊢
  generalize hclamp : (if (if rank < 1 then 1 else rank) > ring.count then ring.count else
    if rank < 1 then 1 else rank) = clamped
  have hclamped : 1 ≤ clamped ∧ clamped ≤ ring.count := by
    rw [← hclamp]
    split_ifs <;> omega
  have hlen : (sorted.val.take ring.count.toNat).length = ring.count.toNat := by
    rw [hsorted, hvalues, Scorer.sortDoubles, List.length_insertionSort, List.length_map, List.length_range]
  have hload := load_eq (l := sorted.val.take ring.count.toNat) (i := clamped - 1) (by omega) (by omega) 0
  rw [int32_eq (by omega) (by omega), Option.bind_some, hload, Option.bind_some, hsorted, hvalues]

theorem ringP95_checked (h : Bounded ring) (mem : P95Memory K) (field : GpuSample K → K) :
    ringP95 mem ring field = some (Scorer.ringP95 (mem.malloc ring.count.toNat).isSome ring field) := by
  obtain ⟨hhead, hlt, hcount, hle, hcap⟩ := h.range
  unfold ringP95
  by_cases hempty : ring.count = 0
  · rw [if_pos hempty, Scorer.ringP95, if_pos hempty]
  · rw [if_neg hempty]
    by_cases hshort : ring.count ≤ 300
    · -- on the stack, whatever `malloc` would do
      rw [if_pos hshort, rankedP95_checked h (by omega) hshort]
      unfold Scorer.ringP95
      simp only [hshort, not_true_eq_false, false_and]
    · rw [if_neg hshort]
      cases hheap : mem.malloc ring.count.toNat with
      | none => simp [Scorer.ringP95, hempty, hshort]
      | some heapBuf => exact rankedP95_checked h (by omega) (by omega) heapBuf field

/-! ## The gate passes -/

/-- **The median's indices.** -/
theorem medianStep_checked {deltas : List K} {n : ℤ} (hpos : 0 < n) (hn : n < 2 ^ 31) (hlen : deltas.length = n) :
    medianStep deltas n = some (Scorer.medianStep deltas n) := by
  have hhalf : n.tdiv 2 = n / 2 := Int.tdiv_eq_ediv_of_nonneg hpos.le
  have hodd : n.tmod 2 = n % 2 := Int.tmod_eq_emod_of_nonneg hpos.le
  unfold medianStep Scorer.medianStep
  simp only [intMod_eq hpos.le hn (by norm_num : (0 : ℤ) < 2), intDiv_eq hpos.le hn (by norm_num : (0 : ℤ) < 2),
    Option.bind_eq_bind, Option.bind_some]
  split_ifs with h
  · exact load_eq (by omega) (by omega) 0
  · rw [int32_eq (by omega) (by omega), Option.bind_some, load_eq (by omega) (by omega) 0, Option.bind_some,
      load_eq (by omega) (by omega) 0, Option.bind_some]

/-- a config whose values the scorer can divide by -/
structure SafeConfig (cfg : GpuConfig (Dbl K)) : Prop where
  windowS_nonneg : 0 ≤ cfg.int .windowS
  windowS_le : cfg.int .windowS ≤ 3600
  pollIntervalS_pos : 0 < cfg.int .pollIntervalS
  clkStdWarnMhz_ne : cfg.dbl .clkStdWarnMhz ≠ .fin 0

variable {cfg : GpuConfig (Dbl K)}

theorem SafeConfig.expected (hcfg : SafeConfig cfg) : intDiv (cfg.int .windowS) (cfg.int .pollIntervalS) =
    some ((cfg.int .windowS).tdiv (cfg.int .pollIntervalS)) := by
  have hle := hcfg.windowS_le
  exact intDiv_eq hcfg.windowS_nonneg (by omega) hcfg.pollIntervalS_pos

/-- the pass of the gate's loop stores the step between two neighbours -/
theorem gatePass_checked (h : Bounded ring) {i : ℕ} (hi : i < ring.count) (deltas : Frame K 3600) :
    gatePass ring i deltas = storeAt deltas i (Scorer.gateDelta (Ring.sampleAt ring (Ring.gateCur ring i))
      (Ring.sampleAt ring (Ring.gatePrev ring i))) := by
  obtain ⟨hhead, hlt, hcount, hle, hcap⟩ := h.range
  have hcur : sampleAt ring (Ring.gateCur ring i) = some (Ring.sampleAt ring (Ring.gateCur ring i)) :=
    sampleAt_checked h (by omega)
  have hprev : sampleAt ring (Ring.gatePrev ring i) = some (Ring.sampleAt ring (Ring.gatePrev ring i)) :=
    sampleAt_checked h (by omega)
  simp only [gatePass, gateCur_checked h hi, gatePrev_checked h hi, hcur, hprev, Option.bind_eq_bind, Option.bind_some]

/-- the sorted steps behind the gate's loop -/
theorem gateSteps_checked (h : Bounded ring) (htwo : 2 ≤ ring.count) (hle : ring.count ≤ 3601)
    (deltas : Frame K 3600) :
    ∃ filled sorted, forLoop (ring.count - 1) deltas (gatePass ring) = some filled ∧
      qsort filled (ring.count - 1) = some sorted ∧
      sorted.val.take (ring.count - 1).toNat = Scorer.sortDoubles (steps (window ring)) := by
  obtain ⟨filled, hfill, hvalues⟩ := forLoop_fill (by omega : ring.count - 1 ≤ (3600 : ℕ)) (by omega) deltas
    (gatePass ring)
    (fun i => Scorer.gateDelta (Ring.sampleAt ring (Ring.gateCur ring i)) (Ring.sampleAt ring (Ring.gatePrev ring i)))
    (fun i deltas hi => gatePass_checked h (by omega : (i : ℤ) < ring.count) deltas)
  obtain ⟨sorted, hsort, hsorted⟩ := qsort_checked filled (by omega : 0 ≤ ring.count - 1) (by omega)
  rw [hvalues, steps_eq h.wf] at hsorted
  exact ⟨filled, sorted, hfill, hsort, hsorted⟩

/-- the gate on a window; none for a quotient that is no `int`, and where its loop runs past `deltas` -/
def definedGate (w : List (GpuSample K)) (cfg : GpuConfig (Dbl K)) : Option ℤ :=
  if (w.length : ℤ) < cfg.int .minSamplesAbsolute then some 0
  else
    (intDiv (cfg.int .windowS) (cfg.int .pollIntervalS)).bind fun expected =>
      if .fin (w.length : K) < cfg.dbl .minSampleRatio * .fin (expected : K) then some 0
      else if w.length < 2 then some 0
      else if 3601 < w.length then none
      else if cfg.dbl .maxMedianStepS < .fin (Scorer.medianStep (Scorer.sortDoubles (steps w)) ((w.length : ℤ) - 1))
      then some 0
      else some 1

/-- **The gate is a function of the window**, its missing results included. -/
theorem completenessGate_window (h : Bounded ring) (deltas : Frame K 3600) (cfg : GpuConfig (Dbl K)) :
    completenessGate deltas ring cfg = definedGate (window ring) cfg := by
  obtain ⟨hhead, hlt, hcount, hle, hcap⟩ := h.range
  have hlen := length_toNat h.wf
  unfold completenessGate definedGate
  rw [← hlen]
  by_cases hfew : ring.count < cfg.int .minSamplesAbsolute
  · rw [if_pos hfew, if_pos hfew]
  have hcast : ((ring.count : ℤ) : K) = ((window ring).length : K) := by rw [hlen, Int.cast_natCast]
  simp only [if_neg hfew, Option.bind_eq_bind, hcast]
  congr 1
  funext expected
  by_cases hratio : .fin ((window ring).length : K) < cfg.dbl .minSampleRatio * .fin (expected : K)
  · rw [if_pos hratio, if_pos hratio]
  rw [if_neg hratio, if_neg hratio]
  by_cases hshort : ring.count < 2
  · rw [if_pos hshort, if_pos (by omega : (window ring).length < 2)]
  have hn := int32_eq (x := ring.count - 1) (by omega) (by omega)
  rw [if_neg hshort, if_neg (by omega : ¬ (window ring).length < 2), hn, Option.bind_some]
  by_cases hlong : 3601 < (window ring).length
  · rw [if_pos hlong, forLoop_overrun (by omega : ((3600 : ℕ) : ℤ) < ring.count - 1) deltas _ _
      (fun i deltas hi => gatePass_checked h (by omega : (i : ℤ) < ring.count) deltas), Option.bind_none]
  · obtain ⟨filled, sorted, hfill, hsort, hsorted⟩ := gateSteps_checked h (by omega) (by omega) deltas
    have hsteps : ((sorted.val.take (ring.count - 1).toNat).length : ℤ) = ring.count - 1 := by
      rw [hsorted, Scorer.sortDoubles, List.length_insertionSort, ← steps_eq h.wf, List.length_map, List.length_range]
      omega
    have hmedian := medianStep_checked (by omega) (by omega) hsteps
    rw [hsorted] at hmedian
    rw [if_neg hlong, hfill, Option.bind_some, hsort, Option.bind_some, hsorted, hmedian, Option.bind_some]

/-- a window that fits `deltas` has the verdict of the unchecked gate -/
theorem definedGate_eq (hcfg : SafeConfig cfg) {w : List (GpuSample K)} (hw : w.length ≤ 3601) :
    definedGate w cfg = some (windowGate w cfg) := by
  unfold definedGate windowGate
  rw [hcfg.expected, Option.bind_some, if_neg (by omega : ¬ 3601 < w.length)]
  split_ifs <;> rfl

/-- behind the gate there are two samples or more -/
theorem two_le_of_definedGate {w : List (GpuSample K)} {ok : ℤ} (hgate : definedGate w cfg = some ok) (hok : ok ≠ 0) :
    2 ≤ w.length := by
  by_contra hshort
  apply hok
  unfold definedGate at hgate
  simp only [if_pos (not_le.1 hshort), ite_self] at hgate
  split_ifs at hgate
  · exact (Option.some.inj hgate).symm
  · obtain ⟨expected, -, hzero⟩ := Option.bind_eq_some_iff.1 hgate
    exact (Option.some.inj hzero).symm

/-! ## The readings pass -/

theorem powerSaturation_checked (h : Bounded ring) (hpos : 0 < ring.count) :
    powerSaturation ring cfg = some (Scorer.powerSaturation ring cfg) := by
  obtain ⟨hhead, hlt, hcount, hle, hcap⟩ := h.range
  have hloop := forLoop_count (by omega : ring.count < 2 ^ 31)
    (fun i satCount => (sampleField ring i GpuSample.powerW).bind fun pw =>
      (sampleField ring i GpuSample.powerLimitW).bind fun lim =>
        if Scorer.saturated cfg pw lim then int32 (satCount + 1) else some satCount)
    (fun i => Scorer.saturated cfg (Ring.sampleField ring i GpuSample.powerW)
      (Ring.sampleField ring i GpuSample.powerLimitW))
    (fun i satCount hi => by
      rw [sampleField_checked h hi, Option.bind_some, sampleField_checked h hi, Option.bind_some])
  simp only [powerSaturation, Option.bind_eq_bind, hloop, Option.bind_some]
  exact realDiv_eq _ (count_ne_zero hpos.ne')

theorem sbeRate_checked (first last : GpuSample K) : sbeRate first last = some (.fin (Scorer.sbeRate first last)) := by
  unfold sbeRate Scorer.sbeRate
  by_cases hpos : Scorer.windowHrs first last > 0
  · have hne : (.fin (Scorer.windowHrs first last) : Dbl K) ≠ .fin 0 := by
      rw [Ne, Dbl.fin.injEq]
      exact hpos.ne'
    rw [if_pos hpos, if_pos hpos, realDiv_eq _ hne, Dbl.fin_div _ hpos.ne']
  · rw [if_neg hpos, if_neg hpos]

theorem ringStats_checked (h : Bounded ring) (hpos : 0 < ring.count) (mem : ScorerMemory K) :
    ringStats mem ring cfg = some (Scorer.ringStats (mem.served ring.count) ring cfg) := by
  obtain ⟨hhead, hlt, hcount, hle, hcap⟩ := h.range
  have hfirst : sampleAt ring (Ring.idxFirst ring) = some (Ring.sampleAt ring (Ring.idxFirst ring)) :=
    sampleAt_checked h (by omega)
  have hlast : sampleAt ring (Ring.idxLast ring) = some (Ring.sampleAt ring (Ring.idxLast ring)) :=
    sampleAt_checked h (by omega)
  simp only [ringStats, ringP95_checked h, ringStddev_checked h, powerSaturation_checked h hpos, idxFirst_checked h,
    idxLast_checked h, hfirst, hlast, sbeRate_checked, Option.bind_eq_bind, Option.bind_some]
  rfl

/-! ## The penalties pass -/

theorem clockBlock_checked (hcfg : SafeConfig cfg) (st : Scorer.WindowStats K) (a : Scorer.Acc K) :
    clockBlock st cfg a = some (Scorer.clockBlock st cfg a) := by
  unfold clockBlock Scorer.clockBlock
  split_ifs with hhigh
  · simp only [realDiv_eq _ hcfg.clkStdWarnMhz_ne, Option.bind_eq_bind, Option.bind_some]
  · rfl

theorem perfDrop_checked (baseline : Option (GpuBaseline K)) (probe : Option (GpuProbeResult K)) :
    perfDrop baseline probe = some (Scorer.perfDrop baseline probe) := by
  cases baseline with
  | none => rfl
  | some b =>
    cases probe with
    | none => rfl
    | some p =>
      simp only [perfDrop, Scorer.perfDrop]
      by_cases hcomparable : b.available ≠ 0 ∧ b.valid ≠ 0 ∧ .fin 0 < b.perfWMean ∧ p.available ≠ 0 ∧ p.stale = 0 ∧
          .fin 0 < p.perfWMean
      · have hne : b.perfWMean ≠ .fin 0 := by
          intro hzero
          have hpos := hcomparable.2.2.1
          rw [hzero, Dbl.fin_lt_fin] at hpos
          exact lt_irrefl 0 hpos
        rw [if_pos hcomparable, if_pos hcomparable, realDiv_eq _ hne, Option.bind_eq_bind, Option.bind_some]
      · rw [if_neg hcomparable, if_neg hcomparable]

theorem scoreStats_checked (hcfg : SafeConfig cfg) (st : Scorer.WindowStats K) (state : GpuState K)
    (baseline : Option (GpuBaseline K)) (probe : Option (GpuProbeResult K)) :
    scoreStats st state baseline probe cfg = some (Scorer.scoreStats st state baseline probe cfg) := by
  simp only [scoreStats, penalties, perfDrop_checked, clockBlock_checked hcfg, Option.bind_eq_bind, Option.bind_some]
  rfl

/-! ## `score_gpu` passes -/

/-- `score_gpu` on a window; none where its gate has no result, and for a zero divisor among the penalties -/
def definedScore (served : Scorer.P95Malloc) (w : List (GpuSample K)) (state : GpuState K)
    (baseline : Option (GpuBaseline K)) (probe : Option (GpuProbeResult K)) (cfg : GpuConfig (Dbl K)) :
    Option (GpuScoreResult K) :=
  (definedGate w cfg).bind fun ok =>
    if ok = 0 then some Scorer.gateFailed
    else scoreStats (windowStats served w cfg) state baseline probe cfg

/-- **`score_gpu` is a function of the window**, its missing results included. -/
theorem scoreGpu_window (h : Bounded ring) (mem : ScorerMemory K) (state : GpuState K)
    (baseline : Option (GpuBaseline K)) (probe : Option (GpuProbeResult K)) (cfg : GpuConfig (Dbl K)) :
    scoreGpu mem ring state baseline probe cfg =
      definedScore (mem.served ring.count) (window ring) state baseline probe cfg := by
  have hlen := length_toNat h.wf
  unfold scoreGpu definedScore
  rw [completenessGate_window h, Option.bind_eq_bind]
  cases hgate : definedGate (window ring) cfg with
  | none => rfl
  | some ok =>
    rw [Option.bind_some, Option.bind_some]
    by_cases hok : ok = 0
    · rw [if_pos hok, if_pos hok]
    · have htwo := two_le_of_definedGate hgate hok
      have hne : window ring ≠ [] := List.ne_nil_of_length_pos (by omega)
      rw [if_neg hok, if_neg hok, ringStats_checked h (by omega), Option.bind_eq_bind, Option.bind_some,
        ringStats_eq h.wf hne]

/-- a window that fits `deltas` has the score of the unchecked scorer -/
theorem definedScore_eq (hcfg : SafeConfig cfg) {w : List (GpuSample K)} (hw : w.length ≤ 3601)
    (served : Scorer.P95Malloc) (state : GpuState K) (baseline : Option (GpuBaseline K))
    (probe : Option (GpuProbeResult K)) :
    definedScore served w state baseline probe cfg = some (scoreWindow served w state baseline probe cfg) := by
  unfold definedScore scoreWindow
  rw [definedGate_eq hcfg hw, Option.bind_some]
  split_ifs
  · rfl
  · exact scoreStats_checked hcfg _ _ _ _

/-- **Every check of `score_gpu` passes**, and the result is that of the unchecked scorer. -/
theorem scoreGpu_checked (h : Bounded ring) (hcount : ring.count ≤ 3601) (hcfg : SafeConfig cfg) (mem : ScorerMemory K)
    (state : GpuState K) (baseline : Option (GpuBaseline K)) (probe : Option (GpuProbeResult K)) :
    scoreGpu mem ring state baseline probe cfg =
      some (Scorer.scoreGpu (mem.served ring.count) ring state baseline probe cfg) := by
  have hlen := length_toNat h.wf
  rw [scoreGpu_window h, definedScore_eq hcfg (by omega), scoreGpu_eq h.wf]

theorem ringCapacity_checked (hcfg : SafeConfig cfg) : ringCapacity cfg = some (Collector.ringCapacity cfg) := by
  simp only [ringCapacity, hcfg.expected, Option.bind_eq_bind, Option.bind_some]
  rfl

end GpuHealth.CheckedScorer
