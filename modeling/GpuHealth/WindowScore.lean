/-
The scorer on the abstract window: what every statistic of `Scorer` is as a function of the list of samples its
readers see, and that the ring code computes it.

`windowStats`, `windowGate` and `scoreWindow` are stated on a list of samples, with the list statistics of
`Core.ListStats`; they mention no head, no capacity and no index. For a well-formed ring each ring function is the
window function of `window ring` (`ringMean_eq`, `ringStddev_eq`, `ringP95_eq`, `completenessGate_eq`,
`ringStats_eq`, `scoreGpu_eq`).
-/
import GpuHealth.Scorer
import GpuHealth.Core.ListStats

namespace GpuHealth.WindowScore

open GpuHealth.Ring GpuHealth.Scorer GpuHealth.ListStats

variable {K : Type} [Arith K]

/-! ## Statistics of a window -/

def windowMean (xs : List K) : Dbl K := if xs = [] then .nan else .fin (mean xs)

def windowStddev (xs : List K) : Dbl K :=
  if xs.length < 2 then .nan else .fin (Arith.sqrt (sampleVariance xs))

/-- 1-based nearest rank of the 95th percentile among `n` values -/
def rank95 (n : ℕ) : ℕ := ⌈(95 / 100 : ℚ) * n⌉₊

def windowP95 (malloc : Bool) (xs : List K) : Dbl K :=
  if xs = [] ∨ (300 < xs.length ∧ malloc = false) then .nan
  else .fin ((sortDoubles xs).getD (rank95 xs.length - 1) 0)

/-- time steps between neighbouring samples, in seconds -/
def steps (w : List (GpuSample K)) : List K := List.zipWith (fun prev cur => gateDelta cur prev) w w.tail

def windowGate (w : List (GpuSample K)) (cfg : GpuConfig (Dbl K)) : ℤ :=
  if (w.length : ℤ) < cfg.int .minSamplesAbsolute then 0
  else if .fin (w.length : K) < cfg.dbl .minSampleRatio * .fin (((cfg.int .windowS).tdiv (cfg.int .pollIntervalS) : ℤ) : K)
  then 0
  else if w.length < 2 then 0
  else if cfg.dbl .maxMedianStepS < .fin (medianStep (sortDoubles (steps w)) ((w.length : ℤ) - 1)) then 0
  else 1

def windowSaturation (w : List (GpuSample K)) (cfg : GpuConfig (Dbl K)) : Dbl K :=
  .fin ((w.countP fun s => saturated cfg s.powerW s.powerLimitW : ℕ) : K) / .fin (w.length : K)

/-- oldest and newest sample -/
def firstSample (w : List (GpuSample K)) : GpuSample K := w.headD .zeroed
def lastSample (w : List (GpuSample K)) : GpuSample K := w.getLastD .zeroed

def windowStats (malloc : P95Malloc) (w : List (GpuSample K)) (cfg : GpuConfig (Dbl K)) : WindowStats K where
  tempP95C := windowP95 malloc.temp (w.map GpuSample.tempC)
  hbmTempP95C := windowP95 malloc.hbm (w.map GpuSample.hbmTempC)
  clkStdMhz := windowStddev (w.map GpuSample.smClockMhz)
  powerSaturationFrac := windowSaturation w cfg
  eccSbeRatePerHour := .fin (sbeRate (firstSample w) (lastSample w))
  eccDbeInWindow := dbeActive (firstSample w) (lastSample w)

def scoreWindow (malloc : P95Malloc) (w : List (GpuSample K)) (state : GpuState K)
    (baseline : Option (GpuBaseline K)) (probe : Option (GpuProbeResult K)) (cfg : GpuConfig (Dbl K)) :
    GpuScoreResult K :=
  if windowGate w cfg = 0 then gateFailed else scoreStats (windowStats malloc w cfg) state baseline probe cfg

/-! ## The ring code computes them -/

variable {ring : GpuRing K}

theorem map_sampleField (field : GpuSample K → K) :
    ((List.range ring.count.toNat).map fun i : ℕ => sampleField ring i field) = (window ring).map field := by
  simp [window, sampleField]

theorem length_toNat (h : RingWf ring) : ring.count = ((window ring).length : ℤ) := (window_length h).symm

theorem window_eq_nil (h : RingWf ring) : window ring = [] ↔ ring.count = 0 := by
  rw [← List.length_eq_zero_iff, length_toNat h]; omega

theorem ringMean_eq (h : RingWf ring) (field : GpuSample K → K) :
    ringMean ring field = windowMean ((window ring).map field) := by
  simp only [ringMean, windowMean, List.map_eq_nil_iff, window_eq_nil h]
  split_ifs with h0
  · rfl
  · have hne : ((ring.count : ℤ) : K) ≠ 0 := by exact_mod_cast h0
    rw [foldl_add_fin _ (fun i : ℕ => sampleField ring i field), map_sampleField, Dbl.fin_div _ hne, zero_add, mean,
      List.length_map, length_toNat h, Int.cast_natCast]

theorem ringStddev_eq (h : RingWf ring) (field : GpuSample K → K) :
    ringStddev ring field = windowStddev ((window ring).map field) := by
  have hlen := length_toNat h
  simp only [ringStddev, windowStddev, List.length_map]
  by_cases h2 : (window ring).length < 2
  · rw [if_pos (by omega), if_pos h2]
  · have hne : (window ring).map field ≠ [] := by
      intro hnil
      rw [List.map_eq_nil_iff] at hnil
      simp [hnil] at h2
    rw [if_neg (by omega), if_neg h2, ringMean_eq h, windowMean, if_neg hne]
    set m := mean ((window ring).map field)
    simp only [Dbl.fin_sub, Dbl.fin_mul]
    rw [foldl_add_fin _ (fun i : ℕ => (sampleField ring i field - m) * (sampleField ring i field - m))]
    have hsum : ((List.range ring.count.toNat).map fun i : ℕ =>
        (sampleField ring i field - m) * (sampleField ring i field - m)) =
        ((window ring).map field).map fun x => (x - m) * (x - m) := by
      rw [← map_sampleField, List.map_map]; rfl
    have hcast : ((ring.count - 1 : ℤ) : K) = (((window ring).map field).length : K) - 1 := by
      rw [hlen, List.length_map]; push_cast; ring
    have hpos : (((window ring).map field).length : K) - 1 ≠ 0 := by
      have : (2 : K) ≤ (((window ring).map field).length : K) := by
        rw [List.length_map]; exact_mod_cast Nat.le_of_not_lt h2
      intro h0; linarith
    have hvar : (0 : K) ≤ sampleVariance ((window ring).map field) :=
      sampleVariance_nonneg (by rw [List.length_map]; omega)
    rw [hsum, zero_add, hcast, Dbl.fin_div _ hpos]
    show dsqrt (.fin (sampleVariance ((window ring).map field))) = _
    rw [dsqrt, if_neg (not_lt.2 hvar)]

/-- the rank computed by the code is within 1..n, so its clamps do nothing -/
theorem rank_clamped {n : ℕ} (hn : 0 < n) :
    (⌈(95 / 100 : ℚ) * ((n : ℤ) : ℚ)⌉ : ℤ) = rank95 n ∧ 1 ≤ rank95 n ∧ rank95 n ≤ n := by
  have hpos : (0 : ℚ) < 95 / 100 * n := by positivity
  have hn0 : (0 : ℚ) < n := by exact_mod_cast hn
  refine ⟨?_, Nat.one_le_ceil_iff.2 hpos, Nat.ceil_le.2 (by linarith)⟩
  rw [rank95, Int.cast_natCast, Int.natCast_ceil_eq_ceil hpos.le]

theorem ringP95_eq (h : RingWf ring) (malloc : Bool) (field : GpuSample K → K) :
    ringP95 malloc ring field = windowP95 malloc ((window ring).map field) := by
  have hlen := length_toNat h
  simp only [ringP95, windowP95, List.map_eq_nil_iff, window_eq_nil h, List.length_map]
  by_cases h0 : ring.count = 0
  · rw [if_pos h0, if_pos (Or.inl h0)]
  rw [if_neg h0]
  by_cases hm : 300 < (window ring).length ∧ malloc = false
  · rw [if_pos ⟨by omega, hm.2⟩, if_pos (Or.inr hm)]
  · rw [if_neg (fun hc => hm ⟨by omega, hc.2⟩), if_neg (not_or.2 ⟨h0, hm⟩), map_sampleField]
    obtain ⟨hrank, hlo, hhi⟩ := rank_clamped (n := (window ring).length) (by omega)
    rw [hlen, hrank, if_neg (by omega), if_neg (by omega)]
    congr 2; omega

theorem steps_eq (h : RingWf ring) :
    ((List.range (ring.count - 1).toNat).map fun i : ℕ =>
      gateDelta (sampleAt ring (gateCur ring i)) (sampleAt ring (gatePrev ring i))) = steps (window ring) := by
  have hlen := length_toNat h
  apply List.ext_getElem
  · simp [steps]; omega
  · intro i h1 h2
    simp only [List.length_map, List.length_range] at h1
    simp only [List.getElem_map, List.getElem_range, steps, List.getElem_zipWith, List.getElem_tail]
    rw [gateCur_eq, gatePrev_eq, sampleAt_sampleIdx _ (by omega), sampleAt_sampleIdx _ (by omega)]

theorem completenessGate_eq (h : RingWf ring) (cfg : GpuConfig (Dbl K)) :
    completenessGate ring cfg = windowGate (window ring) cfg := by
  have hlen := length_toNat h
  have h2 : ring.count < 2 ↔ (window ring).length < 2 := by omega
  simp only [completenessGate, windowGate, steps_eq h, h2]
  simp only [hlen, Int.cast_natCast]

theorem powerSaturation_eq (h : RingWf ring) (cfg : GpuConfig (Dbl K)) :
    powerSaturation ring cfg = windowSaturation (window ring) cfg := by
  have hcount := foldl_count (List.range ring.count.toNat) (fun i : ℕ =>
    saturated cfg (sampleField ring i GpuSample.powerW) (sampleField ring i GpuSample.powerLimitW)) 0
  have hwin : (List.range ring.count.toNat).countP (fun i : ℕ =>
      saturated cfg (sampleField ring i GpuSample.powerW) (sampleField ring i GpuSample.powerLimitW)) =
      (window ring).countP fun s => saturated cfg s.powerW s.powerLimitW := by
    rw [window, List.countP_map]; rfl
  simp only [powerSaturation, windowSaturation]
  rw [hcount, hwin, zero_add, length_toNat h, Int.cast_natCast, Int.cast_natCast]

theorem sampleAt_first (hne : window ring ≠ []) : sampleAt ring (idxFirst ring) = firstSample (window ring) := by
  rw [sampleAt_idxFirst hne, firstSample, List.headD_eq_head?_getD, List.head?_eq_some_head hne]; rfl

theorem sampleAt_last (h : RingWf ring) (hne : window ring ≠ []) :
    sampleAt ring (idxLast ring) = lastSample (window ring) := by
  rw [sampleAt_idxLast h hne, lastSample, List.getLastD_eq_getLast?, List.getLast?_eq_some_getLast hne]; rfl

theorem ringStats_eq (h : RingWf ring) (hne : window ring ≠ []) (malloc : P95Malloc) (cfg : GpuConfig (Dbl K)) :
    ringStats malloc ring cfg = windowStats malloc (window ring) cfg := by
  simp only [ringStats, windowStats, ringP95_eq h, ringStddev_eq h, powerSaturation_eq h, sampleAt_first hne,
    sampleAt_last h hne]

/-- a window that passes the gate has two samples or more -/
theorem two_le_of_gate {w : List (GpuSample K)} {cfg : GpuConfig (Dbl K)} (h : windowGate w cfg ≠ 0) :
    2 ≤ w.length := by
  simp only [windowGate] at h
  split_ifs at h with _ _ h2
  · exact absurd rfl h
  · exact absurd rfl h
  · exact absurd rfl h
  · exact absurd rfl h
  · omega

/-- a window that passes the gate has min_sample_ratio of the expected samples -/
theorem ratio_le_of_gate {w : List (GpuSample K)} {cfg : GpuConfig (Dbl K)} (h : windowGate w cfg ≠ 0) :
    ¬ .fin (w.length : K) <
      cfg.dbl .minSampleRatio * .fin (((cfg.int .windowS).tdiv (cfg.int .pollIntervalS) : ℤ) : K) := by
  intro hlt
  simp only [windowGate, if_pos hlt] at h
  split_ifs at h <;> exact h rfl

theorem sortDoubles_replicate (m : ℕ) (g : K) : sortDoubles (List.replicate m g) = List.replicate m g :=
  List.Pairwise.insertionSort_eq (List.pairwise_replicate.2 (Or.inr le_rfl))

/-- the median of equal steps -/
theorem medianStep_replicate {m : ℕ} (hm : 0 < m) (g : K) : medianStep (sortDoubles (List.replicate m g)) m = g := by
  have hget : ∀ i < m, (List.replicate m g).getD i 0 = g := by
    intro i hi
    simp [List.getD_eq_getElem?_getD, hi]
  have hmod : (m : ℤ).tmod 2 = ((m % 2 : ℕ) : ℤ) := rfl
  have hdiv : (m : ℤ).tdiv 2 = ((m / 2 : ℕ) : ℤ) := rfl
  rw [sortDoubles_replicate, medianStep, hmod, hdiv]
  split_ifs with hodd
  · apply hget
    omega
  · rw [hget _ (by omega), hget _ (by omega)]
    ring

/-- the gate on a window of equal steps -/
theorem windowGate_uniform {w : List (GpuSample K)} {g : K} (hsteps : steps w = List.replicate (w.length - 1) g)
    (cfg : GpuConfig (Dbl K)) :
    windowGate w cfg = 1 ↔ cfg.int .minSamplesAbsolute ≤ w.length ∧
      ¬ .fin (w.length : K) <
        cfg.dbl .minSampleRatio * .fin (((cfg.int .windowS).tdiv (cfg.int .pollIntervalS) : ℤ) : K) ∧
      2 ≤ w.length ∧ ¬ cfg.dbl .maxMedianStepS < .fin g := by
  unfold windowGate
  by_cases habs : (w.length : ℤ) < cfg.int .minSamplesAbsolute
  · rw [if_pos habs]
    simp [habs]
  by_cases hratio : .fin (w.length : K) <
      cfg.dbl .minSampleRatio * .fin (((cfg.int .windowS).tdiv (cfg.int .pollIntervalS) : ℤ) : K)
  · rw [if_neg habs, if_pos hratio]
    simp [hratio]
  by_cases htwo : w.length < 2
  · rw [if_neg habs, if_neg hratio, if_pos htwo]
    simp [htwo]
  have hmedian : medianStep (sortDoubles (steps w)) ((w.length : ℤ) - 1) = g := by
    rw [hsteps, show (w.length : ℤ) - 1 = ((w.length - 1 : ℕ) : ℤ) by omega]
    exact medianStep_replicate (by omega) g
  rw [if_neg habs, if_neg hratio, if_neg htwo, hmedian]
  by_cases hgap : cfg.dbl .maxMedianStepS < .fin g
  · simp [hgap]
  · simp [hgap, hratio, not_lt.1 habs, not_lt.1 htwo]

/-- **`score_gpu` is a function of the window.** -/
theorem scoreGpu_eq (h : RingWf ring) (malloc : P95Malloc) (state : GpuState K) (baseline : Option (GpuBaseline K))
    (probe : Option (GpuProbeResult K)) (cfg : GpuConfig (Dbl K)) :
    scoreGpu malloc ring state baseline probe cfg = scoreWindow malloc (window ring) state baseline probe cfg := by
  simp only [scoreGpu, scoreWindow, completenessGate_eq h]
  split_ifs with hg
  · rfl
  · have hne : window ring ≠ [] := by
      intro hnil
      have := two_le_of_gate hg
      simp [hnil] at this
    rw [ringStats_eq h hne]

end GpuHealth.WindowScore
