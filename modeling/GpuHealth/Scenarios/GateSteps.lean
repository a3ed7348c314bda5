/-
The telemetry completeness gate against its specification.

The property: for every ring and every config in range, `completeness_gate` returns 1 if and only if the ring holds at
least max(2, min_samples_absolute) samples and min_sample_ratio of those expected, and the median of the absolute
differences of successive timestamps is at most max_median_step_s. It fails for timestamps that step backwards: they
are subtracted as unsigned numbers, so the guard "against clock oddities" behind the subtraction sees no negative
difference, and a step of d ms back counts as one of 2^64 - d ms (`clock_set_back`).

`gate_iff`: for every ring and config, the gate meets the specification if and only if it has too few samples, or
taking each step back for its complement does not change whether enough steps are short (`Regular`, which counts steps
and sorts nothing). In particular it does where no timestamp steps back (`gate_of_forward`).

The specification, the condition and the gate's comparisons are of exact numbers: the source's product of ratio and
expected samples, and its halves of two steps, are rounded to doubles.

Capacities above 3601 overflow the gate's `deltas` buffer and are out of the model; the capacity `collector_start`
computes is at most 3600.
-/
import GpuHealth.WindowScore
import GpuHealth.Config

namespace GpuHealth.GateSteps

open GpuHealth.Ring GpuHealth.Scorer GpuHealth.WindowScore GpuHealth.ListStats GpuHealth.Config

variable {K : Type} [Arith K]

/-! ## The property -/

/-- the timestamps of each sample and the one before it -/
def gaps (w : List (GpuSample K)) : List (ℕ × ℕ) :=
  List.zip (w.map fun s => s.timestampMs.toNat) (w.tail.map fun s => s.timestampMs.toNat)

/-- |t[i+1] - t[i]| / 1000 -/
def absSteps (w : List (GpuSample K)) : List K := (gaps w).map fun g => |(g.2 : K) - g.1| / 1000

/-- there are enough samples -/
structure Counted (cfg : GpuConfig K) (n : ℕ) : Prop where
  absolute : max 2 (cfg.int .minSamplesAbsolute) ≤ n
  ratio : cfg.dbl .minSampleRatio * ((cfg.int .windowS / cfg.int .pollIntervalS : ℤ) : K) ≤ n

/-- what the gate is to let pass -/
structure GateSpec (cfg : GpuConfig K) (w : List (GpuSample K)) : Prop where
  counted : Counted cfg w.length
  step : median (absSteps w) ≤ cfg.dbl .maxMedianStepS

/-! ## The condition -/

/-- the steps forward, in ms -/
def forwardMs (w : List (GpuSample K)) : List ℕ :=
  (gaps w).filterMap fun g => if g.1 ≤ g.2 then some (g.2 - g.1) else none

/-- the steps back, in ms -/
def backwardMs (w : List (GpuSample K)) : List ℕ :=
  (gaps w).filterMap fun g => if g.1 ≤ g.2 then none else some (g.1 - g.2)

/-- at least half of the steps take at most limit - x seconds, more than half at most limit + x -/
def Regular (limit : K) (ms : List ℕ) : Prop :=
  ∃ x, 0 ≤ x ∧ ms.length - ms.length / 2 ≤ ms.countP (fun d : ℕ => (d : K) / 1000 ≤ limit - x) ∧
    ms.length / 2 + 1 ≤ ms.countP fun d : ℕ => (d : K) / 1000 ≤ limit + x

/-- taking each step back for its complement does not change whether the steps are regular -/
def Unaffected (cfg : GpuConfig K) (w : List (GpuSample K)) : Prop :=
  Regular (cfg.dbl .maxMedianStepS) (forwardMs w ++ backwardMs w) ↔
    Regular (cfg.dbl .maxMedianStepS) (forwardMs w ++ (backwardMs w).map (2 ^ 64 - ·))

/-! ## The median of the steps -/

theorem regular_perm {limit : K} {ms ms' : List ℕ} (h : ms.Perm ms') : Regular limit ms ↔ Regular limit ms' := by
  unfold Regular
  simp only [h.length_eq, h.countP_eq]

theorem median_regular {ms : List ℕ} (hne : ms ≠ []) (limit : K) :
    median (ms.map fun d : ℕ => (d : K) / 1000) ≤ limit ↔ Regular limit ms := by
  rw [median_le_iff (by simpa using hne)]
  simp only [List.length_map, List.countP_map]
  rfl

/-- steps back changed by `f`, apart from those forward -/
theorem split_steps (l : List (ℕ × ℕ)) (f : ℕ → ℕ) :
    (l.map fun g => if g.1 ≤ g.2 then g.2 - g.1 else f (g.1 - g.2)).Perm
      ((l.filterMap fun g => if g.1 ≤ g.2 then some (g.2 - g.1) else none) ++
        (l.filterMap fun g => if g.1 ≤ g.2 then none else some (g.1 - g.2)).map f) := by
  induction l with
  | nil => exact .nil
  | cons g l ih =>
    by_cases hle : g.1 ≤ g.2
    · simp only [List.map_cons, List.filterMap_cons, if_pos hle, List.cons_append]
      exact ih.cons _
    · simp only [List.map_cons, List.filterMap_cons, if_neg hle]
      exact (ih.cons _).trans List.perm_middle.symm

omit [Arith K] in
theorem gaps_eq (w : List (GpuSample K)) :
    gaps w = (List.zip w w.tail).map fun p => (p.1.timestampMs.toNat, p.2.timestampMs.toNat) := List.zip_map

/-- the specification's steps -/
theorem absSteps_eq (w : List (GpuSample K)) :
    absSteps w = ((gaps w).map fun g => if g.1 ≤ g.2 then g.2 - g.1 else g.1 - g.2).map fun d : ℕ => (d : K) / 1000 := by
  rw [absSteps, List.map_map]
  refine List.map_congr_left fun g _ => ?_
  dsimp only [Function.comp]
  split_ifs with hle
  · rw [Nat.cast_sub hle, abs_of_nonneg (by rw [sub_nonneg]; exact_mod_cast hle)]
  · rw [Nat.cast_sub (not_le.1 hle).le, abs_of_neg (by rw [sub_neg]; exact_mod_cast not_le.1 hle), neg_sub]

/-- one entry of the code's `deltas` -/
theorem gateDelta_eq (cur prev : GpuSample K) : gateDelta cur prev =
    ((if prev.timestampMs.toNat ≤ cur.timestampMs.toNat then cur.timestampMs.toNat - prev.timestampMs.toNat
      else 2 ^ 64 - (prev.timestampMs.toNat - cur.timestampMs.toNat) : ℕ) : K) / 1000 := by
  have hdiff : (cur.timestampMs - prev.timestampMs).toNat =
      if prev.timestampMs.toNat ≤ cur.timestampMs.toNat then cur.timestampMs.toNat - prev.timestampMs.toNat
      else 2 ^ 64 - (prev.timestampMs.toNat - cur.timestampMs.toNat) := by
    have hcur := cur.timestampMs.toNat_lt
    have hprev := prev.timestampMs.toNat_lt
    rw [UInt64.toNat_sub]
    split_ifs <;> omega
  have hnonneg : ¬ ((cur.timestampMs - prev.timestampMs).toNat : K) / 1000 < 0 := not_lt.2 (by positivity)
  rw [gateDelta, if_neg hnonneg, hdiff]

theorem steps_eq_gaps (w : List (GpuSample K)) :
    steps w = ((gaps w).map fun g => if g.1 ≤ g.2 then g.2 - g.1 else 2 ^ 64 - (g.1 - g.2)).map
      fun d : ℕ => (d : K) / 1000 := by
  have hpair : (fun prev cur : GpuSample K => gateDelta cur prev) = Function.curry fun p => gateDelta p.2 p.1 := rfl
  rw [gaps_eq, List.map_map, List.map_map, steps, hpair, ← List.map_zip_eq_zipWith]
  exact List.map_congr_left fun p _ => gateDelta_eq p.2 p.1

omit [Arith K] in
theorem gaps_ne_nil {w : List (GpuSample K)} (h : 2 ≤ w.length) : gaps w ≠ [] := by
  refine List.ne_nil_of_length_pos ?_
  rw [gaps, List.length_zip, List.length_map, List.length_map, List.length_tail]
  omega

theorem absSteps_regular {w : List (GpuSample K)} (h : 2 ≤ w.length) (limit : K) :
    median (absSteps w) ≤ limit ↔ Regular limit (forwardMs w ++ backwardMs w) := by
  have hsplit := split_steps (gaps w) id
  rw [List.map_id] at hsplit
  rw [absSteps_eq, median_regular (by simpa using gaps_ne_nil h)]
  exact regular_perm hsplit

theorem steps_regular {w : List (GpuSample K)} (h : 2 ≤ w.length) (limit : K) :
    median (steps w) ≤ limit ↔ Regular limit (forwardMs w ++ (backwardMs w).map (2 ^ 64 - ·)) := by
  rw [steps_eq_gaps, median_regular (by simpa using gaps_ne_nil h)]
  exact regular_perm (split_steps (gaps w) (2 ^ 64 - ·))

/-! ## The gate -/

theorem medianStep_eq {l : List K} (hne : l ≠ []) : medianStep (sortDoubles l) l.length = median l := by
  have hpos := List.length_pos_of_ne_nil hne
  have hmod : (l.length : ℤ).tmod 2 = ((l.length % 2 : ℕ) : ℤ) := rfl
  have hdiv : (l.length : ℤ).tdiv 2 = ((l.length / 2 : ℕ) : ℤ) := rfl
  have hodd : (((l.length % 2 : ℕ) : ℤ) = 1) = (l.length % 2 = 1) := by
    rw [eq_iff_iff]
    omega
  rw [medianStep, median, hmod, hdiv]
  simp only [hodd, Int.toNat_natCast]
  split_ifs with h
  · rfl
  · rw [show (((l.length / 2 : ℕ) : ℤ) - 1).toNat = l.length / 2 - 1 by omega]
    rfl

/-- what the code tests -/
theorem windowGate_iff {cfg : GpuConfig K} (hcfg : InRange cfg) (w : List (GpuSample K)) :
    windowGate w cfg.toDbl = 1 ↔ Counted cfg w.length ∧ median (steps w) ≤ cfg.dbl .maxMedianStepS := by
  have hwindow := hcfg.int .windowS 60 3600 (by decide +kernel)
  have hdiv : (cfg.int .windowS).tdiv (cfg.int .pollIntervalS) = cfg.int .windowS / cfg.int .pollIntervalS :=
    Int.tdiv_eq_ediv_of_nonneg (by omega)
  have hmedian : 2 ≤ w.length → medianStep (sortDoubles (steps w)) ((w.length : ℤ) - 1) = median (steps w) := by
    intro htwo
    have hlen : (steps w).length = w.length - 1 := by
      rw [steps, List.length_zipWith, List.length_tail]
      omega
    have hcast : (w.length : ℤ) - 1 = ((steps w).length : ℤ) := by omega
    rw [hcast]
    exact medianStep_eq (List.ne_nil_of_length_pos (by omega))
  unfold windowGate
  simp only [GpuConfig.toDbl_int, GpuConfig.toDbl_dbl, Dbl.fin_mul, Dbl.fin_lt_fin, hdiv]
  split_ifs with habs hratio htwo hstep
  · refine iff_of_false (by decide) ?_
    rintro ⟨hcounted, -⟩
    have := hcounted.absolute
    omega
  · refine iff_of_false (by decide) ?_
    rintro ⟨hcounted, -⟩
    exact absurd hcounted.ratio (not_le.2 hratio)
  · refine iff_of_false (by decide) ?_
    rintro ⟨hcounted, -⟩
    have := hcounted.absolute
    omega
  · rw [hmedian (by omega)] at hstep
    exact iff_of_false (by decide) fun h => absurd h.2 (not_le.2 hstep)
  · rw [hmedian (by omega)] at hstep
    exact iff_of_true rfl ⟨⟨by omega, not_lt.1 hratio⟩, not_lt.1 hstep⟩

theorem steps_forward {w : List (GpuSample K)} (h : ∀ g ∈ gaps w, g.1 ≤ g.2) : steps w = absSteps w := by
  rw [steps_eq_gaps, absSteps_eq]
  refine congrArg _ (List.map_congr_left fun g hg => ?_)
  rw [if_pos (h g hg), if_pos (h g hg)]

/-- where no timestamp is below the one before it, the gate meets its specification -/
theorem gate_of_forward {ring : GpuRing K} (hring : RingWf ring) {cfg : GpuConfig K} (hcfg : InRange cfg)
    (h : ∀ g ∈ gaps (window ring), g.1 ≤ g.2) :
    completenessGate ring cfg.toDbl = 1 ↔ GateSpec cfg (window ring) := by
  rw [completenessGate_eq hring, windowGate_iff hcfg, steps_forward h]
  exact ⟨fun h => ⟨h.1, h.2⟩, fun h => ⟨h.counted, h.step⟩⟩

/-- **When the gate meets its specification.** For every ring and every config in range: if and only if there are too
few samples, or the steps back do not matter. -/
theorem gate_iff {ring : GpuRing K} (hring : RingWf ring) {cfg : GpuConfig K} (hcfg : InRange cfg) :
    (completenessGate ring cfg.toDbl = 1 ↔ GateSpec cfg (window ring)) ↔
      (Counted cfg (window ring).length → Unaffected cfg (window ring)) := by
  have hspec : GateSpec cfg (window ring) ↔
      Counted cfg (window ring).length ∧ median (absSteps (window ring)) ≤ cfg.dbl .maxMedianStepS :=
    ⟨fun h => ⟨h.counted, h.step⟩, fun h => ⟨h.1, h.2⟩⟩
  rw [completenessGate_eq hring, windowGate_iff hcfg, hspec]
  by_cases hcounted : Counted cfg (window ring).length
  · have htwo : 2 ≤ (window ring).length := by
      have := hcounted.absolute
      omega
    simp only [hcounted, true_and, true_imp_iff, absSteps_regular htwo, steps_regular htwo, Unaffected]
    exact Iff.comm
  · simp only [hcounted, false_and, false_imp_iff]

/-! ## A clock set back -/

def stamped (t : UInt64) : GpuSample ℚ := { GpuSample.zeroed with timestampMs := t }

/-- four samples 15 s apart, the second and the third taken by a clock that was set back -/
def setBack : GpuRing ℚ := ⟨[stamped 45000, stamped 30000, stamped 15000, stamped 30000], 0, 4, 4⟩

theorem setBack_wf : RingWf setBack := by
  refine ⟨?_, ?_, ?_, ?_, rfl⟩ <;> decide

theorem smallConfig_inRange : InRange smallConfig := by decide +kernel

theorem gate_iff_set_back : (completenessGate setBack smallConfig.toDbl = 1 ↔ GateSpec smallConfig (window setBack)) ↔
    (Counted smallConfig (window setBack).length → Unaffected smallConfig (window setBack)) :=
  gate_iff setBack_wf smallConfig_inRange

/-- The median step is 15 s, the limit 30 s, and the gate rejects the window. -/
theorem clock_set_back :
    ¬ (completenessGate setBack smallConfig.toDbl = 1 ↔ GateSpec smallConfig (window setBack)) := by
  have hgate : completenessGate setBack smallConfig.toDbl = 0 := by decide +kernel
  have hspec : GateSpec smallConfig (window setBack) :=
    ⟨⟨by decide +kernel, by decide +kernel⟩, by decide +kernel⟩
  rw [hgate]
  exact fun h => absurd (h.2 hspec) (by decide)

end GpuHealth.GateSteps
