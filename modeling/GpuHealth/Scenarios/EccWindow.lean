/-
ECC events in the scored window, for every ring that passes the gate.

The property: ecc_dbe_in_window is 1 exactly when some sample of the window has a higher DBE counter than the
one before it, and ecc_sbe_rate_per_hour is the sum of all increments of the SBE counter per hour of the window
(`NoEventLost`), also when the driver resets the counters inside the window. The code compares the oldest sample with
the newest.

- `reset_hides_events`: four samples with the DBE counters 5, 6, 0, 1. The counter rises twice, and the result reports
  no DBE; of 15 single-bit errors it reports none.
- `noEventLost_iff`: the result is right exactly when the DBE counter does not rise, or rises by more than it falls,
  and the SBE counter only rises or only falls (or the window takes no time).
Witness `noEventLost_steady`: counters that are never reset.

Premise: the ring is well formed, as every ring of a run is (`Collector.run_ring_wf`).
-/
import GpuHealth.WindowScore
import GpuHealth.Config

namespace GpuHealth.EccWindow

open GpuHealth.Ring GpuHealth.Scorer GpuHealth.WindowScore GpuHealth.ListStats

variable {K : Type} [Arith K]

/-! ## The property -/

/-- the counters of the window, oldest first -/
def dbes (w : List (GpuSample K)) : List ℕ := w.map fun s => s.eccDbeVolatile.toNat
def sbes (w : List (GpuSample K)) : List ℕ := w.map fun s => s.eccSbeVolatile.toNat

/-- some sample has a higher DBE counter than the one before it -/
def DbeRises (w : List (GpuSample K)) : Prop := ∃ i, ∃ h : i + 1 < (dbes w).length, (dbes w)[i] < (dbes w)[i + 1]

/-- all increments of the SBE counter, per hour -/
def trueSbeRate (w : List (GpuSample K)) : K :=
  if 0 < windowHrs (firstSample w) (lastSample w) then
    (rises (sbes w) : K) / windowHrs (firstSample w) (lastSample w)
  else 0

def NoEventLost (w : List (GpuSample K)) (r : GpuScoreResult K) : Prop :=
  (r.eccDbeInWindow = 1 ↔ DbeRises w) ∧ r.eccSbeRatePerHour = .fin (trueSbeRate w)

/-! ## The condition -/

/-- what the DBE counter loses to resets is less than it gains -/
def DbeCovered (w : List (GpuSample K)) : Prop := rises (dbes w) = 0 ∨ falls (dbes w) < rises (dbes w)

/-- the SBE counter is never reset, or counts nothing -/
def SbeCovered (w : List (GpuSample K)) : Prop :=
  windowHrs (firstSample w) (lastSample w) ≤ 0 ∨ falls (sbes w) = 0 ∨ rises (sbes w) = 0

/-! ## First against last -/

/-- the oldest reading plus all increments is the newest plus all decrements -/
theorem first_add_rises (f : GpuSample K → ℕ) {w : List (GpuSample K)} (hne : w ≠ []) :
    f (firstSample w) + rises (w.map f) = f (lastSample w) + falls (w.map f) := by
  have hmap : w.map f ≠ [] := by simpa using hne
  have htel := head_add_rises (w.map f) hmap
  rw [List.head_map, List.getLast_map] at htel
  rwa [firstSample, lastSample, List.headD_eq_head?_getD, List.head?_eq_some_head hne, List.getLastD_eq_getLast?,
    List.getLast?_eq_some_getLast hne]

omit [Arith K] in
theorem dbeActive_eq_one (first last : GpuSample K) :
    dbeActive first last = 1 ↔ first.eccDbeVolatile.toNat < last.eccDbeVolatile.toNat := by
  unfold dbeActive
  rw [← UInt64.lt_iff_toNat_lt]
  split_ifs with h
  · exact iff_of_true rfl h
  · exact iff_of_false (by decide) h

theorem sbeDelta_eq (first last : GpuSample K) :
    sbeDelta first last = ((last.eccSbeVolatile.toNat - first.eccSbeVolatile.toNat : ℕ) : K) := by
  unfold sbeDelta
  split_ifs with h
  · rw [UInt64.toNat_sub_of_le _ _ h]
  · rw [ge_iff_le, UInt64.le_iff_toNat_le, not_le] at h
    rw [Nat.sub_eq_zero_of_le h.le, Nat.cast_zero]

theorem dbe_iff {w : List (GpuSample K)} (hne : w ≠ []) :
    (dbeActive (firstSample w) (lastSample w) = 1 ↔ DbeRises w) ↔ DbeCovered w := by
  have htel := first_add_rises (fun s => s.eccDbeVolatile.toNat) hne
  rw [dbeActive_eq_one, DbeRises, ← rises_ne_zero_iff, DbeCovered, dbes]
  omega

theorem sbe_iff {w : List (GpuSample K)} (hne : w ≠ []) :
    sbeRate (firstSample w) (lastSample w) = trueSbeRate w ↔ SbeCovered w := by
  have htel := first_add_rises (fun s => s.eccSbeVolatile.toNat) hne
  unfold sbeRate trueSbeRate SbeCovered
  by_cases hpos : 0 < windowHrs (firstSample w) (lastSample w)
  · rw [if_pos hpos, if_pos hpos, div_left_inj' hpos.ne', sbeDelta_eq, Nat.cast_inj, sbes]
    have hle : ¬ windowHrs (firstSample w) (lastSample w) ≤ 0 := not_le.2 hpos
    simp only [hle, false_or]
    omega
  · rw [if_neg hpos, if_neg hpos]
    exact ⟨fun _ => Or.inl (not_lt.1 hpos), fun _ => rfl⟩

/-! ## The result of `score_gpu` -/

/-- behind the gate the ECC fields are those of the window's ends -/
theorem scoreGpu_ecc {ring : GpuRing K} (h : RingWf ring) {cfg : GpuConfig (Dbl K)}
    (hgate : completenessGate ring cfg = 1) (malloc : P95Malloc) (state : GpuState K)
    (baseline : Option (GpuBaseline K)) (probe : Option (GpuProbeResult K)) :
    window ring ≠ [] ∧
    (scoreGpu malloc ring state baseline probe cfg).eccDbeInWindow =
      dbeActive (firstSample (window ring)) (lastSample (window ring)) ∧
    (scoreGpu malloc ring state baseline probe cfg).eccSbeRatePerHour =
      .fin (sbeRate (firstSample (window ring)) (lastSample (window ring))) := by
  have hw : windowGate (window ring) cfg ≠ 0 := by
    rw [← completenessGate_eq h, hgate]
    exact one_ne_zero
  have hne : window ring ≠ [] := by
    intro hnil
    have := two_le_of_gate hw
    simp [hnil] at this
  rw [scoreGpu_eq h, scoreWindow, if_neg hw]
  exact ⟨hne, rfl, rfl⟩

/-- **Resets hide events exactly when they outweigh them.** -/
theorem noEventLost_iff {ring : GpuRing K} (h : RingWf ring) {cfg : GpuConfig (Dbl K)}
    (hgate : completenessGate ring cfg = 1) (malloc : P95Malloc) (state : GpuState K)
    (baseline : Option (GpuBaseline K)) (probe : Option (GpuProbeResult K)) :
    NoEventLost (window ring) (scoreGpu malloc ring state baseline probe cfg) ↔
      DbeCovered (window ring) ∧ SbeCovered (window ring) := by
  obtain ⟨hne, hdbe, hsbe⟩ := scoreGpu_ecc h hgate malloc state baseline probe
  rw [NoEventLost, hdbe, hsbe, dbe_iff hne, Dbl.fin.injEq, sbe_iff hne]

/-! ## Four samples -/

/-- a sample every 15 s with the given counters, in a ring of four -/
def eccRing (counters : List (UInt64 × UInt64)) : GpuRing ℚ :=
  let samples := counters.mapIdx fun i c =>
    { GpuSample.zeroed with timestampMs := UInt64.ofNat (15000 * i), eccSbeVolatile := c.1, eccDbeVolatile := c.2 }
  samples.foldl ringPush ⟨List.replicate 4 .zeroed, 0, 0, 4⟩

def steadyRing : GpuRing ℚ := eccRing [(10, 0), (10, 0), (25, 1), (25, 1)]
def resetRing : GpuRing ℚ := eccRing [(10, 5), (20, 6), (0, 0), (5, 1)]

theorem eccRing_wf (counters : List (UInt64 × UInt64)) : RingWf (eccRing counters) :=
  wf_pushAll ⟨by decide, by decide, by decide, by decide, by decide⟩ _

theorem noEventLost_steady : NoEventLost (window steadyRing)
    (scoreGpu ⟨true, true⟩ steadyRing .zeroed none none Config.smallConfig.toDbl) :=
  (noEventLost_iff (eccRing_wf _) (by decide +kernel) ⟨true, true⟩ .zeroed none none).2
    ⟨Or.inr (by decide +kernel), Or.inr (Or.inl (by decide +kernel))⟩

/-- the window passes the gate, its DBE counter rises, and the result shows no event at all -/
theorem reset_hides_events : completenessGate resetRing Config.smallConfig.toDbl = 1 ∧
    DbeRises (window resetRing) ∧ trueSbeRate (window resetRing) = 1200 ∧
    (scoreGpu ⟨true, true⟩ resetRing .zeroed none none Config.smallConfig.toDbl).eccDbeInWindow = 0 ∧
    (scoreGpu ⟨true, true⟩ resetRing .zeroed none none Config.smallConfig.toDbl).eccSbeRatePerHour = .fin 0 ∧
    ¬ NoEventLost (window resetRing)
      (scoreGpu ⟨true, true⟩ resetRing .zeroed none none Config.smallConfig.toDbl) := by
  have hdbe : (scoreGpu ⟨true, true⟩ resetRing .zeroed none none Config.smallConfig.toDbl).eccDbeInWindow = 0 := by
    decide +kernel
  have hrises : DbeRises (window resetRing) := ⟨0, by decide +kernel, by decide +kernel⟩
  refine ⟨by decide +kernel, hrises, by decide +kernel, hdbe, by decide +kernel, ?_⟩
  intro h
  exact absurd (hdbe.symm.trans (h.1.2 hrises)) (by decide)

end GpuHealth.EccWindow
